import Mathlib.Tactic.Linarith

/-!
Machine words read as mathematical integers: a 32-bit pattern read as signed, sums
and differences that stay in range, and the signed distance of two readings of a
counter that wraps (`signed_distance`).
-/
namespace Usteer.Words

theorem toInt_toInt32 (x : UInt32) : x.toInt32.toInt = (x.toNat : ℤ).bmod (2 ^ 32) :=
  BitVec.toInt_eq_toNat_bmod x.toBitVec

theorem toInt_toInt64 (x : UInt64) : x.toInt64.toInt = (x.toNat : ℤ).bmod (2 ^ 64) :=
  BitVec.toInt_eq_toNat_bmod x.toBitVec

/-- A pattern below the sign bit reads as itself. -/
theorem toInt_toInt32_of_lt {x : UInt32} (small : x.toNat < 2 ^ 31) : x.toInt32.toInt = x.toNat := by
  rw [toInt_toInt32, Int.bmod_def]
  omega

/-- The signed 32-bit distance of two counter readings is their distance, as long as
    that is below half the range. -/
theorem signed_distance {m n : Nat} (low : m < n + 2 ^ 31) (high : n < m + 2 ^ 31) :
    (UInt32.ofNat m - UInt32.ofNat n).toInt32.toInt = (m : ℤ) - n := by
  rw [toInt_toInt32, UInt32.toNat_sub, UInt32.toNat_ofNat', UInt32.toNat_ofNat', Int.bmod_def]
  omega

/-- An addition whose exact sum is a 32-bit integer is exact. -/
theorem toInt_add_exact {a b : Int32} (low : -2 ^ 31 ≤ a.toInt + b.toInt) (high : a.toInt + b.toInt < 2 ^ 31) :
    (a + b).toInt = a.toInt + b.toInt := by
  rw [Int32.toInt_add, Int.bmod_def]
  omega

theorem toInt_sub_exact {a b : Int32} (low : -2 ^ 31 ≤ a.toInt - b.toInt) (high : a.toInt - b.toInt < 2 ^ 31) :
    (a - b).toInt = a.toInt - b.toInt := by
  rw [Int32.toInt_sub, Int.bmod_def]
  omega

/-- Adding an unsigned threshold to a signed count, as `int += uint32_t` does, is
    exact when the sum is a 32-bit integer. -/
theorem toInt_add_unsigned {a : Int32} {b : UInt32} (high : a.toInt + b.toNat < 2 ^ 31) :
    (a + b.toInt32).toInt = a.toInt + b.toNat := by
  have lowA := a.le_toInt
  have sizeB := b.toNat_lt
  rw [Int32.toInt_add, toInt_toInt32, Int.bmod_def, Int.bmod_def]
  omega

end Usteer.Words
