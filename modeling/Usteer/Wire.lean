import Usteer.Remote

/-!
The messages between daemons as attributes (`remote.h`, `parse.c`, and the functions of
`remote.c` that read and write them). A message is an attribute that holds an id, a sequence
number and the nodes, each of which holds its fields and its stations. What the code takes
from `libubox` and `libc` is left open (`Libraries`); a parsed attribute may be absent, and
the bytes of an attribute may lack the terminator that a string needs.
-/
namespace Usteer
open SearchTree Timeout

/-- The types that a policy may ask for; without one any attribute will do. -/
inductive AttrType where
  | unspec
  | nested
  | binary
  | string
  | int8
  | int32
  deriving DecidableEq, Repr

/-- The types of `blobmsg` attributes that the code asks for. -/
inductive BlobmsgType where
  | array
  | string
  | other
  deriving DecidableEq, Repr

/-- The functions of `libubox` and `libc` that messages are read and written with. -/
structure Libraries where
  Attr : Type
  blobId : Attr → Nat
  /-- The bytes at `blob_data`, of which there are `blob_len`. -/
  blobData : Attr → List UInt8
  blobPadLen : Attr → Nat
  blobForEachAttr : Attr → List Attr
  /-- The table that `blob_parse` fills, by the number of the attribute. -/
  blobParse : (policy : Nat → AttrType) → (max : Nat) → Attr → Nat → Option Attr
  blobGetInt8 : Attr → UInt8
  blobGetInt32 : Attr → UInt32
  /-- Bytes read as an attribute. -/
  attrAt : List UInt8 → Attr
  blobmsgForEachAttr : Attr → List Attr
  /-- `blobmsg_check_attr` that does not ask for a name. -/
  blobmsgCheckAttr : Attr → Bool
  blobmsgType : Attr → BlobmsgType
  blobmsgData : Attr → List UInt8
  blobPut : Nat → List UInt8 → Attr
  blobPutInt8 : Nat → UInt8 → Attr
  blobPutInt32 : Nat → UInt32 → Attr
  blobPutString : Nat → CString → Attr
  /-- `blob_nest_start` and `blob_nest_end` around other attributes. -/
  blobNest : Nat → List Attr → Attr
  blobmsgAddField : BlobmsgType → CString → List UInt8 → Attr
  etherAton : CString → Option MacAddr
  etherNtoa : MacAddr → CString

/-- The attributes of a message. -/
inductive ApmsgAttr where
  | id
  | seq
  | nodes
  deriving DecidableEq, Repr

/-- The attributes of a node. -/
inductive ApmsgNodeAttr where
  | name
  | freq
  | nAssoc
  | stations
  | noise
  | load
  | ssid
  | bssid
  | maxAssoc
  | rrmNr
  | scriptData
  deriving DecidableEq, Repr

/-- The attributes of a station. -/
inductive ApmsgStaAttr where
  | addr
  | signal
  | timeout
  | seen
  | connected
  deriving DecidableEq, Repr

/-- The number of an enumerator. -/
def ApmsgAttr.number : ApmsgAttr → Nat := ApmsgAttr.ctorIdx
/-- The number of an enumerator. -/
def ApmsgNodeAttr.number : ApmsgNodeAttr → Nat := ApmsgNodeAttr.ctorIdx
/-- The number of an enumerator. -/
def ApmsgStaAttr.number : ApmsgStaAttr → Nat := ApmsgStaAttr.ctorIdx

/-- A table of types, zeroed where it says nothing. -/
def policyOf (table : List (Nat × AttrType)) (i : Nat) : AttrType := (table.lookup i).getD .unspec

/-- The policy of `parse_apmsg`. -/
def apmsgPolicy : Nat → AttrType :=
  policyOf [(ApmsgAttr.id.number, .int32), (ApmsgAttr.seq.number, .int32), (ApmsgAttr.nodes.number, .nested)]

/-- The policy of `parse_apmsg_node`, which says nothing of the SSID and the BSSID. -/
def apmsgNodePolicy : Nat → AttrType :=
  policyOf [(ApmsgNodeAttr.name.number, .string), (ApmsgNodeAttr.freq.number, .int32),
    (ApmsgNodeAttr.nAssoc.number, .int32), (ApmsgNodeAttr.maxAssoc.number, .int32),
    (ApmsgNodeAttr.stations.number, .nested), (ApmsgNodeAttr.noise.number, .int32), (ApmsgNodeAttr.load.number, .int32),
    (ApmsgNodeAttr.rrmNr.number, .nested), (ApmsgNodeAttr.scriptData.number, .nested)]

/-- The policy of `parse_apmsg_sta`. -/
def apmsgStaPolicy : Nat → AttrType :=
  policyOf [(ApmsgStaAttr.addr.number, .binary), (ApmsgStaAttr.signal.number, .int32), (ApmsgStaAttr.seen.number, .int32),
    (ApmsgStaAttr.timeout.number, .int32), (ApmsgStaAttr.connected.number, .int8)]

/-- Six bytes as an address. -/
def macOfBytes (bytes : List UInt8) : MacAddr := bytes.foldl (fun addr b => addr * 256 + b.toBitVec.setWidth 48) 0

/-- An address as six bytes. -/
def macBytes (addr : MacAddr) : List UInt8 :=
  [5, 4, 3, 2, 1, 0].map (fun i => UInt8.ofNat (addr.toNat / 256 ^ i))

/-- Bytes read as a string. -/
def cString (data : List UInt8) : Except Fault CString :=
  if 0 ∈ data then .ok (data.takeWhile (· ≠ 0)) else .error .unterminated

namespace Libraries

variable (lib : Libraries)

/-! ### Parsing -/

/-- `parse_apmsg`: the id, the sequence number and the nodes. -/
def parseApmsg (data : lib.Attr) : Option (UInt32 × UInt32 × lib.Attr) := do
  let tb := fun attr : ApmsgAttr => lib.blobParse apmsgPolicy 3 data attr.number
  let id ← tb .id
  let seq ← tb .seq
  let nodes ← tb .nodes
  return (lib.blobGetInt32 id, lib.blobGetInt32 seq, nodes)

/-- `get_int32` -/
def getInt32 : Option lib.Attr → Int32
  | none => 0
  | some attr => (lib.blobGetInt32 attr).toInt32

/-- The neighbour report of a node, if it is an array of attributes that pass a check or
    are strings. -/
def parseRrmNr (cur : Option lib.Attr) : Option Blob := do
  let data := lib.blobData (← cur)
  let rrmNr := lib.attrAt data
  if data.length < 4 || data.length < lib.blobPadLen rrmNr then
    none
  else if (lib.blobmsgForEachAttr rrmNr).all (fun attr => lib.blobmsgCheckAttr attr || lib.blobmsgType attr = .string) &&
      lib.blobmsgType rrmNr = .array then
    some (lib.blobmsgData rrmNr)
  else
    none

end Libraries

/-- `struct apmsg_node` as `parse_apmsg_node` fills it; the pointer to the BSSID is made of
    an attribute that may be absent. -/
structure NodeAttrs (lib : Libraries) where
  name : lib.Attr
  ssid : lib.Attr
  bssid : Option lib.Attr
  freq : Int32
  nAssoc : Int32
  maxAssoc : Int32
  noise : Int32
  load : Int32
  stations : lib.Attr
  rrmNr : Option Blob
  scriptData : Option Blob

namespace Libraries

variable (lib : Libraries)

/-- `parse_apmsg_node` -/
def parseApmsgNode (data : lib.Attr) : Option (NodeAttrs lib) := do
  let tb := fun attr : ApmsgNodeAttr => lib.blobParse apmsgNodePolicy 11 data attr.number
  let name ← tb .name
  let freq ← tb .freq
  let nAssoc ← tb .nAssoc
  let stations ← tb .stations
  let ssid ← tb .ssid
  return {
    name := name
    ssid := ssid
    bssid := tb .bssid
    freq := (lib.blobGetInt32 freq).toInt32
    nAssoc := (lib.blobGetInt32 nAssoc).toInt32
    maxAssoc := lib.getInt32 (tb .maxAssoc)
    noise := lib.getInt32 (tb .noise)
    load := lib.getInt32 (tb .load)
    stations := stations
    rrmNr := lib.parseRrmNr (tb .rrmNr)
    scriptData := (tb .scriptData).map lib.blobData }

/-- `parse_apmsg_sta` -/
def parseApmsgSta (data : lib.Attr) : Option ApmsgSta := do
  let tb := fun attr : ApmsgStaAttr => lib.blobParse apmsgStaPolicy 5 data attr.number
  let addr ← tb .addr
  let signal ← tb .signal
  let seen ← tb .seen
  let timeout ← tb .timeout
  let connected ← tb .connected
  if (lib.blobData addr).length ≠ 6 then
    none
  else
    return {
      addr := macOfBytes (lib.blobData addr)
      connected := lib.blobGetInt8 connected ≠ 0
      signal := (lib.blobGetInt32 signal).toInt32
      timeout := (lib.blobGetInt32 timeout).toInt32
      seen := (lib.blobGetInt32 seen).toInt32 }

/-! ### Receiving -/

/-- `interface_add_node` on an attribute; the SSID is read as a string by
    `usteer_is_valid_ssid` or when it is copied, the BSSID by `ether_aton`. -/
def interfaceAddNode (env : Platform) (cfg : Config) (d : Daemon) (addr : CString) (id : UInt64) (data : lib.Attr) :
    Except Fault Daemon := do
  match lib.parseApmsgNode data with
  | none => return d
  | some msg =>
    let ssid ← cString (lib.blobData msg.ssid)
    if !d.usteerIsValidSsid ssid then
      return d
    let name ← cString (lib.blobData msg.name)
    let bssid ← Daemon.notNull msg.bssid
    let text ← cString (lib.blobData bssid)
    d.interfaceAddNode env cfg addr id {
      name := name
      ssid := ssid
      bssid := lib.etherAton text
      freq := msg.freq
      nAssoc := msg.nAssoc
      maxAssoc := msg.maxAssoc
      noise := msg.noise
      load := msg.load
      stations := (lib.blobForEachAttr msg.stations).filterMap lib.parseApmsgSta
      rrmNr := msg.rrmNr
      scriptData := msg.scriptData }

/-- `interface_recv_msg` -/
def interfaceRecvMsg (env : Platform) (cfg : Config) (d : Daemon) (addr : CString) (data : lib.Attr) (len : Nat) :
    Except Fault Daemon :=
  if lib.blobPadLen data ≠ len then .ok d
  else
    match lib.parseApmsg data with
    | none => .ok d
    | some (id, _, nodes) =>
      if id = d.localId then .ok d
      else (lib.blobForEachAttr nodes).foldlM (fun d cur => lib.interfaceAddNode env cfg d addr id.toUInt64 cur) d

/-! ### Writing -/

/-- The attributes that `usteer_send_sta_info` writes. -/
def putStaInfo (msg : ApmsgSta) : lib.Attr :=
  lib.blobNest 0 [
    lib.blobPut ApmsgStaAttr.addr.number (macBytes msg.addr),
    lib.blobPutInt8 ApmsgStaAttr.connected.number (if msg.connected then 1 else 0),
    lib.blobPutInt32 ApmsgStaAttr.signal.number msg.signal.toUInt32,
    lib.blobPutInt32 ApmsgStaAttr.seen.number msg.seen.toUInt32,
    lib.blobPutInt32 ApmsgStaAttr.timeout.number msg.timeout.toUInt32]

/-- The attributes that `usteer_send_node` writes. -/
def putNode (node : UsteerNode) (stations : List ApmsgSta) : lib.Attr :=
  lib.blobNest 0 ([
    lib.blobPutString ApmsgNodeAttr.name.number node.name,
    lib.blobPutString ApmsgNodeAttr.ssid.number node.ssid,
    lib.blobPutString ApmsgNodeAttr.bssid.number (lib.etherNtoa node.bssid),
    lib.blobPutInt32 ApmsgNodeAttr.freq.number node.freq.toUInt32,
    lib.blobPutInt32 ApmsgNodeAttr.noise.number node.noise.toUInt32,
    lib.blobPutInt32 ApmsgNodeAttr.load.number node.load.toUInt32,
    lib.blobPutInt32 ApmsgNodeAttr.nAssoc.number node.nAssoc.toUInt32,
    lib.blobPutInt32 ApmsgNodeAttr.maxAssoc.number node.maxAssoc.toUInt32] ++
    (node.rrmNr.map (fun rrmNr =>
      lib.blobNest ApmsgNodeAttr.rrmNr.number [lib.blobmsgAddField .array [] rrmNr])).toList ++
    (node.scriptData.map (lib.blobPut ApmsgNodeAttr.scriptData.number)).toList ++
    [lib.blobNest ApmsgNodeAttr.stations.number (stations.map lib.putStaInfo)])

/-- `usteer_send_node` -/
def usteerSendNode (cfg : Config) (d : Daemon) (n : NodeId) (sta : Option SiId) : Except Fault lib.Attr := do
  let node ← d.node n
  let stations ← if cfg.remoteDisabled then pure [] else (sta.elim node.staInfo (fun si => [si])).mapM (d.usteerSendStaInfo cfg)
  return lib.putNode node stations

/-- What `usteer_update_init` and `usteer_update_send` put around the nodes. -/
def putUpdate (id seq : UInt32) (nodes : List lib.Attr) : lib.Attr :=
  lib.blobNest 0 [
    lib.blobPutInt32 ApmsgAttr.id.number id,
    lib.blobPutInt32 ApmsgAttr.seq.number seq,
    lib.blobNest ApmsgAttr.nodes.number nodes]

end Libraries

/-! ### Attributes as trees

The libraries on attributes whose nesting is kept, so that a message may be longer than its
headers can say. -/

/-- A number as bytes, the highest first. -/
def bytesOf (width value : Nat) : List UInt8 := (List.range width).reverse.map (fun i => UInt8.ofNat (value / 256 ^ i))

/-- Bytes as a number. -/
def numberOf (bytes : List UInt8) : Nat := bytes.foldl (fun value b => value * 256 + b.toNat) 0

/-- An attribute: bytes or others under a number, or a field of `blobmsg` without a name. -/
inductive Tree where
  | bytes (id : Nat) (data : List UInt8)
  | nest (id : Nat) (attrs : List Tree)
  | field (type : BlobmsgType) (data : List UInt8)

namespace Tree

/-- The number of a type, with the bit that says that a name follows. -/
def tag : BlobmsgType → UInt8
  | .array => 129
  | .string => 131
  | .other => 128

/-- The type with the number. -/
def typeAt (tag : UInt8) : BlobmsgType := if tag = 129 then .array else if tag = 131 then .string else .other

def id : Tree → Nat
  | bytes id _ => id
  | nest id _ => id
  | field type _ => (tag type).toNat - 128

def attrs : Tree → List Tree
  | nest _ attrs => attrs
  | _ => []

/-- Data behind its header. -/
def framed (tag : UInt8) (data : List UInt8) : List UInt8 := tag :: bytesOf 3 (data.length + 4) ++ data

mutual

/-- An attribute as it is sent. Bytes are filled up to a multiple of four, which arrays are
    already, and the empty name of a field takes four bytes. -/
def encode : Tree → List UInt8
  | bytes id data => framed (UInt8.ofNat id) data ++ List.replicate ((4 - data.length % 4) % 4) 0
  | nest id attrs => framed (UInt8.ofNat id) (encodeAll attrs)
  | field type data => framed (tag type) ([0, 0, 0, 0] ++ data)

/-- Attributes one after the other. -/
def encodeAll : List Tree → List UInt8
  | [] => []
  | attr :: rest => encode attr ++ encodeAll rest

end

def data : Tree → List UInt8
  | bytes _ data => data
  | nest _ attrs => encodeAll attrs
  | field _ data => data

/-- `blob_check_type` -/
def fits (data : List UInt8) : AttrType → Bool
  | .string => data.getLast? = some 0
  | .int8 => data.length = 1
  | .int32 => data.length = 4
  | _ => true

/-- `blob_parse`, which keeps the last of several attributes with one number. -/
def parse (policy : Nat → AttrType) (max : Nat) (t : Tree) (i : Nat) : Option Tree :=
  if i < max then (t.attrs.filter (fun attr => attr.id = i && fits attr.data (policy i))).getLast? else none

/-- The field that the bytes are. -/
def fieldAt (sent : List UInt8) : Tree := field (typeAt (sent.headD 0)) (sent.drop 8)

/-- The fields in the bytes, as many as the fuel allows. -/
def fieldsIn : Nat → List UInt8 → List Tree
  | 0, _ => []
  | fuel + 1, sent =>
    let len := numberOf ((sent.drop 1).take 3)
    if len < 8 || sent.length < len then []
    else fieldAt (sent.take len) :: fieldsIn fuel (sent.drop ((len + 3) / 4 * 4))

def type : Tree → BlobmsgType
  | field type _ => type
  | _ => .other

/-- `blobmsg_check_attr`, which looks into strings. -/
def check : Tree → Bool
  | field .string data => data.getLast? = some 0
  | field _ _ => true
  | _ => false

end Tree

/-- A number below 256 in hexadecimal digits. -/
def hexText (b : UInt8) : CString :=
  let digit := fun n : UInt8 => if n < 10 then '0'.toUInt8 + n else 'a'.toUInt8 + (n - 10)
  if b < 16 then [digit b] else [digit (b / 16), digit (b % 16)]

/-- One or two hexadecimal digits as a number. -/
def hexByte (text : CString) : Option UInt8 :=
  let value := fun c : UInt8 =>
    if '0'.toUInt8 ≤ c && c ≤ '9'.toUInt8 then some (c - '0'.toUInt8)
    else if 'a'.toUInt8 ≤ c && c ≤ 'f'.toUInt8 then some (c - 'a'.toUInt8 + 10)
    else if 'A'.toUInt8 ≤ c && c ≤ 'F'.toUInt8 then some (c - 'A'.toUInt8 + 10)
    else none
  match text with
  | [c] => value c
  | [c1, c2] => do return (← value c1) * 16 + (← value c2)
  | _ => none

/-- The libraries with trees as attributes. -/
def treeLibraries : Libraries where
  Attr := Tree
  blobId := Tree.id
  blobData := Tree.data
  blobPadLen t := t.encode.length
  blobForEachAttr := Tree.attrs
  blobParse := Tree.parse
  blobGetInt8 t := UInt8.ofNat (numberOf t.data)
  blobGetInt32 t := UInt32.ofNat (numberOf t.data)
  attrAt := Tree.fieldAt
  blobmsgForEachAttr t := Tree.fieldsIn t.data.length t.data
  blobmsgCheckAttr := Tree.check
  blobmsgType := Tree.type
  blobmsgData := Tree.data
  blobPut := Tree.bytes
  blobPutInt8 id v := .bytes id [v]
  blobPutInt32 id v := .bytes id (bytesOf 4 v.toNat)
  blobPutString id s := .bytes id (s ++ [0])
  blobNest := Tree.nest
  blobmsgAddField type _ data := .field type data
  etherAton text :=
    match (text.splitOn ':'.toUInt8).mapM hexByte with
    | some bytes => if bytes.length = 6 then some (macOfBytes bytes) else none
    | none => none
  etherNtoa addr := [':'.toUInt8].intercalate ((macBytes addr).map hexText)

end Usteer
