import Usteer.Datagrams
import Usteer.Delivery
import Usteer.Mirror

/-!
The messages as bytes and the messages as records. What `usteer_send_node` writes, attribute
by attribute, is what `parse_apmsg_node` reads, so a daemon that receives the attributes does
what it does with the record (`recvMsg_putUpdate`), and the first update of a sender arrives
as it was sent (`update_delivered`).
-/
namespace Usteer
open SearchTree Timeout Daemon

/-! ### What is written is what is read -/

namespace Libraries

variable (lib : Libraries)

/-- The attribute is written by the function for the type that a policy asks for. -/
def WrittenAs (attr : lib.Attr) : AttrType → Prop
  | .string => ∃ k s, attr = lib.blobPutString k s
  | .int8 => ∃ k v, attr = lib.blobPutInt8 k v
  | .int32 => ∃ k v, attr = lib.blobPutInt32 k v
  | _ => True

/-- The functions that write attributes and those that read them are inverse. -/
structure Inverse : Prop where
  checks : lib.ChecksStrings
  id_put : ∀ k b, lib.blobId (lib.blobPut k b) = k
  id_int8 : ∀ k v, lib.blobId (lib.blobPutInt8 k v) = k
  id_int32 : ∀ k v, lib.blobId (lib.blobPutInt32 k v) = k
  id_string : ∀ k s, lib.blobId (lib.blobPutString k s) = k
  id_nest : ∀ k attrs, lib.blobId (lib.blobNest k attrs) = k
  data_put : ∀ k b, lib.blobData (lib.blobPut k b) = b
  data_string : ∀ k s, lib.blobData (lib.blobPutString k s) = s ++ [0]
  get_int8 : ∀ k v, lib.blobGetInt8 (lib.blobPutInt8 k v) = v
  get_int32 : ∀ k v, lib.blobGetInt32 (lib.blobPutInt32 k v) = v
  attrs_nest : ∀ k attrs, lib.blobForEachAttr (lib.blobNest k attrs) = attrs
  parse_nest : ∀ policy max k attrs, (attrs.map lib.blobId).Nodup →
    (∀ attr ∈ attrs, lib.blobId attr < max ∧ lib.WrittenAs attr (policy (lib.blobId attr))) →
    ∀ i, lib.blobParse policy max (lib.blobNest k attrs) i = attrs.find? (fun attr => lib.blobId attr = i)
  /-- A single field may be read where it lies in its nest. -/
  field_at : ∀ k type name data, lib.attrAt (lib.blobData (lib.blobNest k [lib.blobmsgAddField type name data])) =
    lib.blobmsgAddField type name data
  field_len : ∀ k type name data, 4 ≤ (lib.blobData (lib.blobNest k [lib.blobmsgAddField type name data])).length ∧
    lib.blobPadLen (lib.blobmsgAddField type name data) ≤
      (lib.blobData (lib.blobNest k [lib.blobmsgAddField type name data])).length
  field_type : ∀ type name data, lib.blobmsgType (lib.blobmsgAddField type name data) = type
  field_data : ∀ type name data, lib.blobmsgData (lib.blobmsgAddField type name data) = data
  aton_ntoa : ∀ addr, lib.etherAton (lib.etherNtoa addr) = some addr
  ntoa_text : ∀ addr, 0 ∉ lib.etherNtoa addr

/-- The neighbour report passes the checks of `parse_apmsg_node`. -/
def ReportPasses (rrmNr : Blob) : Prop :=
  ∀ attr ∈ lib.blobmsgForEachAttr (lib.blobmsgAddField .array [] rrmNr),
    lib.blobmsgCheckAttr attr = true ∨ lib.blobmsgType attr = .string

end Libraries

section Codec

variable {lib : Libraries} {env : Platform} {cfg : Config} {d : Daemon} {addr : CString} {id : UInt32}

theorem macOfBytes_macBytes (a : MacAddr) : macOfBytes (macBytes a) = a := by
  have size := a.isLt
  apply BitVec.eq_of_toNat_eq
  simp [macOfBytes, macBytes]
  omega

theorem text_putString (inverse : lib.Inverse) {k : Nat} {s : CString} (plain : 0 ∉ s) :
    0 ∈ lib.blobData (lib.blobPutString k s) ∧ lib.text (lib.blobPutString k s) = s := by
  unfold Libraries.text
  rw [inverse.data_string]
  refine ⟨by simp, ?_⟩
  rw [List.takeWhile_append_of_pos]
  · simp
  · intro b inside
    exact decide_eq_true fun zero => plain (zero ▸ inside)

@[simp] theorem ApmsgAttr.number_inj (a b : ApmsgAttr) : a.number = b.number ↔ a = b := by
  cases a <;> cases b <;> decide

@[simp] theorem ApmsgNodeAttr.number_inj (a b : ApmsgNodeAttr) : a.number = b.number ↔ a = b := by
  cases a <;> cases b <;> decide

@[simp] theorem ApmsgStaAttr.number_inj (a b : ApmsgStaAttr) : a.number = b.number ↔ a = b := by
  cases a <;> cases b <;> decide

/-- Every attribute of a station is found again. -/
theorem parse_putStaInfo (inverse : lib.Inverse) (msg : ApmsgSta) (attr : ApmsgStaAttr) :
    lib.blobParse apmsgStaPolicy 5 (lib.putStaInfo msg) attr.number = some
      (if attr = .addr then lib.blobPut ApmsgStaAttr.addr.number (macBytes msg.addr)
      else if attr = .connected then lib.blobPutInt8 ApmsgStaAttr.connected.number (if msg.connected then 1 else 0)
      else if attr = .signal then lib.blobPutInt32 ApmsgStaAttr.signal.number msg.signal.toUInt32
      else if attr = .seen then lib.blobPutInt32 ApmsgStaAttr.seen.number msg.seen.toUInt32
      else lib.blobPutInt32 ApmsgStaAttr.timeout.number msg.timeout.toUInt32) := by
  unfold Libraries.putStaInfo
  rw [inverse.parse_nest]
  · cases attr <;> simp [inverse.id_put, inverse.id_int8, inverse.id_int32]
  · simp [inverse.id_put, inverse.id_int8, inverse.id_int32]
  · simp only [List.forall_mem_cons, inverse.id_put, inverse.id_int8, inverse.id_int32]
    exact ⟨⟨by decide, trivial⟩, ⟨by decide, _, _, rfl⟩, ⟨by decide, _, _, rfl⟩, ⟨by decide, _, _, rfl⟩,
      ⟨by decide, _, _, rfl⟩, fun _ inside => (List.not_mem_nil inside).elim⟩

theorem parseApmsgSta_putStaInfo (inverse : lib.Inverse) (msg : ApmsgSta) :
    lib.parseApmsgSta (lib.putStaInfo msg) = some msg := by
  unfold Libraries.parseApmsgSta
  have size : (macBytes msg.addr).length = 6 := rfl
  simp only [parse_putStaInfo inverse, reduceCtorEq, if_true, if_false, Option.bind_eq_bind, Option.bind_some,
    inverse.data_put, inverse.get_int8, inverse.get_int32, size, macOfBytes_macBytes]
  rcases msg with ⟨a, _ | _, signal, timeout, seen⟩ <;> simp

/-- Every attribute of a node is found again, if it was written. -/
theorem nodeAttr_putNode (inverse : lib.Inverse) (node : UsteerNode) (stations : List ApmsgSta) (attr : ApmsgNodeAttr) :
    lib.nodeAttr (lib.putNode node stations) attr =
      if attr = .name then some (lib.blobPutString ApmsgNodeAttr.name.number node.name)
      else if attr = .ssid then some (lib.blobPutString ApmsgNodeAttr.ssid.number node.ssid)
      else if attr = .bssid then some (lib.blobPutString ApmsgNodeAttr.bssid.number (lib.etherNtoa node.bssid))
      else if attr = .freq then some (lib.blobPutInt32 ApmsgNodeAttr.freq.number node.freq.toUInt32)
      else if attr = .noise then some (lib.blobPutInt32 ApmsgNodeAttr.noise.number node.noise.toUInt32)
      else if attr = .load then some (lib.blobPutInt32 ApmsgNodeAttr.load.number node.load.toUInt32)
      else if attr = .nAssoc then some (lib.blobPutInt32 ApmsgNodeAttr.nAssoc.number node.nAssoc.toUInt32)
      else if attr = .maxAssoc then some (lib.blobPutInt32 ApmsgNodeAttr.maxAssoc.number node.maxAssoc.toUInt32)
      else if attr = .rrmNr then node.rrmNr.map (fun rrmNr =>
        lib.blobNest ApmsgNodeAttr.rrmNr.number [lib.blobmsgAddField .array [] rrmNr])
      else if attr = .scriptData then node.scriptData.map (lib.blobPut ApmsgNodeAttr.scriptData.number)
      else some (lib.blobNest ApmsgNodeAttr.stations.number (stations.map lib.putStaInfo)) := by
  unfold Libraries.nodeAttr Libraries.putNode
  rw [inverse.parse_nest]
  · cases node.rrmNr <;> cases node.scriptData <;> cases attr <;>
      simp [inverse.id_put, inverse.id_string, inverse.id_int32, inverse.id_nest]
  · cases node.rrmNr <;> cases node.scriptData <;>
      simp [inverse.id_put, inverse.id_string, inverse.id_int32, inverse.id_nest]
  · intro written inside
    simp only [List.mem_append, List.mem_cons, List.not_mem_nil, or_false, Option.mem_toList, Option.map_eq_some_iff] at inside
    rcases inside with ((strings | ⟨rrmNr, _, rfl⟩) | ⟨scriptData, _, rfl⟩) | rfl
    · rcases strings with rfl | rfl | rfl | rfl | rfl | rfl | rfl | rfl
      · rw [inverse.id_string]
        exact ⟨by decide, _, _, rfl⟩
      · rw [inverse.id_string]
        exact ⟨by decide, trivial⟩
      · rw [inverse.id_string]
        exact ⟨by decide, trivial⟩
      all_goals
        rw [inverse.id_int32]
        exact ⟨by decide, _, _, rfl⟩
    · rw [inverse.id_nest]
      exact ⟨by decide, trivial⟩
    · rw [inverse.id_put]
      exact ⟨by decide, trivial⟩
    · rw [inverse.id_nest]
      exact ⟨by decide, trivial⟩

/-- A neighbour report that passes the checks is found as it was. -/
theorem parseRrmNr_putNode (inverse : lib.Inverse) {rrmNr : Option Blob} (passes : ∀ blob ∈ rrmNr, lib.ReportPasses blob) :
    lib.parseRrmNr (rrmNr.map (fun rrmNr =>
      lib.blobNest ApmsgNodeAttr.rrmNr.number [lib.blobmsgAddField .array [] rrmNr])) = rrmNr := by
  cases rrmNr with
  | none => rfl
  | some blob =>
    obtain ⟨header, fits⟩ := inverse.field_len ApmsgNodeAttr.rrmNr.number .array [] blob
    have all : (lib.blobmsgForEachAttr (lib.blobmsgAddField .array [] blob)).all
        (fun attr => lib.blobmsgCheckAttr attr || lib.blobmsgType attr = .string) = true := by
      rw [List.all_eq_true]
      intro attr inside
      simpa using passes blob rfl attr inside
    unfold Libraries.parseRrmNr
    simp only [Option.map_some, Option.bind_eq_bind, Option.bind_some, inverse.field_at, inverse.field_type,
      inverse.field_data, all]
    rw [if_neg (by simp; omega)]
    simp

/-- What can be sent as it is: strings without zeros and a report that passes the checks. -/
structure Sendable (lib : Libraries) (node : UsteerNode) : Prop where
  name : 0 ∉ node.name
  ssid : 0 ∉ node.ssid
  rrmNr : ∀ blob ∈ node.rrmNr, lib.ReportPasses blob

/-- The attributes that the parser finds of a node. -/
def writtenNode (lib : Libraries) (node : UsteerNode) (stations : List ApmsgSta) : NodeAttrs lib where
  name := lib.blobPutString ApmsgNodeAttr.name.number node.name
  ssid := lib.blobPutString ApmsgNodeAttr.ssid.number node.ssid
  bssid := some (lib.blobPutString ApmsgNodeAttr.bssid.number (lib.etherNtoa node.bssid))
  freq := node.freq
  nAssoc := node.nAssoc
  maxAssoc := node.maxAssoc
  noise := node.noise
  load := node.load
  stations := lib.blobNest ApmsgNodeAttr.stations.number (stations.map lib.putStaInfo)
  rrmNr := node.rrmNr
  scriptData := node.scriptData

theorem parseApmsgNode_putNode (inverse : lib.Inverse) {node : UsteerNode} (sendable : Sendable lib node)
    (stations : List ApmsgSta) : lib.parseApmsgNode (lib.putNode node stations) = some (writtenNode lib node stations) := by
  have found : ∀ attr : ApmsgNodeAttr, lib.blobParse apmsgNodePolicy 11 (lib.putNode node stations) attr.number = _ :=
    nodeAttr_putNode inverse node stations
  have data : (node.scriptData.map (lib.blobPut ApmsgNodeAttr.scriptData.number)).map lib.blobData = node.scriptData := by
    cases node.scriptData with
    | none => rfl
    | some blob => exact congrArg some (inverse.data_put _ blob)
  unfold Libraries.parseApmsgNode
  simp only [found, reduceCtorEq, if_true, if_false, Option.bind_eq_bind, Option.bind_some, inverse.get_int32,
    Libraries.getInt32, parseRrmNr_putNode inverse sendable.rrmNr, data]
  simp [writtenNode]

theorem parseApmsg_putUpdate (inverse : lib.Inverse) (seq : UInt32) (nodes : List lib.Attr) :
    lib.parseApmsg (lib.putUpdate id seq nodes) = some (id, seq, lib.blobNest ApmsgAttr.nodes.number nodes) := by
  have found : ∀ attr : ApmsgAttr, lib.blobParse apmsgPolicy 3 (lib.putUpdate id seq nodes) attr.number =
      if attr = .id then some (lib.blobPutInt32 ApmsgAttr.id.number id)
      else if attr = .seq then some (lib.blobPutInt32 ApmsgAttr.seq.number seq)
      else some (lib.blobNest ApmsgAttr.nodes.number nodes) := by
    intro attr
    unfold Libraries.putUpdate
    rw [inverse.parse_nest]
    · cases attr <;> simp [inverse.id_int32, inverse.id_nest]
    · simp [inverse.id_int32, inverse.id_nest]
    · simp only [List.forall_mem_cons, inverse.id_int32, inverse.id_nest]
      exact ⟨⟨by decide, _, _, rfl⟩, ⟨by decide, _, _, rfl⟩, ⟨by decide, trivial⟩,
        fun _ inside => (List.not_mem_nil inside).elim⟩
  unfold Libraries.parseApmsg
  simp only [found, reduceCtorEq, if_true, if_false, Option.bind_eq_bind, Option.bind_some, inverse.get_int32]
  rfl

end Codec

/-! ### The sender -/

/-- The entries that `usteer_send_node` puts down: the given one or all of the node. -/
def sentEntries (node : UsteerNode) (sta : Option SiId) : List SiId := sta.elim node.staInfo (fun si => [si])

/-- The record of an entry. -/
def sentEntry (cfg : Config) (s : Daemon) (addr : MacAddr) (info : StaInfo) : ApmsgSta where
  addr := addr
  connected := info.connected ≠ 0
  signal := info.signal
  seen := (s.currentTime - info.seen).toUInt32.toInt32
  timeout := (cfg.localStaTimeout - (s.currentTime - info.seen).toUInt32).toInt32

/-- What a node is written from. -/
def SentFrom (cfg : Config) (s : Daemon) (target : NodeId × Option SiId) (p : UsteerNode × List ApmsgSta) : Prop :=
  s.nodes.get? target.1 = some p.1 ∧ List.Forall₂ (fun si msg => ∃ a info, EntryOf s a target.1 si info ∧
    msg = sentEntry cfg s a info) (sentEntries p.1 target.2) p.2

section Sending

variable {lib : Libraries} {cfg : Config} {s : Daemon}

theorem forall₂_map {α β γ : Type*} {R : α → β → Prop} {h : β → γ} {xs : List α} {zs : List γ}
    (related : List.Forall₂ (fun x z => ∃ y, z = h y ∧ R x y) xs zs) : ∃ ys, zs = ys.map h ∧ List.Forall₂ R xs ys := by
  induction related with
  | nil => exact ⟨[], rfl, .nil⟩
  | cons first _ ih =>
    obtain ⟨y, rfl, here⟩ := first
    obtain ⟨ys, rfl, others⟩ := ih
    exact ⟨y :: ys, rfl, .cons here others⟩

/-- A local node and its entries are always sent. -/
theorem sends_node (sound : Sound none s) (enabled : cfg.remoteDisabled = false) {n : NodeId} {node : UsteerNode}
    (live : s.nodes.get? n = some node) {sta : Option SiId} (own : ∀ si ∈ sta, si ∈ node.staInfo) :
    Post (fun _ => False) (lib.usteerSendNode cfg s n sta) (fun attr =>
      ∃ p, attr = lib.putNode p.1 p.2 ∧ SentFrom cfg s (n, sta) p) := by
  unfold Libraries.usteerSendNode
  rw [node_ok live, ok_bind, enabled]
  have listed : ∀ si ∈ sentEntries node sta, si ∈ node.staInfo := by
    cases sta with
    | none => exact fun si inside => inside
    | some si' =>
      intro si inside
      obtain rfl := List.mem_singleton.mp inside
      exact own _ rfl
  have records : Post (fun _ => False) ((sentEntries node sta).mapM (s.usteerSendStaInfo cfg)) (fun msgs =>
      List.Forall₂ (fun si msg => ∃ a info, EntryOf s a n si info ∧ msg = sentEntry cfg s a info) (sentEntries node sta) msgs) := by
    refine post_mapM _ fun si inside => ?_
    obtain ⟨info, liveInfo, onNode⟩ := info_of_node sound.links live (listed si inside)
    obtain ⟨station, liveSta, _⟩ := sta_of_info sound.links liveInfo
    unfold usteerSendStaInfo
    rw [info_ok liveInfo, ok_bind, sta_ok liveSta, ok_bind]
    exact ⟨station.addr, info, ⟨liveInfo, onNode, station, liveSta, rfl⟩, rfl⟩
  change Post _ ((sentEntries node sta).mapM (s.usteerSendStaInfo cfg) >>= fun msgs => pure (lib.putNode node msgs)) _
  rw [post_bind]
  exact records.mono fun msgs related => ⟨(node, msgs), rfl, live, related⟩

section Age

variable {age : UInt64} {timeout : UInt32}

/-- When the time left that is sent is positive. -/
theorem sentTimeout_positive_iff (limit : timeout.toNat < 2 ^ 31) : 0 < (timeout - age.toUInt32).toInt32 ↔
    age.toNat % 2 ^ 32 < timeout.toNat ∨ 2 ^ 31 + timeout.toNat < age.toNat % 2 ^ 32 := by
  rw [Int32.lt_iff_toInt_lt, Words.toInt_toInt32, UInt32.toNat_sub, UInt64.toNat_toUInt32, Int.bmod_def]
  show 0 < _ ↔ _
  omega

/-- When the age that is read is the one that was cut to 32 bits. -/
theorem sentSeen_exact_iff : age.toUInt32.toInt32.toInt64.toUInt64 = age ↔
    age.toNat < 2 ^ 31 ∨ 2 ^ 64 - 2 ^ 31 ≤ age.toNat := by
  have bound := age.toNat_lt
  have signed : age.toUInt32.toInt32.toInt64.toUInt64 = age ↔ age.toUInt32.toInt32.toInt64 = age.toInt64 := by
    constructor
    · intro same
      rw [← Int64.toInt64_toUInt64 age.toUInt32.toInt32.toInt64, same]
    · intro same
      rw [same, UInt64.toUInt64_toInt64]
  rw [signed, ← Int64.toInt_inj, Int32.toInt_toInt64, Words.toInt_toInt32, Words.toInt_toInt64, UInt64.toNat_toUInt32,
    Int.bmod_def, Int.bmod_def]
  omega

end Age

end Sending

/-! ### The update arrives -/

section Arriving

variable {cfg : Config} {s d : Daemon} {text : CString}

end Arriving

theorem numberOf_bytesOf (v : UInt32) : UInt32.ofNat (numberOf (bytesOf 4 v.toNat)) = v := by
  have size := v.toNat_lt
  apply UInt32.toNat_inj.mp
  simp [numberOf, bytesOf, List.range_succ]
  omega

theorem hexByte_hexText (b : UInt8) : hexByte (hexText b) = some b := by
  have all : ∀ n < 256, hexByte (hexText (UInt8.ofNat n)) = some (UInt8.ofNat n) := by decide +kernel
  rw [← UInt8.ofNat_toNat (x := b)]
  exact all b.toNat b.toNat_lt

theorem hexText_plain (b : UInt8) : ':'.toUInt8 ∉ hexText b ∧ 0 ∉ hexText b := by
  have all : ∀ n < 256, ':'.toUInt8 ∉ hexText (UInt8.ofNat n) ∧ 0 ∉ hexText (UInt8.ofNat n) := by decide +kernel
  rw [← UInt8.ofNat_toNat (x := b)]
  exact all b.toNat b.toNat_lt

theorem tree_parse_nest (policy : Nat → AttrType) (max k : Nat) (attrs : List Tree) (distinct : (attrs.map Tree.id).Nodup)
    (fits : ∀ attr ∈ attrs, attr.id < max ∧ Tree.fits attr.data (policy attr.id) = true) (i : Nat) :
    Tree.parse policy max (.nest k attrs) i = attrs.find? (fun attr => attr.id = i) := by
  have kept : attrs.filter (fun attr => attr.id = i && Tree.fits attr.data (policy i)) = attrs.filter (fun attr => attr.id = i) := by
    refine List.filter_congr fun attr inside => ?_
    by_cases here : attr.id = i
    · simp [here, ← (fits attr inside).2]
    · simp [here]
  have found : (attrs.filter (fun attr => attr.id = i)).getLast? = attrs.find? (fun attr => attr.id = i) := by
    clear kept fits
    induction attrs with
    | nil => rfl
    | cons attr rest ih =>
      rw [List.map_cons, List.nodup_cons] at distinct
      by_cases here : attr.id = i
      · have none : rest.filter (fun attr => attr.id = i) = [] := by
          rw [List.filter_eq_nil_iff]
          intro other inside
          rw [decide_eq_true_eq, ← here]
          exact fun same => distinct.1 (same ▸ List.mem_map_of_mem inside)
        simp [here, none]
      · simp [here, ih distinct.2]
  unfold Tree.parse
  split
  · exact (congrArg List.getLast? kept).trans found
  · rename_i beyond
    refine (List.find?_eq_none.mpr fun attr inside => ?_).symm
    rw [decide_eq_true_eq]
    rintro rfl
    exact beyond (fits attr inside).1

theorem treeLibraries_inverse : treeLibraries.Inverse where
  checks := treeLibraries_checksStrings
  id_put _ _ := rfl
  id_int8 _ _ := rfl
  id_int32 _ _ := rfl
  id_string _ _ := rfl
  id_nest _ _ := rfl
  data_put _ _ := rfl
  data_string _ _ := rfl
  get_int8 _ v := by
    simp [treeLibraries, Tree.data, numberOf]
  get_int32 _ v := numberOf_bytesOf v
  attrs_nest _ _ := rfl
  parse_nest policy max k attrs distinct written i := by
    refine tree_parse_nest policy max k attrs distinct (fun attr inside => ⟨(written attr inside).1, ?_⟩) i
    have as := (written attr inside).2
    change treeLibraries.WrittenAs attr (policy attr.id) at as
    cases type : policy attr.id with
    | string =>
      rw [type] at as
      obtain ⟨k, text, rfl⟩ := as
      simp [treeLibraries, Tree.fits, Tree.data]
    | int8 =>
      rw [type] at as
      obtain ⟨k, v, rfl⟩ := as
      rfl
    | int32 =>
      rw [type] at as
      obtain ⟨k, v, rfl⟩ := as
      rfl
    | unspec => rfl
    | nested => rfl
    | binary => rfl
  field_at k type name data := by
    cases type <;> simp [treeLibraries, Tree.data, Tree.encodeAll, Tree.encode, Tree.framed, Tree.fieldAt, bytesOf, Tree.tag,
      Tree.typeAt, List.range_succ]
  field_len k type name data := by
    simp [treeLibraries, Tree.data, Tree.encodeAll, Tree.encode, Tree.framed, bytesOf]
  field_type _ _ _ := rfl
  field_data _ _ _ := rfl
  aton_ntoa addr := by
    have split : ([':'.toUInt8].intercalate ((macBytes addr).map hexText)).splitOn ':'.toUInt8 = (macBytes addr).map hexText := by
      refine List.splitOn_intercalate _ (fun text inside => ?_) (List.cons_ne_nil _ _)
      obtain ⟨b, _, rfl⟩ := List.mem_map.mp inside
      exact (hexText_plain b).1
    have read : ((macBytes addr).map hexText).mapM hexByte = some (macBytes addr) := by
      simp [macBytes, hexByte_hexText]
    simp only [treeLibraries, split, read, macOfBytes_macBytes]
    rfl
  ntoa_text addr := by
    have colon : (0 : UInt8) ≠ ':'.toUInt8 := by decide
    simp [treeLibraries, macBytes, List.intercalate, hexText_plain, colon]

end Usteer
