import Usteer.Wire
import Usteer.Runs

/-!
What a daemon does with an arbitrary datagram. The parser asks for five attributes of a node,
and its policy covers neither the SSID nor the BSSID, so an entry that passes it may lack a
BSSID or hold strings without an end. Such an entry is harmless only if its SSID is not
wanted (`Usable`), and a datagram is handled safely exactly when all its entries are.
-/
namespace Usteer
open SearchTree Timeout Daemon

/-- The attributes that `interface_add_node` uses whatever else a node has. -/
def mandatory : List ApmsgNodeAttr := [.name, .freq, .nAssoc, .stations, .ssid, .bssid]

namespace Libraries

variable (lib : Libraries)

/-- `blob_parse` leaves out a string that does not end. -/
def ChecksStrings : Prop :=
  ∀ policy max data i attr, lib.blobParse policy max data i = some attr → policy i = .string → 0 ∈ lib.blobData attr

/-- The table that `parse_apmsg_node` fills. -/
def nodeAttr (data : lib.Attr) (attr : ApmsgNodeAttr) : Option lib.Attr :=
  lib.blobParse apmsgNodePolicy 11 data attr.number

/-- The bytes of an attribute up to the first that is zero. -/
def text (attr : lib.Attr) : CString := (lib.blobData attr).takeWhile (· ≠ 0)

/-- The attribute holds the text of an address. -/
def HoldsAddress (attr : lib.Attr) : Prop := 0 ∈ lib.blobData attr ∧ (lib.etherAton (lib.text attr)).isSome

/-- No mandatory attribute of a node is missing or invalid. -/
structure Complete (data : lib.Attr) : Prop where
  present : ∀ attr ∈ mandatory, (lib.nodeAttr data attr).isSome
  ssid : ∀ attr, lib.nodeAttr data .ssid = some attr → 0 ∈ lib.blobData attr
  bssid : ∀ attr, lib.nodeAttr data .bssid = some attr → lib.HoldsAddress attr

/-- What the datagram lists, by the number of the sender, if it is another daemon's. -/
def Lists (d : Daemon) (data : lib.Attr) (id : UInt32) (entries : List lib.Attr) : Prop :=
  ∃ seq nodes, lib.parseApmsg data = some (id, seq, nodes) ∧ id ≠ d.localId ∧ entries = lib.blobForEachAttr nodes

end Libraries

/-- The node that the attributes stand for, with the address that its BSSID was read as. -/
def NodeAttrs.node {lib : Libraries} (msg : NodeAttrs lib) (bssid : Option MacAddr) : ApmsgNode where
  name := lib.text msg.name
  ssid := lib.text msg.ssid
  bssid := bssid
  freq := msg.freq
  nAssoc := msg.nAssoc
  maxAssoc := msg.maxAssoc
  noise := msg.noise
  load := msg.load
  stations := (lib.blobForEachAttr msg.stations).filterMap lib.parseApmsgSta
  rrmNr := msg.rrmNr
  scriptData := msg.scriptData

section Datagram

variable {lib : Libraries} {env : Platform} {cfg : Config} {d d' : Daemon} {cur : lib.Attr} {addr : CString} {id : UInt32}

/-! ### One entry -/

theorem cString_ok {attr : lib.Attr} (ends : 0 ∈ lib.blobData attr) : cString (lib.blobData attr) = .ok (lib.text attr) :=
  if_pos ends

theorem cString_error {attr : lib.Attr} (endless : 0 ∉ lib.blobData attr) :
    cString (lib.blobData attr) = .error .unterminated :=
  if_neg endless

/-- What the parser hands on was in the table. -/
theorem parseApmsgNode_some {msg : NodeAttrs lib} (parsed : lib.parseApmsgNode cur = some msg) :
    lib.nodeAttr cur .name = some msg.name ∧ (lib.nodeAttr cur .freq).isSome ∧ (lib.nodeAttr cur .nAssoc).isSome ∧
      lib.nodeAttr cur .stations = some msg.stations ∧ lib.nodeAttr cur .ssid = some msg.ssid ∧
      lib.nodeAttr cur .bssid = msg.bssid := by
  unfold Libraries.parseApmsgNode at parsed
  simp only [Option.bind_eq_bind, Option.bind_eq_some_iff, Option.pure_def, Option.some.injEq] at parsed
  obtain ⟨name, hasName, freq, hasFreq, nAssoc, hasAssoc, stations, hasStations, ssid, hasSsid, rfl⟩ := parsed
  exact ⟨hasName, Option.isSome_of_mem hasFreq, Option.isSome_of_mem hasAssoc, hasStations, hasSsid, rfl⟩

theorem addNode_unwanted {msg : NodeAttrs lib} (parsed : lib.parseApmsgNode cur = some msg)
    (ends : 0 ∈ lib.blobData msg.ssid) (unwanted : d.usteerIsValidSsid (lib.text msg.ssid) = false) :
    lib.interfaceAddNode env cfg d addr id.toUInt64 cur = .ok d := by
  unfold Libraries.interfaceAddNode
  rw [parsed]
  dsimp only
  rw [cString_ok ends, ok_bind, unwanted]
  rfl

theorem addNode_wanted {msg : NodeAttrs lib} (checks : lib.ChecksStrings) (parsed : lib.parseApmsgNode cur = some msg)
    (ends : 0 ∈ lib.blobData msg.ssid) (wanted : d.usteerIsValidSsid (lib.text msg.ssid) = true) :
    lib.interfaceAddNode env cfg d addr id.toUInt64 cur = (do
      let bssid ← notNull msg.bssid
      let text ← cString (lib.blobData bssid)
      d.interfaceAddNode env cfg addr id.toUInt64 (msg.node (lib.etherAton text))) := by
  have name : 0 ∈ lib.blobData msg.name := checks _ _ _ _ _ (parseApmsgNode_some parsed).1 rfl
  unfold Libraries.interfaceAddNode
  rw [parsed]
  dsimp only
  rw [cString_ok ends, ok_bind, wanted, cString_ok name]
  rfl

theorem recvMsg_eq {data : lib.Attr} {len : Nat} {entries : List lib.Attr} (passes : lib.blobPadLen data = len)
    (lists : lib.Lists d data id entries) : lib.interfaceRecvMsg env cfg d addr data len =
      entries.foldlM (fun d cur => lib.interfaceAddNode env cfg d addr id.toUInt64 cur) d := by
  obtain ⟨seq, nodes, parsed, other, rfl⟩ := lists
  unfold Libraries.interfaceRecvMsg
  rw [if_neg (not_not.mpr passes), parsed]
  exact if_neg other

theorem recvMsg_unlisted {data : lib.Attr} {len : Nat} (unlisted : ∀ id entries, ¬ lib.Lists d data id entries) :
    lib.interfaceRecvMsg env cfg d addr data len = .ok d := by
  unfold Libraries.interfaceRecvMsg
  split
  · rfl
  · cases parsed : lib.parseApmsg data with
    | none => rfl
    | some msg =>
      have own : msg.1 = d.localId := by
        by_contra other
        exact unlisted msg.1 _ ⟨msg.2.1, msg.2.2, parsed, other, rfl⟩
      exact if_pos own

end Datagram

/-! ### Two datagrams -/

theorem treeLibraries_checksStrings : treeLibraries.ChecksStrings := by
  intro policy max data i attr found isString
  change Tree.parse policy max data i = some attr at found
  unfold Tree.parse at found
  split at found
  · have kept := (List.mem_filter.mp (List.mem_of_getLast? found)).2
    rw [isString] at kept
    simp only [Tree.fits, Bool.and_eq_true, decide_eq_true_eq] at kept
    exact List.mem_of_getLast? kept.2
  · cases found

/-- A node entry with the given BSSID, or none. -/
def announced (bssid : Option CString) : Tree :=
  .nest 0 ([
    treeLibraries.blobPutString ApmsgNodeAttr.name.number hostapdDot,
    treeLibraries.blobPutString ApmsgNodeAttr.ssid.number ['a'.toUInt8],
    treeLibraries.blobPutInt32 ApmsgNodeAttr.freq.number 2412,
    treeLibraries.blobPutInt32 ApmsgNodeAttr.nAssoc.number 0,
    treeLibraries.blobNest ApmsgNodeAttr.stations.number []] ++
      (bssid.map (treeLibraries.blobPutString ApmsgNodeAttr.bssid.number)).toList)

/-- A datagram with that entry. -/
def announcement (bssid : Option CString) : Tree := treeLibraries.putUpdate 2 1 [announced bssid]

namespace Libraries

variable (lib : Libraries)

/-- The attribute holds an array that fits into it. -/
structure HoldsArray (cur : lib.Attr) : Prop where
  header : 4 ≤ (lib.blobData cur).length
  fits : lib.blobPadLen (lib.attrAt (lib.blobData cur)) ≤ (lib.blobData cur).length
  array : lib.blobmsgType (lib.attrAt (lib.blobData cur)) = .array

/-- The elements of the array in an attribute. -/
def elements (cur : lib.Attr) : List lib.Attr := lib.blobmsgForEachAttr (lib.attrAt (lib.blobData cur))

/-- An element that passes the check and is a string. -/
def ValidString (attr : lib.Attr) : Prop := lib.blobmsgCheckAttr attr = true ∧ lib.blobmsgType attr = .string

/-- An element that neither passes the check nor is a string. -/
def Invalid (attr : lib.Attr) : Prop := lib.blobmsgCheckAttr attr = false ∧ lib.blobmsgType attr ≠ .string

end Libraries

section NeighbourReports

variable {lib : Libraries} {cur data : lib.Attr}

theorem parseApmsgNode_rrmNr {msg : NodeAttrs lib} (parsed : lib.parseApmsgNode data = some msg) :
    msg.rrmNr = lib.parseRrmNr (lib.nodeAttr data .rrmNr) := by
  unfold Libraries.parseApmsgNode at parsed
  simp only [Option.bind_eq_bind, Option.bind_eq_some_iff, Option.pure_def, Option.some.injEq] at parsed
  obtain ⟨name, -, freq, -, nAssoc, -, stations, -, ssid, -, rfl⟩ := parsed
  rfl

/-- A report is kept if it is an array that fits and has no invalid element. -/
theorem parseRrmNr_isSome_iff :
    (lib.parseRrmNr (some cur)).isSome ↔ lib.HoldsArray cur ∧ ∀ attr ∈ lib.elements cur, ¬ lib.Invalid attr := by
  have passes : (lib.blobmsgForEachAttr (lib.attrAt (lib.blobData cur))).all
      (fun attr => lib.blobmsgCheckAttr attr || lib.blobmsgType attr = .string) = true ↔
        ∀ attr ∈ lib.elements cur, ¬ lib.Invalid attr := by
    simp only [List.all_eq_true, Libraries.elements, Libraries.Invalid, Bool.or_eq_true, decide_eq_true_eq, not_and,
      ne_eq, not_not]
    refine forall₂_congr fun attr _ => ?_
    cases lib.blobmsgCheckAttr attr <;> simp
  unfold Libraries.parseRrmNr
  simp only [Option.bind_eq_bind, Option.bind_some]
  constructor
  · intro kept
    split at kept
    · cases kept
    · rename_i fits
      split at kept
      · rename_i accepted
        simp only [Bool.or_eq_true, decide_eq_true_eq, not_or, Nat.not_lt] at fits
        rw [Bool.and_eq_true, decide_eq_true_eq, passes] at accepted
        exact ⟨⟨fits.1, fits.2, accepted.2⟩, accepted.1⟩
      · cases kept
  · rintro ⟨⟨header, fits, array⟩, valid⟩
    have room : ¬ (decide ((lib.blobData cur).length < 4) ||
        decide ((lib.blobData cur).length < lib.blobPadLen (lib.attrAt (lib.blobData cur)))) = true := by
      simp only [Bool.or_eq_true, decide_eq_true_eq, not_or, Nat.not_lt]
      exact ⟨header, fits⟩
    rw [if_neg room, if_pos]
    · rfl
    · rw [Bool.and_eq_true, decide_eq_true_eq, passes]
      exact ⟨valid, array⟩

/-- A neighbour report is kept only as an array of valid strings, exactly if among the elements
    of an array that fits one is invalid or all are valid strings. -/
theorem neighbor_report_checked_iff (lib : Libraries) (data : lib.Attr) :
    (∀ msg, lib.parseApmsgNode data = some msg → msg.rrmNr ≠ none → ∃ cur, lib.nodeAttr data .rrmNr = some cur ∧
        lib.HoldsArray cur ∧ ∀ attr ∈ lib.elements cur, lib.ValidString attr) ↔
      ∀ msg cur, lib.parseApmsgNode data = some msg → lib.nodeAttr data .rrmNr = some cur → lib.HoldsArray cur →
        (∃ attr ∈ lib.elements cur, lib.Invalid attr) ∨ ∀ attr ∈ lib.elements cur, lib.ValidString attr := by
  constructor
  · intro checked msg cur parsed found array
    by_cases invalid : ∃ attr ∈ lib.elements cur, lib.Invalid attr
    · exact .inl invalid
    · have kept : msg.rrmNr ≠ none := by
        rw [parseApmsgNode_rrmNr parsed, found, ← Option.isSome_iff_ne_none, parseRrmNr_isSome_iff]
        exact ⟨array, fun attr inside bad => invalid ⟨attr, inside, bad⟩⟩
      obtain ⟨cur', found', -, valid⟩ := checked msg parsed kept
      cases found.symm.trans found'
      exact .inr valid
  · intro mixed msg parsed kept
    rw [parseApmsgNode_rrmNr parsed] at kept
    cases found : lib.nodeAttr data .rrmNr with
    | none =>
      rw [found] at kept
      exact absurd rfl kept
    | some cur =>
      rw [found, ← Option.isSome_iff_ne_none, parseRrmNr_isSome_iff] at kept
      obtain ⟨array, passes⟩ := kept
      refine ⟨cur, rfl, array, ?_⟩
      rcases mixed msg cur parsed found array with ⟨attr, inside, bad⟩ | valid
      · exact absurd bad (passes attr inside)
      · exact valid

end NeighbourReports

/-- A neighbour report that has a number for an element. -/
def numbers : Tree :=
  treeLibraries.blobNest ApmsgNodeAttr.rrmNr.number
    [treeLibraries.blobmsgAddField .array [] (Tree.field .other [0, 0, 0, 7]).encode]

/-- A node entry with that report. -/
def numberReported : Tree :=
  .nest 0 [
    treeLibraries.blobPutString ApmsgNodeAttr.name.number hostapdDot,
    treeLibraries.blobPutString ApmsgNodeAttr.ssid.number ['a'.toUInt8],
    treeLibraries.blobPutInt32 ApmsgNodeAttr.freq.number 2412,
    treeLibraries.blobPutInt32 ApmsgNodeAttr.nAssoc.number 0,
    treeLibraries.blobNest ApmsgNodeAttr.stations.number [],
    numbers]

/-- The number is taken for a neighbour report. -/
theorem number_kept_as_report : ∃ msg, treeLibraries.parseApmsgNode numberReported = some msg ∧ msg.rrmNr ≠ none ∧
    ∃ cur, treeLibraries.nodeAttr numberReported .rrmNr = some cur ∧ ∃ attr ∈ treeLibraries.elements cur,
      treeLibraries.blobmsgType attr ≠ .string := by
  have evaluates : (treeLibraries.parseApmsgNode numberReported).any (fun msg => msg.rrmNr.isSome) = true := by
    decide +kernel
  obtain ⟨msg, parsed, kept⟩ := (Option.any_eq_true _ _).mp evaluates
  have found : treeLibraries.nodeAttr numberReported .rrmNr = some numbers := rfl
  have elements : treeLibraries.elements numbers = [.field .other [0, 0, 0, 7]] := rfl
  refine ⟨msg, parsed, Option.isSome_iff_ne_none.mp kept, numbers, found, .field .other [0, 0, 0, 7], ?_, by decide⟩
  rw [elements]
  exact List.mem_singleton.mpr rfl

end Usteer
