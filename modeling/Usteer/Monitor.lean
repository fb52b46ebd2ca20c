import Usteer.Codec
import Usteer.Network

/-!
`usteer-monitor` (`monitor.c`), which prints the messages of daemons from captured frames. It
shares the parser with the daemon, but looks for an IPv4 header of its own in the frame and
follows whatever length that claims.

`monitor_reads_inside_iff` says which captures it reads within their bounds, and
`monitor_shows_sent` that it prints the nodes and stations of a sender as they are. The
sockets of the daemon are for IPv6, and of such a frame nothing is printed
(`recvPacket_ipv6`).
-/
namespace Usteer
open SearchTree Timeout Daemon

/-- The line of a station. -/
structure StaLine where
  addr : MacAddr
  signal : Int32
  connected : Bool
  timeout : Int32

/-- The lines of a node: its fields, the strings of its neighbour report, the data of its
    script and its stations. -/
structure NodeLines where
  name : CString
  freq : Int32
  nAssoc : Int32
  noise : Int32
  load : Int32
  maxAssoc : Int32
  rrm : Option (List CString)
  scriptData : Option Blob
  stations : List StaLine

/-- What follows the address and the length of a packet. -/
inductive Printed where
  | invalidData
  | missingFields
  | packet (id seq : UInt32) (nodes : List NodeLines)

/-- What is printed about a packet. -/
structure PacketLines where
  addr : List UInt8
  len : Nat
  printed : Printed

namespace Libraries

variable (lib : Libraries)

/-- `decode_sta` -/
def decodeSta (data : lib.Attr) : Option StaLine :=
  (lib.parseApmsgSta data).map (fun msg => ⟨msg.addr, msg.signal, msg.connected, msg.timeout⟩)

/-- The strings that `decode_node` prints of a neighbour report that the parser kept. -/
def decodeReport (rrmNr : Option Blob) (cur : Option lib.Attr) : Except Fault (Option (List CString)) :=
  match rrmNr, cur with
  | some _, some cur =>
    some <$> ((lib.blobmsgForEachAttr (lib.attrAt (lib.blobData cur))).filter
      (fun cur => lib.blobmsgCheckAttr cur && lib.blobmsgType cur = .string)).mapM (fun cur => cString (lib.blobmsgData cur))
  | _, _ => .ok none

/-- `decode_node` -/
def decodeNode (data : lib.Attr) : Except Fault (Option NodeLines) :=
  match lib.parseApmsgNode data with
  | none => return none
  | some msg => do
    let name ← cString (lib.blobData msg.name)
    let rrm ← lib.decodeReport msg.rrmNr (lib.nodeAttr data .rrmNr)
    return some {
      name := name
      freq := msg.freq
      nAssoc := msg.nAssoc
      noise := msg.noise
      load := msg.load
      maxAssoc := msg.maxAssoc
      rrm := rrm
      scriptData := msg.scriptData
      stations := (lib.blobForEachAttr msg.stations).filterMap lib.decodeSta }

/-- `decode_packet` -/
def decodePacket (data : lib.Attr) : Except Fault Printed :=
  match lib.parseApmsg data with
  | none => return .missingFields
  | some (id, seq, nodes) => do
    let lines ← (lib.blobForEachAttr nodes).mapM lib.decodeNode
    return .packet id seq lines.reduceOption

/-- Bytes of the capture. -/
def bytesAt (bytes : List UInt8) (i n : Nat) : Except Fault (List UInt8) :=
  if i + n ≤ bytes.length then .ok ((bytes.drop i).take n) else .error .outOfBounds

/-- `APMGR_PORT` as it stands in a header. -/
def portBytes : List UInt8 := bytesOf 2 16720

/-- `recv_packet` on the captured bytes, with the number of those that belong to the link. -/
def recvPacket (pktOffset : Nat) (frame : List UInt8) : Except Fault (Option PacketLines) := do
  let packet := frame.drop pktOffset
  let hdrlen := numberOf (← bytesAt packet 0 1) % 16 * 4
  if hdrlen < 20 ∨ packet.length ≤ hdrlen then
    return none
  let addr ← bytesAt packet 12 4
  let udp := packet.drop hdrlen
  if udp.length ≤ 8 then
    return none
  if (← bytesAt udp 2 2) ≠ portBytes then
    return none
  let data := udp.drop 8
  -- `blob_pad_len` reads the header of the attribute, whether there is room for one or not.
  let _ ← bytesAt data 0 4
  if data.length ≠ lib.blobPadLen (lib.attrAt data) then
    return some ⟨addr, data.length, .invalidData⟩
  return some ⟨addr, data.length, ← lib.decodePacket (lib.attrAt data)⟩

end Libraries

/-! ### Frames -/

/-- In the frame a header as of IPv4 and one of UDP with the port of the daemons follow the
    bytes of the link, and something follows them. -/
def Carries (pktOffset : Nat) (frame addr payload : List UInt8) : Prop :=
  ∃ link header udp, frame = link ++ (header ++ (udp ++ payload)) ∧ link.length = pktOffset ∧
    20 ≤ header.length ∧ header.length = numberOf (header.take 1) % 16 * 4 ∧ addr = (header.drop 12).take 4 ∧
    udp.length = 8 ∧ (udp.drop 2).take 2 = Libraries.portBytes ∧ payload ≠ []

section Frames

variable {lib : Libraries} {pktOffset : Nat} {frame addr payload bytes rest : List UInt8} {i n : Nat}

theorem bytesAt_append (inside : i + n ≤ bytes.length) :
    Libraries.bytesAt (bytes ++ rest) i n = .ok ((bytes.drop i).take n) := by
  unfold Libraries.bytesAt
  rw [if_pos (by rw [List.length_append]; omega), List.drop_append_of_le_length (by omega),
    List.take_append_of_le_length (by rw [List.length_drop]; omega)]

theorem bytesAt_ok (inside : i + n ≤ bytes.length) : Libraries.bytesAt bytes i n = .ok ((bytes.drop i).take n) :=
  if_pos inside

theorem bytesAt_error (beyond : bytes.length < i + n) : Libraries.bytesAt bytes i n = .error .outOfBounds :=
  if_neg (not_le.mpr beyond)

/-- The payload is looked at as a message. -/
theorem recvPacket_carries (carries : Carries pktOffset frame addr payload) :
    lib.recvPacket pktOffset frame = (do
      let _ ← Libraries.bytesAt payload 0 4
      if payload.length ≠ lib.blobPadLen (lib.attrAt payload) then
        return some ⟨addr, payload.length, .invalidData⟩
      return some ⟨addr, payload.length, ← lib.decodePacket (lib.attrAt payload)⟩) := by
  obtain ⟨link, header, udp, rfl, rfl, long, claimed, rfl, size, port, filled⟩ := carries
  have room : 0 < payload.length := List.length_pos_iff.mpr filled
  unfold Libraries.recvPacket
  simp only [List.drop_left]
  rw [bytesAt_append (by omega), ok_bind, List.drop_zero, ← claimed, if_neg (by simp only [List.length_append]; omega),
    bytesAt_append (by omega), ok_bind, List.drop_left, if_neg (by rw [List.length_append]; omega),
    bytesAt_append (by omega), ok_bind, port, if_neg (not_not.mpr rfl), ← size, List.drop_left]

/-- Of all other frames nothing is printed. -/
theorem recvPacket_other (captured : pktOffset < frame.length) (other : ∀ addr payload, ¬ Carries pktOffset frame addr payload) :
    lib.recvPacket pktOffset frame = .ok none := by
  have split : frame = frame.take pktOffset ++ frame.drop pktOffset := (List.take_append_drop ..).symm
  have link : (frame.take pktOffset).length = pktOffset := List.length_take_of_le captured.le
  have size : (frame.drop pktOffset).length = frame.length - pktOffset := List.length_drop
  unfold Libraries.recvPacket
  generalize frame.drop pktOffset = packet at split size
  dsimp only
  rw [bytesAt_ok (by omega), ok_bind, List.drop_zero]
  generalize length : numberOf (packet.take 1) % 16 * 4 = hdrlen
  by_cases header : hdrlen < 20 ∨ packet.length ≤ hdrlen
  · rw [if_pos header]
    rfl
  rw [if_neg header, bytesAt_ok (by omega), ok_bind]
  by_cases short : (packet.drop hdrlen).length ≤ 8
  · rw [if_pos short]
    rfl
  rw [if_neg short, bytesAt_ok (by omega), ok_bind]
  by_cases port : ((packet.drop hdrlen).drop 2).take 2 = Libraries.portBytes
  · have whole : (packet.take hdrlen).length = hdrlen := List.length_take_of_le (by omega)
    refine absurd ⟨frame.take pktOffset, packet.take hdrlen, (packet.drop hdrlen).take 8, ?_, link, by omega, ?_, rfl,
      List.length_take_of_le (by omega), ?_, ?_⟩ (other _ ((packet.drop hdrlen).drop 8))
    · rw [List.take_append_drop, List.take_append_drop, ← split]
    · rw [whole, List.take_take, min_eq_left (by omega), length]
    · rw [← port, List.drop_take, List.take_take, min_eq_left (by decide)]
    · rw [← List.length_pos_iff, List.length_drop]
      omega
  · rw [if_pos port]
    rfl

theorem recvPacket_short (short : frame.length ≤ pktOffset) : lib.recvPacket pktOffset frame = .error .outOfBounds := by
  unfold Libraries.recvPacket
  rw [List.drop_eq_nil_of_le short]
  rfl

/-- A header whose first byte claims less than twenty bytes is passed over; so is one of IPv6
    unless its traffic class is 80 or more. -/
theorem recvPacket_ipv6 {b : UInt8} (first : frame[pktOffset]? = some b) (version : b.toNat % 16 < 5) :
    lib.recvPacket pktOffset frame = .ok none := by
  refine recvPacket_other (List.getElem?_eq_some_iff.mp first).1 ?_
  rintro addr payload ⟨link, header, udp, rfl, rfl, long, claimed, -⟩
  obtain ⟨c, rest, rfl⟩ := List.exists_cons_of_length_pos (show 0 < header.length by omega)
  rw [List.getElem?_append_right le_rfl, Nat.sub_self] at first
  cases first
  simp only [List.take_succ_cons, List.take_zero, numberOf, List.foldl_cons, List.foldl_nil] at claimed
  omega

end Frames

/-! ### What is printed of a message -/

namespace Libraries

variable (lib : Libraries)

/-- `blobmsg_check_attr` asks of a string that it ends. -/
def ChecksFields : Prop :=
  ∀ attr, lib.blobmsgCheckAttr attr = true → lib.blobmsgType attr = .string → 0 ∈ lib.blobmsgData attr

/-- The strings of a neighbour report. -/
def reportTexts (rrmNr : lib.Attr) : List CString :=
  ((lib.blobmsgForEachAttr rrmNr).filter (fun cur => lib.blobmsgCheckAttr cur && lib.blobmsgType cur = .string)).map
    (fun cur => (lib.blobmsgData cur).takeWhile (· ≠ 0))

/-- The bytes are those of the attribute. -/
structure WrittenIn (bytes : List UInt8) (attr : lib.Attr) : Prop where
  header : 4 ≤ bytes.length
  whole : lib.blobPadLen attr = bytes.length
  read : lib.attrAt bytes = attr

end Libraries

section Decoding

variable {lib : Libraries} {pktOffset : Nat} {frame addr payload : List UInt8} {id seq : UInt32} {data rrmNr : lib.Attr}

theorem mapM_ok {ε γ α : Type*} {f : γ → Except ε α} {g : γ → α} (items : List γ) (call : ∀ x ∈ items, f x = .ok (g x)) :
    items.mapM f = .ok (items.map g) := by
  induction items with
  | nil => rfl
  | cons x rest ih =>
    rw [List.mapM_cons, call x List.mem_cons_self, ok_bind, ih fun y inside => call y (List.mem_cons_of_mem _ inside)]
    rfl

theorem decodeReport_ok (fields : lib.ChecksFields) (rrmNr : Option Blob) (cur : Option lib.Attr) :
    lib.decodeReport rrmNr cur = .ok (rrmNr.bind fun _ => cur.map fun cur => lib.reportTexts (lib.attrAt (lib.blobData cur))) := by
  cases rrmNr with
  | none => rfl
  | some blob =>
    cases cur with
    | none => rfl
    | some cur =>
      unfold Libraries.decodeReport
      dsimp only
      rw [mapM_ok _ fun field inside => ?_]
      · rfl
      · obtain ⟨-, checked⟩ := List.mem_filter.mp inside
        rw [Bool.and_eq_true, decide_eq_true_eq] at checked
        exact if_pos (fields field checked.1 checked.2)

/-- The lines of an entry that the parser takes. -/
theorem decodeNode_parsed (checks : lib.ChecksStrings) (fields : lib.ChecksFields) {msg : NodeAttrs lib}
    (parsed : lib.parseApmsgNode data = some msg) : lib.decodeNode data = .ok (some {
      name := lib.text msg.name
      freq := msg.freq
      nAssoc := msg.nAssoc
      noise := msg.noise
      load := msg.load
      maxAssoc := msg.maxAssoc
      rrm := msg.rrmNr.bind fun _ => (lib.nodeAttr data .rrmNr).map fun cur => lib.reportTexts (lib.attrAt (lib.blobData cur))
      scriptData := msg.scriptData
      stations := (lib.blobForEachAttr msg.stations).filterMap lib.decodeSta }) := by
  unfold Libraries.decodeNode
  rw [parsed]
  dsimp only
  rw [cString_ok (checks _ _ _ _ _ (parseApmsgNode_some parsed).1 rfl), ok_bind, decodeReport_ok fields]
  rfl

theorem decodeNode_ok (checks : lib.ChecksStrings) (fields : lib.ChecksFields) (data : lib.Attr) :
    ∃ lines, lib.decodeNode data = .ok lines := by
  cases parsed : lib.parseApmsgNode data with
  | none =>
    unfold Libraries.decodeNode
    rw [parsed]
    exact ⟨none, rfl⟩
  | some msg => exact ⟨_, decodeNode_parsed checks fields parsed⟩

theorem decodePacket_ok (checks : lib.ChecksStrings) (fields : lib.ChecksFields) (data : lib.Attr) :
    ∃ printed, lib.decodePacket data = .ok printed := by
  unfold Libraries.decodePacket
  cases lib.parseApmsg data with
  | none => exact ⟨.missingFields, rfl⟩
  | some msg =>
    choose lines decodes using decodeNode_ok checks fields
    dsimp only
    rw [mapM_ok _ fun cur _ => decodes cur]
    exact ⟨_, rfl⟩

theorem recvPacket_cut (carries : Carries pktOffset frame addr payload) (cut : payload.length < 4) :
    lib.recvPacket pktOffset frame = .error .outOfBounds := by
  rw [recvPacket_carries carries, bytesAt_error (by omega)]
  rfl

theorem recvPacket_printed (checks : lib.ChecksStrings) (fields : lib.ChecksFields)
    (carries : Carries pktOffset frame addr payload) (header : 4 ≤ payload.length) :
    ∃ lines, lib.recvPacket pktOffset frame = .ok (some lines) := by
  rw [recvPacket_carries carries, bytesAt_ok (by omega), ok_bind]
  split
  · exact ⟨_, rfl⟩
  · obtain ⟨printed, run⟩ := decodePacket_ok checks fields (lib.attrAt payload)
    rw [run]
    exact ⟨_, rfl⟩

/-- The monitor stays within a capture exactly if it holds more than the link's bytes and,
    where it carries something to the port, the header of a message. Then it prints something
    about the frames that carry something, and about no others. -/
theorem monitor_reads_inside_iff (lib : Libraries) (checks : lib.ChecksStrings) (fields : lib.ChecksFields) (pktOffset : Nat)
    (frame : List UInt8) :
    ((∃ lines, lib.recvPacket pktOffset frame = .ok lines) ↔
      pktOffset < frame.length ∧ ∀ addr payload, Carries pktOffset frame addr payload → 4 ≤ payload.length) ∧
    ∀ lines, lib.recvPacket pktOffset frame = .ok lines →
      (lines.isSome ↔ ∃ addr payload, Carries pktOffset frame addr payload) := by
  have captured : ∀ {lines}, lib.recvPacket pktOffset frame = .ok lines → pktOffset < frame.length := by
    intro lines run
    refine Nat.lt_of_not_le fun short => ?_
    rw [recvPacket_short short] at run
    cases run
  have whole : ∀ {lines addr payload}, lib.recvPacket pktOffset frame = .ok lines → Carries pktOffset frame addr payload →
      4 ≤ payload.length := by
    intro lines addr payload run carries
    refine Nat.le_of_not_lt fun cut => ?_
    rw [recvPacket_cut carries cut] at run
    cases run
  by_cases carried : ∃ addr payload, Carries pktOffset frame addr payload
  · obtain ⟨addr, payload, carries⟩ := carried
    refine ⟨⟨fun ⟨lines, run⟩ => ⟨captured run, fun _ _ => whole run⟩, fun ⟨_, complete⟩ => ?_⟩, fun lines run => ?_⟩
    · obtain ⟨lines, run⟩ := recvPacket_printed checks fields carries (complete addr payload carries)
      exact ⟨some lines, run⟩
    · obtain ⟨lines', printed⟩ := recvPacket_printed checks fields carries (whole run carries)
      cases run.symm.trans printed
      exact iff_of_true rfl ⟨addr, payload, carries⟩
  · have other : ∀ addr payload, ¬ Carries pktOffset frame addr payload := fun addr payload carries =>
      carried ⟨addr, payload, carries⟩
    refine ⟨⟨fun ⟨lines, run⟩ => ⟨captured run, fun _ _ => whole run⟩, fun ⟨long, _⟩ => ⟨none, recvPacket_other long other⟩⟩,
      fun lines run => ?_⟩
    cases run.symm.trans (recvPacket_other (captured run) other)
    exact iff_of_false Bool.false_ne_true carried

/-- A payload in a frame of Ethernet. -/
def ethernetFrame (payload : List UInt8) : List UInt8 :=
  List.replicate 14 0 ++ ((69 :: List.replicate 19 0) ++ (([0, 0] ++ Libraries.portBytes ++ [0, 0, 0, 0]) ++ payload))

theorem carries_ethernetFrame (filled : payload ≠ []) : Carries 14 (ethernetFrame payload) [0, 0, 0, 0] payload :=
  ⟨_, _, _, rfl, rfl, by decide, by decide, by decide, by decide, by decide, filled⟩

theorem treeLibraries_checksFields : treeLibraries.ChecksFields := by
  intro attr checked isString
  change attr.check = true at checked
  change attr.type = .string at isString
  cases attr with
  | bytes id data => cases checked
  | nest id attrs => cases checked
  | field type data =>
    cases (show type = .string from isString)
    exact List.mem_of_getLast? (of_decide_eq_true checked)

/-- A single byte where a message should be is no header of one. -/
theorem monitor_reads_beyond_byte : ¬ ∃ lines, treeLibraries.recvPacket 14 (ethernetFrame [0]) = .ok lines := by
  rw [(monitor_reads_inside_iff treeLibraries treeLibraries_checksStrings treeLibraries_checksFields 14 _).1]
  rintro ⟨-, complete⟩
  exact absurd (complete _ _ (carries_ethernetFrame (List.cons_ne_nil 0 []))) (by decide)

/-- A message in a frame is printed as it is decoded. -/
theorem recvPacket_message {printed : Printed} (carries : Carries pktOffset frame addr payload)
    (written : lib.WrittenIn payload data) (decodes : lib.decodePacket data = .ok printed) :
    lib.recvPacket pktOffset frame = .ok (some ⟨addr, payload.length, printed⟩) := by
  obtain ⟨header, whole, rfl⟩ := written
  rw [recvPacket_carries carries, bytesAt_ok (by omega), ok_bind, if_neg (not_not.mpr whole.symm), decodes]
  rfl

/-- The lines of a node and of its stations. -/
def nodeLines (lib : Libraries) (node : UsteerNode) (stations : List ApmsgSta) : NodeLines where
  name := node.name
  freq := node.freq
  nAssoc := node.nAssoc
  noise := node.noise
  load := node.load
  maxAssoc := node.maxAssoc
  rrm := node.rrmNr.map (fun blob => lib.reportTexts (lib.blobmsgAddField .array [] blob))
  scriptData := node.scriptData
  stations := stations.map (fun sta => ⟨sta.addr, sta.signal, sta.connected, sta.timeout⟩)

theorem decodeNode_putNode (inverse : lib.Inverse) (fields : lib.ChecksFields) {node : UsteerNode}
    (sendable : Sendable lib node) (stations : List ApmsgSta) :
    lib.decodeNode (lib.putNode node stations) = .ok (some (nodeLines lib node stations)) := by
  obtain ⟨-, name⟩ := text_putString inverse sendable.name (k := ApmsgNodeAttr.name.number)
  have report : lib.nodeAttr (lib.putNode node stations) .rrmNr = node.rrmNr.map (fun rrmNr =>
      lib.blobNest ApmsgNodeAttr.rrmNr.number [lib.blobmsgAddField .array [] rrmNr]) :=
    nodeAttr_putNode inverse node stations .rrmNr
  have shown : (stations.map lib.putStaInfo).filterMap lib.decodeSta =
      stations.map (fun sta => (⟨sta.addr, sta.signal, sta.connected, sta.timeout⟩ : StaLine)) := by
    rw [List.filterMap_map, ← List.filterMap_eq_map]
    refine List.filterMap_congr fun sta _ => ?_
    simp [Libraries.decodeSta, parseApmsgSta_putStaInfo inverse]
  rw [decodeNode_parsed inverse.checks fields (parseApmsgNode_putNode inverse sendable stations), report]
  dsimp only [writtenNode, nodeLines]
  rw [inverse.attrs_nest, shown, name]
  cases node.rrmNr with
  | none => rfl
  | some blob =>
    dsimp only [Option.map_some, Option.bind_some]
    rw [inverse.field_at]

theorem decodePacket_putUpdate (inverse : lib.Inverse) (fields : lib.ChecksFields) {nodes : List (UsteerNode × List ApmsgSta)}
    (sendable : ∀ p ∈ nodes, Sendable lib p.1) :
    lib.decodePacket (lib.putUpdate id seq (nodes.map fun p => lib.putNode p.1 p.2)) =
      .ok (.packet id seq (nodes.map fun p => nodeLines lib p.1 p.2)) := by
  have lines : (nodes.map fun p => lib.putNode p.1 p.2).mapM lib.decodeNode =
      .ok ((nodes.map fun p => nodeLines lib p.1 p.2).map some) := by
    rw [List.mapM_map, List.map_map]
    exact mapM_ok _ fun p inside => decodeNode_putNode inverse fields (sendable p inside) p.2
  unfold Libraries.decodePacket
  rw [parseApmsg_putUpdate inverse]
  dsimp only
  rw [inverse.attrs_nest, lines, ok_bind, List.reduceOption, List.filterMap_map, Function.id_comp, List.filterMap_some]
  rfl

end Decoding

/-! ### A sender under observation -/

/-- What a node is written from, without stations if these are kept back. -/
def WrittenFrom (cfg : Config) (s : Daemon) (target : NodeId × Option SiId) (p : UsteerNode × List ApmsgSta) : Prop :=
  s.nodes.get? target.1 = some p.1 ∧ List.Forall₂ (fun si msg => ∃ a info, EntryOf s a target.1 si info ∧
    msg = sentEntry cfg s a info) (if cfg.remoteDisabled then [] else sentEntries p.1 target.2) p.2

theorem writes_node {lib : Libraries} {cfg : Config} {s : Daemon} (sound : Sound none s) {n : NodeId} {node : UsteerNode}
    (live : s.nodes.get? n = some node) {sta : Option SiId} (own : ∀ si ∈ sta, si ∈ node.staInfo) :
    Post (fun _ => False) (lib.usteerSendNode cfg s n sta) (fun attr =>
      ∃ p, attr = lib.putNode p.1 p.2 ∧ WrittenFrom cfg s (n, sta) p) := by
  cases disabled : cfg.remoteDisabled with
  | false =>
    refine (sends_node sound disabled live own).mono ?_
    rintro attr ⟨p, isNode, found, entries⟩
    exact ⟨p, isNode, found, by rwa [if_neg (by simp [disabled])]⟩
  | true =>
    unfold Libraries.usteerSendNode
    rw [node_ok live, ok_bind, disabled]
    exact ⟨(node, []), rfl, live, by simp [disabled]⟩

/-- In a frame whose headers are as they should be, an update is printed as the sender's
    nodes and stations are. -/
theorem monitor_shows_sent (lib : Libraries) (inverse : lib.Inverse) (fields : lib.ChecksFields) {env : Platform}
    {cfg : Config} {s : Daemon} (sends : Reachable env cfg s) {targets : List (NodeId × Option SiId)}
    (locals : ∀ t ∈ targets, t.1 ∈ s.localNodes)
    (nodes : ∀ t ∈ targets, ∀ node, s.nodes.get? t.1 = some node → (∀ si ∈ t.2, si ∈ node.staInfo) ∧ Sendable lib node)
    (seq : UInt32) :
    ∃ attrs records, targets.mapM (fun t => lib.usteerSendNode cfg s t.1 t.2) = .ok attrs ∧
      List.Forall₂ (WrittenFrom cfg s) targets records ∧
      ∀ pktOffset frame addr payload, Carries pktOffset frame addr payload →
        lib.WrittenIn payload (lib.putUpdate s.localId seq attrs) →
        lib.recvPacket pktOffset frame = .ok (some ⟨addr, payload.length,
          .packet s.localId seq (records.map fun p => nodeLines lib p.1 p.2)⟩) := by
  have sound := reachable_sound sends
  have written : Post (fun _ => False) (targets.mapM (fun t => lib.usteerSendNode cfg s t.1 t.2)) (fun attrs =>
      List.Forall₂ (fun t attr => ∃ p, attr = lib.putNode p.1 p.2 ∧ WrittenFrom cfg s t p) targets attrs) := by
    refine post_mapM _ fun t inside => ?_
    obtain ⟨node, live, _⟩ := node_of_locals sound.registered (locals t inside)
    exact writes_node sound live (nodes t inside node live).1
  obtain ⟨_, sent, found⟩ := written.returns
  obtain ⟨records, rfl, related⟩ := forall₂_map found
  refine ⟨_, records, sent, related, fun pktOffset frame addr payload carries whole => ?_⟩
  refine recvPacket_message carries whole (decodePacket_putUpdate inverse fields fun p inside => ?_)
  obtain ⟨t, listed, live, -⟩ := forall₂_right related p inside
  exact (nodes t listed p.1 live).2

/-- The trees, with a message that is found again in its bytes. -/
def reading (message : List Tree) : Libraries :=
  { treeLibraries with
    attrAt := fun bytes => if bytes = (Tree.nest 0 message).encode then .nest 0 message else Tree.fieldAt bytes }

theorem reading_inverse (message : List Tree) : (reading message).Inverse where
  checks := treeLibraries_checksStrings
  id_put := treeLibraries_inverse.id_put
  id_int8 := treeLibraries_inverse.id_int8
  id_int32 := treeLibraries_inverse.id_int32
  id_string := treeLibraries_inverse.id_string
  id_nest := treeLibraries_inverse.id_nest
  data_put := treeLibraries_inverse.data_put
  data_string := treeLibraries_inverse.data_string
  get_int8 := treeLibraries_inverse.get_int8
  get_int32 := treeLibraries_inverse.get_int32
  attrs_nest := treeLibraries_inverse.attrs_nest
  parse_nest := treeLibraries_inverse.parse_nest
  field_at k type name data := by
    refine (if_neg fun same => ?_).trans (treeLibraries_inverse.field_at k type name data)
    have first := congrArg List.head? same
    cases type <;> cases first
  field_len := treeLibraries_inverse.field_len
  field_type := treeLibraries_inverse.field_type
  field_data := treeLibraries_inverse.field_data
  aton_ntoa := treeLibraries_inverse.aton_ntoa
  ntoa_text := treeLibraries_inverse.ntoa_text

theorem writtenIn_reading (message : List Tree) : (reading message).WrittenIn (Tree.nest 0 message).encode (Tree.nest 0 message) where
  header := by
    simp [Tree.encode, Tree.framed, bytesOf]
  whole := rfl
  read := if_pos rfl

/-- The update after a client has associated. -/
theorem monitor_shows_sent_client : ∃ s message record, plainRun usteerInitDefaults associates = some s ∧
    WrittenFrom usteerInitDefaults s (0, none) record ∧
    (reading message).recvPacket 14 (ethernetFrame (Tree.nest 0 message).encode) = .ok (some ⟨[0, 0, 0, 0],
      (Tree.nest 0 message).encode.length, .packet 1 1 [nodeLines (reading message) record.1 record.2]⟩) := by
  have evaluates : ((plainRun usteerInitDefaults associates).any fun s => decide (s.localId = 1 ∧ s.localNodes = [0]) &&
      (s.nodes.get? 0).any fun node => decide (0 ∉ node.name ∧ node.ssid = [] ∧ node.rrmNr = none)) = true := by decide +kernel
  obtain ⟨s, run, evaluates⟩ := (Option.any_eq_true _ _).mp evaluates
  simp only [Bool.and_eq_true, decide_eq_true_eq, Option.any_eq_true] at evaluates
  obtain ⟨⟨localId, locals⟩, node, live, name, ssid, rrmNr⟩ := evaluates
  have formed : ∀ (lib : Libraries), ∀ t ∈ ([(0, none)] : List (NodeId × Option SiId)), ∀ node, s.nodes.get? t.1 = some node →
      (∀ si ∈ t.2, si ∈ node.staInfo) ∧ Sendable lib node := by
    intro lib t inside node' live'
    obtain rfl := List.mem_singleton.mp inside
    cases live.symm.trans live'
    exact ⟨fun _ absent => (nomatch absent), name, by simp [ssid], by simp [rrmNr]⟩
  have inside : ∀ t ∈ ([(0, none)] : List (NodeId × Option SiId)), t.1 ∈ s.localNodes := by simp [locals]
  have reach := reachable_plainRun run
  obtain ⟨attrs, -, sent, -⟩ := monitor_shows_sent treeLibraries treeLibraries_inverse treeLibraries_checksFields reach inside
    (formed treeLibraries) 1
  let message : List Tree := [treeLibraries.blobPutInt32 ApmsgAttr.id.number 1, treeLibraries.blobPutInt32 ApmsgAttr.seq.number 1,
    .nest ApmsgAttr.nodes.number attrs]
  obtain ⟨attrs', records, sent', related, shows'⟩ := monitor_shows_sent (reading message) (reading_inverse message)
    treeLibraries_checksFields reach inside (formed (reading message)) 1
  have same : attrs' = attrs := Except.ok.inj (sent'.symm.trans sent)
  cases related with
  | cons first none =>
    cases none
    rename_i record
    refine ⟨s, message, record, run, first, ?_⟩
    rw [localId, same] at shows'
    exact shows' 14 _ _ _ (carries_ethernetFrame (List.cons_ne_nil _ _)) (writtenIn_reading message)

/-! ### A receiver under observation -/

/-- The record that the daemon makes of an entry that the parser takes. -/
def Libraries.record (lib : Libraries) (data : lib.Attr) : Option ApmsgNode :=
  (lib.parseApmsgNode data).map fun msg => msg.node (msg.bssid.bind fun bssid => lib.etherAton (lib.text bssid))

/-- The lines show the data of a node; of a neighbour report they show that there is one. -/
structure NodeLines.Shows (lines : NodeLines) (data : NodeData) : Prop where
  freq : lines.freq = data.freq
  noise : lines.noise = data.noise
  nAssoc : lines.nAssoc = data.nAssoc
  maxAssoc : lines.maxAssoc = data.maxAssoc
  load : lines.load = data.load
  rrm : lines.rrm.isSome = data.rrmNr.isSome
  scriptData : lines.scriptData = data.scriptData

/-- The fact can be read off what was printed. -/
def Fact.ShownIn (printed : Printed) : Fact → Prop
  | .node id name data => ∃ seq nodes, printed = .packet id seq nodes ∧ ∃ lines ∈ nodes, lines.name = name ∧ lines.Shows data
  | .station id name addr signal connected => ∃ seq nodes, printed = .packet id seq nodes ∧ ∃ lines ∈ nodes, lines.name = name ∧
      ∃ sta ∈ lines.stations, sta.addr = addr ∧ sta.signal = signal ∧ sta.connected = connected

section Observing

variable {lib : Libraries} {env : Platform} {cfg : Config} {d d' : Daemon} {text : CString} {id : UInt32}

/-- Entries that the daemon survives are taken as the records made of them. -/
theorem addNode_record (checks : lib.ChecksStrings) {cur : lib.Attr}
    (run : lib.interfaceAddNode env cfg d text id.toUInt64 cur = .ok d') :
    (lib.record cur).elim (.ok d) (d.interfaceAddNode env cfg text id.toUInt64) = .ok d' := by
  unfold Libraries.record
  cases parsed : lib.parseApmsgNode cur with
  | none =>
    unfold Libraries.interfaceAddNode at run
    rw [parsed] at run
    exact run
  | some msg =>
    dsimp only [Option.map_some, Option.elim_some]
    by_cases ends : 0 ∈ lib.blobData msg.ssid
    · cases valid : d.usteerIsValidSsid (lib.text msg.ssid) with
      | false =>
        rw [addNode_unwanted parsed ends valid] at run
        rw [← run]
        exact if_pos (by rw [NodeAttrs.node, valid]; rfl)
      | true =>
        rw [addNode_wanted checks parsed ends valid] at run
        obtain ⟨bssid, has, run⟩ := bind_ok run
        obtain ⟨read, isText, run⟩ := bind_ok run
        have terminated : 0 ∈ lib.blobData bssid := by
          by_contra endless
          rw [cString_error endless] at isText
          cases isText
        rw [cString_ok terminated] at isText
        cases isText
        rw [notNull_ok has]
        exact run
    · unfold Libraries.interfaceAddNode at run
      rw [parsed] at run
      dsimp only at run
      rw [cString_error ends] at run
      cases run

theorem addNodes_record (checks : lib.ChecksStrings) (entries : List lib.Attr) : ∀ {d : Daemon},
    entries.foldlM (fun d cur => lib.interfaceAddNode env cfg d text id.toUInt64 cur) d = .ok d' →
      (entries.filterMap lib.record).foldlM (fun d node => d.interfaceAddNode env cfg text id.toUInt64 node) d = .ok d' := by
  induction entries with
  | nil => exact fun run => run
  | cons cur rest ih =>
    intro d run
    rw [List.foldlM_cons] at run
    obtain ⟨d1, first, run⟩ := bind_ok run
    have first := addNode_record checks first
    rw [List.filterMap_cons]
    cases made : lib.record cur with
    | none =>
      rw [made] at first
      cases first
      exact ih run
    | some node =>
      rw [made] at first
      dsimp only
      rw [List.foldlM_cons, show d.interfaceAddNode env cfg text id.toUInt64 node = .ok d1 from first, ok_bind]
      exact ih run

/-- A datagram that the daemon survives is taken as a record: the one made of it, or one that
    the daemon passes over. -/
theorem recvMsg_record (checks : lib.ChecksStrings) {data : lib.Attr} {len : Nat}
    (run : lib.interfaceRecvMsg env cfg d text data len = .ok d') :
    ∃ msg : Apmsg, d.interfaceRecvMsg env cfg text msg = .ok d' ∧ (msg.id ≠ d.localId → ∃ nodes,
      lib.parseApmsg data = some (msg.id, msg.seq, nodes) ∧ msg.nodes = (lib.blobForEachAttr nodes).filterMap lib.record) := by
  by_cases listed : lib.blobPadLen data = len ∧ ∃ id entries, lib.Lists d data id entries
  · obtain ⟨passes, id, entries, lists⟩ := listed
    rw [recvMsg_eq passes lists] at run
    obtain ⟨seq, nodes, parsed, other, rfl⟩ := lists
    refine ⟨⟨id, seq, (lib.blobForEachAttr nodes).filterMap lib.record⟩, ?_, fun _ => ⟨nodes, parsed, rfl⟩⟩
    unfold interfaceRecvMsg
    rw [if_neg other]
    exact addNodes_record checks _ run
  · have ignored : lib.interfaceRecvMsg env cfg d text data len = .ok d := by
      by_cases passes : lib.blobPadLen data = len
      · exact recvMsg_unlisted fun id entries lists => listed ⟨passes, id, entries, lists⟩
      · exact if_pos passes
    rw [ignored] at run
    cases run
    exact ⟨⟨d.localId, 0, []⟩, if_pos rfl, fun other => absurd rfl other⟩

/-- The lines of an entry show the record that the daemon makes of it. -/
theorem decodeNode_record (checks : lib.ChecksStrings) (fields : lib.ChecksFields) {cur : lib.Attr} {node : ApmsgNode}
    (made : lib.record cur = some node) : ∃ lines, lib.decodeNode cur = .ok (some lines) ∧ lines.name = node.name ∧
      (∀ data, node.data = some data → lines.Shows data) ∧
      lines.stations = node.stations.map (fun sta => ⟨sta.addr, sta.signal, sta.connected, sta.timeout⟩) := by
  obtain ⟨msg, parsed, rfl⟩ := Option.map_eq_some_iff.mp made
  refine ⟨_, decodeNode_parsed checks fields parsed, rfl, fun data read => ?_, ?_⟩
  · obtain ⟨bssid, -, rfl⟩ := Option.map_eq_some_iff.mp read
    refine ⟨rfl, rfl, rfl, rfl, rfl, ?_, rfl⟩
    have kept := parseApmsgNode_rrmNr parsed
    dsimp only [NodeAttrs.node]
    cases found : lib.nodeAttr cur .rrmNr with
    | none =>
      rw [found] at kept
      rw [kept]
      rfl
    | some attr => cases msg.rrmNr <;> rfl
  · dsimp only [NodeAttrs.node]
    rw [List.map_filterMap]
    rfl

/-- What the records of a message say is printed with it. -/
theorem shown_of_said (checks : lib.ChecksStrings) (fields : lib.ChecksFields) {data nodes : lib.Attr} {seq : UInt32} {fact : Fact}
    (parsed : lib.parseApmsg data = some (id, seq, nodes))
    (said : fact.SaidBy id ((lib.blobForEachAttr nodes).filterMap lib.record)) :
    ∃ printed, lib.decodePacket data = .ok printed ∧ fact.ShownIn printed := by
  choose lines decodes using decodeNode_ok checks fields
  have packet : lib.decodePacket data = .ok (.packet id seq ((lib.blobForEachAttr nodes).map lines).reduceOption) := by
    unfold Libraries.decodePacket
    rw [parsed]
    dsimp only
    rw [mapM_ok _ fun cur _ => decodes cur]
    rfl
  have printed : ∀ {node : ApmsgNode}, node ∈ (lib.blobForEachAttr nodes).filterMap lib.record →
      ∃ shown ∈ ((lib.blobForEachAttr nodes).map lines).reduceOption, shown.name = node.name ∧
        (∀ data, node.data = some data → shown.Shows data) ∧
        shown.stations = node.stations.map (fun sta => ⟨sta.addr, sta.signal, sta.connected, sta.timeout⟩) := by
    intro node inside
    obtain ⟨cur, listed, made⟩ := List.mem_filterMap.mp inside
    obtain ⟨shown, decodes', rest⟩ := decodeNode_record checks fields made
    refine ⟨shown, List.reduceOption_mem_iff.mpr (List.mem_map.mpr ⟨cur, listed, ?_⟩), rest⟩
    exact Except.ok.inj ((decodes cur).symm.trans decodes')
  refine ⟨_, packet, ?_⟩
  cases fact with
  | node id' name data =>
    obtain ⟨rfl, node, inside, rfl, isData⟩ := said
    obtain ⟨shown, listed, named, shows', -⟩ := printed inside
    exact ⟨seq, _, rfl, shown, listed, named, shows' data isData⟩
  | station id' name addr signal connected =>
    obtain ⟨rfl, node, inside, rfl, sta, onNode, isSta⟩ := said
    obtain ⟨shown, listed, named, -, stations⟩ := printed inside
    refine ⟨seq, _, rfl, shown, listed, named, ⟨sta.addr, sta.signal, sta.connected, sta.timeout⟩, ?_, isSta⟩
    rw [stations]
    exact List.mem_map_of_mem onNode

/-- A datagram is an input, with a record that says what the monitor prints. -/
theorem datagram_input (checks : lib.ChecksStrings) {data : lib.Attr} {len : Nat}
    (run : (if cfg.remoteDisabled then .ok d else lib.interfaceRecvMsg env cfg d text data len) = .ok d') :
    ∃ msg : Apmsg, d.handle env cfg (.message text msg) = .ok d' ∧ (msg.id ≠ d.localId → ∃ nodes,
      lib.parseApmsg data = some (msg.id, msg.seq, nodes) ∧
        msg.nodes = (lib.blobForEachAttr nodes).filterMap lib.record) := by
  cases disabled : cfg.remoteDisabled with
  | true =>
    rw [disabled] at run
    refine ⟨⟨d.localId, 0, []⟩, ?_, fun other => absurd rfl other⟩
    unfold handle
    rw [disabled]
    exact run
  | false =>
    rw [disabled] at run
    obtain ⟨msg, handled, made⟩ := recvMsg_record checks run
    refine ⟨msg, ?_, made⟩
    unfold handle
    rw [disabled]
    exact handled

/-- What is no message teaches nothing about other daemons. -/
theorem held_input {s s' : System} {input : SystemInput} {fact : Fact} (sound : Sound none s.daemon) (accepts : s.Accepts input)
    (own : ∀ text msg, input ≠ .daemon (.message text msg)) (run : s.handle env input = .ok s')
    (held : fact.HeldBy s'.daemon) : fact.HeldBy s.daemon := by
  rcases System.handle_cases run with ⟨daemonInput, d, rfl, handled, rfl⟩ | ⟨method, tb, rfl, rfl⟩ | ⟨_, rfl⟩
  · refine (ignorant_handle sound accepts ?_ handled).held held
    cases daemonInput with
    | message text msg => exact absurd rfl (own text msg)
    | _ => rfl
  · refine setConfig_induction (P := fun s' => fact.HeldBy s'.daemon → fact.HeldBy s.daemon) method tb (fun _ holds => holds) ?_
      (fun held => held) held
    intro s1 item v _ before held
    obtain ⟨ssidList, shape⟩ := daemon_setItem s1 item v
    rw [shape] at held
    exact before ((Ignorant.of_eq rfl rfl rfl).held held)
  · exact held

end Observing

/-- A system and what `decode_packet` has printed of the datagrams that the daemon received. -/
inductive Watched (lib : Libraries) (env : Platform) : System → List Printed → Prop
  | start (debugLevel : UInt32) (syslog : Bool) (interfaces : List CString) (localId : UInt32) (clock : UInt64) :
      Watched lib env (.initial debugLevel syslog interfaces localId clock) []
  | input {s s' log} (input : SystemInput) (watched : Watched lib env s log) (accepts : s.Accepts input)
      (own : ∀ text msg, input ≠ .daemon (.message text msg)) (run : s.handle env input = .ok s') : Watched lib env s' log
  | datagram {s log d' printed text data len} (watched : Watched lib env s log)
      (run : (if s.config.remoteDisabled then .ok s.daemon
        else lib.interfaceRecvMsg env s.config s.daemon text data len) = .ok d')
      (prints : lib.decodePacket data = .ok printed) : Watched lib env { s with daemon := d' } (printed :: log)

/-- Whatever a daemon holds about other daemons is in what the monitor prints of the datagrams
    that it received. -/
theorem known_was_shown (lib : Libraries) (checks : lib.ChecksStrings) (fields : lib.ChecksFields) {env : Platform}
    {s : System} {log : List Printed} (watched : Watched lib env s log) {fact : Fact} (held : fact.HeldBy s.daemon) :
    ∃ printed ∈ log, fact.ShownIn printed := by
  suffices System.Reachable env (fun _ => True) s ∧
      ∀ fact : Fact, fact.HeldBy s.daemon → ∃ printed ∈ log, fact.ShownIn printed from this.2 fact held
  clear held
  induction watched with
  | start debugLevel syslog interfaces localId clock =>
    exact ⟨.start debugLevel syslog interfaces localId clock, fun fact held => absurd held (unaware localId clock none fact)⟩
  | input input _ accepts own run ih =>
    obtain ⟨reach, shown⟩ := ih
    exact ⟨.step input reach accepts trivial run, fun fact held => shown fact (held_input reach.sound accepts own run held)⟩
  | @datagram s log d' printed text data len _ run prints ih =>
    obtain ⟨reach, shown⟩ := ih
    obtain ⟨msg, handled, made⟩ := datagram_input checks run
    have step : s.handle env (.daemon (.message text msg)) = .ok { s with daemon := d' } := by
      rw [System.handle, handled]
      rfl
    refine ⟨.step (.daemon (.message text msg)) reach trivial trivial step, fun fact held => ?_⟩
    rcases learned_handle reach.keyed reach.sound handled held with old | ⟨other, said⟩
    · obtain ⟨older, inside, shows'⟩ := shown fact old
      exact ⟨older, List.mem_cons_of_mem _ inside, shows'⟩
    · obtain ⟨nodes, parsed, isNodes⟩ := made other
      rw [isNodes] at said
      obtain ⟨printed', prints', shows'⟩ := shown_of_said checks fields parsed said
      cases prints.symm.trans prints'
      exact ⟨printed, List.mem_cons_self, shows'⟩

/-- Another daemon has announced itself. -/
theorem known_was_shown_of_announcement : ∃ s log data, Watched treeLibraries plainPlatform s log ∧
    (Fact.node 2 hostapdDot data).HeldBy s.daemon ∧ ∃ printed ∈ log, (Fact.node 2 hostapdDot data).ShownIn printed := by
  let start := System.initial 0 false [] 1 0
  have evaluates : ((treeLibraries.interfaceRecvMsg plainPlatform start.config start.daemon []
      (announcement (some (treeLibraries.etherNtoa 1))) 88).toOption.any fun d => (d.nodes.get? 0).any fun node =>
        decide (remoteKey node = some (2, hostapdDot))) = true := by decide +kernel
  obtain ⟨d, received, evaluates⟩ := (Option.any_eq_true _ _).mp evaluates
  obtain ⟨node, live, isKey⟩ := (Option.any_eq_true _ _).mp evaluates
  obtain ⟨printed, prints⟩ := decodePacket_ok treeLibraries_checksStrings treeLibraries_checksFields
    (announcement (some (treeLibraries.etherNtoa 1)))
  have run : treeLibraries.interfaceRecvMsg plainPlatform start.config start.daemon [] _ 88 = .ok d := ok_of_toOption received
  have watched : Watched treeLibraries plainPlatform { start with daemon := d } [printed] :=
    .datagram (.start 0 false [] 1 0) ((if_neg (by decide)).trans run) prints
  have held : (Fact.node 2 hostapdDot node.data).HeldBy d := ⟨0, node, live, of_decide_eq_true isKey, rfl⟩
  exact ⟨_, _, node.data, watched, held,
    known_was_shown treeLibraries treeLibraries_checksStrings treeLibraries_checksFields watched held⟩

end Usteer
