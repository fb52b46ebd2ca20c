import Mathlib.Data.List.Basic
import Usteer.Model

/-!
Scan results. `nl80211_scan_result` walks over the information elements of a beacon, one
byte of id, one of length and a body each, and copies the bodies of SSID elements to the
start of a zeroed buffer. The loop compares the length with all that is left, its own two
header bytes included, and a copy leaves what lies behind it; `elementLoop_eq` says what the
buffer holds in the end, and on which strings the copy runs over the end.
-/
namespace Usteer

/-- `struct usteer_scan_result`; the SSID is the whole buffer. -/
structure ScanResult where
  bssid : MacAddr
  ssid : List UInt8
  freq : Int32
  signal : Int32
  deriving DecidableEq, Repr

/-- The attributes of a BSS that `nl80211_scan_result` looks at. -/
structure BssAttrs where
  bssid : Option MacAddr
  frequency : Option UInt32
  signalMbm : Option UInt32
  informationElements : Option (List UInt8)
  beaconIes : Option (List UInt8)

/-- A byte of the elements. -/
def byteAt (bytes : List UInt8) (i : Nat) : Except Fault UInt8 :=
  match bytes[i]? with
  | some b => .ok b
  | none => .error .outOfBounds

/-- `memcpy` of elements to the start of a buffer. -/
def copyBody (bytes : List UInt8) (i n : Nat) (buffer : List UInt8) : Except Fault (List UInt8) :=
  if i + n ≤ bytes.length then .ok ((bytes.drop i).take n ++ buffer.drop n) else .error .outOfBounds

/-- The element loop of `nl80211_scan_result`, with the position and the number of bytes that
    are left. -/
def elementLoop (bytes : List UInt8) (ie : Nat) (ielen : Int) (ssid : List UInt8) : Except Fault (List UInt8) :=
  if 2 ≤ ielen then
    (byteAt bytes (ie + 1)).bind fun length =>
      if (length.toNat : Int) ≤ ielen then
        (byteAt bytes ie).bind fun id =>
          (if id = 0 ∧ length ≤ 32 then copyBody bytes (ie + 2) length.toNat ssid else .ok ssid).bind fun ssid =>
            elementLoop bytes (ie + (length.toNat + 2)) (ielen - (length.toNat + 2)) ssid
      else .ok ssid
  else .ok ssid
termination_by ielen.toNat

/-- `nl80211_scan_result`: what the callback is given, if it is called. -/
def nl80211ScanResult (bss : Option BssAttrs) : Except Fault (Option ScanResult) := do
  match bss with
  | none => return none
  | some attrs =>
    match attrs.bssid, attrs.frequency with
    | some bssid, some frequency =>
      let signal := attrs.signalMbm.elim (-127) (fun mbm => mbm.toInt32 / 100)
      let ssid := List.replicate 33 0
      let ssid ← (attrs.informationElements.or attrs.beaconIes).elim (pure ssid)
        (fun ie => elementLoop ie 0 ie.length ssid)
      return some ⟨bssid, ssid, frequency.toInt32, signal⟩
    | _, _ => return none

theorem nl80211ScanResult_elements (bssid : MacAddr) (frequency : UInt32) (signalMbm : Option UInt32) (bytes : List UInt8)
    (beaconIes : Option (List UInt8)) :
    nl80211ScanResult (some ⟨some bssid, some frequency, signalMbm, some bytes, beaconIes⟩) =
      (elementLoop bytes 0 bytes.length (List.replicate 33 0)).map fun ssid =>
        some ⟨bssid, ssid, frequency.toInt32, signalMbm.elim (-127) fun mbm => mbm.toInt32 / 100⟩ := by
  show (elementLoop bytes 0 bytes.length (List.replicate 33 0)).bind _ = _
  cases elementLoop bytes 0 bytes.length (List.replicate 33 0) with
  | error e => rfl
  | ok ssid => rfl

/-! ### Elements -/

/-- An information element. -/
structure Element where
  id : UInt8
  body : List UInt8

/-- The complete elements at the front of a string, and what follows the last of them. -/
def wholeElements : List UInt8 → List Element × List UInt8
  | id :: length :: rest =>
    if length.toNat ≤ rest.length then
      (⟨id, rest.take length.toNat⟩ :: (wholeElements (rest.drop length.toNat)).1, (wholeElements (rest.drop length.toNat)).2)
    else ([], id :: length :: rest)
  | rest => ([], rest)
termination_by bytes => bytes.length

/-- An SSID that fits the buffer. -/
def Element.isSsid (e : Element) : Bool := e.id = 0 && e.body.length ≤ 32

/-- The bodies of the complete SSID elements, in their order. -/
def ssids (bytes : List UInt8) : List (List UInt8) := ((wholeElements bytes).1.filter Element.isSsid).map Element.body

/-- A body goes over the start of a buffer. -/
def overlay (buffer body : List UInt8) : List UInt8 := body ++ buffer.drop body.length

/-- What is left begins an SSID element that fits the buffer and that the loop takes for a
    whole one, because its length does not exceed what is left with the header. -/
def Overruns (rest : List UInt8) : Prop :=
  ∃ length tail, rest = 0 :: length :: tail ∧ tail.length < length.toNat ∧ length ≤ 32 ∧ length.toNat ≤ tail.length + 2

theorem overruns_cons (id length : UInt8) (tail : List UInt8) : Overruns (id :: length :: tail) ↔
    id = 0 ∧ tail.length < length.toNat ∧ length ≤ 32 ∧ length.toNat ≤ tail.length + 2 := by
  constructor
  · rintro ⟨_, _, shape, fits⟩
    cases shape
    exact ⟨rfl, fits⟩
  · rintro ⟨rfl, fits⟩
    exact ⟨length, tail, rfl, fits⟩

instance (rest : List UInt8) : Decidable (Overruns rest) :=
  match rest with
  | [] => .isFalse (by rintro ⟨_, _, shape, -⟩; cases shape)
  | [_] => .isFalse (by rintro ⟨_, _, shape, -⟩; cases shape)
  | id :: length :: tail => decidable_of_iff _ (overruns_cons id length tail).symm

theorem ssids_cons {id length : UInt8} {tail : List UInt8} (complete : length.toNat ≤ tail.length) :
    ssids (id :: length :: tail) = if id = 0 ∧ length ≤ 32 then
      tail.take length.toNat :: ssids (tail.drop length.toNat) else ssids (tail.drop length.toNat) := by
  have size : (tail.take length.toNat).length = length.toNat := by rw [List.length_take, Nat.min_eq_left complete]
  rw [ssids, wholeElements, if_pos complete]
  by_cases isSsid : id = 0 ∧ length ≤ 32
  · have kept : Element.isSsid ⟨id, tail.take length.toNat⟩ = true := by
      simpa [Element.isSsid, size, UInt8.le_iff_toNat_le] using isSsid
    rw [if_pos isSsid, List.filter_cons_of_pos kept]
    rfl
  · have dropped : ¬ Element.isSsid ⟨id, tail.take length.toNat⟩ = true := by
      simpa [Element.isSsid, size, UInt8.le_iff_toNat_le] using isSsid
    rw [if_neg isSsid, List.filter_cons_of_neg dropped]
    rfl

section Loop

variable {bytes ssid : List UInt8} {ie : Nat}

theorem byteAt_drop {b : UInt8} {rest : List UInt8} (left : bytes.drop ie = b :: rest) : byteAt bytes ie = .ok b := by
  have here : bytes[ie]? = some b := by
    rw [← List.head?_drop, left]
    rfl
  unfold byteAt
  rw [here]

theorem drop_next (front : List UInt8) {rest : List UInt8} (left : bytes.drop ie = front ++ rest) :
    bytes.drop (ie + front.length) = rest := by
  rw [← List.drop_drop, left, List.drop_left]

/-- The copy runs over the end when the body does. -/
theorem copyBody_drop {tail : List UInt8} {n : Nat} (left : bytes.drop ie = tail) (inside : ie ≤ bytes.length) :
    copyBody bytes ie n ssid = if n ≤ tail.length then .ok (tail.take n ++ ssid.drop n) else .error .outOfBounds := by
  have length : tail.length = bytes.length - ie := by rw [← left, List.length_drop]
  unfold copyBody
  rw [left]
  by_cases fits : n ≤ tail.length
  · rw [if_pos (by omega), if_pos fits]
  · rw [if_neg (by omega), if_neg fits]

/-- One element, as far as the loop is concerned. -/
theorem elementLoop_cons {id length : UInt8} {tail : List UInt8} (left : bytes.drop ie = id :: length :: tail) :
    elementLoop bytes ie (id :: length :: tail).length ssid =
      if length.toNat ≤ tail.length + 2 then
        (if id = 0 ∧ length ≤ 32 then
          if length.toNat ≤ tail.length then Except.ok (overlay ssid (tail.take length.toNat)) else .error .outOfBounds
        else .ok ssid).bind fun ssid =>
          elementLoop bytes (ie + (length.toNat + 2)) ((tail.length : Int) - length.toNat) ssid
      else .ok ssid := by
  have left2 : bytes.drop (ie + 2) = tail := drop_next [id, length] left
  have left1 : bytes.drop (ie + 1) = length :: tail := drop_next [id] left
  have count : (id :: length :: tail).length = bytes.length - ie := by rw [← left, List.length_drop]
  rw [List.length_cons, List.length_cons] at count
  rw [elementLoop, if_pos (by rw [List.length_cons, List.length_cons]; omega), List.length_cons, List.length_cons,
    byteAt_drop left1]
  show (if (length.toNat : Int) ≤ _ then _ else _) = _
  by_cases taken : length.toNat ≤ tail.length + 2
  · rw [if_pos (by omega), if_pos taken, byteAt_drop left, copyBody_drop left2 (by omega)]
    have less : ((tail.length + 1 + 1 : ℕ) : Int) - (length.toNat + 2) = (tail.length : Int) - length.toNat := by omega
    rw [less]
    by_cases fits : length.toNat ≤ tail.length
    · rw [if_pos fits, if_pos fits, overlay, List.length_take, Nat.min_eq_left fits]
      rfl
    · rw [if_neg fits, if_neg fits]
      rfl
  · rw [if_neg (by omega), if_neg taken]

theorem elementLoop_short {ielen : Int} (short : ielen < 2) : elementLoop bytes ie ielen ssid = .ok ssid := by
  rw [elementLoop, if_neg (by omega)]

/-- The loop copies the complete SSIDs one over the other, and then it runs over the end or
    stops. -/
theorem elementLoop_drop (rest : List UInt8) : ∀ {ie ssid}, bytes.drop ie = rest →
    elementLoop bytes ie rest.length ssid = if Overruns (wholeElements rest).2 then .error .outOfBounds
      else .ok ((ssids rest).foldl overlay ssid) := by
  induction rest using wholeElements.induct with
  | case1 id length tail complete ih =>
    intro ie ssid left
    have next : bytes.drop (ie + (length.toNat + 2)) = tail.drop length.toNat := by
      rw [← drop_next [id, length] left, List.drop_drop]
      congr 1
      simp only [List.length_cons, List.length_nil]
      omega
    have size : ((tail.length : Int) - length.toNat) = (tail.drop length.toNat).length := by
      rw [List.length_drop]
      omega
    have remains : (wholeElements (id :: length :: tail)).2 = (wholeElements (tail.drop length.toNat)).2 := by
      rw [wholeElements, if_pos complete]
    rw [elementLoop_cons left, if_pos (by omega), size, ssids_cons complete, remains]
    by_cases isSsid : id = 0 ∧ length ≤ 32
    · rw [if_pos isSsid, if_pos complete, if_pos isSsid, List.foldl_cons]
      exact ih next
    · rw [if_neg isSsid, if_neg isSsid]
      exact ih next
  | case2 id length tail truncated =>
    intro ie ssid left
    have done : ∀ {ie ssid}, elementLoop bytes ie ((tail.length : Int) - length.toNat) ssid = .ok ssid :=
      elementLoop_short (by omega)
    have remains : wholeElements (id :: length :: tail) = ([], id :: length :: tail) := by
      rw [wholeElements, if_neg truncated]
    rw [elementLoop_cons left, ssids, remains]
    simp only [List.filter_nil, List.map_nil, List.foldl_nil, overruns_cons]
    by_cases taken : length.toNat ≤ tail.length + 2
    · by_cases isSsid : id = 0 ∧ length ≤ 32
      · rw [if_pos taken, if_pos isSsid, if_neg truncated, if_pos ⟨isSsid.1, by omega, isSsid.2, taken⟩]
        rfl
      · rw [if_pos taken, if_neg isSsid, if_neg fun overruns => isSsid ⟨overruns.1, overruns.2.2.1⟩]
        exact done
    · rw [if_neg taken, if_neg fun overruns => taken overruns.2.2.2]
  | case3 rest short =>
    intro ie ssid left
    have length : rest.length < 2 := by
      match rest, short with
      | [], _ => exact Nat.zero_lt_two
      | [_], _ => exact Nat.one_lt_two
      | id :: length :: tail, short => exact (short id length tail rfl).elim
    have same : wholeElements rest = ([], rest) := by
      rw [wholeElements]
      exact short
    have stops : ¬ Overruns rest := by
      rintro ⟨n, tail, rfl, -⟩
      exact short 0 n tail rfl
    rw [elementLoop_short (by omega), ssids, same, if_neg stops]
    rfl

/-- What the loop leaves in the zeroed buffer. -/
theorem elementLoop_eq (bytes : List UInt8) : elementLoop bytes 0 bytes.length (List.replicate 33 0) =
    if Overruns (wholeElements bytes).2 then .error .outOfBounds
    else .ok ((ssids bytes).foldl overlay (List.replicate 33 0)) :=
  elementLoop_drop bytes rfl

end Loop

/-! ### One copy over the other -/

/-- A byte of an earlier body that is not zero lies behind the last body, and no body in
    between covers it. -/
def Sticks (bodies : List (List UInt8)) : Prop :=
  ∃ before body between last i b, bodies = before ++ body :: (between ++ [last]) ∧ body[i]? = some b ∧ b ≠ 0 ∧
    last.length ≤ i ∧ ∀ other ∈ between, other.length ≤ i

section Overlay

theorem getElem?_overlay (buffer body : List UInt8) (i : Nat) :
    (overlay buffer body)[i]? = if i < body.length then body[i]? else buffer[i]? := by
  unfold overlay
  by_cases inside : i < body.length
  · rw [if_pos inside, List.getElem?_append_left inside]
  · rw [if_neg inside, List.getElem?_append_right (by omega), List.getElem?_drop]
    congr 1
    omega

theorem length_overlay {buffer body : List UInt8} (fits : body.length ≤ buffer.length) :
    (overlay buffer body).length = buffer.length := by
  unfold overlay
  rw [List.length_append, List.length_drop]
  omega

theorem length_overlays {bodies : List (List UInt8)} : ∀ {buffer : List UInt8},
    (∀ body ∈ bodies, body.length ≤ buffer.length) → (bodies.foldl overlay buffer).length = buffer.length := by
  induction bodies with
  | nil => exact fun _ => rfl
  | cons body rest ih =>
    intro buffer fits
    have same := length_overlay (fits body List.mem_cons_self)
    rw [List.foldl_cons, ih, same]
    intro other inside
    rw [same]
    exact fits other (List.mem_cons_of_mem _ inside)

theorem concat_eq_append_cons {α : Type*} {list before after : List α} {x last : α}
    (same : list ++ [last] = before ++ x :: after) :
    (after = [] ∧ x = last) ∨ ∃ rest, after = rest ++ [last] ∧ list = before ++ x :: rest := by
  rcases List.eq_nil_or_concat' after with rfl | ⟨rest, y, rfl⟩
  · obtain ⟨-, single⟩ := List.append_inj' same rfl
    cases single
    exact .inl ⟨rfl, rfl⟩
  · have same' : list ++ [last] = (before ++ x :: rest) ++ [y] := by simpa using same
    obtain ⟨front, single⟩ := List.append_inj' same' rfl
    cases single
    exact .inr ⟨rest, rfl, front⟩

/-- A byte that is not zero is that of the last body that reaches it. -/
theorem overlays_nonzero (size i : Nat) (bodies : List (List UInt8)) :
    (∃ b, (bodies.foldl overlay (List.replicate size 0))[i]? = some b ∧ b ≠ 0) ↔
      ∃ before body after b, bodies = before ++ body :: after ∧ body[i]? = some b ∧ b ≠ 0 ∧
        ∀ other ∈ after, other.length ≤ i := by
  induction bodies using List.reverseRecOn with
  | nil =>
    constructor
    · rintro ⟨b, here, nonzero⟩
      rw [List.foldl_nil, List.getElem?_replicate] at here
      split at here
      · cases here
        exact absurd rfl nonzero
      · cases here
    · rintro ⟨before, body, after, b, shape, -⟩
      simp at shape
  | append_singleton bodies last ih =>
    rw [List.foldl_append, List.foldl_cons, List.foldl_nil, getElem?_overlay]
    by_cases reaches : i < last.length
    · rw [if_pos reaches]
      constructor
      · rintro ⟨b, here, nonzero⟩
        exact ⟨bodies, last, [], b, rfl, here, nonzero, by simp⟩
      · rintro ⟨before, body, after, b, shape, here, nonzero, covered⟩
        rcases concat_eq_append_cons shape with ⟨-, rfl⟩ | ⟨rest, rfl, -⟩
        · exact ⟨b, here, nonzero⟩
        · exact absurd (covered last (by simp)) (by omega)
    · rw [if_neg reaches, ih]
      constructor
      · rintro ⟨before, body, after, b, rfl, here, nonzero, covered⟩
        refine ⟨before, body, after ++ [last], b, by simp, here, nonzero, ?_⟩
        intro other inside
        rcases List.mem_append.mp inside with earlier | isLast
        · exact covered other earlier
        · rw [List.mem_singleton.mp isLast]
          omega
      · rintro ⟨before, body, after, b, shape, here, nonzero, covered⟩
        rcases concat_eq_append_cons shape with ⟨-, rfl⟩ | ⟨rest, rfl, front⟩
        · exact absurd (List.getElem?_eq_some_iff.mp here).1 reaches
        · exact ⟨before, body, rest, b, front, here, nonzero, fun other inside => covered other (by simp [inside])⟩

/-- The last body is all there is exactly when nothing sticks out. -/
theorem overlays_last {size : Nat} {bodies : List (List UInt8)} (fits : ∀ body ∈ bodies, body.length ≤ size) :
    bodies.foldl overlay (List.replicate size 0) =
        bodies.getLastD [] ++ List.replicate (size - (bodies.getLastD []).length) 0 ↔ ¬ Sticks bodies := by
  rcases List.eq_nil_or_concat' bodies with rfl | ⟨init, last, rfl⟩
  · refine iff_of_true (by simp) ?_
    rintro ⟨before, body, between, last, i, b, shape, -⟩
    simp at shape
  have long : (init.foldl overlay (List.replicate size 0)).length = size := by
    rw [length_overlays, List.length_replicate]
    intro body inside
    rw [List.length_replicate]
    exact fits body (List.mem_append_left _ inside)
  have lastD : (init ++ [last]).getLastD [] = last := by simp
  rw [List.foldl_append, List.foldl_cons, List.foldl_nil, lastD, overlay, List.append_cancel_left_eq]
  constructor
  · rintro same ⟨before, body, between, last', i, b, shape, here, nonzero, behind, covered⟩
    obtain ⟨front, single⟩ := List.append_inj' (show init ++ [last] = (before ++ body :: between) ++ [last'] by simpa using shape) rfl
    cases single
    obtain ⟨b', kept, nonzero'⟩ := (overlays_nonzero size i init).mpr ⟨before, body, between, b, front, here, nonzero, covered⟩
    have zero : (List.replicate (size - last.length) (0 : UInt8))[i - last.length]? = some b' := by
      rw [← same, List.getElem?_drop, Nat.add_sub_cancel' behind]
      exact kept
    rw [List.getElem?_replicate] at zero
    split at zero
    · cases zero
      exact nonzero' rfl
    · cases zero
  · intro flat
    refine List.eq_replicate_iff.mpr ⟨by rw [List.length_drop, long], fun b inside => ?_⟩
    obtain ⟨j, here⟩ := List.mem_iff_getElem?.mp inside
    rw [List.getElem?_drop] at here
    by_contra nonzero
    obtain ⟨before, body, between, b', rfl, here', nonzero', covered⟩ :=
      (overlays_nonzero size (last.length + j) init).mp ⟨b, here, nonzero⟩
    exact flat ⟨before, body, between, last, last.length + j, b', by simp, here', nonzero', Nat.le_add_right _ _, covered⟩

end Overlay

theorem ssids_fit (bytes : List UInt8) : ∀ body ∈ ssids bytes, body.length ≤ 33 := by
  intro body inside
  obtain ⟨element, kept, rfl⟩ := List.mem_map.mp inside
  have fits := (List.mem_filter.mp kept).2
  simp only [Element.isSsid, Bool.and_eq_true, decide_eq_true_eq] at fits
  omega

/-- The loop stays inside the string and leaves the body of the last complete SSID element,
    or nothing, in the buffer exactly when no truncated SSID element at the end is taken for
    a whole one, and no earlier SSID sticks out behind the last one. -/
theorem scan_ssid_last (bytes : List UInt8) :
    elementLoop bytes 0 bytes.length (List.replicate 33 0) =
        .ok ((ssids bytes).getLastD [] ++ List.replicate (33 - ((ssids bytes).getLastD []).length) 0) ↔
      ¬ Overruns (wholeElements bytes).2 ∧ ¬ Sticks (ssids bytes) := by
  rw [elementLoop_eq]
  by_cases overruns : Overruns (wholeElements bytes).2
  · simp [overruns]
  · rw [if_neg overruns, Except.ok.injEq, overlays_last (ssids_fit bytes)]
    simp [overruns]

/-- The string ends after the header of an SSID of two bytes, and the copy reads them all the
    same; and a shorter SSID leaves the end of a longer one before it. -/
theorem scan_ssid_overread :
    elementLoop [0, 2] 0 2 (List.replicate 33 0) = .error .outOfBounds ∧
    elementLoop [0, 2, 97, 98, 0, 1, 99] 0 7 (List.replicate 33 0) = .ok ([99, 98] ++ List.replicate 31 0) ∧
    (ssids [0, 2, 97, 98, 0, 1, 99]).getLastD [] = [99] := by
  refine ⟨?_, ?_, ?_⟩
  · simp [elementLoop, byteAt, copyBody, Except.bind]
  · simp [elementLoop, byteAt, copyBody, Except.bind]
  · simp [ssids, wholeElements, Element.isSsid]

end Usteer
