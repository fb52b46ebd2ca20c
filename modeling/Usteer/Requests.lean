import Mathlib.Data.List.Basic
import Mathlib.Data.List.Infix
import Mathlib.Tactic.Common

/-!
The requests that a local node makes to hostapd (`local_node.c`): one `ubus_request` per
node, a counter that says which request it is used for, and two timers. The update timer
starts the round over, the other one goes on with the next request a moment after the
last one is complete. libubus answers a request that was not aborted with any number of
replies and at most one completion; what it still owes is `pending`. Ticks, requests and
the replies that a callback gets are kept in a history.
-/
namespace Usteer.Requests

/-- `enum local_req_state` without its end marker. -/
inductive LocalReqState where
  | idle
  | clients
  | rrmSetList
  | rrmGetOwn
  deriving DecidableEq, Repr

/-- `req_state++`, where nothing is `__REQ_MAX`. -/
def LocalReqState.succ : LocalReqState → Option LocalReqState
  | .idle => some .clients
  | .clients => some .rrmSetList
  | .rrmSetList => some .rrmGetOwn
  | .rrmGetOwn => none

/-- The methods that are called. -/
inductive Method where
  | getClients
  | rrmNrSet
  | rrmNrGetOwn
  deriving DecidableEq, Repr

/-- `usteer_local_node_list_cb` and `usteer_local_node_rrm_nr_cb`. -/
inductive DataCb where
  | listCb
  | rrmNrCb
  deriving DecidableEq, Repr

/-- A request as libubus knows it, told apart from others by the number of update ticks
    before it. -/
structure Request where
  method : Method
  tick : Nat
  deriving DecidableEq, Repr

/-- What the history records. -/
inductive Note where
  /-- `usteer_local_node_update` -/
  | tick
  /-- `ubus_invoke_async` -/
  | issued (req : Request)
  /-- A callback gets the reply to a request. -/
  | handled (cb : DataCb) (req : Request)
  deriving DecidableEq, Repr

/-- The part of `struct usteer_local_node` that requests use. `dataCb` and `completeCb` are
    the callbacks in `req`. -/
structure LocalNodeReq where
  registered : Bool
  reqState : LocalReqState
  reqTimer : Bool
  dataCb : Option DataCb
  completeCb : Bool
  pending : List Request
  ticks : Nat
  history : List Note
  deriving DecidableEq, Repr

namespace LocalNodeReq

/-- The node that `usteer_get_node` allocates. -/
def usteerGetNode : LocalNodeReq := ⟨true, .idle, false, none, false, [], 0, []⟩

/-- `usteer_local_node_state_reset`; `ubus_abort_request` takes back the latest request. -/
def usteerLocalNodeStateReset (ln : LocalNodeReq) : LocalNodeReq :=
  if ln.reqState = .idle then ln else { ln with pending := ln.pending.tail, reqState := .idle }

/-- `usteer_free_node` -/
def usteerFreeNode (ln : LocalNodeReq) : LocalNodeReq :=
  { ln.usteerLocalNodeStateReset with reqTimer := false, registered := false }

/-- `ubus_invoke_async` and the callbacks set after it. -/
def invoke (ln : LocalNodeReq) (method : Method) (dataCb : Option DataCb) : LocalNodeReq :=
  { ln with
    pending := ⟨method, ln.ticks⟩ :: ln.pending
    dataCb := dataCb
    completeCb := true
    history := ln.history ++ [.issued ⟨method, ln.ticks⟩] }

/-- `usteer_local_node_state_next` -/
def usteerLocalNodeStateNext (ln : LocalNodeReq) : LocalNodeReq :=
  match ln.reqState.succ with
  | none => { ln with reqState := .idle }
  | some .idle => { ln with reqState := .idle, completeCb := true }
  | some .clients => { ln with reqState := .clients }.invoke .getClients (some .listCb)
  | some .rrmSetList => { ln with reqState := .rrmSetList }.invoke .rrmNrSet none
  | some .rrmGetOwn => { ln with reqState := .rrmGetOwn }.invoke .rrmNrGetOwn (some .rrmNrCb)

/-- `usteer_local_node_update` -/
def usteerLocalNodeUpdate (ln : LocalNodeReq) : LocalNodeReq :=
  { ln.usteerLocalNodeStateReset with
    reqTimer := true
    ticks := ln.ticks + 1
    history := ln.history ++ [.tick] }

/-- `usteer_local_node_req_cb` -/
def usteerLocalNodeReqCb (ln : LocalNodeReq) : LocalNodeReq := { ln with reqTimer := true }

/-- A reply to a request goes to the callback in `req`, if there is one. The node goes when
    `usteer_local_node_rrm_nr_cb` refuses the SSID that it is told. -/
def reply (ln : LocalNodeReq) (req : Request) (refused : Bool) : LocalNodeReq :=
  match ln.dataCb with
  | none => ln
  | some cb =>
    let ln := { ln with history := ln.history ++ [.handled cb req] }
    if cb = .rrmNrCb && refused then ln.usteerFreeNode else ln

/-- A request is complete, and its completion callback is called. -/
def complete (ln : LocalNodeReq) (req : Request) : LocalNodeReq :=
  let ln := { ln with pending := ln.pending.erase req }
  if ln.completeCb then ln.usteerLocalNodeReqCb else ln

end LocalNodeReq

/-- What happens to a local node. -/
inductive NodeEvent where
  | update
  | reqTimer
  | reply (req : Request) (refused : Bool)
  | complete (req : Request)
  | remove
  deriving DecidableEq, Repr

namespace LocalNodeReq

/-- The node after an event, if the event may occur: timers that are set fire, and libubus
    answers requests that are pending. -/
def step (ln : LocalNodeReq) : NodeEvent → Option LocalNodeReq
  | .update => if ln.registered then some ln.usteerLocalNodeUpdate else none
  | .reqTimer => if ln.reqTimer then some { ln with reqTimer := false }.usteerLocalNodeStateNext else none
  | .reply req refused => if req ∈ ln.pending then some (ln.reply req refused) else none
  | .complete req => if req ∈ ln.pending then some (ln.complete req) else none
  | .remove => if ln.registered then some ln.usteerFreeNode else none

/-- The node after events that occur one after the other. -/
def run (ln : LocalNodeReq) (events : List NodeEvent) : Option LocalNodeReq := events.foldlM step ln

end LocalNodeReq

/-! ### What a history should look like -/

/-- The callback that belongs to a method. -/
def Method.dataCb : Method → Option DataCb
  | .getClients => some .listCb
  | .rrmNrSet => none
  | .rrmNrGetOwn => some .rrmNrCb

/-- The requests of one round, in their order. -/
def rounds : List Method := [.getClients, .rrmNrSet, .rrmNrGetOwn]

/-- The request that a note is about. -/
def Note.request : Note → Option Request
  | .tick => none
  | .issued req => some req
  | .handled _ req => some req

/-- The method of a request that is issued. -/
def Note.issues : Note → Option Method
  | .issued req => some req.method
  | _ => none

/-- The methods called, in the order of the notes. -/
def issuedOf (notes : List Note) : List Method := notes.filterMap Note.issues

/-- Replies go to the callback of their request's method. -/
def OwnCallback (history : List Note) : Prop := ∀ cb req, .handled cb req ∈ history → req.method.dataCb = some cb

/-- No reply to a request from before a tick is handled after it. -/
def NoLateReply (history : List Note) : Prop :=
  ∀ before after, history = before ++ .tick :: after → ∀ cb req, .issued req ∈ before → .handled cb req ∉ after

/-- The requests after a tick and before the next are those of one round, up to some
    point. -/
def InOrder (history : List Note) : Prop :=
  ∀ before mid after, history = before ++ .tick :: (mid ++ after) → .tick ∉ mid → issuedOf mid <+: rounds

/-! ### Requests carry the number of ticks before them -/

/-- Every note about a request stands among as many ticks as the request counted. -/
def Stamped (history : List Note) : Prop :=
  ∀ before note after, history = before ++ note :: after →
    ∀ req, note.request = some req → req.tick = before.count .tick

/-- The methods called by the requests that counted `k` ticks. -/
def issuedAt (k : Nat) (notes : List Note) : List Method :=
  issuedOf (notes.filter (fun note => note.request.any (fun req => req.tick = k)))

section Stamped

variable {history : List Note} {note : Note} {k : Nat}

/-- An element of a list with one more at its end is the last one or stands before it. -/
theorem split_concat {α : Type} {l a b : List α} {x y : α} (shape : l ++ [x] = a ++ y :: b) :
    (l = a ∧ x = y ∧ b = []) ∨ ∃ b', b = b' ++ [x] ∧ l = a ++ y :: b' := by
  rcases List.eq_nil_or_concat b with rfl | ⟨b', last, rfl⟩
  · obtain ⟨same, single⟩ := List.append_inj' shape rfl
    exact .inl ⟨same, by simpa using single, rfl⟩
  · rw [List.concat_eq_append] at shape ⊢
    have regrouped : l ++ [x] = (a ++ y :: b') ++ [last] := by simpa using shape
    obtain ⟨same, single⟩ := List.append_inj' regrouped rfl
    obtain rfl : x = last := by simpa using single
    exact .inr ⟨b', rfl, same⟩

theorem stamped_nil : Stamped [] := by
  intro before note after shape
  cases before with
  | nil => cases shape
  | cons first rest => cases shape

theorem stamped_append (stamped : Stamped history)
    (own : ∀ req, note.request = some req → req.tick = history.count .tick) : Stamped (history ++ [note]) := by
  intro before note' after shape req found
  rcases split_concat shape with ⟨rfl, rfl, _⟩ | ⟨after', _, shape'⟩
  · exact own req found
  · exact stamped before note' after' shape' req found

/-- The request of a note counted no more ticks than there are. -/
theorem Stamped.tick_le (stamped : Stamped history) (inside : note ∈ history) {req : Request}
    (found : note.request = some req) : req.tick ≤ history.count .tick := by
  obtain ⟨before, after, shape⟩ := List.append_of_mem inside
  rw [stamped before note after shape req found, shape, List.count_append]
  omega

theorem issuedAt_append (k : Nat) (left right : List Note) :
    issuedAt k (left ++ right) = issuedAt k left ++ issuedAt k right := by
  unfold issuedAt issuedOf
  rw [List.filter_append, List.filterMap_append]

/-- Nothing was issued that counted more ticks than there are. -/
theorem Stamped.issuedAt_later (stamped : Stamped history) (later : history.count .tick < k) :
    issuedAt k history = [] := by
  have none : history.filter (fun note => note.request.any (fun req => req.tick = k)) = [] := by
    rw [List.filter_eq_nil_iff]
    intro note inside counted
    obtain ⟨req, found, same⟩ := (Option.any_eq_true _ _).mp counted
    have bound := stamped.tick_le inside found
    have same := of_decide_eq_true same
    omega
  rw [issuedAt, none]
  rfl

/-- No reply crosses a tick. -/
theorem Stamped.noLateReply (stamped : Stamped history) : NoLateReply history := by
  intro before after shape cb req issued handled
  obtain ⟨b1, b2, rfl⟩ := List.append_of_mem issued
  obtain ⟨a1, a2, rfl⟩ := List.append_of_mem handled
  have early := stamped b1 (.issued req) (b2 ++ .tick :: (a1 ++ .handled cb req :: a2)) (by simp [shape]) req rfl
  have late := stamped (b1 ++ .issued req :: b2 ++ .tick :: a1) (.handled cb req) a2 (by simp [shape]) req rfl
  have more : b1.count .tick < (b1 ++ .issued req :: b2 ++ .tick :: a1).count Note.tick := by
    simp only [List.append_assoc, List.count_append, List.cons_append, List.count_cons_self, ne_eq, reduceCtorEq,
      not_false_eq_true, List.count_cons_of_ne]
    omega
  omega

/-- What is called between two ticks is called by requests that counted the same. -/
theorem Stamped.inOrder (stamped : Stamped history) (order : ∀ k, issuedAt k history <+: rounds) :
    InOrder history := by
  intro before mid after shape quiet
  let k := before.count .tick + 1
  have early : issuedAt k before = [] := by
    refine Stamped.issuedAt_later (fun b note a split => ?_) (Nat.lt_succ_self _)
    exact stamped b note (a ++ .tick :: (mid ++ after)) (by simp [shape, split])
  have inside : mid.filter (fun note => note.request.any (fun req => req.tick = k)) =
      mid.filter (fun note => note.request.isSome) := by
    refine List.filter_congr fun note listed => ?_
    obtain ⟨m1, m2, rfl⟩ := List.append_of_mem listed
    cases found : note.request with
    | none => rfl
    | some req =>
      have stamp := stamped (before ++ .tick :: m1) note (m2 ++ after) (by simp [shape]) req found
      have none : m1.count .tick = 0 := List.count_eq_zero.mpr fun ticks => quiet (List.mem_append_left _ ticks)
      simp [stamp, k, List.count_append, none]
  have called : issuedAt k mid = issuedOf mid := by
    unfold issuedAt
    rw [inside]
    unfold issuedOf
    rw [List.filterMap_filter]
    congr 1
    funext note
    cases note with
    | tick => rfl
    | issued req => rfl
    | handled cb req => rfl
  have whole := order k
  rw [shape, issuedAt_append, early, List.nil_append, ← List.singleton_append, issuedAt_append, issuedAt_append,
    called] at whole
  exact (List.prefix_append _ _).trans whole

end Stamped

/-! ### The round -/

/-- The requests up to and with the one that a state stands for. -/
def LocalReqState.called : LocalReqState → List Method
  | .idle => []
  | .clients => [.getClients]
  | .rrmSetList => [.getClients, .rrmNrSet]
  | .rrmGetOwn => rounds

/-- The request that a state stands for. -/
def LocalReqState.method : LocalReqState → Option Method
  | .idle => none
  | .clients => some .getClients
  | .rrmSetList => some .rrmNrSet
  | .rrmGetOwn => some .rrmNrGetOwn

/-- Where a node stands in its round. -/
inductive Phase (ln : LocalNodeReq) : Prop
  /-- Nothing to do until the next tick. -/
  | resting (idle : ln.reqState = .idle) (off : ln.reqTimer = false) (quiet : ln.pending = [])
  /-- The round has not begun. -/
  | due (idle : ln.reqState = .idle) (set : ln.reqTimer = true) (quiet : ln.pending = [])
      (fresh : issuedAt ln.ticks ln.history = [])
  /-- A request is on its way. -/
  | asking {method} (stands : ln.reqState.method = some method) (off : ln.reqTimer = false)
      (waits : ln.pending = [⟨method, ln.ticks⟩]) (cb : ln.dataCb = method.dataCb) (completes : ln.completeCb = true)
      (called : issuedAt ln.ticks ln.history = ln.reqState.called)
  /-- The request is complete, the next one follows. -/
  | answered {method} (stands : ln.reqState.method = some method) (set : ln.reqTimer = true) (quiet : ln.pending = [])
      (called : issuedAt ln.ticks ln.history = ln.reqState.called)

/-- The node and its history fit together. -/
structure Orderly (ln : LocalNodeReq) : Prop where
  ticks : ln.ticks = ln.history.count .tick
  stamped : Stamped ln.history
  own : OwnCallback ln.history
  order : ∀ k, issuedAt k ln.history <+: rounds
  phase : Phase ln

section Step

variable {ln ln' : LocalNodeReq}

theorem called_prefix (state : LocalReqState) : state.called <+: rounds := by
  cases state with
  | idle => exact List.nil_prefix
  | clients => exact ⟨[.rrmNrSet, .rrmNrGetOwn], rfl⟩
  | rrmSetList => exact ⟨[.rrmNrGetOwn], rfl⟩
  | rrmGetOwn => exact List.prefix_rfl

theorem orderly_start : Orderly LocalNodeReq.usteerGetNode :=
  ⟨rfl, stamped_nil, fun _ _ inside => (by cases inside), fun _ => List.nil_prefix, .resting rfl rfl rfl⟩

/-- After a reset nothing is pending. -/
theorem reset_quiet (phase : Phase ln) : ln.usteerLocalNodeStateReset.pending = [] ∧
    ln.usteerLocalNodeStateReset.reqState = .idle ∧ ln.usteerLocalNodeStateReset.history = ln.history ∧
    ln.usteerLocalNodeStateReset.ticks = ln.ticks := by
  unfold LocalNodeReq.usteerLocalNodeStateReset
  by_cases idle : ln.reqState = .idle
  · rw [if_pos idle]
    refine ⟨?_, idle, rfl, rfl⟩
    cases phase with
    | resting _ _ quiet => exact quiet
    | due _ _ quiet => exact quiet
    | asking stands => rw [idle] at stands; cases stands
    | answered stands _ quiet => exact quiet
  · rw [if_neg idle]
    refine ⟨?_, rfl, rfl, rfl⟩
    cases phase with
    | resting _ _ quiet => simp [quiet]
    | due _ _ quiet => simp [quiet]
    | asking _ _ waits => simp [waits]
    | answered _ _ quiet => simp [quiet]

theorem orderly_update (orderly : Orderly ln) : Orderly ln.usteerLocalNodeUpdate := by
  obtain ⟨quiet, idle, _, _⟩ := reset_quiet orderly.phase
  have noted : ∀ k, issuedAt k (ln.history ++ [.tick]) = issuedAt k ln.history := fun k => by
    rw [issuedAt_append]
    exact List.append_nil _
  refine ⟨?_, stamped_append orderly.stamped fun _ found => (by cases found), fun cb req inside => ?_, fun k => ?_,
    .due idle rfl quiet ?_⟩
  · show ln.ticks + 1 = (ln.history ++ [Note.tick]).count Note.tick
    rw [orderly.ticks, List.count_append, List.count_singleton_self]
  · refine orderly.own cb req ?_
    simpa [LocalNodeReq.usteerLocalNodeUpdate] using inside
  · show issuedAt k (ln.history ++ [.tick]) <+: rounds
    rw [noted]
    exact orderly.order k
  · show issuedAt (ln.ticks + 1) (ln.history ++ [.tick]) = []
    rw [noted]
    refine orderly.stamped.issuedAt_later ?_
    rw [← orderly.ticks]
    exact Nat.lt_succ_self _

theorem orderly_free (orderly : Orderly ln) : Orderly ln.usteerFreeNode := by
  obtain ⟨quiet, idle, history, ticks⟩ := reset_quiet orderly.phase
  have same : ln.usteerFreeNode.history = ln.history := history
  have count : ln.usteerFreeNode.ticks = ln.ticks := ticks
  refine ⟨?_, ?_, ?_, ?_, .resting idle rfl quiet⟩
  · rw [count, same]
    exact orderly.ticks
  · rw [same]
    exact orderly.stamped
  · rw [same]
    exact orderly.own
  · rw [same]
    exact orderly.order

/-- The next request of a round. -/
theorem orderly_invoke {method : Method} {state : LocalReqState} (orderly : Orderly ln)
    (stands : state.method = some method) (quiet : ln.pending = [])
    (called : issuedAt ln.ticks ln.history ++ [method] = state.called) :
    Orderly ({ ln with reqTimer := false, reqState := state }.invoke method method.dataCb) := by
  have noted : ∀ k, issuedAt k (ln.history ++ [.issued ⟨method, ln.ticks⟩]) =
      issuedAt k ln.history ++ if ln.ticks = k then [method] else [] := by
    intro k
    rw [issuedAt_append]
    by_cases here : ln.ticks = k
    · simp [issuedAt, issuedOf, Note.request, Note.issues, here]
    · simp [issuedAt, issuedOf, Note.request, here]
  refine ⟨?_, stamped_append orderly.stamped fun req found => ?_, fun cb req inside => ?_, fun k => ?_,
    .asking stands rfl ?_ rfl rfl ?_⟩
  · show ln.ticks = (ln.history ++ [Note.issued ⟨method, ln.ticks⟩]).count Note.tick
    rw [List.count_append, orderly.ticks]
    simp
  · cases found
    exact orderly.ticks
  · refine orderly.own cb req ?_
    simpa [LocalNodeReq.invoke] using inside
  · show issuedAt k (ln.history ++ [.issued ⟨method, ln.ticks⟩]) <+: rounds
    rw [noted]
    by_cases here : ln.ticks = k
    · subst here
      rw [if_pos rfl, called]
      exact called_prefix state
    · rw [if_neg here, List.append_nil]
      exact orderly.order k
  · simp [LocalNodeReq.invoke, quiet]
  · show issuedAt ln.ticks (ln.history ++ [.issued ⟨method, ln.ticks⟩]) = state.called
    rw [noted, if_pos rfl, called]

theorem orderly_next (orderly : Orderly ln) (set : ln.reqTimer = true) :
    Orderly { ln with reqTimer := false }.usteerLocalNodeStateNext := by
  unfold LocalNodeReq.usteerLocalNodeStateNext
  cases orderly.phase with
  | resting _ off => rw [off] at set; cases set
  | asking _ off => rw [off] at set; cases set
  | due idle _ quiet fresh =>
    simp only [idle, LocalReqState.succ]
    exact orderly_invoke orderly rfl quiet (by rw [fresh]; rfl)
  | answered stands _ quiet called =>
    cases state : ln.reqState with
    | idle => rw [state] at stands; cases stands
    | clients =>
      rw [state] at called
      simp only [LocalReqState.succ]
      exact orderly_invoke orderly rfl quiet (by rw [called]; rfl)
    | rrmSetList =>
      rw [state] at called
      simp only [LocalReqState.succ]
      exact orderly_invoke orderly rfl quiet (by rw [called]; rfl)
    | rrmGetOwn =>
      simp only [LocalReqState.succ]
      exact ⟨orderly.ticks, orderly.stamped, orderly.own, orderly.order, .resting rfl rfl quiet⟩

theorem orderly_reply {req : Request} (orderly : Orderly ln) (inside : req ∈ ln.pending) (refused : Bool) :
    Orderly (ln.reply req refused) := by
  cases orderly.phase with
  | resting _ _ quiet => rw [quiet] at inside; cases inside
  | due _ _ quiet => rw [quiet] at inside; cases inside
  | answered _ _ quiet => rw [quiet] at inside; cases inside
  | @asking method stands off waits cb completes called =>
    rw [waits, List.mem_singleton] at inside
    subst inside
    unfold LocalNodeReq.reply
    cases found : ln.dataCb with
    | none => exact orderly
    | some cb' =>
      have belongs : method.dataCb = some cb' := cb.symm.trans found
      have noted : ∀ k, issuedAt k (ln.history ++ [.handled cb' ⟨method, ln.ticks⟩]) = issuedAt k ln.history := by
        intro k
        rw [issuedAt_append]
        by_cases here : ln.ticks = k
        · simp [issuedAt, issuedOf, Note.request, Note.issues, here]
        · simp [issuedAt, issuedOf, Note.request, here]
      have handled : Orderly { ln with history := ln.history ++ [.handled cb' ⟨method, ln.ticks⟩] } := by
        refine ⟨?_, stamped_append orderly.stamped fun req found => ?_, fun cb req inside => ?_, fun k => ?_,
          .asking stands off waits cb completes ?_⟩
        · show ln.ticks = (ln.history ++ [Note.handled cb' ⟨method, ln.ticks⟩]).count Note.tick
          rw [List.count_append, orderly.ticks]
          simp
        · cases found
          exact orderly.ticks
        · rcases List.mem_append.mp inside with earlier | here
          · exact orderly.own cb req earlier
          · rw [List.mem_singleton] at here
            cases here
            exact belongs
        · show issuedAt k (ln.history ++ [.handled cb' ⟨method, ln.ticks⟩]) <+: rounds
          rw [noted]
          exact orderly.order k
        · show issuedAt ln.ticks (ln.history ++ [.handled cb' ⟨method, ln.ticks⟩]) = ln.reqState.called
          rw [noted]
          exact called
      rw [found] at handled
      dsimp only
      split
      · exact orderly_free handled
      · exact handled

theorem orderly_complete {req : Request} (orderly : Orderly ln) (inside : req ∈ ln.pending) :
    Orderly (ln.complete req) := by
  cases orderly.phase with
  | resting _ _ quiet => rw [quiet] at inside; cases inside
  | due _ _ quiet => rw [quiet] at inside; cases inside
  | answered _ _ quiet => rw [quiet] at inside; cases inside
  | asking stands off waits cb completes called =>
    rw [waits, List.mem_singleton] at inside
    subst inside
    unfold LocalNodeReq.complete
    rw [if_pos completes]
    refine ⟨orderly.ticks, orderly.stamped, orderly.own, orderly.order, .answered stands rfl ?_ called⟩
    show ln.pending.erase _ = []
    rw [waits, List.erase_cons_head]

theorem orderly_step {event : NodeEvent} (orderly : Orderly ln) (step : ln.step event = some ln') : Orderly ln' := by
  cases event with
  | update =>
    obtain ⟨_, result⟩ := Option.ite_none_right_eq_some.mp step
    cases result
    exact orderly_update orderly
  | reqTimer =>
    obtain ⟨set, result⟩ := Option.ite_none_right_eq_some.mp step
    cases result
    exact orderly_next orderly set
  | reply req refused =>
    obtain ⟨inside, result⟩ := Option.ite_none_right_eq_some.mp step
    cases result
    exact orderly_reply orderly inside refused
  | complete req =>
    obtain ⟨inside, result⟩ := Option.ite_none_right_eq_some.mp step
    cases result
    exact orderly_complete orderly inside
  | remove =>
    obtain ⟨_, result⟩ := Option.ite_none_right_eq_some.mp step
    cases result
    exact orderly_free orderly

theorem orderly_run (events : List NodeEvent) :
    ∀ {ln ln' : LocalNodeReq}, Orderly ln → ln.run events = some ln' → Orderly ln' := by
  induction events with
  | nil =>
    intro ln ln' orderly run
    cases run
    exact orderly
  | cons event rest ih =>
    intro ln ln' orderly run
    obtain ⟨ln1, step, later⟩ := Option.bind_eq_some_iff.mp run
    exact ih (orderly_step orderly step) later

end Step

/-- Whatever the order of ticks, timers, replies and completions: one request at most is
    on its way, its replies go to its own callback, none is handled after the next tick,
    and a round calls its methods in order, each once at most. -/
theorem one_request_at_a_time {events : List NodeEvent} {ln : LocalNodeReq}
    (run : LocalNodeReq.usteerGetNode.run events = some ln) :
    ln.pending.length ≤ 1 ∧ OwnCallback ln.history ∧ NoLateReply ln.history ∧ InOrder ln.history := by
  have orderly := orderly_run events orderly_start run
  refine ⟨?_, orderly.own, orderly.stamped.noLateReply, orderly.stamped.inOrder orderly.order⟩
  cases orderly.phase with
  | resting _ _ quiet => simp [quiet]
  | due _ _ quiet => simp [quiet]
  | asking _ _ waits => simp [waits]
  | answered _ _ quiet => simp [quiet]

/-- A round whose last request is cut off by the next tick. -/
def interruptedRound : List NodeEvent :=
  [.update, .reqTimer, .reply ⟨.getClients, 1⟩ false, .complete ⟨.getClients, 1⟩, .reqTimer, .complete ⟨.rrmNrSet, 1⟩,
    .reqTimer, .update, .reqTimer]

theorem one_request_at_a_time_interrupted : ∃ ln, LocalNodeReq.usteerGetNode.run interruptedRound = some ln ∧
    ln.pending = [⟨.getClients, 2⟩] ∧ issuedOf ln.history = [.getClients, .rrmNrSet, .rrmNrGetOwn, .getClients] ∧
    InOrder ln.history := by
  have evaluates : (LocalNodeReq.usteerGetNode.run interruptedRound).any (fun ln => decide (
      ln.pending = [⟨.getClients, 2⟩] ∧
        issuedOf ln.history = [.getClients, .rrmNrSet, .rrmNrGetOwn, .getClients])) = true := by
    decide +kernel
  obtain ⟨ln, run, facts⟩ := (Option.any_eq_true _ _).mp evaluates
  obtain ⟨pending, issued⟩ := of_decide_eq_true facts
  exact ⟨ln, run, pending, issued, (one_request_at_a_time run).2.2.2⟩

end Usteer.Requests
