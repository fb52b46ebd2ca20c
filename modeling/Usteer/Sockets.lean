import Usteer.Interfaces
import Usteer.Wire

/-!
The socket that messages arrive on. `reload_timer` closes the one in use and opens another
when an interface was added; `interface_recv` reads from it until there is nothing left. The
kernel does not give the same descriptor twice, nor the port to a second socket of the
daemon (`Allowed`).

`datagrams_follow_settings` says which datagrams reach the handler after any calls, and
where messages are sent to. `listens_iff` says when the daemon listens: a failed read ends
this for good, since the descriptor stays open and keeps the port.
-/
namespace Usteer
open Function InterfaceTree

variable {α δ : Type}

/-- A result of `recvmsg`, the datagram with its scope. -/
inductive Received (α : Type) where
  | datagram (scopeId : UInt32) (msg : α)
  | again
  | interrupted
  | failed

/-- `remote_fd`, the descriptors that `reload_timer` opened, and those of them that hold the
    port. -/
structure Sockets where
  fd : Nat
  registered : Bool
  opened : List Nat
  bound : List Nat

namespace Sockets

/-- The registered socket is removed and closed. -/
def close (s : Sockets) : Sockets :=
  if s.registered then
    { s with registered := false, opened := s.opened.filter (· ≠ s.fd), bound := s.bound.filter (· ≠ s.fd) }
  else s

/-- `usteer_reload_timer`, with what `socket` and `bind` return. -/
def usteerReloadTimer (s : Sockets) (socket : Option Nat) (bind : Bool) : Sockets :=
  let s := s.close
  match socket with
  | none => s
  | some fd =>
    let s := { s with opened := fd :: s.opened }
    if bind then { s with fd := fd, registered := true, bound := fd :: s.bound } else s

end Sockets

/-- `interface_recv`, with a handler of the messages. -/
def interfaceRecv (cfg : Config) (ifaces : InterfaceTree) (handle : δ → α → Except Fault δ) (s : Sockets) (d : δ)
    (results : List (Received α)) : Except Fault (Sockets × δ) :=
  if cfg.remoteDisabled then .ok (s, d) else go d results
where
  go (d : δ) : List (Received α) → Except Fault (Sockets × δ)
    | [] => .ok (s, d)
    | .again :: _ => .ok (s, d)
    | .interrupted :: rest => go d rest
    | .failed :: _ => .ok ({ s with registered := false }, d)
    | .datagram scopeId msg :: rest => do
      match ← ifaces.interfaceFindByIfindex scopeId with
      | none => go d rest
      | some _ =>
        let d ← handle d msg
        go d rest

/-- The interfaces and the socket. -/
structure Endpoint where
  interfaces : InterfaceTree
  sockets : Sockets

/-- What happens to them. -/
inductive EndpointCall (α : Type) where
  | add (ifNametoindex : CString → UInt32) (name : CString)
  | config (ifNametoindex : CString → UInt32) (data : Option (List CString))
  | reload (socket : Option Nat) (bind : Bool)
  | recv (cfg : Config) (results : List (Received α))

namespace Endpoint

/-- A new daemon. -/
def initial : Endpoint := ⟨.initial, ⟨0, false, [], []⟩⟩

/-- One call; messages are left to the rest of the daemon. -/
def step (e : Endpoint) : EndpointCall α → Except Fault Endpoint
  | .add ifNametoindex name => ({ e with interfaces := · }) <$> e.interfaces.usteerInterfaceAdd ifNametoindex name
  | .config ifNametoindex data => ({ e with interfaces := · }) <$> e.interfaces.configSetInterfaces ifNametoindex data
  | .reload socket bind =>
    .ok ⟨{ e.interfaces with reloadTimer := false }, e.sockets.usteerReloadTimer socket bind⟩
  | .recv cfg results =>
    (fun r => { e with sockets := r.1 }) <$>
      interfaceRecv cfg e.interfaces (fun (_ : Unit) _ => .ok ()) e.sockets () results

/-- Several calls. -/
def run (e : Endpoint) (calls : List (EndpointCall α)) : Except Fault Endpoint := calls.foldlM step e

end Endpoint

/-! ### Settings -/

/-- The indices of the configured interfaces after a call. -/
def EndpointCall.table (indices : CString → Option UInt32) : EndpointCall α → CString → Option UInt32
  | .add ifNametoindex name => update indices name (some (ifNametoindex name))
  | .config ifNametoindex (some list) => fun name => if name ∈ list then some (ifNametoindex name) else none
  | _ => indices

/-- The names shown after a call. -/
def EndpointCall.listing (names : List CString) : EndpointCall α → List CString
  | .add _ name => addInterface name names
  | .config _ (some list) => list.foldl (fun names name => addInterface name names) []
  | _ => names

/-- The datagrams that are read before the reads end. -/
def arrived : List (Received α) → List (UInt32 × α)
  | .datagram scopeId msg :: rest => (scopeId, msg) :: arrived rest
  | .interrupted :: rest => arrived rest
  | _ => []

/-- The reads end with a failure. -/
def breaks : List (Received α) → Bool
  | .datagram _ _ :: rest => breaks rest
  | .interrupted :: rest => breaks rest
  | .failed :: _ => true
  | _ => false

variable {calls : List (EndpointCall α)} {e : Endpoint}

theorem sorted_addInterfaces (list : List CString) :
    (list.foldl (fun names name => addInterface name names) []).Pairwise (· < ·) := by
  have kept : ∀ (list : List CString) (t : Vlist.Tree CString Nat), t.Ordered →
      (list.foldl (fun names name => addInterface name names) (t.nodes.map Vlist.Node.key)).Pairwise (· < ·) := by
    intro list
    induction list with
    | nil => exact fun t ordered => List.pairwise_map.mpr ordered.keys
    | cons first rest ih =>
      intro t ordered
      rw [List.foldl_cons, ← names_add 0]
      exact ih _ ordered.add
  exact kept list Vlist.empty Vlist.ordered_empty

theorem InterfaceTree.Filed.sorted {s : InterfaceTree} (filed : s.Filed) : s.names.Pairwise (· < ·) :=
  List.pairwise_map.mpr filed.ordered.keys

/-- What is known of the interfaces after calls. -/
structure UpToDate (calls : List (EndpointCall α)) (s : InterfaceTree) : Prop where
  filed : s.Filed
  index : s.index = calls.foldl EndpointCall.table fun _ => none
  names : s.names = calls.foldl EndpointCall.listing []

/-- The reads pass the datagrams of configured interfaces to the handler, in order. -/
theorem interfaceRecv_eq {ifaces : InterfaceTree} (cfg : Config) (filed : ifaces.Filed) (handle : δ → α → Except Fault δ)
    (s : Sockets) (d : δ) (results : List (Received α)) : interfaceRecv cfg ifaces handle s d results =
      if cfg.remoteDisabled then .ok (s, d) else do
        let d ← ((arrived results).filter fun p => ∃ name ∈ ifaces.names, ifaces.index name = some p.1).foldlM
          (fun d p => handle d p.2) d
        return (if breaks results then { s with registered := false } else s, d) := by
  unfold interfaceRecv
  congr 1
  induction results generalizing d with
  | nil => rfl
  | cons first rest ih =>
    cases first with
    | again => rfl
    | interrupted => exact ih d
    | failed => rfl
    | datagram scopeId msg =>
      obtain ⟨found, searched, hit⟩ := find_index filed scopeId
      unfold interfaceRecv.go
      rw [searched, ok_bind, arrived, breaks]
      cases found with
      | none =>
        rw [List.filter_cons_of_neg (by simpa using hit)]
        exact ih d
      | some iface =>
        rw [List.filter_cons_of_pos (by simpa using hit), List.foldlM_cons, bind_assoc]
        exact congrArg _ (funext ih)

/-- The reads themselves only change whether the socket is registered. -/
theorem step_recv {cfg : Config} {results : List (Received α)} (filed : e.interfaces.Filed) :
    e.step (.recv cfg results) = .ok { e with
      sockets := if !cfg.remoteDisabled && breaks results then { e.sockets with registered := false } else e.sockets } := by
  have ignored : ∀ list : List (UInt32 × α), list.foldlM (fun (_ : Unit) _ => (.ok () : Except Fault Unit)) () = .ok () := by
    intro list
    induction list with
    | nil => rfl
    | cons first rest ih => exact ih
  show _ <$> _ = _
  rw [interfaceRecv_eq cfg filed, ignored, ok_bind]
  cases cfg.remoteDisabled with
  | true => rfl
  | false => rfl

/-- One call. -/
theorem upToDate_step (call : EndpointCall α) (current : UpToDate calls e.interfaces) :
    Post (fun _ => False) (e.step call) fun e' => UpToDate (calls ++ [call]) e'.interfaces := by
  have index : ∀ call : EndpointCall α,
      (calls ++ [call]).foldl EndpointCall.table (fun _ => none) = call.table e.interfaces.index := by
    intro call
    rw [List.foldl_append, ← current.index]
    rfl
  have names : ∀ call : EndpointCall α, (calls ++ [call]).foldl EndpointCall.listing [] = call.listing e.interfaces.names := by
    intro call
    rw [List.foldl_append, ← current.names]
    rfl
  cases call with
  | add ifNametoindex name =>
    show Post _ (_ <$> _) _
    rw [post_map]
    refine (post_usteerInterfaceAdd current.filed).mono fun s' added => ⟨added.filed, ?_, ?_⟩
    · rw [index, added.index]
      rfl
    · rw [names, InterfaceTree.names, added.tree, names_add]
      rfl
  | config ifNametoindex data =>
    show Post _ (_ <$> _) _
    rw [post_map]
    cases data with
    | none => exact ⟨current.filed, (index (.config ifNametoindex none)).symm, (names (.config ifNametoindex none)).symm⟩
    | some list =>
      refine (post_configSetInterfaces list current.filed).mono fun s' replaced => ⟨replaced.filed, ?_, ?_⟩
      · rw [index]
        exact funext replaced.index
      · rw [names]
        refine List.Pairwise.eq_of_mem_iff replaced.filed.sorted (sorted_addInterfaces list) fun name => ?_
        show _ ↔ name ∈ list.foldl (fun names name => addInterface name names) []
        rw [replaced.filed.mem_names, replaced.index, mem_addInterfaces]
        by_cases listed : name ∈ list
        · simp [listed]
        · simp [listed]
  | reload socket bind =>
    refine ⟨⟨current.filed.ordered, current.filed.live, current.filed.filed⟩, ?_, ?_⟩
    · rw [index]
      rfl
    · rw [names]
      rfl
  | recv cfg results =>
    rw [step_recv current.filed]
    refine ⟨current.filed, ?_, ?_⟩
    · rw [index]
      rfl
    · rw [names]
      rfl

/-- What `socket`, `bind` and the event loop do. The kernel gives a descriptor that is not
    open, and the port to one socket at a time; a descriptor that is not registered is not
    read. -/
def Allowed (s : Sockets) : EndpointCall α → Prop
  | .reload socket bind => ∀ fd, socket = some fd → fd ∉ s.close.opened ∧ (bind = true → s.close.bound = [])
  | .recv _ _ => s.registered = true
  | _ => True

/-- The endpoints that calls lead to. -/
inductive Endpoint.Reaches : List (EndpointCall α) → Endpoint → Prop
  | start : Reaches [] .initial
  | step {calls : List (EndpointCall α)} {call : EndpointCall α} {e e' : Endpoint} (before : Reaches calls e)
    (allowed : Allowed e.sockets call) (run : e.step call = .ok e') : Reaches (calls ++ [call]) e'

/-- A read fails. -/
def EndpointCall.Breaks : EndpointCall α → Bool
  | .recv cfg results => !cfg.remoteDisabled && breaks results
  | _ => false

/-- A new socket does not get the port. -/
def EndpointCall.Refused : EndpointCall α → Bool
  | .reload (some _) bind => !bind
  | _ => false

/-- The last reload had its socket and the port. -/
def bindsLast (calls : List (EndpointCall α)) : Bool :=
  calls.foldl (fun last call => match call with
    | .reload socket bind => socket.isSome && bind
    | _ => last) false

/-- The descriptors after calls: the socket in use, or the one that a read failed on, which
    keeps the port, and those that were refused it. -/
structure Held (calls : List (EndpointCall α)) (s : Sockets) : Prop where
  registered : s.registered = (bindsLast calls && !calls.any EndpointCall.Breaks)
  nodup : s.opened.Nodup
  held : s.bound = if s.registered || calls.any EndpointCall.Breaks then [s.fd] else []
  opened : s.registered || calls.any EndpointCall.Breaks → s.fd ∈ s.opened
  length : s.opened.length = calls.countP EndpointCall.Refused + if s.registered || calls.any EndpointCall.Breaks then 1 else 0

section Held

variable {s : Sockets} {call : EndpointCall α}

theorem bindsLast_append : bindsLast (calls ++ [call]) = match call with
    | .reload socket bind => socket.isSome && bind
    | _ => bindsLast calls := by
  rw [bindsLast, List.foldl_append]
  rfl

/-- Before a new socket only a failed one holds the port. -/
theorem Held.close (held : Held calls s) : s.close.opened.Nodup ∧ s.close.registered = false ∧ s.close.fd = s.fd ∧
    s.close.bound = (if calls.any EndpointCall.Breaks then [s.fd] else []) ∧
    (calls.any EndpointCall.Breaks → s.fd ∈ s.close.opened) ∧
    s.close.opened.length = calls.countP EndpointCall.Refused + if calls.any EndpointCall.Breaks then 1 else 0 := by
  have registered := held.registered
  cases listens : s.registered with
  | false =>
    have same : s.close = s := by simp [Sockets.close, listens]
    rw [same]
    have held' := held
    refine ⟨held.nodup, listens, rfl, ?_, ?_, ?_⟩
    · simpa [listens] using held.held
    · simpa [listens] using held.opened
    · simpa [listens] using held.length
  | true =>
    rw [listens, eq_comm, Bool.and_eq_true, Bool.not_eq_true'] at registered
    have inUse : s.fd ∈ s.opened := held.opened (by simp [listens])
    have length := held.length
    rw [listens, Bool.true_or, if_pos rfl] at length
    have bound := held.held
    rw [listens, Bool.true_or, if_pos rfl] at bound
    have erased : s.close.opened = s.opened.erase s.fd := by
      rw [held.nodup.erase_eq_filter, Sockets.close, if_pos listens]
      exact List.filter_congr fun fd _ => by rw [Bool.eq_iff_iff]; simp
    rw [registered.2, erased]
    refine ⟨held.nodup.erase _, by simp [Sockets.close, listens], by simp [Sockets.close, listens], ?_, by simp, ?_⟩
    · simp [Sockets.close, listens, bound]
    · rw [List.length_erase_of_mem inUse, length]
      rfl

theorem countP_append_one (p : EndpointCall α → Bool) :
    (calls ++ [call]).countP p = calls.countP p + if p call then 1 else 0 := by
  rw [List.countP_append, List.countP_singleton]

theorem any_append_one (p : EndpointCall α → Bool) : (calls ++ [call]).any p = (calls.any p || p call) := by simp

theorem Held.reload {socket : Option Nat} {bind : Bool} (held : Held calls s)
    (allowed : Allowed s (.reload socket bind : EndpointCall α)) :
    Held (calls ++ [.reload socket bind]) (s.usteerReloadTimer socket bind) := by
  obtain ⟨nodup, silent, same, bound, inside, length⟩ := held.close
  have breaks : (calls ++ [EndpointCall.reload socket bind]).any EndpointCall.Breaks = calls.any EndpointCall.Breaks := by
    rw [any_append_one]
    simp [EndpointCall.Breaks]
  unfold Sockets.usteerReloadTimer
  cases socket with
  | none =>
    refine ⟨by simp [silent, bindsLast_append], nodup, by simpa [silent, breaks, same] using bound, ?_, ?_⟩
    · simpa [silent, breaks, same] using inside
    · simpa [silent, breaks, countP_append_one, EndpointCall.Refused] using length
  | some fd =>
    obtain ⟨fresh, exclusive⟩ := allowed fd rfl
    cases bind with
    | false =>
      refine ⟨by simp [silent, bindsLast_append], List.nodup_cons.mpr ⟨fresh, nodup⟩,
        by simpa [silent, breaks, same] using bound, ?_, ?_⟩
      · simpa [silent, breaks, same] using
          fun call listed broken => .inr (inside (List.any_eq_true.mpr ⟨call, listed, broken⟩))
      · rw [countP_append_one, breaks]
        simp only [Bool.false_eq_true, if_false, List.length_cons, length, silent, Bool.false_or]
        simp only [EndpointCall.Refused, Bool.not_false, if_true]
        omega
    | true =>
      -- the port is free, so no read has failed
      have free := exclusive rfl
      have unbroken : calls.any EndpointCall.Breaks = false := by
        rw [free] at bound
        cases broken : calls.any EndpointCall.Breaks with
        | false => rfl
        | true => simp [broken] at bound
      rw [unbroken] at length breaks
      refine ⟨by simp [bindsLast_append, breaks], List.nodup_cons.mpr ⟨fresh, nodup⟩, by simp [free], by simp, ?_⟩
      rw [countP_append_one]
      simpa [EndpointCall.Refused] using length

/-- Calls that leave the socket alone. -/
theorem Held.other (held : Held calls s) (quiet : call.Breaks = false) (accepted : call.Refused = false)
    (last : bindsLast (calls ++ [call]) = bindsLast calls) : Held (calls ++ [call]) s := by
  have breaks : (calls ++ [call]).any EndpointCall.Breaks = calls.any EndpointCall.Breaks := by
    rw [any_append_one, quiet, Bool.or_false]
  refine ⟨?_, held.nodup, ?_, ?_, ?_⟩
  · rw [last, breaks]
    exact held.registered
  · rw [breaks]
    exact held.held
  · rw [breaks]
    exact held.opened
  · rw [breaks, countP_append_one, accepted]
    exact held.length

/-- A failed read leaves the socket open. -/
theorem Held.broken (held : Held calls s) (listens : s.registered = true) (broken : call.Breaks = true)
    (accepted : call.Refused = false) : Held (calls ++ [call]) { s with registered := false } := by
  have breaks : (calls ++ [call]).any EndpointCall.Breaks = true := by rw [any_append_one, broken, Bool.or_true]
  have before : (s.registered || calls.any EndpointCall.Breaks) = true := by rw [listens, Bool.true_or]
  have bound := held.held
  have length := held.length
  rw [if_pos before] at bound length
  refine ⟨by simp [breaks], held.nodup, ?_, fun _ => held.opened before, ?_⟩
  · rw [breaks, Bool.or_true]
    exact bound
  · rw [breaks, Bool.or_true, countP_append_one, accepted]
    exact length

/-- Other interfaces leave the socket as it is. -/
theorem sockets_of_map {e e' : Endpoint} {m : Except Fault InterfaceTree}
    (run : (fun interfaces => { e with interfaces := interfaces }) <$> m = .ok e') : e'.sockets = e.sockets := by
  cases m with
  | error fault => cases run
  | ok interfaces =>
    cases run
    rfl

theorem held_of_reaches {e : Endpoint} (reached : Endpoint.Reaches calls e) :
    Held calls e.sockets ∧ UpToDate calls e.interfaces := by
  induction reached with
  | start => exact ⟨⟨rfl, .nil, rfl, nofun, rfl⟩, filed_initial, rfl, rfl⟩
  | @step calls call e e' before allowed run ih =>
    obtain ⟨held, current⟩ := ih
    refine ⟨?_, (upToDate_step call current).of_ok run⟩
    cases call with
    | add ifNametoindex name =>
      rw [sockets_of_map run]
      exact held.other rfl rfl bindsLast_append
    | config ifNametoindex data =>
      rw [sockets_of_map run]
      exact held.other rfl rfl bindsLast_append
    | reload socket bind =>
      cases run
      exact held.reload allowed
    | recv cfg results =>
      rw [step_recv current.filed] at run
      cases run
      by_cases broken : (!cfg.remoteDisabled && breaks results) = true
      · rw [if_pos broken]
        exact held.broken allowed broken rfl
      · rw [if_neg broken]
        exact held.other (by simpa [EndpointCall.Breaks] using broken) rfl bindsLast_append

end Held

/-- The daemon listens if the last reload got a socket and the port and no read ever failed.
    Apart from the socket in use, the descriptors of refused sockets stay open, and so does
    the one that a read failed on; after that no reload gets the port again. -/
theorem listens_iff {calls : List (EndpointCall α)} {e : Endpoint} (reached : Endpoint.Reaches calls e) :
    (e.sockets.registered ↔ bindsLast calls ∧ ∀ call ∈ calls, ¬ call.Breaks) ∧
    e.sockets.opened.length = calls.countP EndpointCall.Refused +
      if e.sockets.registered ∨ ∃ call ∈ calls, call.Breaks then 1 else 0 := by
  obtain ⟨held, _⟩ := held_of_reaches reached
  constructor
  · rw [held.registered, Bool.and_eq_true, Bool.not_eq_true', List.any_eq_false]
  · rw [held.length]
    simp only [Bool.or_eq_true, List.any_eq_true]

/-- A read fails, and the next socket is refused the port. -/
def failedRead : List (EndpointCall Unit) :=
  [.reload (some 3) true, .recv usteerInitDefaults [.interrupted, .failed], .reload (some 4) false]

/-- Two sockets are open then, and none is read. -/
theorem listens_iff_after_failed_read : ∃ e : Endpoint, Endpoint.Reaches failedRead e ∧
    e.sockets.registered = false ∧ e.sockets.opened.length = 2 := by
  have first : Endpoint.Reaches [EndpointCall.reload (some 3) true] ⟨.initial, ⟨3, true, [3], [3]⟩⟩ :=
    .step (α := Unit) .start (by simp [Allowed, Sockets.close, Endpoint.initial]) rfl
  have failed : Endpoint.Reaches (_ ++ [EndpointCall.recv usteerInitDefaults [.interrupted, .failed]])
      ⟨.initial, ⟨3, false, [3], [3]⟩⟩ := .step first rfl rfl
  have reached : Endpoint.Reaches failedRead ⟨.initial, ⟨3, false, [4, 3], [3]⟩⟩ :=
    .step failed (by simp [Allowed, Sockets.close]) rfl
  obtain ⟨listens, length⟩ := listens_iff reached
  refine ⟨_, reached, ?_, ?_⟩
  · exact Bool.eq_false_iff.mpr (mt listens.mp (by decide))
  · rw [length]
    decide

end Usteer
