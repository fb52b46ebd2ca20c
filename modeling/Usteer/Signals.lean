import Usteer.Entries
import Usteer.RemoteIndex
import Usteer.Search

/-!
Entries without a measurement. An entry is allocated zeroed, and a signal of zero is stronger
than that of any station. As long as no event, client table or message supplies a signal for
the entry, it stays zero (`signal_unsupplied`), and the comparison of signals takes the entry
for the strongest one.
-/
namespace Usteer
open SearchTree Timeout Function Daemon

/-! ### The index of remote nodes holds them under their own ids -/

/-- Every node in the tree has the id that it is filed under. -/
def Keyed (d : Daemon) : Prop :=
  ∀ {key n}, (key, n) ∈ d.remoteNodes.toList →
    ∃ node id name, d.nodes.get? n = some node ∧ remoteKey node = some (id, name) ∧ key = id.toUInt64

section Keyed

variable {env : Platform} {cfg : Config} {scope : Scope} {d d' : Daemon}

theorem keyed_change (keyed : Keyed d) (sound : Sound none d) (change : Change env cfg scope d d') : Keyed d' := by
  intro key n inside
  cases change with
  | moves moves =>
    have survives : Survives d d' := survives_moves moves
    rw [survives.remoteNodes] at inside
    obtain ⟨node, id, name, live, isKey, same⟩ := keyed inside
    obtain ⟨node', live', identity⟩ := survives.node live
    exact ⟨node', id, name, live', (congrArg Prod.fst identity).trans isKey, same⟩
  | shrink shrunk sound' tree =>
    have before : (key, n) ∈ d.remoteNodes.toList := by
      rcases tree with same | ⟨m, deleted⟩
      · rwa [same] at inside
      · rw [deleted, mem_delete] at inside
        exact inside.1
    -- the node is still indexed, so it is still there
    obtain ⟨node', live', -⟩ := node_of_remotes sound'.registered (List.mem_map_of_mem inside)
    obtain ⟨node, live, identity⟩ := shrunk.nodes live'
    obtain ⟨node1, id, name, live1, isKey, same⟩ := keyed before
    cases live.symm.trans live1
    exact ⟨node', id, name, live', (congrArg Prod.fst identity).trans isKey, same⟩
  | join joined sound' indexes =>
    have old : (key, n) ∈ d.remoteNodes.toList → ∃ node id name,
        d'.nodes.get? n = some node ∧ remoteKey node = some (id, name) ∧ key = id.toUInt64 := by
      intro before
      have other : n ≠ d.nodes.next := fun same => (next_fresh sound).2 (same ▸ List.mem_map_of_mem before)
      rw [joined.nodes, Heap.get?_alloc, if_neg other]
      exact keyed before
    cases indexes with
    | loc name unknown tree =>
      rw [tree] at inside
      exact old inside
    | remote addr id name sent unknown tree locals =>
      rw [tree, mem_insert] at inside
      rcases inside with same | before
      · cases same
        refine ⟨newRemoteNode addr id.toUInt64 name, id, name, ?_, ?_, rfl⟩
        · rw [joined.nodes, Heap.get?_alloc, if_pos rfl]
        · show some (id.toUInt64.toUInt32, name) = some (id, name)
          rw [UInt32.toUInt32_toUInt64]
      · exact old before

theorem keyed_evolves (keyed : Keyed d) (sound : Sound none d) (evolves : Evolves env cfg scope d d') : Keyed d' := by
  induction evolves with
  | refl => exact keyed
  | tail before change ih => exact keyed_change ih (sound_evolves sound before) change

theorem System.Reachable.keyed {meets : SystemInput → Prop} {s : System} (reach : System.Reachable env meets s) :
    Keyed s.daemon := by
  refine (reach.daemon (P := Keyed) ?_ ?_ fun _ keyed => keyed).2
  · intro localId clock key n inside
    cases inside
  · intro cfg d d' input sound accepts handled keyed
    rcases (post_handle sound accepts).of_ok handled with ⟨ms, -, rfl⟩ | evolves
    · exact keyed
    · exact keyed_evolves keyed sound evolves

end Keyed

/-! ### What supplies a signal -/

/-- The input supplies a signal of the station on the node, a remote one by its id and name:
    an event with a signal, a client table with an average of the kernel, or a message that
    lists the station. -/
def Input.Supplies : Input → MacAddr → NodeId → Option (UInt32 × CString) → Prop
  | .staEvent n addr _ _ signal, a, m, _ => signal ≠ noSignal ∧ a = addr ∧ m = n
  | .clients n msg, a, m, _ => msg.HeardBy a ∧ m = n
  | .message _ msg, a, _, key =>
    ∃ node ∈ msg.nodes, key = some (msg.id, node.name) ∧ ∃ sta ∈ node.stations, sta.addr = a
  | _, _, _, _ => False

/-- The scope of an input, with all that is known about the signals. -/
def Input.hearing (input : Input) : Scope :=
  { input.scope with unheard := fun a m key => ¬ input.Supplies a m key }

section Hearing

variable {env : Platform} {cfg : Config} {scope : Scope} {d d' : Daemon} {si : SiId} {info' : StaInfo}

theorem hearing_scope {input : Input} (other : ∀ addr msg, input ≠ .message addr msg) :
    input.hearing = input.scope := by
  cases input with
  | message addr msg => exact absurd rfl (other addr msg)
  | staEvent n addr type freq signal => simp [Input.hearing, Input.scope, Input.Supplies]
  | clients n msg => simp [Input.hearing, Input.scope, Input.Supplies]
  | _ => simp [Input.hearing, Input.scope, Input.Supplies, Scope.quiet, Scope.policy]

/-- A message supplies signals of the stations that it lists under the nodes it names. -/
theorem post_heardMessage (addr : CString) (msg : Apmsg) (keyed : Keyed d) (sound : Sound none d) :
    Post AnyFault (d.interfaceRecvMsg env cfg addr msg) (fun d' =>
      Evolves env cfg (Input.message addr msg).hearing d d') := by
  unfold interfaceRecvMsg
  split
  · exact .refl
  · refine post_foldlM (I := fun d' => Evolves env cfg (Input.message addr msg).hearing d d') msg.nodes ?_ d .refl
    intro d' evolves node listed
    refine ((post_interfaceAddNode addr rfl ?_ (sound_evolves sound evolves)).excuse fun _ _ => trivial).mono
      fun d'' more => evolves.trans more
    intro n key found sta among unheard
    have isKey : key = (msg.id, node.name) := by
      rcases found with ⟨-, same⟩ | ⟨inside, node', live, named, isKey⟩
      · exact same
      · obtain ⟨node1, id, name, live1, isKey1, same⟩ :=
        keyed_evolves keyed sound evolves (entry_of_remoteGroup inside)
        cases live.symm.trans live1
        cases isKey.symm.trans isKey1
        rw [remoteName_eq, isKey] at named
        cases named
        rw [UInt32.toUInt64_inj.mp same]
    exact unheard ⟨node, listed, by rw [isKey], sta, among, rfl⟩

theorem heard_handle {input : Input} (keyed : Keyed d) (sound : Sound none d) (accepts : d.Accepts input)
    (handled : d.handle env cfg input = .ok d') :
    (∃ ms, d' = { d with clock := d.clock + ms }) ∨ Evolves env cfg input.hearing d d' := by
  cases input with
  | message addr msg =>
    have message : (if cfg.remoteDisabled then .ok d else d.interfaceRecvMsg env cfg addr msg) = .ok d' := handled
    split at message
    · cases message
      exact .inr .refl
    · exact .inr ((post_heardMessage addr msg keyed sound).of_ok message)
  | _ =>
    rcases (post_handle sound accepts).of_ok handled with ⟨ms, -, rfl⟩ | evolves
    · exact .inl ⟨ms, rfl⟩
    · rw [hearing_scope (by simp)]
      exact .inr evolves

/-! ### A signal that is not supplied stays -/

/-- The signal is zero, or it is that of the entry before, of whose station no signal is
    learned either. -/
def Keeps (scope : Scope) (d : Daemon) (si : SiId) (info' : StaInfo) : Prop :=
  info'.signal = 0 ∨ ∃ info, d.infos.get? si = some info ∧ info'.signal = info.signal ∧ Unheard scope d info

theorem Keeps.trans (keeps : Keeps scope d' si info')
    (before : ∀ {info}, d'.infos.get? si = some info → Unheard scope d' info → Keeps scope d si info) :
    Keeps scope d si info' := by
  rcases keeps with zero | ⟨info, live, same, unheard⟩
  · exact .inl zero
  · rcases before live unheard with zero | ⟨info0, live0, same0, unheard0⟩
    · exact .inl (same.trans zero)
    · exact .inr ⟨info0, live0, same.trans same0, unheard0⟩

theorem signal_move {a b : Option StaId × Daemon} (sound : Sound a.1 a.2) (move : Move env cfg scope a b)
    (live' : b.2.infos.get? si = some info') (unheard : Unheard scope b.2 info') : Keeps scope a.2 si info' := by
  rcases info_move move live' with ⟨info, live, edited⟩ | ⟨-, n, s, freq, rfl⟩
  · have survives := survives_move move
    obtain ⟨sta, liveSta, -⟩ := sta_of_info sound.links live
    obtain ⟨node, liveNode, -⟩ := node_of_info sound.links live
    obtain ⟨sta1, liveSta1, addr⟩ := survives.stas liveSta
    obtain ⟨node1, liveNode1, identity⟩ := survives.node liveNode
    obtain ⟨sta', node', liveSta', liveNode', unheard⟩ := unheard
    rw [edited.sta, liveSta1] at liveSta'
    rw [edited.node, liveNode1] at liveNode'
    cases liveSta'
    cases liveNode'
    have key : remoteKey node1 = remoteKey node := congrArg Prod.fst identity
    rw [addr, edited.node, key] at unheard
    have before : Unheard scope a.2 info := ⟨sta, node, liveSta, liveNode, unheard⟩
    exact .inr ⟨info, live, edited.signal before, before⟩
  · exact .inl rfl

theorem signal_moves {a b : Option StaId × Daemon} (sound : Sound a.1 a.2) (moves : Moves env cfg scope a b)
    (live' : b.2.infos.get? si = some info') (unheard : Unheard scope b.2 info') : Keeps scope a.2 si info' := by
  induction moves generalizing info' with
  | refl => exact .inr ⟨info', live', rfl, unheard⟩
  | tail before move ih => exact (signal_move (sound_moves sound before) move live' unheard).trans ih

theorem signal_change (sound : Sound none d) (change : Change env cfg scope d d')
    (live' : d'.infos.get? si = some info')
    (unheard : Unheard scope d' info') : Keeps scope d si info' := by
  cases change with
  | moves moves => exact signal_moves (a := (none, d)) sound moves live' unheard
  | shrink shrunk =>
    obtain ⟨sta', node', liveSta', liveNode', unheard⟩ := unheard
    obtain ⟨sta, liveSta, addr⟩ := shrunk.stas liveSta'
    obtain ⟨node, liveNode, identity⟩ := shrunk.nodes liveNode'
    have key : remoteKey node' = remoteKey node := congrArg Prod.fst identity
    rw [addr, key] at unheard
    exact .inr ⟨info', shrunk.infos live', rfl, sta, node, liveSta, liveNode, unheard⟩
  | join joined =>
    have infos : d'.infos = d.infos := by rw [joined.rest]
    have stas : d'.stas = d.stas := by rw [joined.rest]
    rw [infos] at live'
    obtain ⟨node, liveNode, -⟩ := node_of_info sound.links live'
    obtain ⟨sta', node', liveSta', liveNode', unheard⟩ := unheard
    rw [stas] at liveSta'
    rw [joined.nodes, Heap.get?_alloc, if_neg (Heap.ne_next liveNode)] at liveNode'
    exact .inr ⟨info', live', rfl, sta', node', liveSta', liveNode', unheard⟩

theorem signal_evolves (sound : Sound none d) (evolves : Evolves env cfg scope d d')
    (live' : d'.infos.get? si = some info')
    (unheard : Unheard scope d' info') : Keeps scope d si info' := by
  induction evolves generalizing info' with
  | refl => exact .inr ⟨info', live', rfl, unheard⟩
  | tail before change ih => exact (signal_change (sound_evolves sound before) change live' unheard).trans ih

end Hearing

/-- The step supplies no signal for the entry. -/
def Unsupplied (si : SiId) (_ : System) : SystemInput → System → Prop
  | .daemon input, s' => ∀ info sta node, s'.daemon.infos.get? si = some info →
    s'.daemon.stas.get? info.sta = some sta →
    s'.daemon.nodes.get? info.node = some node → ¬ input.Supplies sta.addr info.node (remoteKey node)
  | _, _ => True

/-- An entry keeps the zero that it was allocated with as long as no signal is supplied. -/
theorem signal_unsupplied {env : Platform} {si : SiId} {s : System}
    (reach : System.ReachableWhen env (Unsupplied si) s) :
    ∀ info, s.daemon.infos.get? si = some info → info.signal = 0 := by
  induction reach with
  | start debugLevel syslog interfaces localId clock =>
    intro info live
    simp [System.initial, Daemon.initial] at live
  | step input before accepts run met ih =>
    intro info' live'
    rcases System.handle_cases run with ⟨daemonInput, d, rfl, handled, rfl⟩ | ⟨method, tb, rfl, rfl⟩ | ⟨-, rfl⟩
    · have sound := before.reachable.sound
      have sound' := sound_handle sound accepts handled
      rcases heard_handle before.reachable.keyed sound accepts handled with ⟨ms, rfl⟩ | evolves
      · exact ih info' live'
      · obtain ⟨sta, liveSta, -⟩ := sta_of_info sound'.links live'
        obtain ⟨node, liveNode, -⟩ := node_of_info sound'.links live'
        have unheard : Unheard daemonInput.hearing d info' :=
          ⟨sta, node, liveSta, liveNode, met info' sta node live' liveSta liveNode⟩
        rcases signal_evolves sound evolves live' unheard with zero | ⟨info, live, same, -⟩
        · exact zero
        · exact same.trans (ih info live)
    · rw [(daemon_setConfig _ method tb).1] at live'
      exact ih info' live'
    · exact ih info' live'

theorem better_than_unmeasured (cfg : Config) (cur : StaInfo) {info : StaInfo} (zero : info.signal = 0) :
    betterSignalStrength cfg cur info = false ↔
      cfg.signalDiffThreshold = 0 ∨ 0 - cur.signal ≤ cfg.signalDiffThreshold.toInt32 := by
  unfold betterSignalStrength
  rw [zero]
  by_cases off : cfg.signalDiffThreshold = 0
  · simp [off]
  · simp [off, Int32.not_lt]

/-- An entry that no signal was ever supplied for does not count as stronger exactly when
    signals are not compared or the other entry is within the threshold of a signal of zero;
    and then it is not chosen for its signal. -/
theorem unmeasured_not_better (env : Platform) {si : SiId} {s : System} {info : StaInfo}
    (reach : System.ReachableWhen env (Unsupplied si) s) (live : s.daemon.infos.get? si = some info) (cur : StaInfo) :
    (betterSignalStrength s.config cur info = false ↔
      s.config.signalDiffThreshold = 0 ∨ 0 - cur.signal ≤ s.config.signalDiffThreshold.toInt32) ∧
    ∀ siRef nodeRef, s.config.signalDiffThreshold = 0 ∨ 0 - cur.signal ≤ s.config.signalDiffThreshold.toInt32 →
      BetterEntry s.config s.daemon siRef ⟨cur, nodeRef⟩ si →
      ∃ node, s.daemon.nodes.get? info.node = some node ∧
        (belowAssocThreshold s.config nodeRef node = true ∨ hasBetterLoad s.config nodeRef node = true) := by
  have exact := better_than_unmeasured s.config cur (signal_unsupplied reach info live)
  refine ⟨exact, fun siRef nodeRef within chosen => ?_⟩
  obtain ⟨-, info', node, live', -, -, liveNode, -, better, -⟩ := chosen
  cases live.symm.trans live'
  refine ⟨node, liveNode, ?_⟩
  unfold isBetterCandidate at better
  split at better
  · cases better
  · simpa [exact.mpr within] using better

/-- A system that compares signals. -/
def comparingSystem : System := withOption .signalDiffThreshold (1 : UInt32)

/-- A client is heard by the first of two nodes, and then it probes the second one in a
    message without a signal. -/
theorem probed_unheard :
    ∃ d cur new d', System.ReachableWhen plainPlatform (Unsupplied 1) { comparingSystem with daemon := d } ∧
    d.infos.get? 0 = some cur ∧ d.infos.get? 1 = some new ∧ cur.signal = -60 ∧
    d.findBetterCandidate comparingSystem.config 0 = .ok (some 1, d') := by
  have evaluates : ((comparingSystem.daemon.runs plainPlatform comparingSystem.config
      [.register hostapdDot, .register (hostapdDot ++ [49])]).any fun d1 =>
    (d1.runs plainPlatform comparingSystem.config [.staEvent 0 1 .probe 2412 (-60)]).any fun d2 =>
      (d2.infos.get? 1).isNone &&
      ((d2.runs plainPlatform comparingSystem.config [.staEvent 1 1 .probe 2412 noSignal]).any fun d3 =>
        ((d3.infos.get? 0).any fun cur => (d3.infos.get? 1).any fun _ => decide (cur.signal = -60)) &&
          (d3.findBetterCandidate comparingSystem.config 0).toOption.any fun r => decide (r.1 = some 1))) = true := by
    decide +kernel
  obtain ⟨d1, registered, evaluates⟩ := (Option.any_eq_true _ _).mp evaluates
  obtain ⟨d2, heard, evaluates⟩ := (Option.any_eq_true _ _).mp evaluates
  obtain ⟨absent, evaluates⟩ := Bool.and_eq_true_iff.mp evaluates
  obtain ⟨d3, probed, evaluates⟩ := (Option.any_eq_true _ _).mp evaluates
  obtain ⟨lives, finds⟩ := Bool.and_eq_true_iff.mp evaluates
  obtain ⟨cur, live, lives⟩ := (Option.any_eq_true _ _).mp lives
  obtain ⟨new, live', isSignal⟩ := (Option.any_eq_true _ _).mp lives
  obtain ⟨⟨found, d'⟩, search, isFound⟩ := (Option.any_eq_true _ _).mp finds
  obtain rfl : found = some 1 := of_decide_eq_true isFound
  have start : System.ReachableWhen plainPlatform (Unsupplied 1) comparingSystem :=
    .step (.config .updateConfig (oneOption .signalDiffThreshold (1 : UInt32)))
      (.start 0 false [] 1 0) trivial rfl trivial
  have reach1 := start.runs registered fun input inside d d' => by
    fin_cases inside <;> exact fun _ _ _ _ _ _ => id
  -- the entry is not there yet
  have reach2 : System.ReachableWhen plainPlatform (Unsupplied 1) { comparingSystem with daemon := d2 } := by
    obtain ⟨later, accepts, handled, same⟩ := runs_cons heard
    cases same
    refine .step (.daemon (.staEvent 0 1 .probe 2412 (-60))) reach1 accepts
      (System.handle_daemon handled) fun info sta node live'' => ?_
    rw [Option.isNone_iff_eq_none.mp absent] at live''
    cases live''
  have reach3 := reach2.runs probed fun input inside d d' => by
    fin_cases inside
    exact fun _ _ _ _ _ _ supplied => supplied.1 rfl
  exact ⟨d3, cur, new, d', reach3, live, live', of_decide_eq_true isSignal, ok_of_toOption search⟩

/-- Compared with itself, an entry that no signal was supplied for is not stronger. -/
theorem unmeasured_not_better_itself : ∃ s info, System.ReachableWhen plainPlatform (Unsupplied 1) s ∧
    s.daemon.infos.get? 1 = some info ∧ s.config.signalDiffThreshold = 1 ∧
    betterSignalStrength s.config info info = false := by
  obtain ⟨d, cur, new, d', reach, live, live', -, -⟩ := probed_unheard
  refine ⟨_, new, reach, live', rfl, ?_⟩
  refine ((unmeasured_not_better plainPlatform reach live' new).1.mpr (.inr ?_))
  rw [signal_unsupplied reach new live']
  exact (by decide : (0 : Int32) - 0 ≤ comparingSystem.config.signalDiffThreshold.toInt32)

/-- The entry that only a message without a signal created beats one that is heard at
    -60 dBm, and the search chooses it. -/
theorem unmeasured_better : ∃ s cur info d', System.ReachableWhen plainPlatform (Unsupplied 1) s ∧
    s.daemon.infos.get? 0 = some cur ∧ s.daemon.infos.get? 1 = some info ∧
    betterSignalStrength s.config cur info = true ∧ s.daemon.findBetterCandidate s.config 0 = .ok (some 1, d') := by
  obtain ⟨d, cur, new, d', reach, live, live', heard, search⟩ := probed_unheard
  refine ⟨_, cur, new, d', reach, live, live', ?_, search⟩
  rw [← Bool.not_eq_false, better_than_unmeasured _ cur (signal_unsupplied reach new live'), heard]
  exact (by decide : ¬ (comparingSystem.config.signalDiffThreshold = 0 ∨
    (0 : Int32) - -60 ≤ comparingSystem.config.signalDiffThreshold.toInt32))

end Usteer
