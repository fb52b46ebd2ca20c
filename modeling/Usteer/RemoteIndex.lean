import Mathlib.Data.UInt
import Usteer.Runs
import Usteer.Words

/-!
The tree of remote nodes. Its comparator cuts the difference of two ids to 32 bits, which
orders ids that lie within half the range (`cmp_window`) and no others. As long as all
senders' ids do, the tree is ordered, the lookup sees every node of an id, and there is
one node per id and name (`one_node_per_key`). Ids spread over the whole range can hide
an entry behind a rotation, and the next message then adds it again.
-/
namespace Usteer
open SearchTree Timeout Function Daemon Words

/-- The tree holds the node under the id, and the name is the node's. -/
def RemoteEntry (d : Daemon) (id : UInt64) (name : CString) (n : NodeId) : Prop :=
  (id, n) ∈ d.remoteNodes.toList ∧ ∃ node, d.nodes.get? n = some node ∧ remoteName node = some name

/-- At most one node per id and name, which `interface_get_node` returns. -/
structure OneNodePerKey (env : Platform) (d : Daemon) : Prop where
  once : d.remoteNodes.toList.Nodup
  unique : ∀ {id name n n'}, RemoteEntry d id name n → RemoteEntry d id name n' → n = n'
  found : ∀ {id name n} (addr : CString), RemoteEntry d id name n → d.interfaceGetNode env addr id name = .ok (n, d)

/-- The id is one of the `2 ^ 31` that begin with `base`. -/
def InWindow (base id : UInt32) : Prop := (id - base).toNat < 2 ^ 31

instance (base id : UInt32) : Decidable (InWindow base id) := inferInstanceAs (Decidable (_ < _))

/-- Messages of other daemons come from the window. -/
def FromWindow (base : UInt32) (d : Daemon) : Input → Prop
  | .message _ msg => msg.id ≠ d.localId → InWindow base msg.id
  | _ => True

section Index

variable {env : Platform} {cfg : Config} {scope : Scope} {base : UInt32} {d d' : Daemon}

/-! ### The comparator within a window -/

/-- The position of an entry, the greatest id first. -/
def rank (base : UInt32) (e : UInt64 × NodeId) : ℤ := -((e.1.toUInt32 - base).toNat : ℤ)

theorem cmp_window {a b : UInt32} (inA : InWindow base a) (inB : InWindow base b) :
    remoteNodeCmp a.toUInt64 b.toUInt64 = ((b - base).toNat : ℤ) - (a - base).toNat := by
  have cut : (b.toUInt64 - a.toUInt64).toUInt32 = b - a := by
    rw [UInt64.toUInt32_sub, UInt32.toUInt32_toUInt64, UInt32.toUInt32_toUInt64]
  have shifted : b - a = UInt32.ofNat (b - base).toNat - UInt32.ofNat (a - base).toNat := by
    rw [UInt32.ofNat_toNat, UInt32.ofNat_toNat]
    exact (sub_sub_sub_cancel_right b a base).symm
  rw [remoteNodeCmp, cut, shifted]
  unfold InWindow at inA inB
  exact signed_distance (by omega) (by omega)

/-! ### The index is in order -/

/-- The tree is ordered by ids of the window, and has one node per id and name. -/
structure Indexed (base : UInt32) (d : Daemon) : Prop where
  ordered : Ordered (rank base) d.remoteNodes
  keyed : ∀ {key n}, (key, n) ∈ d.remoteNodes.toList → ∃ id, key = id.toUInt64 ∧ InWindow base id
  unique : ∀ {id name n n'}, RemoteEntry d id name n → RemoteEntry d id name n' → n = n'

theorem rank_toUInt64 (id : UInt32) (n : NodeId) : rank base (id.toUInt64, n) = -((id - base).toNat : ℤ) := by
  rw [rank, UInt32.toUInt32_toUInt64]

theorem Indexed.agrees (indexed : Indexed base d) {id : UInt32} (window : InWindow base id) :
    Agrees remoteNodeCmp (rank base) id.toUInt64 (-((id - base).toNat : ℤ)) d.remoteNodes := by
  rintro ⟨key, n⟩ inside
  obtain ⟨id', rfl, window'⟩ := indexed.keyed inside
  rw [cmp_window window window', rank_toUInt64]
  constructor
  · omega
  · omega

/-- The lookup walks over every node of the id. -/
theorem Indexed.group (indexed : Indexed base d) (once : d.remoteList.Nodup) {id : UInt32} {n : NodeId}
    (window : InWindow base id) (inside : (id.toUInt64, n) ∈ d.remoteNodes.toList) : n ∈ d.remoteGroup id.toUInt64 := by
  have agrees := indexed.agrees window
  unfold remoteGroup
  cases found : d.remoteNodes.find remoteNodeCmp id.toUInt64 with
  | none => exact absurd (rank_toUInt64 id n) (find_none indexed.ordered agrees found _ inside)
  | some leader =>
    obtain ⟨before, chain, after, whole, less, same, greater⟩ := find_split indexed.ordered agrees found
    dsimp only
    have here : (id.toUInt64, n) ∈ leader :: chain := by
      rw [whole, List.mem_append, List.mem_append] at inside
      rcases inside with (low | here) | high
      · exact absurd (rank_toUInt64 id n) (less _ low).ne
      · exact here
      · exact absurd (rank_toUInt64 id n) (greater _ high).ne'
    have apart : ∀ e ∈ before, e.2 ≠ leader.2 := by
      intro e early equal
      unfold remoteList at once
      rw [whole, List.append_assoc, List.map_append, List.cons_append, List.map_cons] at once
      refine (List.nodup_append.mp once).2.2 e.2 (List.mem_map_of_mem early) leader.2 ?_ equal
      exact List.mem_cons_self
    have keyed : ∀ e ∈ leader :: chain, e.1 = id.toUInt64 := by
      intro e listed
      obtain ⟨key, m⟩ := e
      have inTree : (key, m) ∈ d.remoteNodes.toList := by
        rw [whole]
        exact List.mem_append_left _ (List.mem_append_right _ listed)
      obtain ⟨id', rfl, _⟩ := indexed.keyed inTree
      have level := same _ listed
      rw [rank_toUInt64, neg_inj, Nat.cast_inj, UInt32.toNat_inj, sub_left_inj] at level
      rw [level]
    have dropped : d.remoteNodes.toList.dropWhile (fun e => e.2 ≠ leader.2) = leader :: chain ++ after := by
      rw [whole, List.append_assoc, List.dropWhile_append_of_pos (by simpa using apart), List.cons_append,
        List.dropWhile_cons_of_neg (by simp)]
    rw [dropped, List.takeWhile_append_of_pos (by simpa using keyed), List.map_append]
    exact List.mem_append_left _ (List.mem_map_of_mem here)

theorem Indexed.oneNodePerKey (indexed : Indexed base d) (sound : Sound none d) : OneNodePerKey env d where
  once := List.Nodup.of_map _ sound.registered.remotes_nodup
  unique := indexed.unique
  found := by
    intro key name n addr entry
    obtain ⟨id, rfl, window⟩ := indexed.keyed entry.1
    have listed := indexed.group sound.registered.remotes_nodup window entry.1
    obtain ⟨_, node, live, named⟩ := entry
    have got : Post (fun _ => False) (d.interfaceGetNode env addr id.toUInt64 name) _ :=
      post_interfaceGetNode addr id name sound
    cases run : d.interfaceGetNode env addr id.toUInt64 name with
    | error fault =>
      rw [run] at got
      exact got.elim
    | ok r =>
      rw [run] at got
      rcases got with ⟨same, inside, node', live', named'⟩ | ⟨_, _, _, _, unknown⟩
      · have here := indexed.unique ⟨entry_of_remoteGroup inside, node', live', named'⟩
          ⟨entry_of_remoteGroup listed, node, live, named⟩
        rw [← here, ← same]
      · exact absurd named (unknown n listed node live)

/-! ### Every change keeps it in order -/

theorem remoteName_eq (node : UsteerNode) : remoteName node = (remoteKey node).map Prod.snd := by
  unfold remoteName remoteKey
  cases node.kind with
  | loc ln => rfl
  | remote rn => rfl

/-- Entries that stay what they were. -/
theorem RemoteEntry.back {id : UInt64} {name : CString} {n : NodeId} (entry : RemoteEntry d' id name n)
    (tree : (id, n) ∈ d.remoteNodes.toList)
    (nodes : ∀ {node'}, d'.nodes.get? n = some node' → ∃ node, d.nodes.get? n = some node ∧ nodeIdentity node' = nodeIdentity node) :
    RemoteEntry d id name n := by
  obtain ⟨_, node', live', named⟩ := entry
  obtain ⟨node, live, identity⟩ := nodes live'
  have key : remoteKey node' = remoteKey node := congrArg Prod.fst identity
  refine ⟨tree, node, live, ?_⟩
  rw [remoteName_eq, ← key, ← remoteName_eq]
  exact named

theorem indexed_change (indexed : Indexed base d) (sound : Sound none d) (change : Change env cfg scope d d')
    (window : ∀ id, scope.sender = some id → InWindow base id) : Indexed base d' := by
  cases change with
  | moves moves =>
    have survives : Survives d d' := survives_moves moves
    have tree := survives.remoteNodes
    refine ⟨by rw [tree]; exact indexed.ordered, by rw [tree]; exact indexed.keyed, fun entry entry' => ?_⟩
    exact indexed.unique (entry.back (tree ▸ entry.1) survives.nodeBack)
      (entry'.back (tree ▸ entry'.1) survives.nodeBack)
  | shrink shrunk _ tree =>
    have left : ∀ {e}, e ∈ d'.remoteNodes.toList → e ∈ d.remoteNodes.toList := by
      intro e inside
      rcases tree with same | ⟨n, deleted⟩
      · rwa [same] at inside
      · rw [deleted, mem_delete] at inside
        exact inside.1
    refine ⟨?_, fun inside => indexed.keyed (left inside), fun entry entry' => ?_⟩
    · rcases tree with same | ⟨n, deleted⟩
      · rw [same]
        exact indexed.ordered
      · rw [deleted]
        exact ordered_delete env.remotes n indexed.ordered
    · exact indexed.unique (entry.back (left entry.1) shrunk.nodes) (entry'.back (left entry'.1) shrunk.nodes)
  | join joined _ indexes =>
    -- an entry that was in the tree is not the new node
    have back : ∀ {id name n}, RemoteEntry d' id name n → (id, n) ∈ d.remoteNodes.toList → RemoteEntry d id name n := by
      intro id name n entry inside
      refine entry.back inside fun {node'} live' => ?_
      have old : n ≠ d.nodes.next := fun same => (next_fresh sound).2 (same ▸ List.mem_map_of_mem inside)
      rw [joined.nodes, Heap.get?_alloc, if_neg old] at live'
      exact ⟨node', live', rfl⟩
    cases indexes with
    | loc name unknown tree =>
      refine ⟨by rw [tree]; exact indexed.ordered, by rw [tree]; exact indexed.keyed, fun entry entry' => ?_⟩
      exact indexed.unique (back entry (tree ▸ entry.1)) (back entry' (tree ▸ entry'.1))
    | remote addr id name sent unknown tree locals =>
      have inWindow := window id sent
      have fresh : ∀ {n}, RemoteEntry d id.toUInt64 name n → False := by
        intro n entry
        obtain ⟨node, live, named⟩ := entry.2
        exact unknown n (indexed.group sound.registered.remotes_nodup inWindow entry.1) node live named
      refine ⟨?_, ?_, ?_⟩
      · rw [tree]
        refine ordered_insert env.remotes indexed.ordered ?_
        rw [rank_toUInt64]
        exact indexed.agrees inWindow
      · intro key n inside
        rw [tree, mem_insert] at inside
        rcases inside with same | old
        · cases same
          exact ⟨id, rfl, inWindow⟩
        · exact indexed.keyed old
      · intro key name' n n' entry entry'
        have split : ∀ {m}, RemoteEntry d' key name' m →
            (m = d.nodes.next ∧ key = id.toUInt64 ∧ name' = name) ∨ RemoteEntry d key name' m := by
          intro m entry
          have inside := entry.1
          rw [tree, mem_insert] at inside
          rcases inside with same | old
          · cases same
            obtain ⟨_, node, live, named⟩ := entry
            rw [joined.nodes, Heap.get?_alloc, if_pos rfl] at live
            cases live
            cases named
            exact .inl ⟨rfl, rfl, rfl⟩
          · exact .inr (back entry old)
        rcases split entry with ⟨here, rfl, rfl⟩ | old
        · rcases split entry' with ⟨here', _⟩ | old'
          · rw [here, here']
          · exact (fresh old').elim
        · rcases split entry' with ⟨_, rfl, rfl⟩ | old'
          · exact (fresh old).elim
          · exact indexed.unique old old'

theorem indexed_evolves (indexed : Indexed base d) (sound : Sound none d) (evolves : Evolves env cfg scope d d')
    (window : ∀ id, scope.sender = some id → InWindow base id) : Indexed base d' := by
  induction evolves with
  | refl => exact indexed
  | tail before change ih => exact indexed_change ih (sound_evolves sound before) change window

theorem indexed_initial (localId : UInt32) (clock : UInt64) (ssidList : Option (List CString)) :
    Indexed base (.initial localId clock ssidList) where
  ordered := ordered_leaf
  keyed := by
    intro key n inside
    cases inside
  unique := by
    intro id name n n' entry
    cases entry.1

theorem indexed_handle {input : Input} (indexed : Indexed base d) (sound : Sound none d) (accepts : d.Accepts input)
    (fromWindow : FromWindow base d input) (run : d.handle env cfg input = .ok d') : Indexed base d' := by
  have evolved : (∀ id, input.scope.sender = some id → InWindow base id) → Indexed base d' := by
    intro window
    rcases (post_handle sound accepts).of_ok run with ⟨ms, _, rfl⟩ | evolves
    · exact ⟨indexed.ordered, indexed.keyed, indexed.unique⟩
    · exact indexed_evolves indexed sound evolves window
  cases input with
  | message addr msg =>
    by_cases own : msg.id = d.localId
    · -- the daemon's own messages are dropped
      have same : (if cfg.remoteDisabled then .ok d else d.interfaceRecvMsg env cfg addr msg) = .ok d' := run
      rw [interfaceRecvMsg, if_pos own] at same
      simp only [ite_self, Except.ok.injEq] at same
      rw [← same]
      exact indexed
    · refine evolved fun id sender => ?_
      cases sender
      exact fromWindow own
  | _ => exact evolved fun id sender => by cases sender

theorem reachable_indexed (reach : ReachableWhen env cfg (FromWindow base) d) : Indexed base d := by
  induction reach with
  | start localId clock ssidList => exact indexed_initial localId clock ssidList
  | step input before accepts met run ih =>
    exact indexed_handle ih (reachable_sound before.reachable) accepts met run

end Index

/-- In every run in which the ids of the other daemons lie within half the range, the tree
    has at most one node per id and name, and the lookup finds it. -/
theorem one_node_per_key (env : Platform) {cfg : Config} {base : UInt32} {d : Daemon}
    (reach : ReachableWhen env cfg (FromWindow base) d) : OneNodePerKey env d :=
  (reachable_indexed reach).oneNodePerKey (reachable_sound reach.reachable)

/-- A daemon announces its only node. -/
def announces (id : UInt32) : Input :=
  .message [] ⟨id, 0, [⟨hostapdDot, [], some 0, 2412, 0, 0, 0, 0, [], none, none⟩]⟩

theorem one_node_per_key_of_two_daemons : ∃ d, plainRun usteerInitDefaults [announces 5, announces 7, announces 5] = some d ∧
    d.remoteNodes.toList = [(7, 1), (5, 0)] ∧ OneNodePerKey plainPlatform d := by
  have evaluates : (plainRun usteerInitDefaults [announces 5, announces 7, announces 5]).map (fun d => d.remoteNodes.toList) =
      some [(7, 1), (5, 0)] := by decide +kernel
  obtain ⟨d, run, tree⟩ := Option.map_eq_some_iff.mp evaluates
  have window : ∀ input ∈ [announces 5, announces 7, announces 5], ∀ d, FromWindow 0 d input := by
    intro input inside d
    simp only [List.mem_cons, List.not_mem_nil, or_false] at inside
    rcases inside with rfl | rfl | rfl
    · exact fun _ => (by decide : InWindow 0 5)
    · exact fun _ => (by decide : InWindow 0 7)
    · exact fun _ => (by decide : InWindow 0 5)
  exact ⟨d, run, tree, one_node_per_key plainPlatform (reachableWhen_runs window (.start 1 0 none) run)⟩

/-- Six daemons with ids all around the range, and the first once more. -/
def around : List Input :=
  [announces 0, announces 0x40000000, announces 0x50000000, announces 0x90000000, announces 0xa0000000, announces 0xb0000000,
    announces 0]

theorem node_added_twice : ∃ d, Reachable plainPlatform usteerInitDefaults d ∧ ¬ OneNodePerKey plainPlatform d := by
  have evaluates : ((plainRun usteerInitDefaults around).any fun d =>
      decide ((0, 0) ∈ d.remoteNodes.toList ∧ (0, 6) ∈ d.remoteNodes.toList) &&
        (d.nodes.get? 0).any (fun node => remoteName node = some hostapdDot) &&
        (d.nodes.get? 6).any (fun node => remoteName node = some hostapdDot)) = true := by decide +kernel
  obtain ⟨d, run, evaluates⟩ := (Option.any_eq_true _ _).mp evaluates
  simp only [Bool.and_eq_true, decide_eq_true_eq] at evaluates
  obtain ⟨⟨⟨first, last⟩, named⟩, named'⟩ := evaluates
  obtain ⟨node, live, named⟩ := (Option.any_eq_true _ _).mp named
  obtain ⟨node', live', named'⟩ := (Option.any_eq_true _ _).mp named'
  refine ⟨d, reachable_plainRun run, fun unique => ?_⟩
  have same := unique.unique ⟨first, node, live, of_decide_eq_true named⟩ ⟨last, node', live', of_decide_eq_true named'⟩
  cases same

end Usteer
