/-
**The tree of an NPC, and its current action.**

Whatever happens to the tree of an NPC, it is the tree of its configuration: a birth, the view, the sense and
the behaviours side by side, and a death.  The selector of the behaviours stands at `end()` until it is ticked
for the first time; a tick and an event leave it where it is, or inside its children.  A behaviour that enters
writes itself to `curAct`, and clears it when it exits; every way out of the life of the NPC makes the current
behaviour exit.

Main definitions:

* `MmoServer.NpcLeaf`, `MmoServer.Behaviours`, `MmoServer.Living`, `MmoServer.Lifetime`, `MmoServer.NpcTree` —
  the nodes of a tree, from the leaves to the root, with the facts that every one has;
* `MmoServer.Behaviours.Inside` — the selector stands at a child;
* `MmoServer.NpcTree.Current` — `curAct` is null, or the running child of the selector;
* `MmoServer.NpcTree.AtAlive` — the NPC is alive.

Main results:

* `MmoServer.NpcTree.tick` — **a tick**;
* `MmoServer.NpcTree.handleEvent_registered`, `MmoServer.NpcTree.handleEvent_birth`,
  `MmoServer.NpcTree.handleEvent_other` — **an event**;
* `MmoServer.NpcTree.awake_root` — the first tree.
-/

import MmoServer.NpcPhases

set_option relaxedAutoImplicit false
set_option autoImplicit false

namespace MmoServer

variable {fl : NpcFloats}

/-! ### What the leaves do to the current action -/

/-- The leaves that are behaviours: they write `curAct`. -/
def BtActKind.acts (kind : BtActKind) : Bool := kind.eventId.isBehaviour

/-- What a leaf keeps: its class, and which object it is. -/
def BtAct.key (act : BtAct) : BtActKind × ℕ := (act.kind, act.number)

namespace NpcEnv

theorem exit_key (act : BtAct) (env : NpcEnv fl) : (exit act env).1.key = act.key := by
  rw [exit]
  cases act.kind <;> rfl

theorem enter_key (act : BtAct) (env : NpcEnv fl) : (enter act env).1.key = act.key := by
  rw [enter]
  cases act.kind <;> rfl

theorem task_key (algs : Heap.Algorithms BtEvent.less) (act : BtAct) (env : NpcEnv fl) :
    (task algs act env).2.1.key = act.key := by
  rw [task]
  cases act.kind <;>
    simp only [attackTask, birthTask, deathTask, fleeTask, idleTask, patrolTask, pursueTask, senseTask,
      viewTask] <;>
    first
      | rfl
      | split_ifs <;> rfl

/-- A behaviour that exits clears the current action. -/
theorem exit_curAct (act : BtAct) (env : NpcEnv fl) :
    (exit act env).2.curAct = if act.kind.acts then none else env.curAct := by
  rw [exit]
  cases act.kind <;> rfl

theorem broadcastTarget_curAct (env : NpcEnv fl) (id : BtEventId) :
    (env.broadcastTarget id).curAct = env.curAct := by
  rw [broadcastTarget]
  split <;> rfl

/-- A behaviour that enters is the current action. -/
theorem enter_curAct (act : BtAct) (env : NpcEnv fl) :
    (enter act env).2.curAct = if act.kind.acts then some act.number else env.curAct := by
  rw [enter]
  cases act.kind with
  | attack | pursue => exact broadcastTarget_curAct _ _
  | birth | death | flee | idle | patrol | sense | view => rfl

theorem viewLinker_curAct (env : NpcEnv fl) : env.viewLinker.curAct = env.curAct := by
  simp only [viewLinker, setLinkPlayer]
  repeat' split
  all_goals rfl

theorem viewTarget_curAct (algs : Heap.Algorithms BtEvent.less) (env : NpcEnv fl) :
    (env.viewTarget algs).curAct = env.curAct := by
  rw [viewTarget]
  cases env.npc.target with
  | some target => rfl
  | none =>
    dsimp only
    split <;> rfl

theorem viewTask_curAct (algs : Heap.Algorithms BtEvent.less) (act : BtAct) (env : NpcEnv fl) :
    (viewTask algs act env).2.2.curAct = env.curAct := by
  rw [viewTask, ← viewLinker_curAct env, ← viewTarget_curAct algs env.viewLinker, viewHome]
  dsimp only
  split <;> rfl

/-- No task writes the current action. -/
theorem task_curAct (algs : Heap.Algorithms BtEvent.less) (act : BtAct) (env : NpcEnv fl) :
    (task algs act env).2.2.curAct = env.curAct := by
  rw [task]
  cases act.kind with
  | view => exact viewTask_curAct algs act env
  | attack | birth | death | flee | idle | patrol | pursue | sense =>
    simp only [attackTask, birthTask, deathTask, fleeTask, idleTask, patrolTask, pursueTask, senseTask]
    split_ifs <;> rfl

end NpcEnv

/-! ### Leaves -/

/-- A leaf with its status. -/
structure NpcLeaf where
  act : BtAct
  status : BtStatus

namespace NpcLeaf

/-- The node. -/
def node (leaf : NpcLeaf) : BtNode BtAct := .action leaf.act leaf.status

/-- What it keeps. -/
def key (leaf : NpcLeaf) : BtActKind × ℕ := leaf.act.key

/-- The current action is null, or it is the leaf, and runs. -/
def Current (leaf : NpcLeaf) (curAct : Option ℕ) : Prop :=
  curAct = none ∨ leaf.status = .running ∧ curAct = some leaf.act.number

theorem kind_eq {leaf leaf' : NpcLeaf} (h : leaf'.key = leaf.key) :
    leaf'.act.kind = leaf.act.kind := congrArg Prod.fst h

variable (algs : Heap.Algorithms BtEvent.less)

/-- A leaf that is forced to exit. -/
theorem exit (leaf : NpcLeaf) (status : BtStatus) (env : NpcEnv fl) :
    ∃ leaf' : NpcLeaf, leaf'.key = leaf.key ∧ leaf'.status = status ∧
      (BtNode.exit (npcActions algs) leaf.node env).1.setStatus status = leaf'.node ∧
      (BtNode.exit (npcActions algs) leaf.node env).2.curAct =
        if leaf.act.kind.acts then none else env.curAct :=
  ⟨⟨(NpcEnv.exit leaf.act env).1, status⟩, NpcEnv.exit_key leaf.act env, rfl, rfl,
    NpcEnv.exit_curAct leaf.act env⟩

/-- One that is no behaviour leaves the current action alone. -/
theorem exit_plain (leaf : NpcLeaf) (hplain : leaf.act.kind.acts = false) (env : NpcEnv fl) :
    ∃ leaf' : NpcLeaf, ∃ env', leaf'.key = leaf.key ∧ (∃ node, BtNode.exit (npcActions algs) leaf.node env =
      (node, env') ∧ node.setStatus .invalid = leaf'.node) ∧ env'.curAct = env.curAct := by
  obtain ⟨leaf', hkey, -, hnode, hcurAct⟩ := leaf.exit algs .invalid env
  rw [hplain] at hcurAct
  exact ⟨leaf', _, hkey, ⟨_, rfl, hnode⟩, hcurAct⟩

/-- **A tick of a leaf.**  One that is no behaviour leaves the current action alone, and one that is is the
current action only while it runs. -/
theorem tick (leaf : NpcLeaf) (env : NpcEnv fl) :
    ∃ leaf' : NpcLeaf, ∃ env', BtNode.tick (npcActions algs) leaf.node env = (leaf'.node, env') ∧
      leaf'.key = leaf.key ∧ (leaf.act.kind.acts = false → env'.curAct = env.curAct) ∧
      (leaf.act.kind.acts = true → leaf.Current env.curAct → leaf'.Current env'.curAct) := by
  by_cases hdone : leaf.status.isDone = true
  · have hnode : leaf.node.status.isDone = true := hdone
    exact ⟨leaf, env, BtNode.tick_of_isDone (npcActions algs) hnode env, rfl, fun _ => rfl, fun _ h => h⟩
  -- where the task begins
  obtain ⟨act, env₁, hstart, hkey, hplain, hacts⟩ : ∃ act env₁,
      (if leaf.status ≠ .running then (npcActions algs).enter leaf.act env else (leaf.act, env)) =
        (act, env₁) ∧ act.key = leaf.act.key ∧
      (leaf.act.kind.acts = false → env₁.curAct = env.curAct) ∧
      (leaf.act.kind.acts = true → leaf.Current env.curAct →
        env₁.curAct = none ∨ env₁.curAct = some leaf.act.number) := by
    by_cases hrun : leaf.status = .running
    · refine ⟨leaf.act, env, if_neg (not_not.2 hrun), rfl, fun _ => rfl, fun _ h => ?_⟩
      exact h.imp_right And.right
    · refine ⟨_, _, if_pos hrun, NpcEnv.enter_key leaf.act env, fun hplain => ?_, fun hacts _ => .inr ?_⟩
      · exact (NpcEnv.enter_curAct leaf.act env).trans (if_neg (by simp [hplain]))
      · exact (NpcEnv.enter_curAct leaf.act env).trans (if_pos hacts)
  have hkind : act.kind = leaf.act.kind := congrArg Prod.fst hkey
  have htaskKey := (NpcEnv.task_key algs act env₁).trans hkey
  have htask := NpcEnv.task_curAct algs act env₁
  have heq : BtNode.tick (npcActions algs) leaf.node env = BtNode.finish (npcActions algs)
      (.action (NpcEnv.task algs act env₁).2.1 (NpcEnv.task algs act env₁).1)
        (NpcEnv.task algs act env₁).2.2 := by
    rw [node, BtNode.tick_action, if_neg hdone, hstart]
    rfl
  generalize NpcEnv.task algs act env₁ = ended at htaskKey htask heq
  have hkind' : ended.2.1.kind = leaf.act.kind := congrArg Prod.fst htaskKey
  have hnumber : ended.2.1.number = leaf.act.number := congrArg Prod.snd htaskKey
  rw [heq, BtNode.finish]
  by_cases hrun : ended.1 = .running
  · refine ⟨⟨ended.2.1, ended.1⟩, ended.2.2, if_neg (not_not.2 hrun), htaskKey, fun h => ?_, fun h hcurr => ?_⟩
    · rw [htask, hplain h]
    · rcases hacts h hcurr with hnone | hsome
      · exact .inl (htask.trans hnone)
      · exact .inr ⟨hrun, by rw [htask, hsome, hnumber]⟩
  · refine ⟨⟨(NpcEnv.exit ended.2.1 ended.2.2).1, ended.1⟩, _, if_pos hrun, ?_, fun h => ?_, fun h _ => .inl ?_⟩
    · exact (NpcEnv.exit_key _ _).trans htaskKey
    · refine (NpcEnv.exit_curAct _ _).trans ?_
      rw [hkind', h, htask, hplain h]
      rfl
    · refine (NpcEnv.exit_curAct _ _).trans ?_
      rw [hkind', h]
      rfl

theorem tick_plain (leaf : NpcLeaf) (hplain : leaf.act.kind.acts = false) (env : NpcEnv fl) :
    ∃ leaf' : NpcLeaf, ∃ env', BtNode.tick (npcActions algs) leaf.node env = (leaf'.node, env') ∧
      leaf'.key = leaf.key ∧ env'.curAct = env.curAct := by
  obtain ⟨leaf', env', heq, hkey, hcurAct, -⟩ := leaf.tick algs env
  exact ⟨leaf', env', heq, hkey, hcurAct hplain⟩

end NpcLeaf

/-! ### The selector -/

/-- The classes of the behaviours of a configuration. -/
def BtConfig.kinds (config : BtConfig) : List BtActKind := config.nodes.filterMap BtActKind.ofName

theorem BtConfig.kinds_acts {config : BtConfig} {kind : BtActKind} (h : kind ∈ config.kinds) :
    kind.acts = true := by
  obtain ⟨name, -, hname⟩ := List.mem_filterMap.1 h
  exact (ofName_isBehaviour hname).1

/-- The place that is registered for an event. -/
def BtConfig.place (config : BtConfig) (id : BtEventId) : Option ℕ :=
  ((registerNodes config.kinds).find? fun one => one.1 = id).map Prod.snd

/-- The place is that of a behaviour which has the id. -/
theorem BtConfig.place_eventId {config : BtConfig} {id : BtEventId} {i : ℕ} (h : config.place id = some i) :
    ∃ kind, config.kinds[i]? = some kind ∧ kind.eventId = id := by
  obtain ⟨one, hfind, rfl⟩ := Option.map_eq_some_iff.1 h
  have hid : one.1 = id := by simpa using List.find?_some hfind
  exact hid ▸ registerNodes_eventId config.kinds one (List.mem_of_find?_eq_some hfind)

theorem BtConfig.isBehaviour_of_place {config : BtConfig} {id : BtEventId} {i : ℕ}
    (h : config.place id = some i) : id.isBehaviour = true := by
  obtain ⟨kind, hkind, rfl⟩ := BtConfig.place_eventId h
  exact BtConfig.kinds_acts (List.mem_of_getElem? hkind)

/-- The selector of the behaviours of a configuration.  It has never a status with which it would not be
ticked. -/
structure Behaviours (config : BtConfig) where
  children : List NpcLeaf
  keys : children.map NpcLeaf.key = config.kinds.zipIdx
  curr : ℕ
  curr_le : curr ≤ children.length
  status : BtStatus
  status_open : status.isDone = false

namespace Behaviours

variable {config : BtConfig}

/-- The node. -/
def node (b : Behaviours config) : BtNode BtAct :=
  .edSelector (b.children.map NpcLeaf.node) (registerNodes config.kinds) b.curr b.status

theorem status_node (b : Behaviours config) : b.node.status = b.status := rfl

/-- The selector stands at a child. -/
def Inside (b : Behaviours config) : Prop := b.curr < b.children.length

/-- The current action is null, or the running child of the selector. -/
def Current (b : Behaviours config) (curAct : Option ℕ) : Prop :=
  curAct = none ∨ b.status = .running ∧
    ∃ leaf, b.children[b.curr]? = some leaf ∧ leaf.status = .running ∧ curAct = some leaf.act.number

theorem length_eq (b : Behaviours config) : b.children.length = config.kinds.length := by
  have hlength := congrArg List.length b.keys
  simpa using hlength

theorem getElem?_key {b : Behaviours config} {i : ℕ} {leaf : NpcLeaf} (h : b.children[i]? = some leaf) :
    config.kinds[i]? = some leaf.act.kind ∧ leaf.act.number = i := by
  have hkey : config.kinds.zipIdx[i]? = some leaf.key := by
    rw [← b.keys, List.getElem?_map, h]
    rfl
  rw [List.getElem?_zipIdx, Option.map_eq_some_iff] at hkey
  obtain ⟨kind, hkind, heq⟩ := hkey
  obtain ⟨rfl, hnumber⟩ := Prod.mk.inj heq
  exact ⟨hkind, by rw [← hnumber, Nat.zero_add]⟩

/-- All children are behaviours. -/
theorem acts_of_getElem? {b : Behaviours config} {i : ℕ} {leaf : NpcLeaf} (h : b.children[i]? = some leaf) :
    leaf.act.kind.acts = true :=
  BtConfig.kinds_acts (List.mem_of_getElem? (getElem?_key h).1)

/-- Another leaf that is the same object takes the place of a child. -/
def set (b : Behaviours config) (i : ℕ) (leaf : NpcLeaf) (h : ∀ old, b.children[i]? = some old → leaf.key = old.key) :
    Behaviours config :=
  { b with
    children := b.children.set i leaf
    keys := by
      rw [← b.keys, List.map_set]
      refine List.ext_getElem? fun j => ?_
      rw [List.getElem?_set]
      split
      · rename_i hij
        subst hij
        split
        · rename_i hlt
          rw [List.length_map] at hlt
          rw [List.getElem?_map, List.getElem?_eq_getElem hlt, h _ (List.getElem?_eq_getElem hlt)]
          rfl
        · rename_i hge
          exact (List.getElem?_eq_none (Nat.le_of_not_lt hge)).symm
      · rfl
    curr_le := by simpa using b.curr_le }

theorem map_node_set (b : Behaviours config) (i : ℕ) (leaf : NpcLeaf)
    (h : ∀ old, b.children[i]? = some old → leaf.key = old.key) :
    (b.set i leaf h).children.map NpcLeaf.node = (b.children.map NpcLeaf.node).set i leaf.node :=
  List.map_set

theorem isAction (b : Behaviours config) : ∀ child ∈ b.children.map NpcLeaf.node, child.IsAction := by
  intro child hchild
  obtain ⟨leaf, -, rfl⟩ := List.mem_map.1 hchild
  exact ⟨leaf.act, leaf.status, rfl⟩

theorem node_getElem? {b : Behaviours config} {i : ℕ} {leaf : NpcLeaf} (h : b.children[i]? = some leaf) :
    (b.children.map NpcLeaf.node)[i]? = some leaf.node := by
  rw [List.getElem?_map, h]
  rfl

/-- A selector at `end()` has no current action. -/
theorem Current.eq_none {b : Behaviours config} {curAct : Option ℕ} (h : b.Current curAct)
    (hout : ¬ b.Inside) : curAct = none := by
  rcases h with hnone | ⟨-, leaf, hleaf, -⟩
  · exact hnone
  · rw [List.getElem?_eq_none (Nat.le_of_not_lt hout)] at hleaf
    cases hleaf

variable (algs : Heap.Algorithms BtEvent.less)

/-- The current child is forced to exit, if there is one. -/
theorem forceExitAt (b : Behaviours config) (status : BtStatus) (env : NpcEnv fl)
    (h : b.Current env.curAct) :
    ∃ b' : Behaviours config, ∃ env', BtNode.forceExitAt (npcActions algs) status
        (b.children.map NpcLeaf.node) b.curr env = (b'.children.map NpcLeaf.node, env') ∧
      b'.curr = b.curr ∧ b'.status = b.status ∧ env'.curAct = none := by
  cases hleaf : b.children[b.curr]? with
  | none =>
    have hle : b.children.length ≤ b.curr := List.getElem?_eq_none_iff.1 hleaf
    have hle' : (b.children.map NpcLeaf.node).length ≤ b.curr := by rwa [List.length_map]
    exact ⟨b, env, BtNode.forceExitAt_of_length_le _ status hle' env, rfl, rfl, h.eq_none (Nat.not_lt.2 hle)⟩
  | some leaf =>
    obtain ⟨leaf', hkey, -, hnode, hcurAct⟩ := leaf.exit algs status env
    rw [acts_of_getElem? hleaf, if_pos rfl] at hcurAct
    refine ⟨b.set b.curr leaf' ?_, _, ?_, rfl, rfl, hcurAct⟩
    · intro old hold
      cases hleaf.symm.trans hold
      exact hkey
    · rw [BtNode.forceExitAt_of_getElem? _ status (node_getElem? hleaf), hnode, map_node_set]

/-- **The selector exits.** -/
theorem exit (b : Behaviours config) (env : NpcEnv fl) (h : b.Current env.curAct) :
    ∃ b' : Behaviours config, ∃ env',
      BtNode.exit (npcActions algs) b.node env = (b'.node, env') ∧ b'.curr = b.curr ∧
        b'.status = b.status ∧ env'.curAct = none := by
  obtain ⟨b', env', heq, hcurr, hstatus, hnone⟩ := b.forceExitAt algs .aborted env h
  refine ⟨b', env', ?_, hcurr, hstatus, hnone⟩
  rw [node, BtNode.exit, heq, node, hcurr, hstatus]

/-- The selector with the status that a parent writes. -/
def invalid (b : Behaviours config) : Behaviours config :=
  { b with status := .invalid, status_open := rfl }

theorem node_invalid (b : Behaviours config) : b.node.setStatus .invalid = b.invalid.node := rfl

/-- **A tick of the selector.**  It runs, and stands inside then, or it stays at `end()` and aborts. -/
theorem tick (b : Behaviours config) (env : NpcEnv fl) (h : b.Current env.curAct) :
    ∃ b' : Behaviours config, ∃ env', BtNode.tick (npcActions algs) b.node env = (b'.node, env') ∧
      (b'.status = .running ∧ b'.Inside ∧ b'.Current env'.curAct ∨
        b'.status = .aborted ∧ b'.curr = b.curr ∧ env'.curAct = none) := by
  obtain ⟨start, hstart⟩ : ∃ start, start = if b.status ≠ .running then 0 else b.curr := ⟨_, rfl⟩
  have hle : start ≤ b.children.length := by
    rw [hstart]
    split
    · exact Nat.zero_le _
    · exact b.curr_le
  by_cases hlt : start < b.children.length
  · obtain ⟨leaf, hleaf⟩ : ∃ leaf, b.children[start]? = some leaf := ⟨_, List.getElem?_eq_getElem hlt⟩
    obtain ⟨leaf', env', htick, hkey, -, hacts⟩ := leaf.tick algs env
    -- the current action is this leaf, if there is one
    have hcurrent : leaf.Current env.curAct := by
      rcases h with hnone | ⟨hrun, leaf₁, hleaf₁, hrun₁, hsome⟩
      · exact .inl hnone
      · rw [if_neg (not_not.2 hrun)] at hstart
        rw [← hstart, hleaf] at hleaf₁
        cases hleaf₁
        exact .inr ⟨hrun₁, hsome⟩
    refine ⟨{ b.set start leaf' ?_ with
      curr := start, curr_le := ?_, status := .running, status_open := rfl }, env', ?_,
      .inl ⟨rfl, ?_, ?_⟩⟩
    · intro old hold
      cases hleaf.symm.trans hold
      exact hkey
    · simpa [set] using hle
    · have hlt' : start < (b.children.map NpcLeaf.node).length := by rwa [List.length_map]
      rw [node, BtNode.tick_edSelector env b.status_open hstart hlt',
        BtNode.runAt_of_getElem? _ (node_getElem? hleaf) htick, node, map_node_set]
    · simpa [Inside, set] using hlt
    · refine (hacts (acts_of_getElem? hleaf) hcurrent).imp_right fun hsome => ⟨rfl, leaf', ?_, hsome⟩
      simp [set, hlt]
  · have hend : start = b.children.length := Nat.le_antisymm hle (Nat.le_of_not_lt hlt)
    -- it does not begin at the first child, unless there is none
    have hcurr : start = b.curr := by
      have hcurrle := b.curr_le
      split at hstart
      · omega
      · exact hstart
    have hout : ¬ b.Inside := by
      rw [Inside, ← hcurr]
      exact hlt
    refine ⟨{ b with status := .aborted, status_open := rfl }, env, ?_,
      .inr ⟨rfl, rfl, h.eq_none hout⟩⟩
    have hdone : ¬ b.status.isDone = true := by simp [b.status_open]
    have haborted : BtStatus.aborted ≠ .running := by simp
    have hle' : (b.children.map NpcLeaf.node).length ≤ b.curr := by
      rw [List.length_map]
      exact Nat.le_of_not_lt hout
    rw [node, BtNode.tick, if_neg hdone, ← hstart]
    dsimp only
    rw [if_pos (by rw [List.length_map]; exact hend), BtNode.finish, BtNode.status_edSelector,
      if_pos haborted, BtNode.exit, hcurr, BtNode.forceExitAt_of_length_le _ _ hle']
    rfl

end Behaviours

/-! ### The life -/

/-- The parallel of a view, a sense, and the selector. -/
structure Living (config : BtConfig) where
  view : NpcLeaf
  sense : NpcLeaf
  view_kind : view.act.kind = .view
  sense_kind : sense.act.kind = .sense
  behaviours : Behaviours config
  status : BtStatus

namespace Living

variable {config : BtConfig}

/-- The node. -/
def node (p : Living config) : BtNode BtAct :=
  .parallel .sequence [p.view.node, p.sense.node, p.behaviours.node] p.status

/-- The current action is null, or the node runs and it is that of the selector. -/
def Current (p : Living config) (curAct : Option ℕ) : Prop :=
  curAct = none ∨ p.status = .running ∧ p.behaviours.Current curAct

theorem Current.behaviours {p : Living config} {curAct : Option ℕ} (h : p.Current curAct) :
    p.behaviours.Current curAct := h.elim .inl And.right

variable (algs : Heap.Algorithms BtEvent.less)

/-- **The parallel exits.** -/
theorem exit (p : Living config) (env : NpcEnv fl) (h : p.behaviours.Current env.curAct) :
    ∃ p' : Living config, ∃ env', BtNode.exit (npcActions algs) p.node env = (p'.node, env') ∧
      p'.behaviours.curr = p.behaviours.curr ∧ p'.status = p.status ∧ env'.curAct = none := by
  obtain ⟨view, env₁, hview, ⟨viewNode, hviewExit, hviewNode⟩, hviewAct⟩ := p.view.exit_plain algs (by rw [p.view_kind]; rfl) env
  obtain ⟨sense, env₂, hsense, ⟨senseNode, hsenseExit, hsenseNode⟩, hsenseAct⟩ :=
    p.sense.exit_plain algs (by rw [p.sense_kind]; rfl) env₁
  rw [← hviewAct, ← hsenseAct] at h
  obtain ⟨b, env₃, hnode, hcurr, -, hnone⟩ := p.behaviours.exit algs env₂ h
  refine ⟨⟨view, sense, ?_, ?_, b.invalid, p.status⟩, env₃, ?_, hcurr, rfl, hnone⟩
  · exact (NpcLeaf.kind_eq hview).trans p.view_kind
  · exact (NpcLeaf.kind_eq hsense).trans p.sense_kind
  · rw [node, BtNode.exit_parallel, BtNode.forceExitAll_cons, BtNode.forceExitAll_cons,
      BtNode.forceExitAll_cons, BtNode.forceExitAll_nil]
    dsimp only
    rw [hviewExit, hviewNode, hsenseExit, hsenseNode, hnode, Behaviours.node_invalid, node]

/-- A tick that does not leave the parallel running. -/
theorem finish (p : Living config) (hstatus : p.status ≠ .running) (env : NpcEnv fl)
    (h : p.behaviours.Current env.curAct) :
    ∃ p' : Living config, ∃ env', BtNode.finish (npcActions algs) p.node env = (p'.node, env') ∧
      p'.status ≠ .running ∧ p'.behaviours.curr = p.behaviours.curr ∧ env'.curAct = none := by
  obtain ⟨p', env', heq, hcurr, hsame, hnone⟩ := p.exit algs env h
  exact ⟨p', env', (if_pos hstatus).trans heq, hsame ▸ hstatus, hcurr, hnone⟩

/-- **A tick of the parallel.**  It runs with its selector inside, or nothing is done. -/
theorem tick (p : Living config) (env : NpcEnv fl) (h : p.Current env.curAct) :
    ∃ p' : Living config, ∃ env', BtNode.tick (npcActions algs) p.node env = (p'.node, env') ∧
      (p'.status = .running ∧ p'.behaviours.Inside ∧ p'.behaviours.Current env'.curAct ∨
        p'.status ≠ .running ∧ p'.behaviours.curr = p.behaviours.curr ∧ env'.curAct = none) := by
  by_cases hdone : p.status.isDone = true
  · have hnode : p.node.status.isDone = true := hdone
    refine ⟨p, env, BtNode.tick_of_isDone (npcActions algs) hnode env, .inr ⟨?_, rfl, ?_⟩⟩
    · intro hrun
      rw [hrun] at hdone
      cases hdone
    · rcases h with hnone | ⟨hrun, -⟩
      · exact hnone
      · rw [hrun] at hdone
        cases hdone
  obtain ⟨view, env₁, hview, hviewKey, hviewAct⟩ := p.view.tick_plain algs (by rw [p.view_kind]; rfl) env
  obtain ⟨sense, env₂, hsense, hsenseKey, hsenseAct⟩ :=
    p.sense.tick_plain algs (by rw [p.sense_kind]; rfl) env₁
  have hviewKind : view.act.kind = .view := (NpcLeaf.kind_eq hviewKey).trans p.view_kind
  have hsenseKind : sense.act.kind = .sense := (NpcLeaf.kind_eq hsenseKey).trans p.sense_kind
  -- a tick that stops at a child makes all of them exit
  have hends : ∀ (q : Living config) (env' : NpcEnv fl), q.status ≠ .running →
      q.behaviours.curr = p.behaviours.curr → q.behaviours.Current env'.curAct →
      BtNode.tick (npcActions algs) p.node env = BtNode.finish (npcActions algs) q.node env' →
      ∃ p' : Living config, ∃ env', BtNode.tick (npcActions algs) p.node env = (p'.node, env') ∧
        (p'.status = .running ∧ p'.behaviours.Inside ∧ p'.behaviours.Current env'.curAct ∨
          p'.status ≠ .running ∧ p'.behaviours.curr = p.behaviours.curr ∧ env'.curAct = none) := by
    intro q env' hstatus hcurr hcurrent heq
    obtain ⟨p', env'', hfinish, hnot, hsame, hnone⟩ := q.finish algs hstatus env' hcurrent
    exact ⟨p', env'', heq.trans hfinish, .inr ⟨hnot, hsame.trans hcurr, hnone⟩⟩
  have htick : BtNode.tick (npcActions algs) p.node env =
      let ended := BtNode.runAll (npcActions algs) .sequence 3
        [p.view.node, p.sense.node, p.behaviours.node] 0 0 env
      BtNode.finish (npcActions algs) (.parallel .sequence ended.1 ended.2.1) ended.2.2 := by
    rw [node, BtNode.tick_parallel, if_neg hdone]
    rfl
  by_cases hviewStops : BtNode.stops view.status = true
  · refine hends ⟨view, p.sense, hviewKind, p.sense_kind, p.behaviours, view.status⟩ env₁
      (BtNode.ne_running_of_stops hviewStops) rfl (hviewAct ▸ h.behaviours) ?_
    rw [htick, BtNode.runAll_stops hview hviewStops]
    rfl
  obtain ⟨failNum, hviewGoes⟩ := BtNode.runAll_goes hview (Bool.eq_false_iff.2 hviewStops)
  rw [hviewGoes] at htick
  by_cases hsenseStops : BtNode.stops sense.status = true
  · refine hends ⟨view, sense, hviewKind, hsenseKind, p.behaviours, sense.status⟩ env₂
      (BtNode.ne_running_of_stops hsenseStops) rfl (hsenseAct ▸ hviewAct ▸ h.behaviours) ?_
    rw [htick, BtNode.runAll_stops hsense hsenseStops]
    rfl
  obtain ⟨failNum', hsenseGoes⟩ := BtNode.runAll_goes hsense (Bool.eq_false_iff.2 hsenseStops)
  rw [hsenseGoes] at htick
  obtain ⟨b, env₃, hselector, hresult⟩ := p.behaviours.tick algs env₂ (hsenseAct ▸ hviewAct ▸ h.behaviours)
  rcases hresult with ⟨hrun, hinside, hcurrent⟩ | ⟨haborted, hcurr, hnone⟩
  -- the selector runs, and so does the parallel: at most two of its children have succeeded
  · obtain ⟨failNum'', hgoes⟩ := BtNode.runAll_goes hselector (by rw [Behaviours.status_node, hrun]; rfl)
    rw [hgoes, BtNode.runAll_nil] at htick
    refine ⟨⟨view, sense, hviewKind, hsenseKind, b, .running⟩, env₃, ?_, .inl ⟨rfl, hinside, hcurrent⟩⟩
    have hgoing : BtStatus.running ≠ .success := nofun
    rw [Behaviours.status_node, hrun, if_neg hgoing] at htick
    have hcount : (if sense.node.status = .success then
        (if view.node.status = .success then 0 + 1 else 0) + 1
      else if view.node.status = .success then 0 + 1 else 0) ≠ 3 := by
      split_ifs <;> omega
    rw [if_neg hcount] at htick
    exact htick
  · refine hends ⟨view, sense, hviewKind, hsenseKind, b, .aborted⟩ env₃ nofun hcurr (.inl hnone) ?_
    rw [htick, BtNode.runAll_stops hselector (by rw [Behaviours.status_node, haborted]; rfl),
      Behaviours.status_node, haborted]
    rfl

end Living

/-! ### The sequence -/

/-- The sequence of a birth, a life, and a death. -/
structure Lifetime (config : BtConfig) where
  birth : NpcLeaf
  death : NpcLeaf
  birth_kind : birth.act.kind = .birth
  death_kind : death.act.kind = .death
  living : Living config
  curr : ℕ
  status : BtStatus

namespace Lifetime

variable {config : BtConfig}

/-- The children. -/
def children (l : Lifetime config) : List (BtNode BtAct) := [l.birth.node, l.living.node, l.death.node]

/-- The node. -/
def node (l : Lifetime config) : BtNode BtAct := .sequence l.children l.curr l.status

/-- The sequence runs, and stands at the life. -/
def AtAlive (l : Lifetime config) : Prop := l.status = .running ∧ l.curr = 1

/-- The current action is null, or the NPC is alive and it is that of its life. -/
def Current (l : Lifetime config) (curAct : Option ℕ) : Prop :=
  curAct = none ∨ l.AtAlive ∧ l.living.Current curAct

theorem Current.living {l : Lifetime config} {curAct : Option ℕ} (h : l.Current curAct) :
    l.living.Current curAct := h.elim .inl And.right

variable (algs : Heap.Algorithms BtEvent.less)

/-- **All children are forced to exit.** -/
theorem forceExitAll (l : Lifetime config) (env : NpcEnv fl) (h : l.living.Current env.curAct) :
    ∃ l' : Lifetime config, ∃ env', BtNode.forceExitAll (npcActions algs) l.children env = (l'.children, env') ∧
      l'.living.behaviours.curr = l.living.behaviours.curr ∧ env'.curAct = none := by
  obtain ⟨birth, env₁, hbirth, ⟨birthNode, hbirthExit, hbirthNode⟩, hbirthAct⟩ :=
    l.birth.exit_plain algs (by rw [l.birth_kind]; rfl) env
  rw [← hbirthAct] at h
  obtain ⟨p, env₂, hnode, hcurr, -, hnone⟩ := l.living.exit algs env₁ h.behaviours
  obtain ⟨death, env₃, hdeath, ⟨deathNode, hdeathExit, hdeathNode⟩, hdeathAct⟩ :=
    l.death.exit_plain algs (by rw [l.death_kind]; rfl) env₂
  refine ⟨⟨birth, death, ?_, ?_, { p with status := .invalid }, l.curr, l.status⟩, env₃, ?_, hcurr,
    hdeathAct.trans hnone⟩
  · exact (NpcLeaf.kind_eq hbirth).trans l.birth_kind
  · exact (NpcLeaf.kind_eq hdeath).trans l.death_kind
  · rw [children, BtNode.forceExitAll_cons, BtNode.forceExitAll_cons, BtNode.forceExitAll_cons,
      BtNode.forceExitAll_nil]
    dsimp only
    rw [hbirthExit, hbirthNode, hnode, hdeathExit, hdeathNode, children]
    rfl

/-- **The sequence exits.** -/
theorem exit (l : Lifetime config) (env : NpcEnv fl) (h : l.living.Current env.curAct) :
    ∃ l' : Lifetime config, ∃ env', BtNode.exit (npcActions algs) l.node env = (l'.node, env') ∧
      l'.living.behaviours.curr = l.living.behaviours.curr ∧ l'.status = l.status ∧ env'.curAct = none := by
  obtain ⟨l', env', heq, hcurr, hnone⟩ := l.forceExitAll algs env h
  refine ⟨{ l' with curr := l.curr, status := l.status }, env', ?_, hcurr, rfl, hnone⟩
  rw [node, BtNode.exit_sequence, heq]
  rfl

/-- **The sequence is reset.** -/
theorem reset (l : Lifetime config) (env : NpcEnv fl) (h : l.living.Current env.curAct) :
    ∃ l' : Lifetime config, ∃ env', BtNode.reset (npcActions algs) l.node env = (l'.node, env') ∧
      l'.living.behaviours.curr = l.living.behaviours.curr ∧ ¬ l'.AtAlive ∧ env'.curAct = none := by
  obtain ⟨l', env', heq, hcurr, hnone⟩ := l.forceExitAll algs env h
  refine ⟨{ l' with curr := 0, status := .invalid }, env', ?_, hcurr, nofun, hnone⟩
  rw [node, BtNode.reset, heq]
  rfl

/-- The loop from the death on. -/
theorem run_death (death : NpcLeaf) (hdeath : death.act.kind = .death) (env : NpcEnv fl) :
    ∃ death' : NpcLeaf, ∃ curr status env', death'.key = death.key ∧
      BtNode.runFrom (npcActions algs) BtNode.passes .success [death.node] 0 env =
        ([death'.node], curr, some status, env') ∧ env'.curAct = env.curAct := by
  obtain ⟨death', env', htick, hkey, hcurAct⟩ := death.tick_plain algs (by rw [hdeath]; rfl) env
  cases hpasses : BtNode.passes death'.node.status with
  | true => exact ⟨death', 1, .success, env', hkey, BtNode.runFrom_ends htick hpasses, hcurAct⟩
  | false => exact ⟨death', 0, _, env', hkey, BtNode.runFrom_stays htick hpasses, hcurAct⟩

/-- The loop from the life on: it stays there and runs, or nothing is done. -/
theorem run_living (p : Living config) (death : NpcLeaf) (hdeath : death.act.kind = .death)
    (env : NpcEnv fl) (h : p.Current env.curAct) :
    ∃ p' : Living config, ∃ death' : NpcLeaf, ∃ curr status env', death'.key = death.key ∧
      BtNode.runFrom (npcActions algs) BtNode.passes .success [p.node, death.node] 0 env =
        ([p'.node, death'.node], curr, some status, env') ∧
      (curr = 0 ∧ status = .running ∧ p'.behaviours.Inside ∧ p'.Current env'.curAct ∨
        (curr = 0 → status ≠ .running) ∧ p'.behaviours.curr = p.behaviours.curr ∧ env'.curAct = none) := by
  obtain ⟨p', env₁, htick, hresult⟩ := p.tick algs env h
  cases hpasses : BtNode.passes p'.node.status with
  | true =>
    have hnot : p'.status ≠ .running := by
      intro hrun
      have hstatus : p'.node.status = .running := hrun
      rw [hstatus] at hpasses
      cases hpasses
    obtain ⟨-, hcurr, hnone⟩ := hresult.resolve_left fun h => hnot h.1
    obtain ⟨death', curr, status, env', hkey, hrest, hcurAct⟩ := run_death algs death hdeath env₁
    exact ⟨p', death', curr + 1, status, env', hkey, BtNode.runFrom_moves htick hpasses hrest,
      .inr ⟨nofun, hcurr, hcurAct.trans hnone⟩⟩
  | false =>
    refine ⟨p', death, 0, p'.status, env₁, rfl, BtNode.runFrom_stays htick hpasses, ?_⟩
    rcases hresult with ⟨hrun, hinside, hcurrent⟩ | ⟨hnot, hcurr, hnone⟩
    · exact .inl ⟨rfl, hrun, hinside, .inr ⟨hrun, hcurrent⟩⟩
    · exact .inr ⟨fun _ => hnot, hcurr, hnone⟩

/-- The loop from the life on, behind a birth. -/
theorem run_behind (l : Lifetime config) (birth : NpcLeaf) (hbirth : birth.act.kind = .birth)
    (env : NpcEnv fl) (h : l.living.Current env.curAct) :
    ∃ l' : Lifetime config, ∃ curr status env', l'.birth = birth ∧ l'.curr = curr + 1 ∧
      BtNode.runFrom (npcActions algs) BtNode.passes .success [l.living.node, l.death.node] 0 env =
        ([l'.living.node, l'.death.node], curr, some status, env') ∧
      (l'.curr = 1 ∧ some status = some .running ∧ l'.living.behaviours.Inside ∧
          l'.living.Current env'.curAct ∨
        (l'.curr = 1 → some status ≠ none ∧ some status ≠ some .running) ∧
          l'.living.behaviours.curr = l.living.behaviours.curr ∧ env'.curAct = none) := by
  obtain ⟨p, death, curr, status, env', hdeath, hrest, hresult⟩ :=
    run_living algs l.living l.death l.death_kind env h
  refine ⟨⟨birth, death, hbirth, (NpcLeaf.kind_eq hdeath).trans l.death_kind, p, curr + 1, l.status⟩,
    curr, status, env', rfl, rfl, hrest, ?_⟩
  rcases hresult with ⟨hcurr, hrun, hmore⟩ | ⟨hnot, hmore⟩
  · exact .inl ⟨congrArg (· + 1) hcurr, congrArg some hrun, hmore⟩
  · refine .inr ⟨fun hcurr => ⟨nofun, fun hrun => ?_⟩, hmore⟩
    exact hnot (Nat.succ.inj hcurr) (Option.some.inj hrun)

/-- **The loop of the sequence**, wherever it starts. -/
theorem run (l : Lifetime config) (start : ℕ) (env : NpcEnv fl)
    (h : env.curAct = none ∨ start = 1 ∧ l.living.Current env.curAct) :
    ∃ l' : Lifetime config, ∃ result env',
      BtNode.runFrom (npcActions algs) BtNode.passes .success l.children start env =
        (l'.children, l'.curr, result, env') ∧
      (l'.curr = 1 ∧ result = some .running ∧ l'.living.behaviours.Inside ∧ l'.living.Current env'.curAct ∨
        (l'.curr = 1 → result ≠ none ∧ result ≠ some .running) ∧
          l'.living.behaviours.curr = l.living.behaviours.curr ∧ env'.curAct = none) := by
  have hliving : l.living.Current env.curAct := h.elim .inl And.right
  match start with
  | 0 =>
    have hnone : env.curAct = none := h.resolve_right fun h => nomatch h.1
    obtain ⟨birth, env₁, htick, hbirth, hbirthAct⟩ := l.birth.tick_plain algs (by rw [l.birth_kind]; rfl) env
    have hbirthKind := (NpcLeaf.kind_eq hbirth).trans l.birth_kind
    cases hpasses : BtNode.passes birth.node.status with
    | true =>
      obtain ⟨l', curr, status, env', rfl, hcurr, hrest, hresult⟩ :=
        l.run_behind algs birth hbirthKind env₁ (.inl (hbirthAct.trans hnone))
      refine ⟨l', some status, env', ?_, hresult⟩
      rw [hcurr]
      exact BtNode.runFrom_moves htick hpasses hrest
    | false =>
      exact ⟨⟨birth, l.death, hbirthKind, l.death_kind, l.living, 0, l.status⟩, _, env₁,
        BtNode.runFrom_stays htick hpasses, .inr ⟨nofun, rfl, hbirthAct.trans hnone⟩⟩
  | 1 =>
    obtain ⟨l', curr, status, env', hbirth, hcurr, hrest, hresult⟩ :=
      l.run_behind algs l.birth l.birth_kind env hliving
    refine ⟨l', some status, env', ?_, hresult⟩
    rw [hcurr, children, children, hbirth]
    exact BtNode.runFrom_succ_eq hrest
  | 2 =>
    have hnone : env.curAct = none := h.resolve_right fun h => nomatch h.1
    obtain ⟨death, curr, status, env', hdeath, hrest, hcurAct⟩ := run_death algs l.death l.death_kind env
    refine ⟨⟨l.birth, death, l.birth_kind, (NpcLeaf.kind_eq hdeath).trans l.death_kind, l.living, curr + 2,
      l.status⟩, some status, env', BtNode.runFrom_succ_eq (BtNode.runFrom_succ_eq hrest), .inr ⟨nofun, rfl, ?_⟩⟩
    exact hcurAct.trans hnone
  | start + 3 =>
    have hnone : env.curAct = none := h.resolve_right fun h => nomatch h.1
    exact ⟨{ l with curr := 3 }, none, env, rfl, .inr ⟨nofun, rfl, hnone⟩⟩

/-- **A tick of the sequence.**  It is alive with the selector inside, or nothing is done. -/
theorem tick (l : Lifetime config) (env : NpcEnv fl) (h : l.Current env.curAct) :
    ∃ l' : Lifetime config, ∃ env', BtNode.tick (npcActions algs) l.node env = (l'.node, env') ∧
      (l'.AtAlive ∧ l'.living.behaviours.Inside ∧ l'.living.Current env'.curAct ∨
        ¬ l'.AtAlive ∧ l'.living.behaviours.curr = l.living.behaviours.curr ∧ env'.curAct = none) := by
  by_cases hdone : l.status.isDone = true
  · have hnode : l.node.status.isDone = true := hdone
    have hnot : ¬ l.AtAlive := by
      rintro ⟨hrun, -⟩
      rw [hrun] at hdone
      cases hdone
    exact ⟨l, env, BtNode.tick_of_isDone (npcActions algs) hnode env,
      .inr ⟨hnot, rfl, h.resolve_right fun h => hnot h.1⟩⟩
  obtain ⟨start, hstart⟩ : ∃ start, start = if l.status ≠ .running then 0 else l.curr := ⟨_, rfl⟩
  have hcurrent : env.curAct = none ∨ start = 1 ∧ l.living.Current env.curAct := by
    refine h.imp_right fun ⟨⟨hrun, hcurr⟩, hliving⟩ => ⟨?_, hliving⟩
    rw [hstart, if_neg (not_not.2 hrun), hcurr]
  obtain ⟨l', result, env', hloop, hresult⟩ := l.run algs start env hcurrent
  have htick : BtNode.tick (npcActions algs) l.node env = BtNode.finish (npcActions algs)
      ({ l' with status := result.getD l.status } : Lifetime config).node env' := by
    have hpasses : (fun status : BtStatus => decide (status = .success ∨ status = .aborted)) =
        BtNode.passes := rfl
    rw [node, BtNode.tick_sequence, if_neg hdone, hpasses, ← hstart]
    dsimp only
    rw [hloop]
    rfl
  rcases hresult with ⟨hcurr, rfl, hinside, hliving⟩ | ⟨hnot, hcurr, hnone⟩
  · exact ⟨{ l' with status := .running }, env', htick, .inl ⟨⟨rfl, hcurr⟩, hinside, hliving⟩⟩
  · by_cases hrun : result.getD l.status = .running
    · refine ⟨{ l' with status := result.getD l.status }, env', htick.trans (if_neg (not_not.2 hrun)),
        .inr ⟨?_, hcurr, hnone⟩⟩
      rintro ⟨-, halive⟩
      obtain ⟨hsome, hne⟩ := hnot halive
      obtain ⟨status, rfl⟩ := Option.ne_none_iff_exists'.1 hsome
      exact hne (congrArg some hrun)
    · obtain ⟨l'', env'', hexit, hcurr', hstatus, hnone'⟩ :=
        ({ l' with status := result.getD l.status } : Lifetime config).exit algs env' (.inl hnone)
      refine ⟨l'', env'', htick.trans ((if_pos hrun).trans hexit), .inr ⟨?_, hcurr'.trans hcurr, hnone'⟩⟩
      rintro ⟨hrun', -⟩
      exact hrun (hstatus.symm.trans hrun')

end Lifetime

/-! ### The root -/

/-- The tree of a configuration. -/
structure NpcTree (config : BtConfig) where
  life : Lifetime config
  count : ℕ
  status : BtStatus

namespace NpcTree

variable {config : BtConfig}

/-- The node. -/
def node (t : NpcTree config) : BtNode BtAct := .repeat t.life.node t.count uintMax t.status

/-- The selector. -/
def behaviours (t : NpcTree config) : Behaviours config := t.life.living.behaviours

/-- **The current action** is null, or the NPC is alive and it is the running child of the selector. -/
def Current (t : NpcTree config) (curAct : Option ℕ) : Prop := t.life.Current curAct

/-- The NPC is alive. -/
def AtAlive (t : NpcTree config) : Prop := t.life.AtAlive

theorem lifePhase_node (t : NpcTree config) : lifePhase t.node = .alive ↔ t.AtAlive := by
  obtain ⟨⟨birth, death, hbirth, hdeath, living, curr, status⟩, count, rootStatus⟩ := t
  change lifePhase (.repeat (.sequence _ curr status) _ _ _) = .alive ↔ status = .running ∧ curr = 1
  cases status with
  | running =>
    simp only [lifePhase]
    split_ifs with hone htwo <;> simp [hone]
  | invalid | success | failure | suspend | aborted => simp [lifePhase]

/-- A current action is the running child at which the selector stands. -/
theorem Current.some {t : NpcTree config} {number : ℕ} (h : t.Current (some number)) :
    t.AtAlive ∧ number = t.behaviours.curr ∧ ∃ leaf, t.behaviours.children[t.behaviours.curr]? = some leaf ∧
      leaf.act.number = number ∧ leaf.status = .running := by
  rcases h with hnone | ⟨halive, hliving⟩
  · cases hnone
  · rcases hliving.behaviours with hnone | ⟨-, leaf, hleaf, hrun, hnumber⟩
    · cases hnone
    · obtain rfl := Option.some.inj hnumber
      exact ⟨halive, (Behaviours.getElem?_key hleaf).2, leaf, hleaf, rfl, hrun⟩

variable (algs : Heap.Algorithms BtEvent.less)

/-- **A tick.**  Behind it the NPC is alive with the selector inside, or the selector stands where it did; the
current action keeps its meaning. -/
theorem tick (t : NpcTree config) (env : NpcEnv fl) (h : t.Current env.curAct)
    (hinside : t.AtAlive → t.behaviours.Inside) :
    ∃ t' : NpcTree config, ∃ env', BtNode.tick (npcActions algs) t.node env = (t'.node, env') ∧
      t'.Current env'.curAct ∧
        (t'.AtAlive ∧ t'.behaviours.Inside ∨ ¬ t'.AtAlive ∧ t'.behaviours.curr = t.behaviours.curr) := by
  have hstays : BtNode.tick (npcActions algs) t.node env = (t.node, env) →
      ∃ t' : NpcTree config, ∃ env', BtNode.tick (npcActions algs) t.node env = (t'.node, env') ∧
        t'.Current env'.curAct ∧
          (t'.AtAlive ∧ t'.behaviours.Inside ∨ ¬ t'.AtAlive ∧ t'.behaviours.curr = t.behaviours.curr) := by
    intro heq
    refine ⟨t, env, heq, h, ?_⟩
    by_cases halive : t.AtAlive
    · exact .inl ⟨halive, hinside halive⟩
    · exact .inr ⟨halive, rfl⟩
  by_cases hdone : t.status.isDone = true
  · exact hstays (if_pos hdone)
  by_cases hlt : t.count < uintMax
  · obtain ⟨l, env₁, htick, hresult⟩ := t.life.tick algs env h
    rw [node, BtNode.tick, if_neg hdone, if_pos hlt, htick]
    dsimp only
    by_cases hsuccess : l.status = .success
    -- the sequence has come to its end, and is reset
    · have hnot : ¬ l.AtAlive := by
        rintro ⟨hrun, -⟩
        cases hsuccess.symm.trans hrun
      obtain ⟨-, hcurr, hnone⟩ := hresult.resolve_left fun h => hnot h.1
      obtain ⟨l', env₂, hreset, hcurr', hnot', hnone'⟩ := l.reset algs env₁ (.inl hnone)
      have hnode : l.node.status = .success := hsuccess
      rw [if_pos hnode, hreset]
      refine ⟨⟨l', t.count + 1, _⟩, env₂, ite_self _, .inl hnone', .inr ⟨hnot', hcurr'.trans hcurr⟩⟩
    · have hnode : l.node.status ≠ .success := hsuccess
      rw [if_neg hnode]
      refine ⟨⟨l, t.count, l.status⟩, env₁, ite_self _, ?_⟩
      rcases hresult with ⟨halive, hin, hliving⟩ | ⟨hnot, hcurr, hnone⟩
      · exact ⟨.inr ⟨halive, hliving⟩, .inl ⟨halive, hin⟩⟩
      · exact ⟨.inl hnone, .inr ⟨hnot, hcurr⟩⟩
  · refine hstays ?_
    rw [node, BtNode.tick, if_neg hdone, if_neg hlt]
    exact ite_self _

/-- The tree with another selector. -/
def withBehaviours (t : NpcTree config) (b : Behaviours config) : NpcTree config :=
  { t with life := { t.life with living := { t.life.living with behaviours := b } } }

variable {algs} in
/-- An event reaches the selector, unless it is `Birth`. -/
theorem handleEvent_of_some {t : NpcTree config} {b : Behaviours config} {id : BtEventId} {env env' : NpcEnv fl}
    (hid : id ≠ .birth)
    (h : BtNode.handleEvent (npcActions algs) id t.behaviours.node env = some (b.node, env')) :
    BtNode.handleEvent (npcActions algs) id t.node env = some ((t.withBehaviours b).node, env') := by
  have h' : BtNode.handleEvent (npcActions algs) id t.life.living.behaviours.node env = some (b.node, env') := h
  simp [node, Lifetime.node, Lifetime.children, Living.node, NpcLeaf.node, BtNode.handleEvent,
    BtNode.handleAll, hid, h', withBehaviours]

variable {algs} in
theorem handleEvent_of_none {t : NpcTree config} {id : BtEventId} {env : NpcEnv fl} (hid : id ≠ .birth)
    (h : BtNode.handleEvent (npcActions algs) id t.behaviours.node env = none) :
    BtNode.handleEvent (npcActions algs) id t.node env = none := by
  have h' : BtNode.handleEvent (npcActions algs) id t.life.living.behaviours.node env = none := h
  simp [node, Lifetime.node, Lifetime.children, Living.node, NpcLeaf.node, BtNode.handleEvent,
    BtNode.handleAll, hid, h']

theorem ne_birth_of_place {id : BtEventId} {i : ℕ} (h : config.place id = some i) : id ≠ .birth := by
  rintro rfl
  cases BtConfig.isBehaviour_of_place h

/-- **An event for one of the behaviours**, when the selector stands at a child: that one exits, and the
selector stands at the registered child then. -/
theorem handleEvent_registered (t : NpcTree config) {id : BtEventId} {i : ℕ} (env : NpcEnv fl)
    (h : t.Current env.curAct) (hplace : config.place id = some i) (hinside : t.behaviours.Inside) :
    ∃ t' : NpcTree config, ∃ env', BtNode.handleEvent (npcActions algs) id t.node env = some (t'.node, env') ∧
      t'.behaviours.curr = i ∧ (t'.AtAlive ↔ t.AtAlive) ∧ env'.curAct = none := by
  obtain ⟨b, env', hexit, -, hstatus, hnone⟩ := t.behaviours.forceExitAt algs .suspend env h.living.behaviours
  obtain ⟨one, hfind, rfl⟩ := Option.map_eq_some_iff.1 hplace
  obtain ⟨kind, hkind, -⟩ := BtConfig.place_eventId hplace
  have hlt : one.2 < b.children.length := by
    rw [b.length_eq]
    exact (List.getElem?_eq_some_iff.1 hkind).1
  refine ⟨t.withBehaviours { b with curr := one.2, curr_le := hlt.le }, env',
    handleEvent_of_some (ne_birth_of_place hplace) ?_, rfl, .rfl, hnone⟩
  have hinside' : t.behaviours.curr < (t.behaviours.children.map NpcLeaf.node).length := by
    rw [List.length_map]
    exact hinside
  rw [Behaviours.node, BtNode.handleEvent, hfind]
  dsimp only
  rw [if_pos hinside', hexit, ← hstatus]
  rfl

/-- The same, when the selector stands at `end()`. -/
theorem handleEvent_early (t : NpcTree config) {id : BtEventId} {i : ℕ} (env : NpcEnv fl)
    (hplace : config.place id = some i) (hout : ¬ t.behaviours.Inside) :
    BtNode.handleEvent (npcActions algs) id t.node env = none := by
  refine handleEvent_of_none (ne_birth_of_place hplace) ?_
  obtain ⟨one, hfind, -⟩ := Option.map_eq_some_iff.1 hplace
  have hout' : ¬ t.behaviours.curr < (t.behaviours.children.map NpcLeaf.node).length := by
    rw [List.length_map]
    exact hout
  rw [Behaviours.node, BtNode.handleEvent, hfind]
  dsimp only
  rw [if_neg hout']

/-- **The event `Birth`**: the sequence is reset. -/
theorem handleEvent_birth (t : NpcTree config) (env : NpcEnv fl) (h : t.Current env.curAct) :
    ∃ t' : NpcTree config, ∃ env',
      BtNode.handleEvent (npcActions algs) .birth t.node env = some (t'.node, env') ∧
        t'.behaviours.curr = t.behaviours.curr ∧ ¬ t'.AtAlive ∧ env'.curAct = none := by
  obtain ⟨l, env', hreset, hcurr, hnot, hnone⟩ := t.life.reset algs env h.living
  refine ⟨⟨l, 0, t.status⟩, env', ?_, hcurr, hnot, hnone⟩
  rw [node, BtNode.handleEvent, if_pos rfl, hreset]
  rfl

/-- **Any other event** is for nobody. -/
theorem handleEvent_other (t : NpcTree config) {id : BtEventId} (env : NpcEnv fl)
    (hplace : config.place id = none) (hid : id ≠ .birth) :
    BtNode.handleEvent (npcActions algs) id t.node env = some (t.node, env) := by
  refine handleEvent_of_some hid ?_
  have hfind := Option.map_eq_none_iff.1 hplace
  rw [Behaviours.node, BtNode.handleEvent, hfind]
  dsimp only
  rw [BtNode.handleAll_of_isAction id env t.behaviours.isAction]
  rfl

/-! ### The first tree -/

/-- The first tree of a configuration. -/
def first (config : BtConfig) (rolls : ℕ → Fin 4) : NpcTree config where
  life :=
    { birth := ⟨⟨.birth, config.kinds.length + 2, 0, Npc.firstPoint⟩, .invalid⟩
      death := ⟨⟨.death, config.kinds.length + 3, 0, Npc.firstPoint⟩, .invalid⟩
      birth_kind := rfl
      death_kind := rfl
      living :=
        { view := ⟨⟨.view, config.kinds.length, 0, Npc.firstPoint⟩, .invalid⟩
          sense := ⟨⟨.sense, config.kinds.length + 1, 0, Npc.firstPoint⟩, .invalid⟩
          view_kind := rfl
          sense_kind := rfl
          behaviours :=
            { children := config.kinds.zipIdx.map fun pair => ⟨⟨pair.1, pair.2, 0, rolls pair.2⟩, .invalid⟩
              keys := by
                rw [List.map_map]
                exact List.map_id _
              curr := config.kinds.length
              curr_le := by rw [List.length_map, List.length_zipIdx]
              status := .invalid
              status_open := rfl }
          status := .invalid }
      curr := 3
      status := .invalid }
  count := 0
  status := .invalid

/-- **A new NPC has the first tree**, whose selector stands at `end()`. -/
theorem awake_root (npc : Npc fl) (config : BtConfig) (rolls : ℕ → Fin 4) :
    (NpcObject.awake npc config rolls).root = (first config rolls).node := by
  change parseTree config.kinds rolls = _
  simp only [parseTree, List.length_map, List.length_zipIdx]
  simp only [first, node, Lifetime.node, Lifetime.children, Living.node, Behaviours.node, List.map_map]
  rfl

theorem first_curr (config : BtConfig) (rolls : ℕ → Fin 4) :
    (first config rolls).behaviours.curr = (first config rolls).behaviours.children.length := by
  rw [Behaviours.length_eq]
  rfl

end NpcTree

end MmoServer
