/-
**When an NPC switches to another behaviour.**

An event for a behaviour makes the selector dereference its position.  The position is `end()` until the
selector is ticked for the first time, and that is in the first tick of the life of the NPC.  An NPC that is
attacked while it is being born handles the event before, and reads through `end()`.  Once it has been alive,
the position designates a child for ever.

Main definitions:

* `MmoServer.EventRound`, `MmoServer.eventRounds` — what the loop of an update passes on, with the trees
  before and behind each event;
* `MmoServer.EventRound.Safe` — a switch from a child to the child that is registered;
* `MmoServer.SwitchState`, `MmoServer.SwitchState.InTime` — an NPC with all that has been passed on, and the
  updates that pass on no event for a behaviour too early;
* `MmoServer.NpcObject.Tracked` — the invariant.

Main results:

* `MmoServer.NpcTree.safe_iff` — when one event is handled safely;
* `MmoServer.NpcTree.loop_inTime`, `MmoServer.NpcTree.loop_early` — the loop of an update;
* `MmoServer.switches_run` — **all switches are safe** in the runs that meet the condition, and the first
  update that does not breaks it;
* `MmoServer.not_switches_birth` — an attack in the first birth.
-/

import MmoServer.EventOrder
import MmoServer.NpcRewards
import MmoServer.NpcTree

set_option relaxedAutoImplicit false
set_option autoImplicit false

namespace MmoServer

open Transition

/-! ### What an update passes on -/

/-- A round of the loop of an update: the event that is passed on, the tree before, and the tree behind, which
is not there if the handler reads through a bad pointer. -/
structure EventRound where
  id : BtEventId
  before : BtNode BtAct
  after : Option (BtNode BtAct)

/-- The rounds of the loop, for at most so many. -/
def eventRounds {fl : NpcFloats} (algs : Heap.Algorithms BtEvent.less) :
    ℕ → BtNode BtAct → NpcEnv fl → List EventRound
  | rounds, root, env =>
    match env.events.pop algs with
    | none => []
    | some (id, events) =>
      match rounds with
      | 0 => []
      | rounds + 1 =>
        match root.handleEvent (npcActions algs) id { env with events := events } with
        | none => [⟨id, root, none⟩]
        | some (root', env') => ⟨id, root, some root'⟩ :: eventRounds algs rounds root' env'

/-- The selector of a tree: its children, `_nodes`, and `_curr`. -/
def selectorOf : BtNode BtAct → Option (List (BtNode BtAct) × List (BtEventId × ℕ) × ℕ)
  | .repeat (.sequence [_, .parallel _ [_, _, .edSelector children nodes curr _] _, _] _ _) _ _ _ =>
    some (children, nodes, curr)
  | _ => none

/-- The place that the selector of a tree switches to for an event. -/
def placeOf (root : BtNode BtAct) (id : BtEventId) : Option ℕ :=
  (selectorOf root).bind fun (_, nodes, _) => (nodes.find? fun one => one.1 = id).map Prod.snd

/-- The position of the selector designates one of its children. -/
def Designates (root : BtNode BtAct) : Prop :=
  ∃ children nodes curr, selectorOf root = some (children, nodes, curr) ∧ curr < children.length

/-- The position of the selector designates the behaviour that is registered for an event. -/
def DesignatesFor (root : BtNode BtAct) (id : BtEventId) : Prop :=
  ∃ children nodes curr act status, selectorOf root = some (children, nodes, curr) ∧
    children[curr]? = some (.action act status) ∧ act.kind.eventId = id ∧ placeOf root id = some curr

/-- **A round is safe**: if the selector switches in it, then from one of its children to the one that is
registered for the event. -/
def EventRound.Safe (r : EventRound) : Prop :=
  (placeOf r.before r.id).isSome →
    Designates r.before ∧ ∃ root, r.after = some root ∧ DesignatesFor root r.id

namespace NpcTree

variable {fl : NpcFloats} {config : BtConfig}

theorem placeOf_node (t : NpcTree config) (id : BtEventId) : placeOf t.node id = config.place id := rfl

theorem designates_node (t : NpcTree config) : Designates t.node ↔ t.behaviours.Inside := by
  have hselector : selectorOf t.node = some (t.behaviours.children.map NpcLeaf.node,
      registerNodes config.kinds, t.behaviours.curr) := rfl
  constructor
  · rintro ⟨children, nodes, curr, heq, hlt⟩
    cases hselector.symm.trans heq
    rwa [List.length_map] at hlt
  · intro h
    exact ⟨_, _, _, hselector, by rw [List.length_map]; exact h⟩

/-- Wherever a switch leads, there is the behaviour that is registered. -/
theorem designatesFor_node {t : NpcTree config} {id : BtEventId}
    (h : config.place id = some t.behaviours.curr) : DesignatesFor t.node id := by
  obtain ⟨kind, hkind, hid⟩ := BtConfig.place_eventId h
  have hlt : t.behaviours.curr < t.behaviours.children.length := by
    rw [t.behaviours.length_eq]
    exact (List.getElem?_eq_some_iff.1 hkind).1
  have hleaf := List.getElem?_eq_getElem hlt
  have hact := (Behaviours.getElem?_key hleaf).1
  rw [hkind] at hact
  obtain rfl := Option.some.inj hact
  exact ⟨_, _, _, _, _, rfl, Behaviours.node_getElem? hleaf, hid, h⟩

variable (algs : Heap.Algorithms BtEvent.less)

/-- The round of an event. -/
def round (t : NpcTree config) (id : BtEventId) (env : NpcEnv fl) : EventRound :=
  ⟨id, t.node, (BtNode.handleEvent (npcActions algs) id t.node env).map Prod.fst⟩

/-- **When an event is handled safely**: it is for no behaviour, or the selector is inside. -/
theorem safe_iff (t : NpcTree config) (id : BtEventId) (env : NpcEnv fl) (h : t.Current env.curAct) :
    (t.round algs id env).Safe ↔ config.place id = none ∨ t.behaviours.Inside := by
  cases hplace : config.place id with
  | none =>
    refine ⟨fun _ => .inl rfl, fun _ hsome => ?_⟩
    rw [round, placeOf_node, hplace] at hsome
    cases hsome
  | some i =>
    have hsome : (placeOf t.node id).isSome := by
      rw [placeOf_node, hplace]
      rfl
    constructor
    · intro hsafe
      exact .inr (t.designates_node.1 (hsafe hsome).1)
    · intro hinside
      have hinside : t.behaviours.Inside := hinside.resolve_left nofun
      obtain ⟨t', env', heq, hcurr, -, -⟩ := t.handleEvent_registered algs env h hplace hinside
      refine fun _ => ⟨t.designates_node.2 hinside, t'.node, ?_, designatesFor_node (hcurr ▸ hplace)⟩
      rw [round, heq]
      rfl

/-! ### The loop -/

/-- No event that is passed on comes too early. -/
def InTime (t : NpcTree config) (events : BtEventQueue) : Prop :=
  t.behaviours.Inside ∨ ∀ id ∈ passedIds (events.drain algs), config.place id = none

/-- One event that does not come too early. -/
theorem handleEvent_inTime (t : NpcTree config) {id : BtEventId} (env : NpcEnv fl) (h : t.Current env.curAct)
    (hin : config.place id = none ∨ t.behaviours.Inside) :
    ∃ t' : NpcTree config, ∃ env', BtNode.handleEvent (npcActions algs) id t.node env = some (t'.node, env') ∧
      t'.Current env'.curAct ∧ (t'.AtAlive → t.AtAlive) ∧
        (t'.behaviours.curr = t.behaviours.curr ∨ t.behaviours.Inside ∧ t'.behaviours.Inside) := by
  cases hplace : config.place id with
  | none =>
    by_cases hid : id = .birth
    · subst hid
      obtain ⟨t', env', heq, hcurr, hnot, hnone⟩ := t.handleEvent_birth algs env h
      exact ⟨t', env', heq, .inl hnone, fun halive => absurd halive hnot, .inl hcurr⟩
    · exact ⟨t, env, t.handleEvent_other algs env hplace hid, h, fun h => h, .inl rfl⟩
  | some i =>
    have hinside : t.behaviours.Inside := hin.resolve_left (by rw [hplace]; nofun)
    obtain ⟨t', env', heq, hcurr, halive, hnone⟩ := t.handleEvent_registered algs env h hplace hinside
    refine ⟨t', env', heq, .inl hnone, halive.1, .inr ⟨hinside, ?_⟩⟩
    obtain ⟨kind, hkind, -⟩ := BtConfig.place_eventId hplace
    rw [Behaviours.Inside, Behaviours.length_eq, hcurr]
    exact (List.getElem?_eq_some_iff.1 hkind).1

variable {algs}

theorem inside_iff_of_curr {t t' : NpcTree config}
    (h : t'.behaviours.curr = t.behaviours.curr ∨ t.behaviours.Inside ∧ t'.behaviours.Inside) :
    t'.behaviours.Inside ↔ t.behaviours.Inside := by
  rcases h with hcurr | ⟨hin, hin'⟩
  · rw [Behaviours.Inside, Behaviours.Inside, hcurr, Behaviours.length_eq, Behaviours.length_eq]
  · exact ⟨fun _ => hin, fun _ => hin'⟩

theorem events_handleEvent {node node' : BtNode BtAct} {id : BtEventId} {env env' : NpcEnv fl}
    (h : BtNode.handleEvent (npcActions algs) id node env = some (node', env')) : env'.events = env.events :=
  (BtNode.handleEvent_keeps (npcActions_exitKeeps algs fun _ => True) id node env node' env' h
    (BtNode.allLeaves_true node)).2.events

variable (algs) in
/-- **The loop, if nothing comes too early**: it comes to its end, and every round is safe. -/
theorem loop_inTime {rounds : ℕ} (t : NpcTree config) (env : NpcEnv fl) (h : t.Current env.curAct)
    (hin : t.InTime algs env.events) (hrounds : env.events.heap.length ≤ rounds) :
    (∀ r ∈ eventRounds algs rounds t.node env, r.Safe) ∧
      ∃ ids, ∃ t' : NpcTree config, ∃ env',
        NpcObject.handleEvents algs rounds t.node env = some (ids, t'.node, env') ∧
        t'.Current env'.curAct ∧ (t'.AtAlive → t.AtAlive) ∧
          (t'.behaviours.curr = t.behaviours.curr ∨ t.behaviours.Inside ∧ t'.behaviours.Inside) := by
  induction rounds generalizing t env with
  | zero =>
    have hempty : env.events.heap = [] := List.length_eq_zero_iff.1 (Nat.le_zero.1 hrounds)
    have hpop : env.events.pop algs = none := by
      cases hpop : env.events.pop algs with
      | none => rfl
      | some popped =>
        have hlength := BtEventQueue.length_pop hpop
        omega
    rw [eventRounds, NpcObject.handleEvents, hpop]
    exact ⟨List.forall_mem_nil _, [], t, env, rfl, h, fun h => h, .inl rfl⟩
  | succ rounds ih =>
    rw [eventRounds, NpcObject.handleEvents]
    cases hpop : env.events.pop algs with
    | none => exact ⟨List.forall_mem_nil _, [], t, env, rfl, h, fun h => h, .inl rfl⟩
    | some popped =>
      obtain ⟨id, events⟩ := popped
      have hlength := BtEventQueue.length_pop hpop
      have hpassed := BtEventQueue.pop_some hpop
      have hfirst : config.place id = none ∨ t.behaviours.Inside :=
        hin.symm.imp_left fun hnone => hnone id (hpassed ▸ List.mem_cons_self)
      obtain ⟨t₁, env₁, heq, hcurrent, halive, hcurr⟩ :=
        t.handleEvent_inTime algs { env with events := events } h hfirst
      have hevents : env₁.events = events := events_handleEvent heq
      -- the rest of the queue is passed on to the next tree
      have hrest : t₁.InTime algs env₁.events := by
        rw [hevents]
        refine hin.imp (inside_iff_of_curr hcurr).2 fun hnone id' hid' => hnone id' ?_
        rw [hpassed]
        exact List.mem_cons_of_mem id hid'
      obtain ⟨hsafe, ids, t', env', hloop, hcurrent', halive', hcurr'⟩ :=
        ih t₁ env₁ hcurrent hrest (by rw [hevents]; omega)
      have hround : (⟨id, t.node, some t₁.node⟩ : EventRound) = t.round algs id { env with events := events } := by
        rw [round, heq]
        rfl
      dsimp only
      rw [heq]
      refine ⟨List.forall_mem_cons.2 ⟨?_, hsafe⟩, id :: ids, t', env', ?_, hcurrent',
        fun h => halive (halive' h), ?_⟩
      · rw [hround]
        exact (t.safe_iff algs id { env with events := events } h).2 hfirst
      · rw [Option.bind_some, hloop]
        rfl
      · rcases hcurr with hsame | ⟨hinside, hinside'⟩
        · rcases hcurr' with hsame' | ⟨hinside', hinside''⟩
          · exact .inl (hsame'.trans hsame)
          · exact .inr ⟨(inside_iff_of_curr (.inl hsame)).1 hinside', hinside''⟩
        · exact .inr ⟨hinside, (inside_iff_of_curr hcurr').2 hinside'⟩

/-- **The loop, if something comes too early**: some round is not safe, and the loop does not come to its end. -/
theorem loop_early {rounds : ℕ} (t : NpcTree config) (env : NpcEnv fl) (h : t.Current env.curAct)
    (hin : ¬ t.InTime algs env.events) (hrounds : env.events.heap.length ≤ rounds) :
    (∃ r ∈ eventRounds algs rounds t.node env, ¬ r.Safe) ∧
      NpcObject.handleEvents algs rounds t.node env = none := by
  induction rounds generalizing t env with
  | zero =>
    have hempty : env.events.heap = [] := List.length_eq_zero_iff.1 (Nat.le_zero.1 hrounds)
    rw [InTime, BtEventQueue.drain_nil hempty] at hin
    exact absurd (.inr (List.forall_mem_nil _)) hin
  | succ rounds ih =>
    rw [eventRounds, NpcObject.handleEvents]
    cases hpop : env.events.pop algs with
    | none =>
      rw [InTime, BtEventQueue.drain_nil (BtEventQueue.heap_of_pop_eq_none hpop)] at hin
      exact absurd (.inr (List.forall_mem_nil _)) hin
    | some popped =>
      obtain ⟨id, events⟩ := popped
      have hlength := BtEventQueue.length_pop hpop
      have hpassed := BtEventQueue.pop_some hpop
      rw [InTime, hpassed] at hin
      obtain ⟨hout, hearly⟩ := not_or.1 hin
      cases hplace : config.place id with
      | some i =>
        have heq := t.handleEvent_early algs { env with events := events } hplace hout
        have hround : (⟨id, t.node, none⟩ : EventRound) = t.round algs id { env with events := events } := by
          rw [round, heq]
          rfl
        dsimp only
        rw [heq]
        refine ⟨⟨_, List.mem_singleton_self _, ?_⟩, rfl⟩
        rw [hround, t.safe_iff algs id { env with events := events } h, hplace]
        exact not_or.2 ⟨by simp, hout⟩
      | none =>
        obtain ⟨t₁, env₁, heq, hcurrent, -, hcurr⟩ :=
          t.handleEvent_inTime algs { env with events := events } h (.inl hplace)
        have hevents : env₁.events = events := events_handleEvent heq
        have hrest : ¬ t₁.InTime algs env₁.events := by
          rw [hevents]
          rintro (hinside | hnone)
          · exact hout ((inside_iff_of_curr hcurr).1 hinside)
          · exact hearly (List.forall_mem_cons.2 ⟨hplace, hnone⟩)
        obtain ⟨⟨r, hr, hbroken⟩, hloop⟩ := ih t₁ env₁ hcurrent hrest (by rw [hevents]; omega)
        dsimp only
        rw [heq]
        refine ⟨⟨r, List.mem_cons_of_mem _ hr, hbroken⟩, ?_⟩
        rw [Option.bind_some, hloop]
        rfl

end NpcTree

/-! ### The runs -/

/-- The tick of an update. -/
def NpcObject.ticked {fl : NpcFloats} (algs : Heap.Algorithms BtEvent.less) (o : NpcObject fl)
    (sur : Surroundings fl) : BtNode BtAct × NpcEnv fl :=
  o.root.tick (npcActions algs) (o.env sur)

theorem NpcObject.update_eq {fl : NpcFloats} (algs : Heap.Algorithms BtEvent.less) (o : NpcObject fl)
    (sur : Surroundings fl) :
    o.update algs sur =
      (handleEvents algs (o.ticked algs sur).2.events.heap.length (o.ticked algs sur).1
        (o.ticked algs sur).2).map fun (_, root, env) => (ofEnv root env, env.notes) := rfl

/-- **In an update no event comes too early**: the NPC has been alive before, or it is alive behind the tick, or
no event that is passed on is for one of its behaviours. -/
def NpcObject.InTime {fl : NpcFloats} (algs : Heap.Algorithms BtEvent.less) (o : NpcObject fl) (begun : Bool)
    (sur : Surroundings fl) : Prop :=
  begun = true ∨ lifePhase (o.ticked algs sur).1 = .alive ∨
    ∀ id ∈ passedIds ((o.ticked algs sur).2.events.drain algs), placeOf (o.ticked algs sur).1 id = none

/-- What an update passes on. -/
def NpcObject.updateRounds {fl : NpcFloats} (algs : Heap.Algorithms BtEvent.less) (o : NpcObject fl)
    (sur : Surroundings fl) : List EventRound :=
  eventRounds algs (o.ticked algs sur).2.events.heap.length (o.ticked algs sur).1 (o.ticked algs sur).2

/-- An NPC, which is not there any more once a bad pointer has been read, whether it has been alive behind the
tick of an update, and all that its updates have passed on. -/
structure SwitchState (fl : NpcFloats) where
  object : Option (NpcObject fl)
  begun : Bool
  rounds : List EventRound

/-- **What an NPC has between two events**: the tree of its configuration, with its current action.  The selector
is inside if the NPC has been alive, and at `end()` otherwise. -/
def NpcObject.Tracked {fl : NpcFloats} (o : NpcObject fl) (begun : Bool) : Prop :=
  ∃ config, ∃ t : NpcTree config, o.root = t.node ∧ t.Current o.curAct ∧
    (begun = true → t.behaviours.Inside) ∧
    (begun = false → t.behaviours.curr = t.behaviours.children.length) ∧ (t.AtAlive → begun = true)

namespace SwitchState

variable {fl : NpcFloats}

/-- An NPC that has just been made, with all its hp. -/
def start (npc : Npc fl) (config : BtConfig) (rolls : ℕ → Fin 4) : SwitchState fl :=
  ⟨some (.awake { npc with hp := npc.initHp } config rolls), false, []⟩

variable (algs : Heap.Algorithms BtEvent.less)

/-- The steps of an NPC. -/
def step (t : SwitchState fl) (e : RewardEvent fl) : Option (SwitchState fl) :=
  t.object.map fun o =>
    match e with
    | .update sur =>
      { object := (o.update algs sur).map Prod.fst
        begun := t.begun || lifePhase (o.ticked algs sur).1 = .alive
        rounds := t.rounds ++ o.updateRounds algs sur }
    | .attack attacker atk rolls => { t with object := some (o.getDamage algs attacker atk rolls).1 }
    | .addEvent id priority => { t with object := some (o.addEvent algs id priority) }
    | .write target linker currPos nextPos =>
      { t with
        object := some { o with
          npc := { o.npc with target := target, linker := linker, currPos := currPos, nextPos := nextPos } } }

/-- The NPCs of all configurations. -/
def system : System (SwitchState fl) (RewardEvent fl) :=
  .ofFun (fun t => ∃ npc config rolls, t = start npc config rolls) (step algs)

/-- **No event comes too early**: an update passes on an event for a behaviour only if the NPC has been alive
before, or is alive behind the tick. -/
def InTime (t : SwitchState fl) : RewardEvent fl → Prop
  | .update sur => ∀ o ∈ t.object, o.InTime algs t.begun sur
  | .attack _ _ _ | .addEvent _ _ | .write _ _ _ _ => True

end SwitchState

variable {fl : NpcFloats} {algs : Heap.Algorithms BtEvent.less}

theorem NpcObject.tracked_awake (npc : Npc fl) (config : BtConfig) (rolls : ℕ → Fin 4) :
    (NpcObject.awake npc config rolls).Tracked false :=
  ⟨config, .first config rolls, NpcTree.awake_root npc config rolls, .inl rfl, nofun,
    fun _ => NpcTree.first_curr config rolls, fun halive => nomatch halive.1⟩

/-- **The tick of an update.** -/
theorem NpcObject.Tracked.ticked {o : NpcObject fl} {begun : Bool} (h : o.Tracked begun)
    (algs : Heap.Algorithms BtEvent.less) (sur : Surroundings fl) :
    (ofEnv (o.ticked algs sur).1 (o.ticked algs sur).2).Tracked
      (begun || lifePhase (o.ticked algs sur).1 = .alive) := by
  obtain ⟨config, t, hroot, hcurrent, hbegun, hfresh, halive⟩ := h
  obtain ⟨t', env', htick, hcurrent', hresult⟩ :=
    t.tick algs (o.env sur) hcurrent fun h => hbegun (halive h)
  have hticked : o.ticked algs sur = (t'.node, env') := by
    rw [NpcObject.ticked, hroot]
    exact htick
  rw [hticked]
  refine ⟨config, t', rfl, hcurrent', ?_, ?_, ?_⟩
  · intro hbegun'
    rcases hresult with ⟨-, hinside⟩ | ⟨hnot, hcurr⟩
    · exact hinside
    · have hbefore : begun = true := by simpa [NpcTree.lifePhase_node, hnot] using hbegun'
      exact (NpcTree.inside_iff_of_curr (.inl hcurr)).2 (hbegun hbefore)
  · intro hfresh'
    obtain ⟨hbefore, hphase⟩ := Bool.or_eq_false_iff.1 hfresh'
    have hnot : ¬ t'.AtAlive := fun h => of_decide_eq_false hphase (t'.lifePhase_node.2 h)
    obtain ⟨-, hcurr⟩ := hresult.resolve_left fun h => hnot h.1
    rw [hcurr, hfresh hbefore, Behaviours.length_eq, Behaviours.length_eq]
  · intro halive'
    simp [t'.lifePhase_node.2 halive']

namespace NpcObject.Tracked

variable {o : NpcObject fl} {begun : Bool}

/-- **The loop of an update**: it comes to its end and every round is safe, or it does not and some round is
not. -/
theorem loop {root : BtNode BtAct} {env : NpcEnv fl} (h : (ofEnv root env).Tracked begun) :
    let rounds := eventRounds algs env.events.heap.length root env
    let handled := handleEvents algs env.events.heap.length root env
    begun = true ∨ (∀ id ∈ passedIds (env.events.drain algs), placeOf root id = none) →
      (∀ r ∈ rounds, r.Safe) ∧
        ∃ ids root' env', handled = some (ids, root', env') ∧ (ofEnv root' env').Tracked begun := by
  obtain ⟨config, t, hroot, hcurrent, hbegun, hfresh, halive⟩ := h
  obtain rfl : root = t.node := hroot
  intro rounds handled hin
  obtain ⟨hsafe, ids, t', env', hloop, hcurrent', halive', hcurr⟩ :=
    t.loop_inTime algs env hcurrent (hin.imp_left hbegun) le_rfl
  refine ⟨hsafe, ids, t'.node, env', hloop, config, t', rfl, hcurrent', fun h => ?_, fun h => ?_,
    fun h => halive (halive' h)⟩
  · exact (NpcTree.inside_iff_of_curr hcurr).2 (hbegun h)
  · have hend := hfresh h
    rcases hcurr with hsame | ⟨hinside, -⟩
    · rw [hsame, hend, Behaviours.length_eq, Behaviours.length_eq]
    · exact absurd hend (Nat.ne_of_lt hinside)

/-- The same if something comes too early. -/
theorem loop_early {root : BtNode BtAct} {env : NpcEnv fl} (h : (ofEnv root env).Tracked begun)
    (hin : ¬ (begun = true ∨ ∀ id ∈ passedIds (env.events.drain algs), placeOf root id = none)) :
    (∃ r ∈ eventRounds algs env.events.heap.length root env, ¬ r.Safe) ∧
      handleEvents algs env.events.heap.length root env = none := by
  obtain ⟨config, t, hroot, hcurrent, -, hfresh, -⟩ := h
  obtain rfl : root = t.node := hroot
  obtain ⟨hnot, hearly⟩ := not_or.1 hin
  refine t.loop_early env hcurrent ?_ le_rfl
  rintro (hinside | hnone)
  · exact absurd (hfresh (Bool.eq_false_iff.2 hnot)) (Nat.ne_of_lt hinside)
  · exact hearly hnone

theorem inTime_iff (o : NpcObject fl) (begun : Bool) (sur : Surroundings fl) :
    o.InTime algs begun sur ↔ (begun || decide (lifePhase (o.ticked algs sur).1 = .alive)) = true ∨
      ∀ id ∈ passedIds ((o.ticked algs sur).2.events.drain algs), placeOf (o.ticked algs sur).1 id = none := by
  rw [InTime, Bool.or_eq_true, decide_eq_true_eq, or_assoc]

/-- **An update in which no event comes too early** comes to its end, and every round of it is safe. -/
theorem update {sur : Surroundings fl} (h : o.Tracked begun) (hin : o.InTime algs begun sur) :
    (∀ r ∈ o.updateRounds algs sur, r.Safe) ∧ ∃ o' notes, o.update algs sur = some (o', notes) ∧
      o'.Tracked (begun || lifePhase (o.ticked algs sur).1 = .alive) := by
  obtain ⟨hsafe, ids, root, env, hloop, hnext⟩ := (h.ticked algs sur).loop ((inTime_iff o begun sur).1 hin)
  refine ⟨hsafe, .ofEnv root env, env.notes, ?_, hnext⟩
  rw [NpcObject.update_eq, hloop]
  rfl

/-- **An update in which an event comes too early** reads through `end()`. -/
theorem update_early {sur : Surroundings fl} (h : o.Tracked begun) (hin : ¬ o.InTime algs begun sur) :
    (∃ r ∈ o.updateRounds algs sur, ¬ r.Safe) ∧ o.update algs sur = none := by
  obtain ⟨hbroken, hloop⟩ := (h.ticked algs sur).loop_early fun h' => hin ((inTime_iff o begun sur).2 h')
  refine ⟨hbroken, ?_⟩
  rw [NpcObject.update_eq, hloop]
  rfl

/-- A hit does not change the tree. -/
theorem getDamage (h : o.Tracked begun) (attacker : PlayerRef) (atk : ℤ) (rolls : DropRolls) :
    (o.getDamage algs attacker atk rolls).1.Tracked begun := by
  rw [NpcObject.getDamage]
  dsimp only
  split
  · exact h
  · exact h

end NpcObject.Tracked

namespace SwitchState

/-- **Whatever happens**, the NPC that is there is tracked. -/
theorem tracked_step {t t' : SwitchState fl} {e : RewardEvent fl}
    (h : ∀ o, t.object = some o → o.Tracked t.begun) (hstep : t.step algs e = some t') :
    ∀ o, t'.object = some o → o.Tracked t'.begun := by
  obtain ⟨o, ho, rfl⟩ := Option.map_eq_some_iff.1 hstep
  have htracked := h o ho
  intro o' ho'
  cases e with
  | update sur =>
    by_cases hin : o.InTime algs t.begun sur
    · obtain ⟨-, o₁, notes, hupdate, hnext⟩ := htracked.update hin
      obtain ⟨⟨o₂, notes₂⟩, hupdate', rfl⟩ := Option.map_eq_some_iff.1 ho'
      cases hupdate.symm.trans hupdate'
      exact hnext
    · obtain ⟨-, hupdate⟩ := htracked.update_early hin
      obtain ⟨⟨o₁, notes⟩, hupdate', -⟩ := Option.map_eq_some_iff.1 ho'
      cases hupdate.symm.trans hupdate'
  | attack attacker atk rolls =>
    obtain rfl := Option.some.inj ho'
    exact htracked.getDamage attacker atk rolls
  | addEvent id priority | write target linker currPos nextPos =>
    obtain rfl := Option.some.inj ho'
    exact htracked

/-- In every run the NPC that is there is tracked. -/
theorem tracked_run {es : List (RewardEvent fl)} {t : SwitchState fl} (hrun : (system algs).Run es t) :
    ∀ o, t.object = some o → o.Tracked t.begun := by
  refine hrun.invariant (p := fun t => ∀ o, t.object = some o → o.Tracked t.begun) ?_
    fun s e t hs hstep => tracked_step hs hstep
  rintro s ⟨npc, config, rolls, rfl⟩ o ho
  obtain rfl := Option.some.inj ho
  exact NpcObject.tracked_awake _ config rolls

/-- What holds between two events of a run in which none comes too early. -/
structure Invariant (t : SwitchState fl) : Prop where
  tracked : ∃ o, t.object = some o ∧ o.Tracked t.begun
  safe : ∀ r ∈ t.rounds, r.Safe

/-- **A step** keeps the switches safe exactly if no event comes too early in it. -/
theorem Invariant.step {t t' : SwitchState fl} {e : RewardEvent fl} (h : t.Invariant)
    (hstep : t.step algs e = some t') :
    ((∀ r ∈ t'.rounds, r.Safe) ↔ t.InTime algs e) ∧ (t.InTime algs e → t'.Invariant) := by
  obtain ⟨o, ho, htracked⟩ := h.tracked
  have hstep' := hstep
  rw [SwitchState.step, ho] at hstep'
  obtain rfl := Option.some.inj hstep'
  cases e with
  | update sur =>
    have hguard : t.InTime algs (.update sur) ↔ o.InTime algs t.begun sur := by
      rw [InTime, ho]
      exact ⟨fun h => h o rfl, fun h o' ho' => Option.some.inj ho' ▸ h⟩
    rw [hguard]
    refine ⟨⟨fun hsafe => by_contra fun hin => ?_, fun hin => ?_⟩, fun hin => ?_⟩
    · obtain ⟨⟨r, hr, hbroken⟩, -⟩ := htracked.update_early hin
      exact hbroken (hsafe r (List.mem_append_right _ hr))
    · exact List.forall_mem_append.2 ⟨h.safe, (htracked.update hin).1⟩
    · obtain ⟨hsafe, o', notes, hupdate, hnext⟩ := htracked.update hin
      refine ⟨⟨o', ?_, hnext⟩, List.forall_mem_append.2 ⟨h.safe, hsafe⟩⟩
      exact congrArg (Option.map Prod.fst) hupdate
  | attack attacker atk rolls =>
    exact ⟨⟨fun _ => trivial, fun _ => h.safe⟩, fun _ => ⟨⟨_, rfl, htracked.getDamage attacker atk rolls⟩, h.safe⟩⟩
  | addEvent id priority | write target linker currPos nextPos =>
    exact ⟨⟨fun _ => trivial, fun _ => h.safe⟩, fun _ => ⟨⟨_, rfl, htracked⟩, h.safe⟩⟩

end SwitchState

/-- **The switches of an NPC.**  In every run in which no event for a behaviour comes before the NPC has been
alive, each switch is from a child of the selector to the one that is registered, and no bad pointer is read; the
first update that passes on such an event too early makes the selector switch from `end()`. -/
theorem switches_run {es : List (RewardEvent fl)} {t : SwitchState fl}
    (hrun : ((SwitchState.system algs).restrict (SwitchState.InTime algs)).Run es t) :
    ((∀ r ∈ t.rounds, r.Safe) ∧ t.object.isSome) ∧
      ∀ e t', t.step algs e = some t' → ((∀ r ∈ t'.rounds, r.Safe) ↔ t.InTime algs e) := by
  have hinit : ∀ s : SwitchState fl, (SwitchState.system algs).init s → s.Invariant := by
    rintro s ⟨npc, config, rolls, rfl⟩
    exact ⟨⟨_, rfl, NpcObject.tracked_awake _ config rolls⟩, nofun⟩
  have hinv : t.Invariant := hrun.restrict_invariant hinit fun s e t hs hguard hstep => (hs.step hstep).2 hguard
  obtain ⟨o, ho, -⟩ := hinv.tracked
  exact ⟨⟨hinv.safe, by rw [ho]; rfl⟩, fun e t' hstep => (hinv.step hstep).1⟩

/-! ### A skeleton -/

instance (algs : Heap.Algorithms BtEvent.less) (o : NpcObject fl) (begun : Bool) (sur : Surroundings fl) :
    Decidable (o.InTime algs begun sur) :=
  inferInstanceAs (Decidable (_ ∨ _ ∨ ∀ id ∈ passedIds _, _))

instance (algs : Heap.Algorithms BtEvent.less) (t : SwitchState fl) (e : RewardEvent fl) :
    Decidable (t.InTime algs e) :=
  match e with
  | .update sur =>
    match h : t.object with
    | none => .isTrue (by simp [SwitchState.InTime, h])
    | some o => decidable_of_iff (o.InTime algs t.begun sur) (by simp [SwitchState.InTime, h])
  | .attack _ _ _ | .addEvent _ _ | .write _ _ _ _ => .isTrue trivial

/-- A skeleton that has just been made. -/
def skeletonFresh : SwitchState .int := .start skeleton publicConfig fun _ => Npc.firstPoint

theorem skeletonFresh_init : (SwitchState.system sortedEvents).init skeletonFresh :=
  ⟨skeleton, publicConfig, fun _ => Npc.firstPoint, rfl⟩

/-- What a round shows: the event, the place that is registered, and the children and the position of the
selector before. -/
def EventRound.summary (r : EventRound) : BtEventId × Option ℕ × Option (ℕ × ℕ) :=
  (r.id, placeOf r.before r.id, (selectorOf r.before).map fun (children, _, curr) => (children.length, curr))

/-- The skeleton is born, and then it is attacked by someone else than it has seen. -/
def skeletonAttacked : List (RewardEvent .int) :=
  [.update (besideSkeleton 1000), .update (besideSkeleton 3000), .attack ⟨8, 1⟩ 10 noDrops,
    .update (besideSkeleton 3030)]

/-- The skeleton attacks whom it sees, and then pursues who has hit it. -/
theorem switches_skeleton : ∃ t : SwitchState .int,
    ((SwitchState.system sortedEvents).restrict (SwitchState.InTime sortedEvents)).Run skeletonAttacked t ∧
      t.rounds.map EventRound.summary = [(.attack, some 3, some (5, 0)), (.pursue, some 2, some (5, 3))] ∧
      ∀ r ∈ t.rounds, r.Safe := by
  have hrun : (System.execute (SwitchState.step sortedEvents) (SwitchState.InTime sortedEvents) skeletonFresh
      skeletonAttacked).map (fun t => t.rounds.map EventRound.summary) =
        some [(.attack, some 3, some (5, 0)), (.pursue, some 2, some (5, 3))] := by
    decide +kernel
  obtain ⟨t, ht, hrounds⟩ := Option.map_eq_some_iff.1 hrun
  have hevents : ((SwitchState.system sortedEvents).restrict (SwitchState.InTime sortedEvents)).Run
      skeletonAttacked t := System.run_of_execute skeletonFresh_init ht
  exact ⟨t, hevents, hrounds, (switches_run hevents).1.1⟩

/-- The skeleton is attacked while it is being born. -/
def skeletonEarly : List (RewardEvent .int) :=
  [.update (besideSkeleton 1000), .attack ⟨7, 0⟩ 10 noDrops, .update (besideSkeleton 1030)]

/-- **An attack in the first birth** makes the selector switch from `end()`, which is behind its five children. -/
theorem not_switches_birth : ¬ ∀ (fl : NpcFloats) (algs : Heap.Algorithms BtEvent.less)
    (es : List (RewardEvent fl)) (t : SwitchState fl),
    (SwitchState.system algs).Run es t → ∀ r ∈ t.rounds, r.Safe := by
  intro hall
  have hrun : (System.execute (SwitchState.step sortedEvents) (fun _ _ => True) skeletonFresh
      skeletonEarly).map (fun t => t.rounds.map EventRound.summary) = some [(.pursue, some 2, some (5, 5))] := by
    decide +kernel
  obtain ⟨t, ht, hrounds⟩ := Option.map_eq_some_iff.1 hrun
  have hevents : (SwitchState.system sortedEvents).Run skeletonEarly t :=
    System.run_of_execute_true skeletonFresh_init ht
  obtain ⟨r, hr, hsummary⟩ : ∃ r ∈ t.rounds, r.summary = (.pursue, some 2, some (5, 5)) := by
    have hmem : (BtEventId.pursue, some 2, some (5, 5)) ∈ t.rounds.map EventRound.summary := by simp [hrounds]
    exact List.mem_map.1 hmem
  obtain ⟨-, hsummary⟩ := Prod.mk.inj hsummary
  obtain ⟨hplace, hselector⟩ := Prod.mk.inj hsummary
  obtain ⟨⟨children, nodes, curr, heq, hlt⟩, -⟩ :=
    hall .int sortedEvents skeletonEarly t hevents r hr (by rw [hplace]; rfl)
  rw [heq] at hselector
  obtain ⟨hlength, hcurr⟩ := Prod.mk.inj (Option.some.inj hselector)
  omega

end MmoServer
