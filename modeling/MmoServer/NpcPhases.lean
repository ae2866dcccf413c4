/-
**The phases of an NPC.**

The tree of an NPC goes round: its birth, its life, its death.  What the leaves do to the NPC is said once for
each kind of leaf; from it follows what a tick does in each phase, and that no event but `Birth` leaves a
phase.

Main definitions:

* `MmoServer.NpcEnv.SameLife`, `MmoServer.NpcEnv.SameHp`, `MmoServer.NpcEnv.Lives` — what an exit, an
  entry, and a behaviour leave of an NPC;
* `MmoServer.LifePhase`, `MmoServer.lifePhase` — the phase of a tree;
* `MmoServer.AliveNode`, `MmoServer.LifeNode`, `MmoServer.LifeRoot` — the trees that are reached;
* `MmoServer.LifeTick` — how a tick goes from phase to phase.

Main results:

* `MmoServer.LifeRoot.tick` — **a tick of the root** is a `LifeTick`;
* `MmoServer.LifeRoot.handleEvent`, `MmoServer.LifeRoot.isSome_handleEvent` — an event keeps the phase
  unless it is `Birth`, and it is handled unless it comes too early.
-/

import MmoServer.NpcBehaviour

set_option relaxedAutoImplicit false
set_option autoImplicit false

namespace MmoServer

variable {fl : NpcFloats}

/-! ### What the leaves leave of an NPC -/

namespace NpcEnv

/-- The births that have ended. -/
def births (env : NpcEnv fl) : ℕ := env.notes.count .born

/-- Nothing of the life of an NPC is changed, no event is added, and nothing is sent. -/
structure SameLife (env env' : NpcEnv fl) : Prop where
  hp : env'.npc.hp = env.npc.hp
  initHp : env'.npc.initHp = env.npc.initHp
  rebirth : env'.npc.rebirth = env.npc.rebirth
  events : env'.events = env.events
  notes : env'.notes = env.notes
  sur : env'.sur = env.sur

/-- The hp are not changed, and no birth ends. -/
structure SameHp (env env' : NpcEnv fl) : Prop where
  hp : env'.npc.hp = env.npc.hp
  initHp : env'.npc.initHp = env.npc.initHp
  rebirth : env'.npc.rebirth = env.npc.rebirth
  births : env'.births = env.births
  sur : env'.sur = env.sur

/-- An NPC goes on living: if it has hp it keeps some, and no birth ends. -/
structure Lives (env env' : NpcEnv fl) : Prop where
  hp : 0 < env.npc.hp → env.npc.hp ≤ env.npc.initHp →
    0 < env'.npc.hp ∧ env'.npc.hp ≤ env'.npc.initHp
  initHp : env'.npc.initHp = env.npc.initHp
  rebirth : env'.npc.rebirth = env.npc.rebirth
  births : env'.births = env.births
  sur : env'.sur = env.sur

theorem SameLife.refl (env : NpcEnv fl) : env.SameLife env := ⟨rfl, rfl, rfl, rfl, rfl, rfl⟩

theorem SameLife.trans {env₁ env₂ env₃ : NpcEnv fl} (h : env₁.SameLife env₂) (h' : env₂.SameLife env₃) :
    env₁.SameLife env₃ :=
  ⟨h'.hp.trans h.hp, h'.initHp.trans h.initHp, h'.rebirth.trans h.rebirth, h'.events.trans h.events,
    h'.notes.trans h.notes, h'.sur.trans h.sur⟩

theorem SameHp.refl (env : NpcEnv fl) : env.SameHp env := ⟨rfl, rfl, rfl, rfl, rfl⟩

theorem SameHp.trans {env₁ env₂ env₃ : NpcEnv fl} (h : env₁.SameHp env₂) (h' : env₂.SameHp env₃) :
    env₁.SameHp env₃ :=
  ⟨h'.hp.trans h.hp, h'.initHp.trans h.initHp, h'.rebirth.trans h.rebirth, h'.births.trans h.births,
    h'.sur.trans h.sur⟩

theorem Lives.trans {env₁ env₂ env₃ : NpcEnv fl} (h : env₁.Lives env₂) (h' : env₂.Lives env₃) :
    env₁.Lives env₃ where
  hp hpos hle := by
    obtain ⟨hpos', hle'⟩ := h.hp hpos hle
    exact h'.hp hpos' hle'
  initHp := h'.initHp.trans h.initHp
  rebirth := h'.rebirth.trans h.rebirth
  births := h'.births.trans h.births
  sur := h'.sur.trans h.sur

theorem SameLife.sameHp {env env' : NpcEnv fl} (h : env.SameLife env') : env.SameHp env' :=
  ⟨h.hp, h.initHp, h.rebirth, congrArg (List.count _) h.notes, h.sur⟩

theorem SameHp.lives {env env' : NpcEnv fl} (h : env.SameHp env') : env.Lives env' :=
  ⟨fun hpos hle => ⟨h.hp ▸ hpos, h.hp ▸ h.initHp ▸ hle⟩, h.initHp, h.rebirth, h.births, h.sur⟩

/-- A message that is sent is no birth. -/
theorem births_send {env : NpcEnv fl} {note : NpcNote} (h : note ≠ .born) :
    (env.send note).births = env.births := by
  rw [births, send, List.count_append, List.count_singleton, if_neg (by simpa using h), Nat.add_zero,
    births]

theorem sameHp_send {env : NpcEnv fl} {note : NpcNote} (h : note ≠ .born) : env.SameHp (env.send note) :=
  ⟨rfl, rfl, rfl, births_send h, rfl⟩

/-! #### Exit and enter -/

/-- A leaf that exits keeps its class. -/
theorem exit_kind (act : BtAct) (env : NpcEnv fl) : (exit act env).1.kind = act.kind := by
  rw [exit]
  cases hkind : act.kind <;> exact hkind

theorem sameLife_exit (act : BtAct) (env : NpcEnv fl) : env.SameLife (exit act env).2 := by
  rw [exit]
  cases act.kind <;> exact ⟨rfl, rfl, rfl, rfl, rfl, rfl⟩

theorem enter_kind (act : BtAct) (env : NpcEnv fl) : (enter act env).1.kind = act.kind := by
  rw [enter]
  cases hkind : act.kind <;> exact hkind

theorem sameHp_enterTarget (act : BtAct) (id : BtEventId) (env : NpcEnv fl) :
    env.SameHp (enterTarget act id env).2 := by
  rw [enterTarget, broadcastTarget]
  cases env.npc.target with
  | none => exact ⟨rfl, rfl, rfl, rfl, rfl⟩
  | some target => exact ⟨rfl, rfl, rfl, births_send nofun, rfl⟩

theorem sameHp_enter (act : BtAct) (env : NpcEnv fl) : env.SameHp (enter act env).2 := by
  rw [enter]
  cases act.kind with
  | attack | pursue => exact sameHp_enterTarget act _ env
  | birth => exact ⟨rfl, rfl, rfl, rfl, rfl⟩
  | death | flee | idle | patrol => exact ⟨rfl, rfl, rfl, births_send nofun, rfl⟩
  | sense | view => exact .refl env

/-! #### The tasks -/

theorem sameHp_setLinkPlayer (env : NpcEnv fl) (player : Option PlayerRef) :
    env.SameHp (env.setLinkPlayer player) := by
  rw [setLinkPlayer]
  cases env.npc.linker with
  | none => exact ⟨rfl, rfl, rfl, rfl, rfl⟩
  | some old => exact ⟨rfl, rfl, rfl, births_send nofun, rfl⟩

theorem sameHp_viewLinker (env : NpcEnv fl) : env.SameHp env.viewLinker := by
  rw [viewLinker]
  cases env.npc.linker with
  | some linker => exact .refl env
  | none =>
    have hset := sameHp_setLinkPlayer env (env.sur.getNearestPlayer env.npc.currPos)
    dsimp only
    generalize env.sur.getNearestPlayer env.npc.currPos = nearest at hset ⊢
    cases nearest with
    | none => exact hset
    | some player => exact hset.trans (sameHp_send nofun)

variable {algs : Heap.Algorithms BtEvent.less}

theorem sameHp_viewTarget (env : NpcEnv fl) : env.SameHp (env.viewTarget algs) := by
  rw [viewTarget]
  cases env.npc.target with
  | some target => exact .refl env
  | none =>
    dsimp only
    split
    · exact .refl env
    · exact ⟨rfl, rfl, rfl, rfl, rfl⟩

theorem sameHp_viewHome (env : NpcEnv fl) : env.SameHp (env.viewHome algs) := by
  rw [viewHome]
  split
  · exact ⟨rfl, rfl, rfl, rfl, rfl⟩
  · exact .refl env

/-- A view does not change the hp. -/
theorem sameHp_viewTask (act : BtAct) (env : NpcEnv fl) : env.SameHp (viewTask algs act env).2.2 :=
  (sameHp_viewLinker env).trans ((sameHp_viewTarget _).trans (sameHp_viewHome _))

theorem sameHp_senseTask (act : BtAct) (env : NpcEnv fl) : env.SameHp (senseTask algs act env).2.2 := by
  rw [senseTask]
  split
  · exact .refl env
  · split
    · exact ⟨rfl, rfl, rfl, rfl, rfl⟩
    · exact .refl env

theorem sameHp_deathTask (act : BtAct) (env : NpcEnv fl) : env.SameHp (deathTask act env).2.2 := by
  rw [deathTask]
  split <;> exact .refl env

/-- Whoever has hp keeps some when it rests. -/
theorem heal_pos {npc : Npc fl} (hpos : 0 < npc.hp) (hle : npc.hp ≤ npc.initHp) :
    0 < npc.heal ∧ npc.heal ≤ npc.initHp := by
  rw [Npc.heal, Int.tdiv_eq_ediv_of_nonneg (by omega)]
  omega

theorem lives_fleeTask (act : BtAct) (env : NpcEnv fl) : env.Lives (fleeTask algs act env).2.2 := by
  rw [fleeTask]
  split
  · split
    · exact ⟨fun hpos hle => ⟨hpos, hle⟩, rfl, rfl, rfl, rfl⟩
    · split
      · exact (SameHp.refl env).lives
      · exact ⟨heal_pos, rfl, rfl, births_send nofun, rfl⟩
  · exact (SameHp.refl env).lives

theorem sameHp_idleTask (act : BtAct) (env : NpcEnv fl) : env.SameHp (idleTask algs act env).2.2 := by
  rw [idleTask]
  split
  · exact .refl env
  · exact ⟨rfl, rfl, rfl, rfl, rfl⟩

theorem sameHp_patrolTask (act : BtAct) (env : NpcEnv fl) : env.SameHp (patrolTask algs act env).2.2 := by
  rw [patrolTask]
  split
  · exact ⟨rfl, rfl, rfl, rfl, rfl⟩
  · exact .refl env

theorem sameHp_attackTask (act : BtAct) (env : NpcEnv fl) : env.SameHp (attackTask algs act env).2.2 := by
  rw [attackTask]
  split
  · exact ⟨rfl, rfl, rfl, rfl, rfl⟩
  · split
    · exact ⟨rfl, rfl, rfl, rfl, rfl⟩
    · exact .refl env

theorem sameHp_pursueTask (act : BtAct) (env : NpcEnv fl) : env.SameHp (pursueTask algs act env).2.2 := by
  rw [pursueTask]
  split
  · exact ⟨rfl, rfl, rfl, rfl, rfl⟩
  · split
    · exact ⟨rfl, rfl, rfl, rfl, rfl⟩
    · exact .refl env

/-- A leaf that does its task keeps its class. -/
theorem task_kind (act : BtAct) (env : NpcEnv fl) : (task algs act env).2.1.kind = act.kind := by
  rw [task]
  cases hkind : act.kind <;>
    simp only [attackTask, birthTask, deathTask, fleeTask, idleTask, patrolTask, pursueTask, senseTask,
      viewTask] <;>
    first
      | exact hkind
      | split_ifs <;> exact hkind

/-- No task but the birth changes more than a rest does. -/
theorem lives_task {act : BtAct} (env : NpcEnv fl) (h : act.kind ≠ .birth) :
    env.Lives (task algs act env).2.2 := by
  rw [task]
  cases hkind : act.kind with
  | attack => exact (sameHp_attackTask act env).lives
  | birth => exact absurd hkind h
  | death => exact (sameHp_deathTask act env).lives
  | flee => exact lives_fleeTask act env
  | idle => exact (sameHp_idleTask act env).lives
  | patrol => exact (sameHp_patrolTask act env).lives
  | pursue => exact (sameHp_pursueTask act env).lives
  | sense => exact (sameHp_senseTask act env).lives
  | view => exact (sameHp_viewTask act env).lives

end NpcEnv

/-- Every exit keeps what classes the leaves have, and the life of the NPC. -/
theorem npcActions_exitKeeps (algs : Heap.Algorithms BtEvent.less) (p : BtActKind → Prop) :
    (npcActions algs).ExitKeeps (fun act => p act.kind) (NpcEnv.SameLife : NpcEnv fl → NpcEnv fl → Prop) where
  refl := .refl
  trans := .trans
  exit act env hact := ⟨(NpcEnv.exit_kind act env).symm ▸ hact, NpcEnv.sameLife_exit act env⟩

/-- Behaviours let the NPC live. -/
theorem npcActions_keeps (algs : Heap.Algorithms BtEvent.less) :
    (npcActions algs).Keeps (fun act => act.kind ≠ .birth) (NpcEnv.Lives : NpcEnv fl → NpcEnv fl → Prop) where
  refl env := (NpcEnv.SameHp.refl env).lives
  trans := .trans
  exit act env hact :=
    ⟨(NpcEnv.exit_kind act env).symm ▸ hact, (NpcEnv.sameLife_exit act env).sameHp.lives⟩
  enter act env hact :=
    ⟨(NpcEnv.enter_kind act env).symm ▸ hact, (NpcEnv.sameHp_enter act env).lives⟩
  task act env hact := ⟨(NpcEnv.task_kind act env).symm ▸ hact, NpcEnv.lives_task env hact⟩

/-! ### The trees that are reached -/

/-- `Idle`, `Patrol`, `Pursue`, `Attack` and `Flee`. -/
def BtEventId.isBehaviour (id : BtEventId) : Bool :=
  id = .idle ∨ id = .patrol ∨ id = .pursue ∨ id = .attack ∨ id = .flee

/-- The phases of an NPC. -/
inductive LifePhase
  | birth | alive | death
  deriving DecidableEq

/-- The phase of a tree: where its sequence stands.  A sequence that does not run will start with the
birth. -/
def lifePhase : BtNode BtAct → LifePhase
  | .repeat (.sequence _ curr .running) _ _ _ =>
    if curr = 1 then .alive else if curr = 2 then .death else .birth
  | _ => .birth

/-- A node that is to be ticked, and has not aborted. -/
def BtStatus.IsOpen (status : BtStatus) : Prop := status = .invalid ∨ status = .running

/-- The middle child of the sequence, with this status: a view, a sense, and the behaviours, of which there
are some unless the NPC is bare.  The selector has been inside its children if it is said so. -/
inductive AliveNode (bare inside : Prop) (status : BtStatus) : BtNode BtAct → Prop
  | intro {view sense : BtAct} {viewStatus senseStatus behavStatus : BtStatus}
      {behaviours : List (BtNode BtAct)} {nodes : List (BtEventId × ℕ)} {curr : ℕ}
      (view_kind : view.kind = .view) (sense_kind : sense.kind = .sense)
      (view_open : viewStatus.IsOpen) (sense_open : senseStatus.IsOpen) (behav_open : behavStatus.IsOpen)
      (actions : ∀ child ∈ behaviours, child.IsAction)
      (kinds : BtNode.AllLeavesOf (fun act => act.kind ≠ .birth) behaviours)
      (behaved : ¬ bare → behaviours ≠ [])
      (places : ∀ one ∈ nodes, one.1.isBehaviour ∧ one.2 < behaviours.length)
      (entered : inside ∨ behavStatus = .running → curr < behaviours.length) :
      AliveNode bare inside status
        (.parallel .sequence [.action view viewStatus, .action sense senseStatus,
          .edSelector behaviours nodes curr behavStatus] status)

/-- Less is said of a node whose selector is not known to be inside. -/
theorem AliveNode.anti {bare inside inside' : Prop} {status : BtStatus} {node : BtNode BtAct}
    (h : AliveNode bare inside status node) (himp : inside' → inside) : AliveNode bare inside' status node := by
  obtain ⟨hview, hsense, hviewOpen, hsenseOpen, hbehavOpen, hactions, hkinds, hbehaved, hplaces, hentered⟩ := h
  exact .intro hview hsense hviewOpen hsenseOpen hbehavOpen hactions hkinds hbehaved hplaces fun hin =>
    hentered (hin.imp_left himp)

section Alive

variable {algs : Heap.Algorithms BtEvent.less} {bare inside : Prop} {status : BtStatus} {node : BtNode BtAct}

theorem tick_view {act : BtAct} (env : NpcEnv fl) (hkind : act.kind = .view) (hopen : status.IsOpen) :
    BtNode.tick (npcActions algs) (.action act status) env =
      (.action act .running, (NpcEnv.viewTask algs act env).2.2) := by
  rw [BtNode.tick_action]
  rcases hopen with rfl | rfl <;>
    simp [BtStatus.isDone, npcActions, NpcEnv.enter, NpcEnv.task, hkind, BtNode.finish,
      NpcEnv.viewTask]

theorem tick_sense {act : BtAct} (env : NpcEnv fl) (hkind : act.kind = .sense) (hopen : status.IsOpen) :
    BtNode.tick (npcActions algs) (.action act status) env =
      (.action act (NpcEnv.senseTask algs act env).1, (NpcEnv.senseTask algs act env).2.2) := by
  have hact : (NpcEnv.senseTask algs act env).2.1 = act := by
    rw [NpcEnv.senseTask]
    split_ifs <;> rfl
  rw [BtNode.tick_action]
  rcases hopen with rfl | rfl <;>
    simp [BtStatus.isDone, npcActions, NpcEnv.enter, NpcEnv.exit, NpcEnv.task, hkind, BtNode.finish, hact,
      BtNode.exit]

theorem senseTask_status (act : BtAct) (env : NpcEnv fl) :
    (NpcEnv.senseTask algs act env).1 = if env.npc.hp = 0 then .aborted else .running := by
  rw [NpcEnv.senseTask]
  split_ifs <;> rfl

theorem exit_view {act : BtAct} (env : NpcEnv fl) (hkind : act.kind = .view ∨ act.kind = .sense) :
    (npcActions algs).exit act env = (act, env) := by
  rcases hkind with hkind | hkind <;> simp only [npcActions, NpcEnv.exit, hkind]

variable (algs) in
/-- The children are forced to exit, whatever their status: nothing happens to the life of the NPC. -/
theorem exit_alive {view sense : BtAct} {behaviours : List (BtNode BtAct)} {nodes : List (BtEventId × ℕ)}
    {curr : ℕ} (viewStatus senseStatus behavStatus status status' : BtStatus) (env : NpcEnv fl)
    (hview : view.kind = .view) (hsense : sense.kind = .sense)
    (hactions : ∀ child ∈ behaviours, child.IsAction)
    (hkinds : BtNode.AllLeavesOf (fun act => act.kind ≠ .birth) behaviours)
    (hbehaved : ¬ bare → behaviours ≠ [])
    (hplaces : ∀ one ∈ nodes, one.1.isBehaviour ∧ one.2 < behaviours.length)
    (hentered : inside → curr < behaviours.length) :
    let ended := BtNode.exit (npcActions algs) (.parallel .sequence [.action view viewStatus,
      .action sense senseStatus, .edSelector behaviours nodes curr behavStatus] status) env
    AliveNode bare inside status' (ended.1.setStatus status') ∧ env.SameLife ended.2 := by
  have hkeeps := BtNode.forceExitAt_keeps (npcActions_exitKeeps algs (· ≠ .birth)) .aborted behaviours curr env
    hkinds
  have hlength := BtNode.length_forceExitAt (npcActions algs) .aborted behaviours curr env
  have heq : BtNode.exit (npcActions algs) (.parallel .sequence [.action view viewStatus,
        .action sense senseStatus, .edSelector behaviours nodes curr behavStatus] status) env =
      (.parallel .sequence [.action view .invalid, .action sense .invalid,
        .edSelector (BtNode.forceExitAt (npcActions algs) .aborted behaviours curr env).1 nodes curr
          .invalid] status, (BtNode.forceExitAt (npcActions algs) .aborted behaviours curr env).2) := by
    simp only [BtNode.exit, BtNode.forceExitAll, exit_view env (.inl hview), exit_view env (.inr hsense),
      BtNode.setStatus]
  rw [heq]
  refine ⟨.intro hview hsense (.inl rfl) (.inl rfl) (.inl rfl)
    (BtNode.isAction_forceExitAt .aborted curr env hactions) hkeeps.1 ?_ ?_ ?_, hkeeps.2⟩
  · exact fun hbare hnil =>
      hbehaved hbare (List.length_eq_zero_iff.1 (hlength ▸ List.length_eq_zero_iff.2 hnil))
  · simpa only [hlength] using hplaces
  · rw [hlength]
    rintro (hin | hrun)
    · exact hentered hin
    · cases hrun

variable (algs) in
theorem AliveNode.exit (status' : BtStatus) (h : AliveNode bare inside status node) (env : NpcEnv fl) :
    AliveNode bare inside status' ((BtNode.exit (npcActions algs) node env).1.setStatus status') ∧
      env.SameLife (BtNode.exit (npcActions algs) node env).2 := by
  obtain ⟨hview, hsense, -, -, -, hactions, hkinds, hbehaved, hplaces, hentered⟩ := h
  exact exit_alive algs _ _ _ status status' env hview hsense hactions hkinds hbehaved hplaces fun hin =>
    hentered (.inl hin)

variable (algs) in
/-- A tick of an NPC that has hp: it lives, unless it has no behaviour at all. -/
theorem AliveNode.tick_of_ne (h : AliveNode bare inside status node) (hopen : status.IsOpen) {env : NpcEnv fl}
    (hhp : env.npc.hp ≠ 0) :
    (AliveNode bare True .running (node.tick (npcActions algs) env).1 ∧
      env.Lives (node.tick (npcActions algs) env).2) ∨
    (bare ∧ AliveNode bare inside .aborted (node.tick (npcActions algs) env).1 ∧
      env.SameHp (node.tick (npcActions algs) env).2) := by
  obtain ⟨hview, hsense, hviewOpen, hsenseOpen, hbehavOpen, hactions, hkinds, hbehaved, hplaces, hentered⟩ := h
  rename_i view sense viewStatus senseStatus behavStatus behaviours nodes curr
  obtain ⟨env₁, henv₁⟩ : ∃ env₁, (NpcEnv.viewTask algs view env).2.2 = env₁ := ⟨_, rfl⟩
  obtain ⟨env₂, henv₂⟩ : ∃ env₂, (NpcEnv.senseTask algs sense env₁).2.2 = env₂ := ⟨_, rfl⟩
  obtain ⟨start, hstart⟩ : ∃ start, start = if behavStatus ≠ .running then 0 else curr := ⟨_, rfl⟩
  have hsame₁ : env.SameHp env₁ := henv₁ ▸ NpcEnv.sameHp_viewTask view env
  have hsame₂ : env₁.SameHp env₂ := henv₂ ▸ NpcEnv.sameHp_senseTask sense env₁
  have hsenses : (NpcEnv.senseTask algs sense env₁).1 = .running := by
    rw [senseTask_status, if_neg (hsame₁.hp ▸ hhp)]
  have hdone : status.isDone = false := by rcases hopen with rfl | rfl <;> rfl
  by_cases hnil : behaviours = []
  -- The selector has no child to tick and aborts, and the node forces its children to exit.
  · subst hnil
    obtain rfl : behavStatus = .invalid := hbehavOpen.resolve_right fun hrun =>
      Nat.not_lt_zero _ (hentered (.inr hrun))
    have heq : BtNode.tick (npcActions algs) (.parallel .sequence [.action view viewStatus,
          .action sense senseStatus, .edSelector [] nodes curr .invalid] status) env =
        BtNode.exit (npcActions algs) (.parallel .sequence [.action view .running,
          .action sense .running, .edSelector [] nodes 0 .aborted] .aborted) env₂ := by
      simp [BtNode.tick_parallel, hdone, BtNode.runAll, tick_view env hview hviewOpen, henv₁,
        tick_sense env₁ hsense hsenseOpen, henv₂, hsenses, BtNode.tick_edSelector_nil, BtNode.finish]
    rw [heq]
    have hout : inside → 0 < ([] : List (BtNode BtAct)).length := fun hin =>
      (Nat.not_lt_zero curr (hentered (.inl hin))).elim
    have hexit := exit_alive algs .running .running .aborted .aborted .aborted env₂ hview hsense hactions
      hkinds hbehaved hplaces hout
    refine .inr ⟨not_not.1 fun hbare => hbehaved hbare rfl, hexit.1, ?_⟩
    exact hsame₁.trans (hsame₂.trans hexit.2.sameHp)
  · have hlt : start < behaviours.length := by
      rw [hstart]
      split
      · exact List.length_pos_iff.2 hnil
      · rename_i hrun
        exact hentered (.inr (not_not.1 hrun))
    have hkeeps := BtNode.runAt_keeps (npcActions_keeps algs) behaviours start env₂ hkinds
    have hlength := BtNode.length_runAt (npcActions algs) behaviours start env₂
    -- The view and the sense run, and so does the selector.
    have heq : BtNode.tick (npcActions algs) (.parallel .sequence [.action view viewStatus,
          .action sense senseStatus, .edSelector behaviours nodes curr behavStatus] status) env =
        (.parallel .sequence [.action view .running, .action sense .running,
          .edSelector (BtNode.runAt (npcActions algs) behaviours start env₂).1 nodes start .running]
          .running, (BtNode.runAt (npcActions algs) behaviours start env₂).2) := by
      have hbehavDone : behavStatus.isDone = false := by rcases hbehavOpen with rfl | rfl <;> rfl
      simp [BtNode.tick_parallel, hdone, BtNode.runAll, tick_view env hview hviewOpen, henv₁,
        tick_sense env₁ hsense hsenseOpen, henv₂, hsenses, BtNode.tick_edSelector env₂ hbehavDone hstart hlt,
        BtNode.finish]
    rw [heq]
    refine .inl ⟨.intro hview hsense (.inr rfl) (.inr rfl) (.inr rfl) (BtNode.isAction_runAt start env₂ hactions)
      hkeeps.1 ?_ ?_ fun _ => hlength ▸ hlt, hsame₁.lives.trans (hsame₂.lives.trans hkeeps.2)⟩
    · exact fun hbare hnil =>
        hbehaved hbare (List.length_eq_zero_iff.1 (hlength ▸ List.length_eq_zero_iff.2 hnil))
    · simpa only [hlength] using hplaces

variable (algs) in
/-- A tick of an NPC without hp: the node is aborted. -/
theorem AliveNode.tick_of_eq (h : AliveNode bare inside status node) (hopen : status.IsOpen) {env : NpcEnv fl}
    (hhp : env.npc.hp = 0) :
    AliveNode bare inside .aborted (node.tick (npcActions algs) env).1 ∧
      env.SameHp (node.tick (npcActions algs) env).2 := by
  obtain ⟨hview, hsense, hviewOpen, hsenseOpen, hbehavOpen, hactions, hkinds, hbehaved, hplaces, hentered⟩ := h
  rename_i view sense viewStatus senseStatus behavStatus behaviours nodes curr
  obtain ⟨env₁, henv₁⟩ : ∃ env₁, (NpcEnv.viewTask algs view env).2.2 = env₁ := ⟨_, rfl⟩
  have hsame₁ : env.SameHp env₁ := henv₁ ▸ NpcEnv.sameHp_viewTask view env
  have hhp₁ : env₁.npc.hp = 0 := hsame₁.hp.trans hhp
  have hsenses : NpcEnv.senseTask algs sense env₁ = (.aborted, sense, env₁) := by
    rw [NpcEnv.senseTask, if_pos hhp₁]
  -- The sense aborts before the selector is ticked, and the node forces its children to exit.
  have heq : BtNode.tick (npcActions algs) (.parallel .sequence [.action view viewStatus,
        .action sense senseStatus, .edSelector behaviours nodes curr behavStatus] status) env =
      BtNode.exit (npcActions algs) (.parallel .sequence [.action view .running, .action sense .aborted,
        .edSelector behaviours nodes curr behavStatus] .aborted) env₁ := by
    have hdone : status.isDone = false := by rcases hopen with rfl | rfl <;> rfl
    simp [BtNode.tick_parallel, hdone, BtNode.runAll, tick_view env hview hviewOpen, henv₁,
      tick_sense env₁ hsense hsenseOpen, hsenses, BtNode.finish]
  rw [heq]
  have hexit := exit_alive algs .running .aborted behavStatus .aborted .aborted env₁ hview hsense hactions
    hkinds hbehaved hplaces fun hin => hentered (.inl hin)
  exact ⟨hexit.1, hsame₁.trans hexit.2.sameHp⟩

variable (algs) in
/-- **An event.**  The selector switches, or the event is for nobody; it cannot be handled only if it is for a
behaviour and the selector has not been inside. -/
theorem AliveNode.handleEvent (h : AliveNode bare inside status node) (id : BtEventId) (env : NpcEnv fl) :
    (∃ node' env', node.handleEvent (npcActions algs) id env = some (node', env') ∧
      AliveNode bare inside status node' ∧ env.SameLife env') ∨
    (node.handleEvent (npcActions algs) id env = none ∧ id.isBehaviour ∧ ¬ inside) := by
  obtain ⟨hview, hsense, hviewOpen, hsenseOpen, hbehavOpen, hactions, hkinds, hbehaved, hplaces, hentered⟩ := h
  rename_i view sense viewStatus senseStatus behavStatus behaviours nodes curr
  cases hfind : nodes.find? fun one => one.1 = id with
  | none =>
    refine .inl ⟨_, env, ?_, .intro hview hsense hviewOpen hsenseOpen hbehavOpen hactions hkinds hbehaved hplaces
      hentered, .refl env⟩
    simp [BtNode.handleEvent, BtNode.handleAll, hfind, BtNode.handleAll_of_isAction id env hactions]
  | some one =>
    obtain ⟨hbehaviour, hplace⟩ := hplaces one (List.mem_of_find?_eq_some hfind)
    have hid : one.1 = id := by simpa using List.find?_some hfind
    by_cases hlt : curr < behaviours.length
    · have hkeeps := BtNode.forceExitAt_keeps (npcActions_exitKeeps algs (· ≠ .birth)) .suspend behaviours
        curr env hkinds
      have hlength := BtNode.length_forceExitAt (npcActions algs) .suspend behaviours curr env
      refine .inl ⟨.parallel .sequence [.action view viewStatus, .action sense senseStatus,
        .edSelector (BtNode.forceExitAt (npcActions algs) .suspend behaviours curr env).1 nodes one.2
          behavStatus] status, _, ?_, .intro hview hsense hviewOpen hsenseOpen hbehavOpen
        (BtNode.isAction_forceExitAt .suspend curr env hactions) hkeeps.1 ?_ ?_ fun _ => hlength ▸ hplace,
        hkeeps.2⟩
      · simp [BtNode.handleEvent, BtNode.handleAll, hfind, hlt]
      · exact fun hbare hnil =>
      hbehaved hbare (List.length_eq_zero_iff.1 (hlength ▸ List.length_eq_zero_iff.2 hnil))
      · simpa only [hlength] using hplaces
    · refine .inr ⟨?_, hid ▸ hbehaviour, fun hin => hlt (hentered (.inl hin))⟩
      simp [BtNode.handleEvent, BtNode.handleAll, hfind, hlt]

end Alive

/-- The sequence of a birth, a life and a death, wherever it stands. -/
inductive SeqNode (bare inside : Prop) : BtNode BtAct → Prop
  | intro {birth death : BtAct} {alive : BtNode BtAct} {birthStatus aliveStatus deathStatus status : BtStatus}
      {curr : ℕ} (birth_kind : birth.kind = .birth) (death_kind : death.kind = .death)
      (alive_node : AliveNode bare inside aliveStatus alive) :
      SeqNode bare inside
        (.sequence [.action birth birthStatus, alive, .action death deathStatus] curr status)

/-- The sequence between two ticks, in a phase; a death has begun at this time. -/
inductive LifeNode (bare inside : Prop) (since : UInt64) : LifePhase → BtNode BtAct → Prop
  | fresh {birth death : BtAct} {alive : BtNode BtAct} {curr : ℕ} (birth_kind : birth.kind = .birth)
      (death_kind : death.kind = .death) (alive_node : AliveNode bare inside .invalid alive) :
      LifeNode bare inside since .birth
        (.sequence [.action birth .invalid, alive, .action death .invalid] curr .invalid)
  | birth {birth death : BtAct} {alive : BtNode BtAct} (birth_kind : birth.kind = .birth)
      (death_kind : death.kind = .death) (alive_node : AliveNode bare inside .invalid alive) :
      LifeNode bare inside since .birth
        (.sequence [.action birth .running, alive, .action death .invalid] 0 .running)
  | alive {birth death : BtAct} {alive : BtNode BtAct} (birth_kind : birth.kind = .birth)
      (death_kind : death.kind = .death) (alive_node : AliveNode bare inside .running alive) :
      LifeNode bare inside since .alive
        (.sequence [.action birth .success, alive, .action death .invalid] 1 .running)
  | death {birth death : BtAct} {alive : BtNode BtAct} (birth_kind : birth.kind = .birth)
      (death_kind : death.kind = .death) (alive_node : AliveNode bare inside .aborted alive)
      (since_eq : death.lastTime = since) :
      LifeNode bare inside since .death
        (.sequence [.action birth .success, alive, .action death .running] 2 .running)

/-- The NPC at the end of a birth. -/
def NpcEnv.bear (env : NpcEnv fl) : NpcEnv fl :=
  ({ env with npc := { env.npc with hp := env.npc.initHp } } : NpcEnv fl).send .born

/-- What a tick does to the NPC, and to its phase.  An NPC that is bare has no behaviour, and no life. -/
inductive LifeTick (bare : Prop) (since : UInt64) (env env' : NpcEnv fl) : LifePhase → LifePhase → Prop
  /-- The birth goes on. -/
  | unborn (same : env.SameLife env') : LifeTick bare since env env' .birth .birth
  /-- The birth ends, and the NPC lives at once. -/
  | born (init_ne : env.npc.initHp ≠ 0) (lives : env.bear.Lives env') : LifeTick bare since env env' .birth .alive
  /-- The birth ends, and the NPC has no hp even then, or nothing to do. -/
  | stillborn (init_eq : env.npc.initHp = 0 ∨ bare) (same : env.bear.SameHp env') :
      LifeTick bare since env env' .birth .death
  /-- The life goes on. -/
  | alive (hp_ne : env.npc.hp ≠ 0) (lives : env.Lives env') : LifeTick bare since env env' .alive .alive
  /-- The life ends. -/
  | killed (hp_eq : env.npc.hp = 0 ∨ bare) (same : env.SameHp env') : LifeTick bare since env env' .alive .death
  /-- The death goes on. -/
  | dead (same : env.SameLife env') : LifeTick bare since env env' .death .death
  /-- The death ends behind its delay. -/
  | reborn (rebirth : env.npc.rebirth = true) (delay : 8000 ≤ env.sur.timeTick - since)
      (same : env.SameLife env') : LifeTick bare since env env' .death .birth

/-- A tick does not change how much hp an NPC can have. -/
theorem LifeTick.initHp {bare : Prop} {since : UInt64} {env env' : NpcEnv fl} {phase phase' : LifePhase}
    (h : LifeTick bare since env env' phase phase') : env'.npc.initHp = env.npc.initHp := by
  cases h with
  | unborn same | dead same | reborn _ _ same => exact same.initHp
  | stillborn _ same | killed _ same => exact same.initHp
  | born _ lives | alive _ lives => exact lives.initHp

/-- A tick behind which the NPC is to be born queues no event. -/
theorem LifeTick.events {bare : Prop} {since : UInt64} {env env' : NpcEnv fl} {phase : LifePhase}
    (h : LifeTick bare since env env' phase .birth) : env'.events = env.events := by
  cases h with
  | unborn same | reborn _ _ same => exact same.events

section Life

variable {algs : Heap.Algorithms BtEvent.less} {bare inside : Prop} {since : UInt64} {phase : LifePhase}
  {node : BtNode BtAct}

theorem LifeNode.seqNode (h : LifeNode bare inside since phase node) : SeqNode bare inside node := by
  cases h with
  | fresh hbirth hdeath halive | birth hbirth hdeath halive | alive hbirth hdeath halive
  | death hbirth hdeath halive => exact .intro hbirth hdeath halive

variable (algs) in
/-- A sequence that exits. -/
theorem SeqNode.exit (h : SeqNode bare inside node) (env : NpcEnv fl) :
    SeqNode bare inside (node.exit (npcActions algs) env).1 ∧
      (node.exit (npcActions algs) env).1.status = node.status ∧
      env.SameLife (node.exit (npcActions algs) env).2 := by
  obtain ⟨hbirth, hdeath, halive⟩ := h
  rename_i birth death alive birthStatus _ deathStatus status curr
  obtain ⟨hexit, hsame⟩ := halive.exit algs .invalid env
  have heq : BtNode.exit (npcActions algs) (.sequence [.action birth birthStatus, alive,
        .action death deathStatus] curr status) env =
      (.sequence [.action birth .invalid,
        (BtNode.exit (npcActions algs) alive env).1.setStatus .invalid, .action death .invalid] curr status,
        (BtNode.exit (npcActions algs) alive env).2) := by
    simp only [BtNode.forceExitAll, BtNode.exit, npcActions, NpcEnv.exit, hbirth, hdeath, BtNode.setStatus]
  rw [heq]
  exact ⟨.intro hbirth hdeath hexit, rfl, hsame⟩

variable (algs) (since) in
/-- A sequence that is reset is to begin with a birth. -/
theorem SeqNode.reset (h : SeqNode bare inside node) (env : NpcEnv fl) :
    LifeNode bare inside since .birth (node.reset (npcActions algs) env).1 ∧
      env.SameLife (node.reset (npcActions algs) env).2 := by
  obtain ⟨hbirth, hdeath, halive⟩ := h
  rename_i birth death alive birthStatus _ deathStatus status curr
  obtain ⟨hexit, hsame⟩ := halive.exit algs .invalid env
  have heq : BtNode.reset (npcActions algs) (.sequence [.action birth birthStatus, alive,
        .action death deathStatus] curr status) env =
      (.sequence [.action birth .invalid,
        (BtNode.exit (npcActions algs) alive env).1.setStatus .invalid, .action death .invalid] 0 .invalid,
        (BtNode.exit (npcActions algs) alive env).2) := by
    simp only [BtNode.reset, BtNode.forceExitAll, BtNode.exit, npcActions, NpcEnv.exit, hbirth, hdeath,
      BtNode.setStatus]
  rw [heq]
  exact ⟨.fresh hbirth hdeath hexit, hsame⟩

variable (algs) in
theorem tick_birth_enter {act : BtAct} (env : NpcEnv fl) (hkind : act.kind = .birth) :
    BtNode.tick (npcActions algs) (.action act .invalid) env =
      (.action { act with lastTime := env.sur.timeTick } .running, (NpcEnv.enterBirth act env).2) := by
  rw [BtNode.tick_action]
  by_cases hplayers : env.sur.players = [] <;>
    simp [BtStatus.isDone, npcActions, NpcEnv.enter, NpcEnv.task, hkind, BtNode.finish,
      NpcEnv.birthTask, NpcEnv.enterBirth, hplayers]

variable (algs) in
/-- A birth that runs goes on, or ends. -/
theorem tick_birth {act : BtAct} (env : NpcEnv fl) (hkind : act.kind = .birth) :
    (∃ act' : BtAct, act'.kind = .birth ∧
      BtNode.tick (npcActions algs) (.action act .running) env = (.action act' .running, env)) ∨
    BtNode.tick (npcActions algs) (.action act .running) env = (.action act .success, env.bear) := by
  rw [BtNode.tick_action]
  by_cases hplayers : env.sur.players = []
  · refine .inl ⟨{ act with lastTime := env.sur.timeTick }, hkind, ?_⟩
    simp [BtStatus.isDone, npcActions, NpcEnv.task, hkind, BtNode.finish, NpcEnv.birthTask,
      hplayers]
  · by_cases helapsed : env.sur.timeTick - act.lastTime < 2000
    · refine .inl ⟨act, hkind, ?_⟩
      simp [BtStatus.isDone, npcActions, NpcEnv.task, hkind, BtNode.finish,
        NpcEnv.birthTask, hplayers, helapsed]
    · refine .inr ?_
      simp [BtStatus.isDone, npcActions, NpcEnv.task, NpcEnv.exit, hkind, BtNode.finish,
        BtNode.exit, NpcEnv.birthTask, hplayers, helapsed, NpcEnv.bear]

variable (algs) in
theorem tick_death_enter {act : BtAct} (env : NpcEnv fl) (hkind : act.kind = .death) :
    BtNode.tick (npcActions algs) (.action act .invalid) env =
      (.action { act with lastTime := env.sur.timeTick } .running, (NpcEnv.enterDeath act env).2) := by
  rw [BtNode.tick_action]
  simp [BtStatus.isDone, npcActions, NpcEnv.enter, NpcEnv.task, hkind, BtNode.finish,
    NpcEnv.deathTask, NpcEnv.enterDeath, NpcEnv.send]

variable (algs) in
/-- A death goes on, or ends if the NPC is born again and the delay is over. -/
theorem tick_death {act : BtAct} (env : NpcEnv fl) (hkind : act.kind = .death) :
    BtNode.tick (npcActions algs) (.action act .running) env = (.action act .running, env) ∨
    env.npc.rebirth = true ∧ 8000 ≤ env.sur.timeTick - act.lastTime ∧
      BtNode.tick (npcActions algs) (.action act .running) env = (.action act .success, env) := by
  rw [BtNode.tick_action]
  by_cases hwait : env.sur.timeTick - act.lastTime < 8000 ∨ env.npc.rebirth = false
  · refine .inl ?_
    simp [BtStatus.isDone, npcActions, NpcEnv.task, hkind, BtNode.finish, NpcEnv.deathTask,
      hwait]
  · obtain ⟨hdelay, hrebirth⟩ := not_or.1 hwait
    refine .inr ⟨by simpa using hrebirth, UInt64.not_lt.1 hdelay, ?_⟩
    simp [BtStatus.isDone, npcActions, NpcEnv.task, NpcEnv.exit, hkind, BtNode.finish,
      BtNode.exit, NpcEnv.deathTask, hwait]

variable (algs) in
/-- The loop of the sequence from its middle child on: the NPC lives, or it begins to be dead. -/
theorem run_alive {alive : BtNode BtAct} {status : BtStatus} (h : AliveNode bare inside status alive)
    (hopen : status.IsOpen) {death : BtAct} (hdeath : death.kind = .death) (env : NpcEnv fl) :
    (env.npc.hp ≠ 0 ∧ ∃ alive' env', AliveNode bare True .running alive' ∧ env.Lives env' ∧
      BtNode.runFrom (npcActions algs) BtNode.passes .success [alive, .action death .invalid] 0 env =
        ([alive', .action death .invalid], 0, some .running, env')) ∨
    ((env.npc.hp = 0 ∨ bare) ∧ ∃ alive' env', AliveNode bare inside .aborted alive' ∧ env.SameHp env' ∧
      BtNode.runFrom (npcActions algs) BtNode.passes .success [alive, .action death .invalid] 0 env =
        ([alive', .action { death with lastTime := env.sur.timeTick } .running], 1, some .running,
          env')) := by
  obtain ⟨⟨alive', env₁⟩, htick⟩ : ∃ r, alive.tick (npcActions algs) env = r := ⟨_, rfl⟩
  -- Once the middle child has aborted, the death begins.
  have hends : AliveNode bare inside .aborted alive' → env.SameHp env₁ →
      ∃ alive' env', AliveNode bare inside .aborted alive' ∧ env.SameHp env' ∧
        BtNode.runFrom (npcActions algs) BtNode.passes .success [alive, .action death .invalid] 0 env =
          ([alive', .action { death with lastTime := env.sur.timeTick } .running], 1, some .running,
            env') := by
    intro halive hsame
    refine ⟨alive', (NpcEnv.enterDeath death env₁).2, halive,
      hsame.trans ⟨rfl, rfl, rfl, NpcEnv.births_send nofun, rfl⟩, ?_⟩
    have hsur : env₁.sur = env.sur := hsame.sur
    have hdeathTick := tick_death_enter algs env₁ hdeath
    rw [hsur] at hdeathTick
    have hpasses : BtNode.passes alive'.status = true := by
      obtain ⟨⟩ := halive
      rfl
    exact BtNode.runFrom_moves htick hpasses (BtNode.runFrom_stays hdeathTick rfl)
  by_cases hhp : env.npc.hp = 0
  · obtain ⟨halive, hsame⟩ := h.tick_of_eq algs hopen hhp
    rw [htick] at halive hsame
    exact .inr ⟨.inl hhp, hends halive hsame⟩
  · have hnext := h.tick_of_ne algs hopen hhp
    rw [htick] at hnext
    rcases hnext with ⟨halive, hlives⟩ | ⟨hbare, halive, hsame⟩
    · have hstatus : alive'.status = .running := by
        obtain ⟨⟩ := halive
        rfl
      refine .inl ⟨hhp, alive', env₁, halive, hlives, ?_⟩
      rw [BtNode.runFrom_stays htick (by rw [hstatus]; rfl), hstatus]
    · exact .inr ⟨.inr hbare, hends halive hsame⟩

/-- The time when the death has begun, behind a tick. -/
def sinceTick (since now : UInt64) (phase phase' : LifePhase) : UInt64 :=
  if phase ≠ .death ∧ phase' = .death then now else since

variable (algs) in
/-- **A tick of the sequence.**  It runs then, or it has succeeded with the end of a death. -/
theorem LifeNode.tick (h : LifeNode bare inside since phase node) (env : NpcEnv fl) :
    ∃ phase', LifeTick bare since env (node.tick (npcActions algs) env).2 phase phase' ∧
      (phase = .death ∧ phase' = .birth ∧ (node.tick (npcActions algs) env).1.status = .success ∧
          SeqNode bare inside (node.tick (npcActions algs) env).1 ∨
        ¬ (phase = .death ∧ phase' = .birth) ∧ (node.tick (npcActions algs) env).1.status = .running ∧
          LifeNode bare (inside ∨ phase' = .alive) (sinceTick since env.sur.timeTick phase phase') phase'
            (node.tick (npcActions algs) env).1) := by
  cases h with
  | fresh hbirth hdeath halive =>
    rename_i birth death alive curr
    have htick := tick_birth_enter algs env hbirth
    rw [BtNode.tick_sequence_invalid (BtNode.runFrom_stays htick rfl)]
    exact ⟨.birth, .unborn ⟨rfl, rfl, rfl, rfl, rfl, rfl⟩, .inr ⟨nofun, rfl,
      .birth hbirth hdeath (halive.anti (Or.resolve_right · nofun))⟩⟩
  | birth hbirth hdeath halive =>
    rename_i birth death alive
    rcases tick_birth algs env hbirth with ⟨birth', hbirth', htick⟩ | htick
    · rw [BtNode.tick_sequence_running (BtNode.runFrom_stays htick rfl)]
      exact ⟨.birth, .unborn (.refl env), .inr ⟨nofun, rfl,
        .birth hbirth' hdeath (halive.anti (Or.resolve_right · nofun))⟩⟩
    -- The birth ends, and the loop goes on with the life.
    · rcases run_alive algs halive (.inl rfl) hdeath env.bear with
        ⟨hhp, alive', env', halive', hlives, hloop⟩ | ⟨hhp, alive', env', halive', hsame, hloop⟩
      · rw [BtNode.tick_sequence_running (BtNode.runFrom_moves htick rfl hloop)]
        exact ⟨.alive, .born hhp hlives, .inr ⟨nofun, rfl,
          .alive hbirth hdeath (halive'.anti fun _ => trivial)⟩⟩
      · rw [BtNode.tick_sequence_running (BtNode.runFrom_moves htick rfl hloop)]
        exact ⟨.death, .stillborn hhp hsame, .inr ⟨nofun, rfl,
          .death hbirth hdeath (halive'.anti (Or.resolve_right · nofun)) rfl⟩⟩
  | alive hbirth hdeath halive =>
    rename_i birth death alive
    rcases run_alive algs halive (.inr rfl) hdeath env with
      ⟨hhp, alive', env', halive', hlives, hloop⟩ | ⟨hhp, alive', env', halive', hsame, hloop⟩
    · rw [BtNode.tick_sequence_running (BtNode.runFrom_succ_eq hloop)]
      exact ⟨.alive, .alive hhp hlives, .inr ⟨nofun, rfl,
        .alive hbirth hdeath (halive'.anti fun _ => trivial)⟩⟩
    · rw [BtNode.tick_sequence_running (BtNode.runFrom_succ_eq hloop)]
      exact ⟨.death, .killed hhp hsame, .inr ⟨nofun, rfl,
        .death hbirth hdeath (halive'.anti (Or.resolve_right · nofun)) rfl⟩⟩
  | death hbirth hdeath halive hsince =>
    rename_i birth death alive
    rcases tick_death algs env hdeath with htick | ⟨hrebirth, hdelay, htick⟩
    · rw [BtNode.tick_sequence_running (BtNode.runFrom_succ_eq (BtNode.runFrom_succ_eq
        (BtNode.runFrom_stays htick rfl)))]
      exact ⟨.death, .dead (.refl env), .inr ⟨nofun, rfl,
        .death hbirth hdeath (halive.anti (Or.resolve_right · nofun)) hsince⟩⟩
    · rw [BtNode.tick_sequence_success (BtNode.runFrom_succ_eq (BtNode.runFrom_succ_eq
        (BtNode.runFrom_ends htick rfl)))]
      obtain ⟨hseq, hstatus, hsame⟩ := SeqNode.exit algs (.intro hbirth hdeath halive) env
      exact ⟨.birth, .reborn hrebirth (hsince ▸ hdelay) hsame, .inl ⟨rfl, rfl, hstatus, hseq⟩⟩

theorem LifeNode.lifePhase_eq (h : LifeNode bare inside since phase node) (count limit : ℕ) (status : BtStatus) :
    lifePhase (.repeat node count limit status) = phase := by
  cases h <;> rfl

theorem LifeNode.anti {inside' : Prop} (h : LifeNode bare inside since phase node) (himp : inside' → inside) :
    LifeNode bare inside' since phase node := by
  cases h with
  | fresh hbirth hdeath halive => exact .fresh hbirth hdeath (halive.anti himp)
  | birth hbirth hdeath halive => exact .birth hbirth hdeath (halive.anti himp)
  | alive hbirth hdeath halive => exact .alive hbirth hdeath (halive.anti himp)
  | death hbirth hdeath halive hsince => exact .death hbirth hdeath (halive.anti himp) hsince

/-- In every phase the middle child may change like a node with its status. -/
theorem LifeNode.middle (h : LifeNode bare inside since phase node) :
    ∃ birth birthStatus death deathStatus curr status alive aliveStatus, AliveNode bare inside aliveStatus alive ∧
      node = .sequence [.action birth birthStatus, alive, .action death deathStatus] curr status ∧
      ∀ alive', AliveNode bare inside aliveStatus alive' → LifeNode bare inside since phase
        (.sequence [.action birth birthStatus, alive', .action death deathStatus] curr status) := by
  cases h with
  | fresh hbirth hdeath halive =>
    exact ⟨_, _, _, _, _, _, _, _, halive, rfl, fun _ h' => .fresh hbirth hdeath h'⟩
  | birth hbirth hdeath halive =>
    exact ⟨_, _, _, _, _, _, _, _, halive, rfl, fun _ h' => .birth hbirth hdeath h'⟩
  | alive hbirth hdeath halive =>
    exact ⟨_, _, _, _, _, _, _, _, halive, rfl, fun _ h' => .alive hbirth hdeath h'⟩
  | death hbirth hdeath halive hsince =>
    exact ⟨_, _, _, _, _, _, _, _, halive, rfl, fun _ h' => .death hbirth hdeath h' hsince⟩

variable (algs) in
/-- The sequence handles an event like its middle child. -/
theorem LifeNode.handleEvent (h : LifeNode bare inside since phase node) (id : BtEventId) (env : NpcEnv fl) :
    (∃ node' env', node.handleEvent (npcActions algs) id env = some (node', env') ∧
      LifeNode bare inside since phase node' ∧ env.SameLife env') ∨
    (node.handleEvent (npcActions algs) id env = none ∧ id.isBehaviour ∧ ¬ inside) := by
  obtain ⟨birth, birthStatus, death, deathStatus, curr, status, alive, aliveStatus, halive, rfl, hmiddle⟩ :=
    h.middle
  rcases halive.handleEvent algs id env with ⟨alive', env', heq, halive', hsame⟩ | ⟨heq, hearly⟩
  · exact .inl ⟨_, env', by simp [BtNode.handleEvent, BtNode.handleAll, heq], hmiddle alive' halive', hsame⟩
  · exact .inr ⟨by simp [BtNode.handleEvent, BtNode.handleAll, heq], hearly⟩

/-- The root between two ticks, with the deaths that it counts. -/
inductive LifeRoot (bare inside : Prop) (since : UInt64) (phase : LifePhase) (lives : ℕ) : BtNode BtAct → Prop
  | intro {life : BtNode BtAct} {status : BtStatus} (life_node : LifeNode bare inside since phase life)
      (status_eq : status = .running ∨ status = .invalid ∧ phase = .birth) :
      LifeRoot bare inside since phase lives (.repeat life lives uintMax status)

/-- The lives that are over, behind a tick. -/
def livesTick (lives : ℕ) (phase phase' : LifePhase) : ℕ :=
  if phase = .death ∧ phase' = .birth then lives + 1 else lives

variable (algs) in
/-- **A tick of the root.**  The root runs, unless it was the last life that it counts. -/
theorem LifeRoot.tick {lives : ℕ} (h : LifeRoot bare inside since phase lives node) (hlt : lives < uintMax)
    (env : NpcEnv fl) :
    ∃ phase', lifePhase (node.tick (npcActions algs) env).1 = phase' ∧
      LifeTick bare since env (node.tick (npcActions algs) env).2 phase phase' ∧
      (livesTick lives phase phase' < uintMax → (node.tick (npcActions algs) env).1.status = .running ∧
        LifeRoot bare (inside ∨ phase' = .alive) (sinceTick since env.sur.timeTick phase phase') phase'
          (livesTick lives phase phase') (node.tick (npcActions algs) env).1) ∧
      (uintMax ≤ livesTick lives phase phase' → (node.tick (npcActions algs) env).1.status = .success) := by
  obtain ⟨hlife, hstatus⟩ := h
  rename_i life status
  have hdone : status.isDone = false := by rcases hstatus with rfl | ⟨rfl, -⟩ <;> rfl
  obtain ⟨⟨life', env₁⟩, htick⟩ : ∃ r, life.tick (npcActions algs) env = r := ⟨_, rfl⟩
  obtain ⟨phase', hmove, hnext⟩ := hlife.tick algs env
  rw [htick] at hmove hnext
  rcases hnext with ⟨rfl, rfl, hsuccess, hseq⟩ | ⟨hstays, hrunning, hnode⟩
  -- The death has ended: the sequence is reset, and that was one more life.
  · obtain ⟨hreset, hsame⟩ := hseq.reset algs since env₁
    obtain rfl : status = .running := hstatus.resolve_right fun h => nomatch h.2
    rw [BtNode.tick_repeat_success hlt htick hsuccess]
    obtain ⟨⟩ | ⟨⟩ | ⟨⟩ | ⟨⟩ | ⟨⟩ | ⟨⟩ | ⟨hrebirth, hdelay, hsame₁⟩ := hmove
    refine ⟨.birth, hreset.lifePhase_eq _ _ _, .reborn hrebirth hdelay (hsame₁.trans hsame), fun hlives => ?_,
      fun hlives => ?_⟩
    · have hlast : lives + 1 ≠ uintMax := Nat.ne_of_lt hlives
      rw [if_neg hlast]
      exact ⟨rfl, .intro (hreset.anti (Or.resolve_right · nofun)) (.inl rfl)⟩
    · have hlast : lives + 1 = uintMax := Nat.le_antisymm hlt hlives
      rw [if_pos hlast]
      rfl
  · rw [BtNode.tick_repeat_running hdone hlt htick hrunning]
    have hlives : livesTick lives phase phase' = lives := if_neg hstays
    refine ⟨phase', hnode.lifePhase_eq _ _ _, hmove, ?_⟩
    rw [hlives]
    exact ⟨fun _ => ⟨rfl, .intro hnode (.inl rfl)⟩, fun hlast => absurd hlt (Nat.not_lt.2 hlast)⟩

variable (algs) in
/-- **An event** keeps the phase, unless it is `Birth`; and it can be handled, unless it is for a behaviour
before the selector has been inside. -/
theorem LifeRoot.handleEvent {lives : ℕ} (h : LifeRoot bare inside since phase lives node) (id : BtEventId)
    (env : NpcEnv fl) :
    (∃ node' env', node.handleEvent (npcActions algs) id env = some (node', env') ∧
      LifeRoot bare inside since (if id = .birth then .birth else phase) (if id = .birth then 0 else lives) node' ∧
      node'.status = node.status ∧ env.SameLife env') ∨
    (node.handleEvent (npcActions algs) id env = none ∧ id.isBehaviour ∧ ¬ inside) := by
  obtain ⟨hlife, hstatus⟩ := h
  rename_i life status
  by_cases hid : id = .birth
  · obtain ⟨hreset, hsame⟩ := hlife.seqNode.reset algs since env
    refine .inl ⟨.repeat _ 0 uintMax status, _, by rw [BtNode.handleEvent, if_pos hid], ?_, rfl, hsame⟩
    rw [if_pos hid, if_pos hid]
    exact .intro hreset (hstatus.imp_right fun h => ⟨h.1, rfl⟩)
  · rcases hlife.handleEvent algs id env with ⟨life', env', heq, hlife', hsame⟩ | ⟨heq, hearly⟩
    · refine .inl ⟨.repeat life' lives uintMax status, env', by simp [BtNode.handleEvent, hid, heq], ?_, rfl,
        hsame⟩
      rw [if_neg hid, if_neg hid]
      exact .intro hlife' hstatus
    · exact .inr ⟨by simp [BtNode.handleEvent, hid, heq], hearly⟩
end Life

theorem LifeRoot.lifePhase_eq {bare inside : Prop} {since : UInt64} {phase : LifePhase} {lives : ℕ}
    {node : BtNode BtAct} (h : LifeRoot bare inside since phase lives node) : lifePhase node = phase := by
  obtain ⟨hlife, -⟩ := h
  exact hlife.lifePhase_eq _ _ _

theorem LifeRoot.anti {bare inside inside' : Prop} {since : UInt64} {phase : LifePhase} {lives : ℕ}
    {node : BtNode BtAct} (h : LifeRoot bare inside since phase lives node) (himp : inside' → inside) :
    LifeRoot bare inside' since phase lives node := by
  obtain ⟨hlife, hstatus⟩ := h
  exact .intro (hlife.anti himp) hstatus

/-! ### The events of an update -/

section Events

variable {algs : Heap.Algorithms BtEvent.less} {rounds : ℕ} {node node' : BtNode BtAct}
  {env env' : NpcEnv fl} {ids : List BtEventId}

/-- The two ways to handle the events: there is none, or the first one is handled and then the others. -/
theorem handleEvents_cases (heq : NpcObject.handleEvents algs rounds node env = some (ids, node', env')) :
    (ids = [] ∧ node' = node ∧ env' = env ∧ env.events.heap = []) ∨
    ∃ rounds₁ id events node₁ env₁ ids₁, rounds = rounds₁ + 1 ∧ ids = id :: ids₁ ∧
      node.handleEvent (npcActions algs) id { env with events := events } = some (node₁, env₁) ∧
      NpcObject.handleEvents algs rounds₁ node₁ env₁ = some (ids₁, node', env') := by
  rw [NpcObject.handleEvents.eq_def] at heq
  cases hpop : env.events.pop algs with
  | none =>
    simp only [hpop, Option.some.injEq, Prod.mk.injEq] at heq
    obtain ⟨rfl, rfl, rfl⟩ := heq
    exact .inl ⟨rfl, rfl, rfl, BtEventQueue.heap_of_pop_eq_none hpop⟩
  | some popped =>
    obtain ⟨id, events⟩ := popped
    cases rounds with
    | zero => simp only [hpop, reduceCtorEq] at heq
    | succ rounds₁ =>
      simp only [hpop] at heq
      obtain ⟨⟨node₁, env₁⟩, hhandle, hrest⟩ := Option.bind_eq_some_iff.1 heq
      obtain ⟨⟨ids₁, rest⟩, hloop, hres⟩ := Option.map_eq_some_iff.1 hrest
      cases hres
      exact .inr ⟨rounds₁, id, events, node₁, env₁, ids₁, rfl, rfl, hhandle, hloop⟩

/-- **The events of an update** leave the status of the root and the hp alone, and no event is left. -/
theorem handleEvents_keeps (heq : NpcObject.handleEvents algs rounds node env = some (ids, node', env')) :
    node'.status = node.status ∧ env.SameHp env' ∧ env'.events.heap = [] := by
  induction rounds generalizing node env ids with
  | zero =>
    obtain ⟨-, rfl, rfl, hempty⟩ | ⟨_, _, _, _, _, _, hrounds, -⟩ := handleEvents_cases heq
    · exact ⟨rfl, .refl _, hempty⟩
    · cases hrounds
  | succ rounds ih =>
    obtain ⟨-, rfl, rfl, hempty⟩ | ⟨_, id, events, node₁, env₁, ids₁, ⟨rfl⟩, -, hhandle, hloop⟩ :=
      handleEvents_cases heq
    · exact ⟨rfl, .refl _, hempty⟩
    · obtain ⟨hstatus, hsame, hempty⟩ := ih hloop
      obtain ⟨-, hsame₁⟩ := BtNode.handleEvent_keeps (npcActions_exitKeeps algs fun _ => True) id node _ node₁
        env₁ hhandle (BtNode.allLeaves_true node)
      refine ⟨hstatus.trans (BtNode.status_handleEvent _ hhandle), .trans ?_ hsame, hempty⟩
      exact ⟨hsame₁.hp, hsame₁.initHp, hsame₁.rebirth, hsame₁.sameHp.births, hsame₁.sur⟩

/-- The phase stays unless one of the events is `Birth`. -/
theorem LifeRoot.handleEvents {bare inside : Prop} {since : UInt64} {phase : LifePhase} {lives : ℕ}
    (h : LifeRoot bare inside since phase lives node)
    (heq : NpcObject.handleEvents algs rounds node env = some (ids, node', env')) :
    LifeRoot bare inside since (if .birth ∈ ids then .birth else phase)
      (if .birth ∈ ids then 0 else lives) node' := by
  induction rounds generalizing phase lives node env ids with
  | zero =>
    obtain ⟨rfl, rfl, rfl, -⟩ | ⟨_, _, _, _, _, _, hrounds, -⟩ := handleEvents_cases heq
    · exact h
    · cases hrounds
  | succ rounds ih =>
    obtain ⟨rfl, rfl, rfl, -⟩ | ⟨_, id, events, node₁, env₁, ids₁, ⟨rfl⟩, rfl, hhandle, hloop⟩ :=
      handleEvents_cases heq
    · exact h
    · rcases h.handleEvent algs id { env with events := events } with
        ⟨node₂, env₂, hhandle₂, hnode₂, -, -⟩ | ⟨hnone, -⟩
      · cases hhandle.symm.trans hhandle₂
        have hnode' := ih hnode₂ hloop
        by_cases hmem : .birth ∈ ids₁
        · simpa [hmem] using hnode'
        · by_cases hid : id = .birth
          · simpa [hmem, hid] using hnode'
          · have hne : ¬ .birth = id := fun h => hid h.symm
            simpa [hmem, hid, hne] using hnode'
      · cases hhandle.symm.trans hnone

end Events

/-- Every event can be handled if those for a behaviour do not come too early. -/
theorem LifeRoot.isSome_handleEvents {algs : Heap.Algorithms BtEvent.less} {bare inside : Prop} {since : UInt64}
    {phase : LifePhase} {lives rounds : ℕ} {node : BtNode BtAct} {env : NpcEnv fl}
    (h : LifeRoot bare inside since phase lives node)
    (hqueue : ∀ e ∈ env.events.heap, e.id.isBehaviour → inside) (hrounds : env.events.heap.length ≤ rounds) :
    (NpcObject.handleEvents algs rounds node env).isSome := by
  induction rounds generalizing phase lives node env with
  | zero =>
    rw [NpcObject.handleEvents]
    cases hpop : env.events.pop algs with
    | none => rfl
    | some popped =>
      have hlength := BtEventQueue.length_pop hpop
      omega
  | succ rounds ih =>
    rw [NpcObject.handleEvents]
    cases hpop : env.events.pop algs with
    | none => rfl
    | some popped =>
      obtain ⟨id, events⟩ := popped
      obtain ⟨⟨e, he, rfl⟩, hmem, hlength⟩ := BtEventQueue.pop_eq hpop
      rcases h.handleEvent algs e.id { env with events := events } with
        ⟨node₁, env₁, hhandle, hnode, -, hsame⟩ | ⟨-, hbehaviour, hout⟩
      · have hevents : env₁.events = events := hsame.events
        have hrest := ih hnode (fun e he => hqueue e (hmem e (hevents ▸ he))) (by rw [hevents]; omega)
        simpa [hhandle] using hrest
      · exact absurd (hqueue e he hbehaviour) hout

/-! ### The first tree -/

theorem ofName_isBehaviour {name : String} {kind : BtActKind} (h : BtActKind.ofName name = some kind) :
    kind.eventId.isBehaviour ∧ kind ≠ .birth := by
  rw [BtActKind.ofName] at h
  split_ifs at h <;> cases h <;> decide

/-- Every id that is registered leads to a behaviour that has it. -/
theorem registerNodes_eventId (kinds : List BtActKind) :
    ∀ one ∈ registerNodes kinds, ∃ kind, kinds[one.2]? = some kind ∧ kind.eventId = one.1 := by
  rw [registerNodes]
  refine List.foldlRecOn
    (motive := fun nodes : List (BtEventId × ℕ) =>
      ∀ one ∈ nodes, ∃ kind, kinds[one.2]? = some kind ∧ kind.eventId = one.1)
    _ _ (List.forall_mem_nil _) fun nodes hnodes pair hpair => ?_
  obtain ⟨kind, index⟩ := pair
  dsimp only
  split
  · exact hnodes
  · intro one hone
    rcases List.mem_append.1 hone with hone | hone
    · exact hnodes one hone
    · obtain rfl := List.mem_singleton.1 hone
      exact ⟨kind, List.mk_mem_zipIdx_iff_getElem?.1 hpair, rfl⟩

/-- What is registered is the id of a behaviour, with its place. -/
theorem registerNodes_places {kinds : List BtActKind} (h : ∀ kind ∈ kinds, kind.eventId.isBehaviour) :
    ∀ one ∈ registerNodes kinds, one.1.isBehaviour ∧ one.2 < kinds.length := by
  intro one hone
  obtain ⟨kind, hkind, hid⟩ := registerNodes_eventId kinds one hone
  exact ⟨hid ▸ h kind (List.mem_of_getElem? hkind), (List.getElem?_eq_some_iff.1 hkind).1⟩

/-- The tree of a configuration is to begin with a birth. -/
theorem lifeRoot_parseTree {kinds : List BtActKind} (rolls : ℕ → Fin 4) (since : UInt64)
    (hkinds : ∀ kind ∈ kinds, kind.eventId.isBehaviour ∧ kind ≠ .birth) :
    LifeRoot (kinds = []) False since .birth 0 (parseTree kinds rolls) := by
  refine .intro (.fresh rfl rfl (.intro rfl rfl (.inl rfl) (.inl rfl) (.inl rfl) ?_ ?_ ?_ ?_ ?_))
    (.inr ⟨rfl, rfl⟩)
  · intro child hchild
    obtain ⟨⟨kind, number⟩, -, rfl⟩ := List.mem_map.1 hchild
    exact ⟨_, _, rfl⟩
  · rw [BtNode.allLeavesOf_iff]
    intro child hchild
    obtain ⟨⟨kind, number⟩, hpair, rfl⟩ := List.mem_map.1 hchild
    exact (hkinds kind (List.fst_mem_of_mem_zipIdx hpair)).2
  · intro hne hnil
    have hlength := congrArg List.length hnil
    rw [List.length_map, List.length_zipIdx] at hlength
    exact hne (List.length_eq_zero_iff.1 hlength)
  · rw [List.length_map, List.length_zipIdx]
    exact registerNodes_places fun kind hkind => (hkinds kind hkind).1
  · rintro (hin | hrun)
    · exact hin.elim
    · cases hrun

end MmoServer
