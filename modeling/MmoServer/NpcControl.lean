/-
**What an update does to the linker and the hp of an NPC.**

The clients move the NPCs: the player that an NPC has as its linker sends its places, and `S2C_ReqLinkPlayer` tells
a player that it is the linker.  An NPC without a linker takes the nearest player.  The beginning of a birth and that
of a death forget the linker, and tell nobody.

The hp of an NPC are sent to all players when they change, except at the end of a birth.

Main definitions:

* `MmoServer.NpcEnv.Passes` — what one leaf does to the linker and the hp, with what it sends;
* `MmoServer.NpcEnv.Lasts`, `MmoServer.NpcEnv.LastsBirths` — what every such move keeps, but for the beginning of a
  birth, and what that keeps as well;
* `MmoServer.LinkerTold`, `MmoServer.Sole` — the linker was told so last, and nobody else that is there was told
  so in this life;
* `MmoServer.toldHp` — the hp that somebody knows who has listened.

Main results:

* `MmoServer.LifeRoot.tick_follows` — **a tick that does not end in a birth** keeps what every move keeps, and what
  is there at the end of each birth;
* `MmoServer.NpcObject.update_lasts`, `MmoServer.NpcObject.update_lives` — so does an update.
-/

import MmoServer.EventLog
import MmoServer.StalePointers

set_option relaxedAutoImplicit false
set_option autoImplicit false

namespace MmoServer

open Transition

/-! ### Ticks that do not begin at the first child -/

namespace BtNode

variable {Act Env : Type} {ops : BtAction Act Env} {P : Act → Prop} {R : Env → Env → Prop}

theorem runFrom_append (moves : BtStatus → Bool) (ended : BtStatus) (before children : List (BtNode Act))
    (curr : ℕ) (env : Env) :
    (runFrom ops moves ended (before ++ children) (before.length + curr) env).2.2.2 =
      (runFrom ops moves ended children curr env).2.2.2 := by
  induction before with
  | nil => rw [List.nil_append, List.length_nil, Nat.zero_add]
  | cons child before ih =>
    rw [List.cons_append, List.length_cons, Nat.add_right_comm, runFrom]
    exact ih

/-- A sequence that runs ticks the children from the current one on, and all of them may exit. -/
theorem tick_sequence_keeps (hexit : ops.ExitKeeps (fun _ => True) R) (hkeeps : ops.Keeps P R)
    (before : List (BtNode Act)) {children : List (BtNode Act)} (hleaves : AllLeavesOf P children) (env : Env) :
    R env (tick ops (.sequence (before ++ children) before.length .running) env).2 := by
  have hrun := (runFrom_keeps hkeeps (fun status => status = .success ∨ status = .aborted) .success children 0 env
    hleaves).2
  rw [← runFrom_append _ _ before, Nat.add_zero] at hrun
  rw [tick_sequence]
  exact (finish_keeps hexit hrun (allLeaves_true _)).2

/-- A repeat that ticks its child does what the child does, which may exit then. -/
theorem tick_repeat_keeps (hexit : ops.ExitKeeps (fun _ => True) R) {child : BtNode Act} {count limit : ℕ}
    {status : BtStatus} {start env : Env} (hdone : status.isDone = false) (hlt : count < limit)
    (hchild : R start (tick ops child env).2) :
    R start (tick ops (.repeat child count limit status) env).2 := by
  rw [tick, if_neg (by simp [hdone]), if_pos hlt]
  dsimp only
  split
  · have hreset := (reset_keeps hexit (tick ops child env).1 (tick ops child env).2 (allLeaves_true _)).2
    exact (finish_keeps hexit (hexit.trans hchild hreset) (allLeaves_true _)).2
  · exact (finish_keeps hexit hchild (allLeaves_true _)).2

end BtNode

/-! ### What leaves do to the linker and the hp -/

/-- What a leaf may send about the actions of the NPC. -/
def NpcNote.IsAction (note : NpcNote) : Prop :=
  ∃ id code playerSn, note = .syncBtAction id code playerSn ∧ id ≠ .death

namespace NpcEnv

variable {fl : NpcFloats}

/-- What a leaf does to the linker and the hp, and what it sends, unless a birth begins; these are the players of
the world. -/
inductive Passes (players : List PlayerRef) (npc npc' : Npc fl) : List NpcNote → Prop
  /-- The NPC acts. -/
  | acts {more : List NpcNote} (linker : npc'.linker = npc.linker) (hp : npc'.hp = npc.hp)
      (notes : ∀ note ∈ more, note.IsAction) : Passes players npc npc' more
  /-- A birth ends, with all hp. -/
  | bears (linker : npc'.linker = npc.linker) (hp : npc'.hp = npc.initHp) : Passes players npc npc' [.born]
  /-- A death begins. -/
  | dies (linker : npc'.linker = none) (hp : npc'.hp = npc.hp) :
      Passes players npc npc' [.syncBtAction .death 0 0]
  /-- A player becomes the linker. -/
  | links {p : PlayerRef} (here : p ∈ players) (free : npc.linker = none) (linker : npc'.linker = some p)
      (hp : npc'.hp = npc.hp) : Passes players npc npc' [.reqLinkPlayer p true]
  /-- The NPC rests. -/
  | heals (linker : npc'.linker = npc.linker) : Passes players npc npc' [.syncNpcProps npc'.hp]

/-- The NPC does nothing that is seen. -/
theorem Passes.still {players : List PlayerRef} {npc npc' : Npc fl} (hlinker : npc'.linker = npc.linker)
    (hhp : npc'.hp = npc.hp) : Passes players npc npc' [] :=
  .acts hlinker hhp (List.forall_mem_nil _)

/-- The same, for what the leaves read and write. -/
structure Moves (env env' : NpcEnv fl) : Prop where
  sur : env'.sur = env.sur
  initHp : env'.npc.initHp = env.npc.initHp
  passes : ∃ more, env'.notes = env.notes ++ more ∧ Passes env.sur.players env.npc env'.npc more

/-- The NPC sends nothing, or one action. -/
theorem moves_acts {env env' : NpcEnv fl} (hsur : env'.sur = env.sur) (hinit : env'.npc.initHp = env.npc.initHp)
    (hlinker : env'.npc.linker = env.npc.linker) (hhp : env'.npc.hp = env.npc.hp)
    (hnotes : env'.notes = env.notes ∨ ∃ note : NpcNote, note.IsAction ∧ env'.notes = env.notes ++ [note]) :
    env.Moves env' := by
  refine ⟨hsur, hinit, ?_⟩
  rcases hnotes with hnotes | ⟨note, hnote, hnotes⟩
  · exact ⟨[], by rw [hnotes, List.append_nil], .still hlinker hhp⟩
  · exact ⟨[note], hnotes, .acts hlinker hhp (List.forall_mem_singleton.2 hnote)⟩

theorem exit_moves (act : BtAct) (env : NpcEnv fl) : env.Moves (exit act env).2 := by
  rw [exit]
  cases act.kind <;> exact moves_acts rfl rfl rfl rfl (.inl rfl)

theorem enterTarget_moves (act : BtAct) {id : BtEventId} (hid : id ≠ .death) (env : NpcEnv fl) :
    env.Moves (enterTarget act id env).2 := by
  rw [enterTarget, broadcastTarget]
  split
  · exact moves_acts rfl rfl rfl rfl (.inl rfl)
  · exact moves_acts rfl rfl rfl rfl (.inr ⟨_, ⟨id, _, _, rfl, hid⟩, rfl⟩)

/-- Only the beginning of a birth forgets the linker and sends nothing. -/
theorem enter_moves {act : BtAct} (hkind : act.kind ≠ .birth) (env : NpcEnv fl) : env.Moves (enter act env).2 := by
  rw [enter]
  cases hact : act.kind with
  | birth => exact absurd hact hkind
  | attack => exact enterTarget_moves act (by decide : BtEventId.attack ≠ .death) env
  | pursue => exact enterTarget_moves act (by decide : BtEventId.pursue ≠ .death) env
  | death => exact ⟨rfl, rfl, _, rfl, .dies rfl rfl⟩
  | flee => exact moves_acts rfl rfl rfl rfl (.inr ⟨.syncBtAction .flee 0 0, ⟨_, _, _, rfl, by decide⟩, rfl⟩)
  | idle => exact moves_acts rfl rfl rfl rfl (.inr ⟨.syncBtAction .idle 0 0, ⟨_, _, _, rfl, by decide⟩, rfl⟩)
  | patrol =>
    exact moves_acts rfl rfl rfl rfl
      (.inr ⟨.syncBtAction .patrol env.sur.roll.val 0, ⟨_, _, _, rfl, by decide⟩, rfl⟩)
  | sense | view => exact moves_acts rfl rfl rfl rfl (.inl rfl)

section Tasks

variable (algs : Heap.Algorithms BtEvent.less)

/-- What a view does behind the linker. -/
theorem view_frame (env : NpcEnv fl) :
    ((env.viewTarget algs).viewHome algs).sur = env.sur ∧
      ((env.viewTarget algs).viewHome algs).npc.initHp = env.npc.initHp ∧
      ((env.viewTarget algs).viewHome algs).npc.linker = env.npc.linker ∧
      ((env.viewTarget algs).viewHome algs).npc.hp = env.npc.hp ∧
      ((env.viewTarget algs).viewHome algs).notes = env.notes := by
  rw [viewHome, viewTarget]
  split
  · split <;> exact ⟨rfl, rfl, rfl, rfl, rfl⟩
  · dsimp only
    split
    · split <;> exact ⟨rfl, rfl, rfl, rfl, rfl⟩
    · split <;> exact ⟨rfl, rfl, rfl, rfl, rfl⟩

/-- **A view** gives the nearest player to an NPC without a linker. -/
theorem viewTask_moves (act : BtAct) (env : NpcEnv fl) : env.Moves (viewTask algs act env).2.2 := by
  obtain ⟨hsur, hinit, hlinker, hhp, hnotes⟩ := view_frame algs env.viewLinker
  dsimp only [viewTask]
  cases hold : env.npc.linker with
  | some old =>
    have hsame : env.viewLinker = env := by
      rw [viewLinker, hold]
    rw [hsame] at hsur hinit hlinker hhp hnotes ⊢
    exact moves_acts hsur hinit hlinker hhp (.inl hnotes)
  | none =>
    cases hnear : env.sur.getNearestPlayer env.npc.currPos with
    | none =>
      have heq : env.viewLinker = { env with npc := { env.npc with linker := none } } := by
        simp only [viewLinker, hold, hnear, setLinkPlayer]
      rw [heq] at hsur hinit hlinker hhp hnotes ⊢
      exact moves_acts hsur hinit (hlinker.trans hold.symm) hhp (.inl hnotes)
    | some p =>
      have heq : env.viewLinker =
          ({ env with npc := { env.npc with linker := some p } } : NpcEnv fl).send (.reqLinkPlayer p true) := by
        simp only [viewLinker, hold, hnear, setLinkPlayer]
      rw [heq] at hsur hinit hlinker hhp hnotes ⊢
      exact ⟨hsur, hinit, _, hnotes, .links (NpcWorld.getNearestPlayer_mem hnear) hold hlinker hhp⟩

theorem task_moves (act : BtAct) (env : NpcEnv fl) : env.Moves (task algs act env).2.2 := by
  rw [task]
  cases act.kind with
  | view => exact viewTask_moves algs act env
  | birth =>
    dsimp only [birthTask]
    split
    · exact moves_acts rfl rfl rfl rfl (.inl rfl)
    · split
      · exact moves_acts rfl rfl rfl rfl (.inl rfl)
      · exact ⟨rfl, rfl, _, rfl, .bears rfl rfl⟩
  | flee =>
    dsimp only [fleeTask]
    split
    · split
      · exact moves_acts rfl rfl rfl rfl (.inl rfl)
      · split
        · exact moves_acts rfl rfl rfl rfl (.inl rfl)
        · exact ⟨rfl, rfl, _, rfl, .heals rfl⟩
    · exact moves_acts rfl rfl rfl rfl (.inl rfl)
  | attack | death | idle | patrol | pursue | sense =>
    dsimp only [attackTask, deathTask, idleTask, patrolTask, pursueTask, senseTask]
    split
    · exact moves_acts rfl rfl rfl rfl (.inl rfl)
    · first
      | exact moves_acts rfl rfl rfl rfl (.inl rfl)
      | split <;> exact moves_acts rfl rfl rfl rfl (.inl rfl)

end Tasks

/-! ### What all leaves keep -/

/-- A property of an NPC and of what was sent about it that nothing but the beginning of a birth can end. -/
def Lasts (players : List PlayerRef) (Q : Npc fl → List NpcNote → Prop) : Prop :=
  ∀ ⦃npc npc' : Npc fl⦄ ⦃more log : List NpcNote⦄, npc'.initHp = npc.initHp → Passes players npc npc' more →
    Q npc log → Q npc' (log ++ more)

/-- The beginning of a birth does not end it either. -/
def LastsBirths (Q : Npc fl → List NpcNote → Prop) : Prop :=
  ∀ ⦃npc npc' : Npc fl⦄ ⦃log : List NpcNote⦄, npc'.initHp = npc.initHp → npc'.linker = none → npc'.hp = npc.hp →
    Q npc log → Q npc' log

/-- The property goes on with what is sent, among these players. -/
def Follows (players : List PlayerRef) (Q : Npc fl → List NpcNote → Prop) (env env' : NpcEnv fl) : Prop :=
  env.sur.players = players → env'.sur = env.sur ∧
    ∃ more, env'.notes = env.notes ++ more ∧ ∀ log, Q env.npc log → Q env'.npc (log ++ more)

variable {algs : Heap.Algorithms BtEvent.less} {players : List PlayerRef} {Q : Npc fl → List NpcNote → Prop}

theorem Follows.refl (env : NpcEnv fl) : env.Follows players Q env :=
  fun _ => ⟨rfl, [], (List.append_nil _).symm, fun log h => (List.append_nil log).symm ▸ h⟩

theorem Follows.trans {env₁ env₂ env₃ : NpcEnv fl} (h : env₁.Follows players Q env₂)
    (h' : env₂.Follows players Q env₃) : env₁.Follows players Q env₃ := by
  intro hplayers
  obtain ⟨hsur, more, hnotes, hlog⟩ := h hplayers
  obtain ⟨hsur', more', hnotes', hlog'⟩ := h' (hsur ▸ hplayers)
  refine ⟨hsur'.trans hsur, more ++ more', by rw [hnotes', hnotes, List.append_assoc], fun log hq => ?_⟩
  rw [← List.append_assoc]
  exact hlog' _ (hlog log hq)

theorem Lasts.follows (hQ : Lasts players Q) {env env' : NpcEnv fl} (h : env.Moves env') :
    env.Follows players Q env' := by
  rintro rfl
  obtain ⟨more, hnotes, hpasses⟩ := h.passes
  exact ⟨h.sur, more, hnotes, fun log => hQ h.initHp hpasses⟩

variable (algs) in
theorem Lasts.exitKeeps (hQ : Lasts players Q) :
    (npcActions algs).ExitKeeps (fun _ => True) (Follows players Q) where
  refl := .refl
  trans := .trans
  exit act env _ := ⟨trivial, hQ.follows (exit_moves act env)⟩

variable (algs) in
theorem Lasts.keeps (hQ : Lasts players Q) :
    (npcActions algs).Keeps (fun act => act.kind ≠ .birth) (Follows players Q) where
  refl := .refl
  trans := .trans
  exit act env hact := ⟨(exit_kind act env).symm ▸ hact, hQ.follows (exit_moves act env)⟩
  enter act env hact := ⟨(enter_kind act env).symm ▸ hact, hQ.follows (enter_moves hact env)⟩
  task act env hact := ⟨(task_kind act env).symm ▸ hact, hQ.follows (task_moves algs act env)⟩

variable (algs) in
/-- What lasts over births, any leaf keeps. -/
theorem Lasts.keeps_all (hQ : Lasts players Q) (hbirths : LastsBirths Q) :
    (npcActions algs).Keeps (fun _ => True) (Follows players Q) where
  toExitKeeps := hQ.exitKeeps algs
  enter act env _ := by
    refine ⟨trivial, ?_⟩
    by_cases hkind : act.kind = .birth
    · have heq : (npcActions algs).enter act env = enterBirth act env := by
        simp only [npcActions, enter, hkind]
      rw [heq]
      refine fun _ => ⟨rfl, [], (List.append_nil _).symm, fun log hq => ?_⟩
      rw [List.append_nil]
      exact @hbirths env.npc _ log rfl rfl rfl hq
    · exact hQ.follows (enter_moves hkind env)
  task act env _ := ⟨trivial, hQ.follows (task_moves algs act env)⟩

end NpcEnv

/-! ### A tick, and the events behind it -/

section Update

open NpcEnv

variable {fl : NpcFloats} {algs : Heap.Algorithms BtEvent.less} {players : List PlayerRef}
  {Q : Npc fl → List NpcNote → Prop}

theorem AliveNode.leaves {bare inside : Prop} {status : BtStatus} {node : BtNode BtAct}
    (h : AliveNode bare inside status node) : BtNode.AllLeaves (fun act => act.kind ≠ .birth) node := by
  obtain ⟨hview, hsense, -, -, -, -, hkinds, -, -, -⟩ := h
  refine ⟨?_, ?_, hkinds, trivial⟩
  · exact fun hbirth => nomatch hview.symm.trans hbirth
  · exact fun hbirth => nomatch hsense.symm.trans hbirth

theorem leaves_death {death : BtAct} (hdeath : death.kind = .death) (status : BtStatus) :
    BtNode.AllLeaves (fun act : BtAct => act.kind ≠ .birth) (.action death status) := by
  change death.kind ≠ .birth
  rw [hdeath]
  decide

/-- The property goes on behind a tick if it was there before, unless the NPC was to be born. -/
def FollowsTick (players : List PlayerRef) (Q : Npc fl → List NpcNote → Prop) (phase : LifePhase)
    (env env' : NpcEnv fl) : Prop :=
  env.sur.players = players → env'.sur = env.sur ∧
    ∃ more, env'.notes = env.notes ++ more ∧ ∀ log, (phase ≠ .birth → Q env.npc log) → Q env'.npc (log ++ more)

theorem NpcEnv.Follows.tick {phase : LifePhase} (hphase : phase ≠ .birth) {env env' : NpcEnv fl}
    (h : env.Follows players Q env') : FollowsTick players Q phase env env' := by
  intro hplayers
  obtain ⟨hsur, more, hnotes, hlog⟩ := h hplayers
  exact ⟨hsur, more, hnotes, fun log hq => hlog log (hq hphase)⟩

/-- **A tick that does not end in a birth.**  What nothing but the beginning of a birth can end, and what is there at
the end of each birth, goes on. -/
theorem LifeRoot.tick_follows {bare inside : Prop} {since : UInt64} {phase : LifePhase} {lives : ℕ}
    {node : BtNode BtAct} (h : LifeRoot bare inside since phase lives node) (hlt : lives < uintMax)
    (hQ : Lasts players Q) (hborn : ∀ npc log, Q npc (log ++ [.born])) (env : NpcEnv fl)
    (hphase : lifePhase (node.tick (npcActions algs) env).1 ≠ .birth) :
    FollowsTick players Q phase env (node.tick (npcActions algs) env).2 := by
  obtain ⟨hlife, hstatus⟩ := h
  rename_i life status
  have hdone : status.isDone = false := by rcases hstatus with rfl | ⟨rfl, -⟩ <;> rfl
  have hexit := hQ.exitKeeps algs
  -- while the birth goes on, the NPC is to be born behind the tick
  have hunborn : ∀ {birth : BtAct} {alive death : BtNode BtAct},
      life.tick (npcActions algs) env =
        (.sequence [.action birth .running, alive, death] 0 .running, (life.tick (npcActions algs) env).2) →
      False := by
    intro birth alive death htick
    rw [BtNode.tick_repeat_running hdone hlt htick rfl] at hphase
    exact hphase rfl
  cases hlife with
  | fresh hbirth hdeath halive =>
    rename_i birth death alive curr
    have hrun : BtNode.runFrom (npcActions algs) BtNode.passes .success
        [.action birth .invalid, alive, .action death .invalid] 0 env = _ :=
      BtNode.runFrom_stays (tick_birth_enter algs env hbirth) rfl
    exact (hunborn (by rw [BtNode.tick_sequence_invalid hrun])).elim
  | birth hbirth hdeath halive =>
    rename_i birth death alive
    rcases tick_birth algs env hbirth with ⟨birth', -, htick⟩ | htick
    · have hrun : BtNode.runFrom (npcActions algs) BtNode.passes .success
          [.action birth .running, alive, .action death .invalid] 0 env = _ := BtNode.runFrom_stays htick rfl
      exact (hunborn (by rw [BtNode.tick_sequence_running hrun])).elim
    -- the birth ends, and the loop goes on with the life
    · obtain ⟨⟨children, curr, result, env'⟩, hloop⟩ : ∃ r, BtNode.runFrom (npcActions algs) BtNode.passes .success
          [alive, .action death .invalid] 0 env.bear = r := ⟨_, rfl⟩
      have hleaves : BtNode.AllLeavesOf (fun act : BtAct => act.kind ≠ .birth) [alive, .action death .invalid] :=
        ⟨halive.leaves, leaves_death hdeath _, trivial⟩
      have hfollows := (BtNode.runFrom_keeps (hQ.keeps algs) BtNode.passes .success _ 0 env.bear hleaves).2
      rw [hloop] at hfollows
      have hseq : env.bear.Follows players Q
          (BtNode.tick (npcActions algs)
            (.sequence [.action birth .running, alive, .action death .invalid] 0 .running) env).2 := by
        have hpasses : (fun status : BtStatus => decide (status = .success ∨ status = .aborted)) =
          BtNode.passes := rfl
        rw [BtNode.tick_sequence, hpasses]
        simp only [BtStatus.isDone, ne_eq, not_true_eq_false, if_false,
          BtNode.runFrom_moves htick rfl hloop]
        exact (BtNode.finish_keeps hexit hfollows (BtNode.allLeaves_true _)).2
      intro hplayers
      obtain ⟨hsur, more, hnotes, hlog⟩ := BtNode.tick_repeat_keeps hexit hdone hlt hseq hplayers
      refine ⟨hsur, .born :: more, ?_, fun log _ => ?_⟩
      · rw [hnotes, NpcEnv.bear, NpcEnv.send, List.append_assoc]
        rfl
      · have hmore := hlog (log ++ [.born]) (hborn _ log)
        rwa [List.append_assoc] at hmore
  | alive hbirth hdeath halive =>
    rename_i birth death alive
    have hleaves : BtNode.AllLeavesOf (fun act : BtAct => act.kind ≠ .birth) [alive, .action death .invalid] :=
      ⟨halive.leaves, leaves_death hdeath _, trivial⟩
    exact (BtNode.tick_repeat_keeps hexit hdone hlt (BtNode.tick_sequence_keeps hexit (hQ.keeps algs)
      [.action birth .success] hleaves env)).tick (by decide)
  | death hbirth hdeath halive hsince =>
    rename_i birth death alive
    have hleaves : BtNode.AllLeavesOf (fun act : BtAct => act.kind ≠ .birth) [.action death .running] :=
      ⟨leaves_death hdeath _, trivial⟩
    exact (BtNode.tick_repeat_keeps hexit hdone hlt (BtNode.tick_sequence_keeps hexit (hQ.keeps algs)
      [.action birth .success, alive] hleaves env)).tick (by decide)

/-- An event leaves a sequence where it stands; other nodes have no phase. -/
theorem handleEvent_sequence {id : BtEventId} {node node' : BtNode BtAct} {env env' : NpcEnv fl}
    (h : node.handleEvent (npcActions algs) id env = some (node', env')) :
    (∃ children children' curr status, node = .sequence children curr status ∧
      node' = .sequence children' curr status) ∨
    ∀ count limit status, lifePhase (.repeat node' count limit status) = .birth := by
  cases node with
  | action act status =>
    cases h
    exact .inr fun _ _ _ => rfl
  | selector children | parallel _ children =>
    obtain ⟨⟨children', env''⟩, -, hres⟩ := Option.map_eq_some_iff.1 h
    cases hres
    exact .inr fun _ _ _ => rfl
  | sequence children curr status =>
    obtain ⟨⟨children', env''⟩, -, hres⟩ := Option.map_eq_some_iff.1 h
    cases hres
    exact .inl ⟨children, children', curr, status, rfl, rfl⟩
  | edSelector children nodes curr status =>
    rw [BtNode.handleEvent] at h
    split at h
    · split at h
      · cases h
        exact .inr fun _ _ _ => rfl
      · cases h
    · obtain ⟨⟨children', env''⟩, -, hres⟩ := Option.map_eq_some_iff.1 h
      cases hres
      exact .inr fun _ _ _ => rfl
  | «repeat» child count limit status =>
    rw [BtNode.handleEvent] at h
    split at h
    · cases h
      exact .inr fun _ _ _ => rfl
    · obtain ⟨⟨child', env''⟩, -, hres⟩ := Option.map_eq_some_iff.1 h
      cases hres
      exact .inr fun _ _ _ => rfl

/-- **An event** leaves the phase as it is, or the NPC is to be born. -/
theorem lifePhase_handleEvent {id : BtEventId} {node node' : BtNode BtAct} {env env' : NpcEnv fl}
    (h : node.handleEvent (npcActions algs) id env = some (node', env')) :
    lifePhase node' = .birth ∨ lifePhase node' = lifePhase node := by
  cases node with
  | «repeat» child count limit status =>
    rw [BtNode.handleEvent] at h
    split at h
    · cases h
      cases child <;> exact .inl rfl
    · obtain ⟨⟨child', env''⟩, hchild, hres⟩ := Option.map_eq_some_iff.1 h
      cases hres
      rcases handleEvent_sequence hchild with ⟨children, children', curr, status', rfl, rfl⟩ | hbirth
      · cases status' <;> exact .inr rfl
      · exact .inl (hbirth count limit status)
  | action act status =>
    cases h
    exact .inl rfl
  | selector children | sequence children | parallel _ children =>
    obtain ⟨⟨children', env''⟩, -, hres⟩ := Option.map_eq_some_iff.1 h
    cases hres
    exact .inl rfl
  | edSelector children nodes curr status =>
    rw [BtNode.handleEvent] at h
    split at h
    · split at h
      · cases h
        exact .inl rfl
      · cases h
    · obtain ⟨⟨children', env''⟩, -, hres⟩ := Option.map_eq_some_iff.1 h
      cases hres
      exact .inl rfl

/-- **The events behind a tick** only let leaves exit. -/
theorem handleEvents_follows (hQ : Lasts players Q) {rounds : ℕ} {node node' : BtNode BtAct}
    {env env' : NpcEnv fl} {ids : List BtEventId}
    (h : NpcObject.handleEvents algs rounds node env = some (ids, node', env')) :
    env.Follows players Q env' ∧ (lifePhase node' = .birth ∨ lifePhase node' = lifePhase node) := by
  induction rounds generalizing node env ids with
  | zero =>
    obtain ⟨-, rfl, rfl, -⟩ | ⟨_, _, _, _, _, _, hrounds, -⟩ := handleEvents_cases h
    · exact ⟨.refl _, .inr rfl⟩
    · cases hrounds
  | succ rounds ih =>
    obtain ⟨-, rfl, rfl, -⟩ | ⟨_, id, events, node₁, env₁, ids₁, ⟨rfl⟩, -, hhandle, hloop⟩ := handleEvents_cases h
    · exact ⟨.refl _, .inr rfl⟩
    · obtain ⟨hrest, hphase⟩ := ih hloop
      have hone := (BtNode.handleEvent_keeps (hQ.exitKeeps algs) id node _ node₁ env₁ hhandle
        (BtNode.allLeaves_true node)).2
      -- taking the event from the queue sends nothing
      have htaken : env.Follows players Q { env with events := events } :=
        fun _ => ⟨rfl, [], (List.append_nil _).symm, fun log hq => (List.append_nil log).symm ▸ hq⟩
      refine ⟨htaken.trans (hone.trans hrest), hphase.elim .inl fun heq => ?_⟩
      rw [heq]
      exact lifePhase_handleEvent hhandle

/-- **An update.**  What nothing can end goes on with what is sent. -/
theorem NpcObject.update_lasts {o o' : NpcObject fl} {sur : Surroundings fl} {notes : List NpcNote}
    (h : o.update algs sur = some (o', notes)) (hQ : Lasts sur.players Q) (hbirths : LastsBirths Q)
    {log : List NpcNote} (hlog : Q o.npc log) : Q o'.npc (log ++ notes) := by
  obtain ⟨⟨ids, root, env'⟩, hhandle, hres⟩ := Option.map_eq_some_iff.1 h
  cases hres
  have htick := (BtNode.tick_keeps (hQ.keeps_all algs hbirths) o.root (o.env sur) (BtNode.allLeaves_true _)).2
  obtain ⟨-, more, hnotes, hmore⟩ := htick.trans (handleEvents_follows hQ hhandle).1 rfl
  have hsent : env'.notes = more := hnotes.trans (List.nil_append more)
  exact hsent ▸ hmore log hlog

/-- The root goes round behind an update. -/
theorem NpcObject.update_goesRound {o o' : NpcObject fl} {sur : Surroundings fl} {notes : List NpcNote}
    (h : o.update algs sur = some (o', notes)) (hround : RewardState.GoesRound o.root) :
    RewardState.GoesRound o'.root := by
  obtain ⟨⟨ids, root, env'⟩, hhandle, hres⟩ := Option.map_eq_some_iff.1 h
  cases hres
  refine RewardState.GoesRound.handleEvents ?_ hhandle
  rcases hround with hdone | ⟨bare, since, phase, lives, hlt, hlife⟩
  · rw [BtNode.tick_of_isDone (npcActions algs) (by rw [hdone]; rfl)]
    exact .inl hdone
  · obtain ⟨phase', -, -, hnext, hlast⟩ := hlife.tick algs hlt (o.env sur)
    by_cases hlives : livesTick lives phase phase' < uintMax
    · exact .inr ⟨bare, _, phase', _, hlives, (hnext hlives).2.anti False.elim⟩
    · exact .inl (hlast (Nat.not_lt.1 hlives))

/-- **An update that does not end in a birth.**  What nothing but the beginning of a birth can end, and what is there
at the end of each birth, goes on with what is sent. -/
theorem NpcObject.update_lives {o o' : NpcObject fl} {sur : Surroundings fl} {notes : List NpcNote}
    (h : o.update algs sur = some (o', notes)) (hround : RewardState.GoesRound o.root)
    (hQ : Lasts sur.players Q) (hborn : ∀ npc log, Q npc (log ++ [.born]))
    (hphase : lifePhase o'.root ≠ .birth) {log : List NpcNote}
    (hlog : lifePhase o.root ≠ .birth → Q o.npc log) : Q o'.npc (log ++ notes) := by
  obtain ⟨⟨ids, root, env'⟩, hhandle, hres⟩ := Option.map_eq_some_iff.1 h
  cases hres
  obtain ⟨hevents, hstays⟩ := handleEvents_follows hQ hhandle
  have hticked : lifePhase (o.root.tick (npcActions algs) (o.env sur)).1 ≠ .birth :=
    fun hbirth => hphase (hstays.elim id fun heq => heq.trans hbirth)
  have htick : FollowsTick sur.players Q (lifePhase o.root) (o.env sur)
      (o.root.tick (npcActions algs) (o.env sur)).2 := by
    rcases hround with hdone | ⟨bare, since, phase, lives, hlt, hlife⟩
    · have heq := BtNode.tick_of_isDone (npcActions algs) (by rw [hdone]; rfl : o.root.status.isDone = true)
        (o.env sur)
      rw [heq] at hticked ⊢
      exact (Follows.refl _).tick hticked
    · rw [hlife.lifePhase_eq]
      exact hlife.tick_follows hlt hQ hborn (o.env sur) hticked
  obtain ⟨hsur, more, hnotes, hmore⟩ := htick rfl
  obtain ⟨-, more', hnotes', hmore'⟩ := hevents (congrArg Surroundings.players hsur)
  have hsent : env'.notes = more ++ more' := by
    rw [hnotes', hnotes]
    rfl
  rw [ofEnv, hsent, ← List.append_assoc]
  exact hmore' _ (hmore log hlog)

end Update

/-! ### What is known -/

/-- A birth of the NPC has ended, or a death of it has begun. -/
def NpcNote.Marks (note : NpcNote) : Prop := note = .born ∨ note = .syncBtAction .death 0 0

/-- Some player was told that it is the linker. -/
def NpcNote.Links (note : NpcNote) : Prop := ∃ p, note = .reqLinkPlayer p true

section Known

variable {fl : NpcFloats}

/-- **The linker was told so last.** -/
def LinkerTold (npc : Npc fl) (log : List NpcNote) : Prop :=
  ∀ p, npc.linker = some p → EventLog.ShownSince NpcNote.Links (· = .reqLinkPlayer p true) log

/-- The player was told that it is the linker, since the last birth or death of the NPC. -/
def ToldInLife (log : List NpcNote) (p : PlayerRef) : Prop :=
  EventLog.ShownSince NpcNote.Marks (· = .reqLinkPlayer p true) log

/-- **Nobody but the linker**, of these players, was told so in this life. -/
def Sole (here : PlayerRef → Prop) (npc : Npc fl) (log : List NpcNote) : Prop :=
  ∀ p, here p → ToldInLife log p → npc.linker = some p

/-- The hp that are told, of an NPC with these hp at the end of a birth. -/
def NpcNote.hp (initHp : ℤ) : NpcNote → Option ℤ
  | .syncNpcProps hp => some hp
  | .born => some initHp
  | .syncBtAction _ _ _ | .reqLinkPlayer _ _ => none

/-- **The hp that somebody knows** who knew them once and has listened since. -/
def toldHp (initHp : ℤ) (log : List NpcNote) (hp : ℤ) : ℤ := (log.filterMap (NpcNote.hp initHp)).getLastD hp

/-- Nobody is told that it is the linker by a message that is none of that kind. -/
theorem not_toldInLife {log : List NpcNote} (h : ∀ p, .reqLinkPlayer p true ∉ log) (p : PlayerRef) :
    ¬ ToldInLife log p := by
  intro htold
  obtain ⟨note, hmem, rfl⟩ := htold.exists_mem
  exact h p hmem

theorem lasts_linkerTold (players : List PlayerRef) :
    NpcEnv.Lasts players (LinkerTold : Npc fl → List NpcNote → Prop) := by
  intro npc npc' more log _ hpasses hlog p hp
  cases hpasses with
  | acts hlinker _ hnotes =>
    refine (hlog p (hlinker ▸ hp)).append fun note hnote => ?_
    obtain ⟨id, code, playerSn, rfl, -⟩ := hnotes note hnote
    rintro ⟨q, hq⟩
    cases hq
  | bears hlinker | heals hlinker =>
    refine (hlog p (hlinker ▸ hp)).append (List.forall_mem_singleton.2 ?_)
    rintro ⟨q, hq⟩
    cases hq
  | dies hlinker =>
    rw [hlinker] at hp
    cases hp
  | links _ _ hlinker =>
    obtain rfl := Option.some.inj (hlinker.symm.trans hp)
    exact EventLog.shownSince_append.2 (.inr ⟨_, [], ⟨[], rfl⟩, rfl, List.forall_mem_nil _⟩)

theorem lastsBirths_linkerTold : NpcEnv.LastsBirths (LinkerTold : Npc fl → List NpcNote → Prop) := by
  intro npc npc' log _ hlinker _ _ p hp
  rw [hlinker] at hp
  cases hp

theorem lasts_sole (players : List PlayerRef) (here : PlayerRef → Prop) :
    NpcEnv.Lasts players (Sole here : Npc fl → List NpcNote → Prop) := by
  intro npc npc' more log _ hpasses hlog p hhere htold
  rcases EventLog.shownSince_append.1 htold with ⟨hold, hmarks⟩ | hnew
  · have hlinker := hlog p hhere hold
    cases hpasses with
    | acts hsame | heals hsame => exact hsame.trans hlinker
    | bears => exact absurd (.inl rfl) (hmarks _ (.head _))
    | dies => exact absurd (.inr rfl) (hmarks _ (.head _))
    | links _ hfree => cases hfree.symm.trans hlinker
  · obtain ⟨note, hmem, rfl⟩ := hnew.exists_mem
    cases hpasses with
    | acts _ _ hnotes =>
      obtain ⟨id, code, playerSn, heq, -⟩ := hnotes _ hmem
      cases heq
    | bears | dies | heals => cases List.mem_singleton.1 hmem
    | links _ _ hlinker =>
      cases List.mem_singleton.1 hmem
      exact hlinker

/-- In a life that begins nobody was told yet. -/
theorem sole_born (here : PlayerRef → Prop) (npc : Npc fl) (log : List NpcNote) :
    Sole here npc (log ++ [.born]) := by
  intro p _ htold
  rcases EventLog.shownSince_append.1 htold with ⟨-, hmarks⟩ | hnew
  · exact absurd (.inl rfl) (hmarks _ (.head _))
  · exact absurd hnew (not_toldInLife (by simp) p)

/-- What holds of all that is sent about an NPC, and of every player of the world. -/
theorem lasts_sent {players : List PlayerRef} {P : PlayerRef → Bool → Prop} (hP : ∀ p ∈ players, P p true) :
    NpcEnv.Lasts players fun (_ : Npc fl) log => ∀ p linker, .reqLinkPlayer p linker ∈ log → P p linker := by
  intro npc npc' more log _ hpasses hlog p linker hmem
  rcases List.mem_append.1 hmem with hold | hnew
  · exact hlog p linker hold
  · cases hpasses with
    | acts _ _ hnotes =>
      obtain ⟨id, code, playerSn, heq, -⟩ := hnotes _ hnew
      cases heq
    | bears | dies | heals => cases List.mem_singleton.1 hnew
    | links hhere =>
      cases List.mem_singleton.1 hnew
      exact hP _ hhere

theorem toldHp_append (initHp : ℤ) (log more : List NpcNote) (hp : ℤ) :
    toldHp initHp (log ++ more) hp = toldHp initHp more (toldHp initHp log hp) := by
  simp only [toldHp, List.filterMap_append, List.getLastD_eq_getLast?, List.getLast?_append]
  cases (more.filterMap (NpcNote.hp initHp)).getLast? <;> rfl

theorem lasts_toldHp (players : List PlayerRef) (hp : ℤ) :
    NpcEnv.Lasts players fun (npc : Npc fl) log => npc.hp = toldHp npc.initHp log hp := by
  intro npc npc' more log hinit hpasses hlog
  rw [toldHp_append, hinit, ← hlog]
  cases hpasses with
  | acts _ hhp hnotes =>
    have hnone : more.filterMap (NpcNote.hp npc.initHp) = [] := by
      refine List.filterMap_eq_nil_iff.2 fun note hnote => ?_
      obtain ⟨id, code, playerSn, rfl, -⟩ := hnotes note hnote
      rfl
    rw [toldHp, hnone]
    exact hhp
  | bears _ hhp | dies _ hhp | links _ _ _ hhp => exact hhp
  | heals => rfl

theorem lastsBirths_toldHp (hp : ℤ) :
    NpcEnv.LastsBirths fun (npc : Npc fl) log => npc.hp = toldHp npc.initHp log hp := by
  intro npc npc' log hinit _ hhp hlog
  rw [hinit, hhp]
  exact hlog

end Known

end MmoServer
