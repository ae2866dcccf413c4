/-
**Who asks what an NPC does.**

A behaviour that an NPC takes up is told to all players of the world.  A player that enters later asks with
`C2S_SyncBtAction`, and `BtComponent::SyncAction` answers it with the behaviour that `curAct` points to.

Main definitions:

* `MmoServer.BtAct.singlecast`, `MmoServer.NpcObject.syncAction` — the answer;
* `MmoServer.lastAction` — what the others were told last;
* `MmoServer.Shows`, `MmoServer.Answers` — what a life, and a tree, keeps of `curAct`.

Main results:

* `MmoServer.Shows.tick` — **a life** points to the behaviour that runs, and that all were told of;
* `MmoServer.Answers.update` — **an update** of an NPC keeps that;
* `MmoServer.answer_run` — **whoever asks learns what the others know**, and only of an NPC that lives.
-/

import MmoServer.ControlRun
import MmoServer.NpcTree

set_option relaxedAutoImplicit false
set_option autoImplicit false

namespace MmoServer

open Transition

/-! ### Answers -/

/-- `Singlecast` of the leaves. -/
def BtAct.singlecast {fl : NpcFloats} (act : BtAct) (npc : Npc fl) : Option NpcNote :=
  match act.kind with
  | .attack => npc.target.map fun target => .syncBtAction .attack 0 target.sn
  | .birth => some (.syncBtAction .birth 0 0)
  | .death => some (.syncBtAction .death 0 0)
  | .flee => some (.syncBtAction .flee 0 0)
  | .idle => some (.syncBtAction .idle 0 0)
  | .patrol => some (.syncBtAction .patrol act.index.val 0)
  | .pursue => npc.target.map fun target => .syncBtAction .pursue 0 target.sn
  | .sense | .view => none

/-- `BtComponent::SyncAction`: what the leaf that `curAct` points to answers. -/
def NpcObject.syncAction {fl : NpcFloats} (o : NpcObject fl) : Option NpcNote :=
  o.curAct.bind fun number =>
    (o.root.acts.find? fun act => act.number = number).bind fun act => act.singlecast o.npc

/-- The id and the code of `S2C_SyncBtAction`. -/
def NpcNote.action : NpcNote → Option (BtEventId × ℕ)
  | .syncBtAction id code _ => some (id, code)
  | .reqLinkPlayer _ _ | .syncNpcProps _ | .born => none

/-- **What all players were told last.** -/
def lastAction (log : List NpcNote) : Option (BtEventId × ℕ) := (log.filterMap NpcNote.action).getLast?

/-- What a behaviour tells of itself. -/
def BtAct.action (act : BtAct) : BtEventId × ℕ :=
  (act.kind.eventId, if act.kind = .patrol then act.index.val else 0)

/-- The answer of a behaviour says that. -/
theorem BtAct.singlecast_action {fl : NpcFloats} {act : BtAct} (hkind : act.kind.eventId.isBehaviour) {npc : Npc fl}
    {note : NpcNote} (h : act.singlecast npc = some note) : note.action = some act.action := by
  rw [BtAct.singlecast] at h
  rw [BtAct.action]
  cases hact : act.kind with
  | attack | pursue =>
    simp only [hact] at h
    obtain ⟨target, -, rfl⟩ := Option.map_eq_some_iff.1 h
    rfl
  | flee | idle | patrol =>
    simp only [hact] at h
    obtain rfl := Option.some.inj h
    rfl
  | birth | death | sense | view =>
    rw [hact] at hkind
    cases hkind

theorem lastAction_append {log more : List NpcNote} (h : ∀ note ∈ more, note.action = none) :
    lastAction (log ++ more) = lastAction log := by
  rw [lastAction, lastAction, List.filterMap_append, List.filterMap_eq_nil_iff.2 h, List.append_nil]

theorem lastAction_concat {log : List NpcNote} {note : NpcNote} {id : BtEventId} {code : ℕ}
    (h : note.action = some (id, code)) : lastAction (log ++ [note]) = some (id, code) := by
  rw [lastAction, List.filterMap_append, List.filterMap_cons_some h, List.filterMap_nil, List.getLast?_concat]

/-! ### A behaviour -/

/-- `curAct` is null, or points to the leaf, which runs then, and all were told of it. -/
def Pointing (log : List NpcNote) (curAct : Option ℕ) (act : BtAct) (status : BtStatus) : Prop :=
  ∀ number, curAct = some number → status = .running ∧ act.number = number ∧ lastAction log = some act.action

section Behaviour

variable {fl : NpcFloats} {algs : Heap.Algorithms BtEvent.less} {act : BtAct}

/-- A behaviour that exits leaves no pointer. -/
theorem exit_behaviour (hkind : act.kind.eventId.isBehaviour) (env : NpcEnv fl) :
    (NpcEnv.exit act env).1 = act ∧ (NpcEnv.exit act env).2.curAct = none ∧
      (NpcEnv.exit act env).2.notes = env.notes := by
  rw [NpcEnv.exit]
  cases hact : act.kind with
  | attack | flee | idle | patrol | pursue => exact ⟨rfl, rfl, rfl⟩
  | birth | death | sense | view =>
    rw [hact] at hkind
    cases hkind

/-- A behaviour that enters is told to all, unless it is about a target that is not there. -/
theorem enter_behaviour (hkind : act.kind.eventId.isBehaviour) (env : NpcEnv fl) :
    (act.kind = .attack ∨ act.kind = .pursue) ∧ (NpcEnv.enter act env).2.npc.target = none ∨
      ∃ note : NpcNote, note.action = some (NpcEnv.enter act env).1.action ∧
        (NpcEnv.enter act env).2.notes = env.notes ++ [note] := by
  have htarget : ∀ id, act.kind.eventId = id → act.kind ≠ .patrol →
      (NpcEnv.enterTarget act id env).2.npc.target = none ∨
        ∃ note : NpcNote, note.action = some act.action ∧
          (NpcEnv.enterTarget act id env).2.notes = env.notes ++ [note] := by
    rintro id rfl hpatrol
    rw [NpcEnv.enterTarget, NpcEnv.broadcastTarget]
    dsimp only
    split
    · rename_i hnone
      exact .inl hnone
    · refine .inr ⟨_, ?_, rfl⟩
      rw [NpcNote.action, BtAct.action, if_neg hpatrol]
  rw [NpcEnv.enter]
  cases hact : act.kind with
  | attack =>
    exact (htarget .attack (by rw [hact]; rfl) (by rw [hact]; decide)).imp_left fun hnone => ⟨.inl rfl, hnone⟩
  | pursue =>
    exact (htarget .pursue (by rw [hact]; rfl) (by rw [hact]; decide)).imp_left fun hnone => ⟨.inr rfl, hnone⟩
  | flee =>
    refine .inr ⟨.syncBtAction .flee 0 0, ?_, rfl⟩
    simp only [NpcNote.action, BtAct.action, NpcEnv.enterFlee, hact, BtActKind.eventId, reduceCtorEq, if_false]
  | idle =>
    refine .inr ⟨.syncBtAction .idle 0 0, ?_, rfl⟩
    simp only [NpcNote.action, BtAct.action, NpcEnv.enterIdle, hact, BtActKind.eventId, reduceCtorEq, if_false]
  | patrol =>
    refine .inr ⟨.syncBtAction .patrol env.sur.roll.val 0, ?_, rfl⟩
    simp only [NpcNote.action, BtAct.action, NpcEnv.enterPatrol, hact, BtActKind.eventId, if_true]
  | birth | death | sense | view =>
    rw [hact] at hkind
    cases hkind

variable (algs) in
/-- A behaviour that does its task tells of no other, and goes on only with a target if it is about one. -/
theorem task_behaviour (hkind : act.kind.eventId.isBehaviour) (env : NpcEnv fl) :
    (NpcEnv.task algs act env).2.1.action = act.action ∧
      (∃ more, (NpcEnv.task algs act env).2.2.notes = env.notes ++ more ∧
        ∀ note ∈ more, NpcNote.action note = none) ∧
      ((NpcEnv.task algs act env).1 = .running → act.kind = .attack ∨ act.kind = .pursue →
        env.npc.target ≠ none) := by
  have hsilent : ∃ more, env.notes = env.notes ++ more ∧ ∀ note ∈ more, NpcNote.action note = none :=
    ⟨[], (List.append_nil _).symm, List.forall_mem_nil _⟩
  rw [NpcEnv.task]
  cases hact : act.kind with
  | attack =>
    dsimp only [NpcEnv.attackTask]
    split
    · exact ⟨rfl, hsilent, fun hrun => by cases hrun⟩
    · rename_i hnear
      split
      · exact ⟨rfl, hsilent, fun hrun => by cases hrun⟩
      · refine ⟨rfl, hsilent, fun _ _ hnone => hnear ?_⟩
        rw [hnone]
        exact Bool.false_ne_true
  | pursue =>
    dsimp only [NpcEnv.pursueTask]
    split
    · exact ⟨rfl, hsilent, fun hrun => by cases hrun⟩
    · split
      · exact ⟨rfl, hsilent, fun hrun => by cases hrun⟩
      · rename_i hsee
        refine ⟨rfl, hsilent, fun _ _ hnone => hsee ?_⟩
        rw [hnone]
        exact Bool.false_ne_true
  | flee =>
    dsimp only [NpcEnv.fleeTask]
    split
    · split
      · exact ⟨rfl, hsilent, fun _ hneither => by cases hneither <;> contradiction⟩
      · split
        · exact ⟨rfl, hsilent, fun _ hneither => by cases hneither <;> contradiction⟩
        · exact ⟨rfl, ⟨_, rfl, List.forall_mem_singleton.2 rfl⟩,
            fun _ hneither => by cases hneither <;> contradiction⟩
    · exact ⟨rfl, hsilent, fun _ hneither => by cases hneither <;> contradiction⟩
  | idle | patrol =>
    dsimp only [NpcEnv.idleTask, NpcEnv.patrolTask]
    split
    · exact ⟨rfl, hsilent, fun _ hneither => by cases hneither <;> contradiction⟩
    · exact ⟨rfl, hsilent, fun _ hneither => by cases hneither <;> contradiction⟩
  | birth | death | sense | view =>
    rw [hact] at hkind
    cases hkind

variable (algs) in
/-- **A behaviour that is ticked** is told to all if it goes on. -/
theorem tick_behaviour (hkind : act.kind.eventId.isBehaviour) {status : BtStatus} {pre : List NpcNote}
    {env : NpcEnv fl} (h : Pointing (pre ++ env.notes) env.curAct act status) :
    ∃ act' status', (BtNode.tick (npcActions algs) (.action act status) env).1 = .action act' status' ∧
      act'.kind = act.kind ∧
      Pointing (pre ++ (BtNode.tick (npcActions algs) (.action act status) env).2.notes)
        (BtNode.tick (npcActions algs) (.action act status) env).2.curAct act' status' := by
  rw [BtNode.tick_action]
  split
  · exact ⟨act, status, rfl, rfl, h⟩
  extract_lets start ended
  -- what is known when the task begins
  have hstart : start.1.kind = act.kind ∧ ∀ number, start.2.curAct = some number → start.1.number = number ∧
      (lastAction (pre ++ start.2.notes) = some start.1.action ∨
        (act.kind = .attack ∨ act.kind = .pursue) ∧ start.2.npc.target = none) := by
    by_cases hrun : status = .running
    · have hstays : start = (act, env) := if_neg (not_not.2 hrun)
      rw [hstays]
      exact ⟨rfl, fun number hnumber => ⟨(h number hnumber).2.1, .inl (h number hnumber).2.2⟩⟩
    · have henters : start = (npcActions algs).enter act env := if_pos hrun
      have hcur : (NpcEnv.enter act env).2.curAct = some act.number :=
        (NpcEnv.enter_curAct act env).trans (if_pos hkind)
      rw [henters]
      refine ⟨NpcEnv.enter_kind act env, fun number hpoints => ?_⟩
      have heq : act.number = number := Option.some.inj (hcur.symm.trans hpoints)
      refine ⟨(congrArg Prod.snd (NpcEnv.enter_key act env)).trans heq, (enter_behaviour hkind env).symm.imp ?_ id⟩
      rintro ⟨note, hnote, hnotes⟩
      have hsent : ((npcActions algs).enter act env).2.notes = env.notes ++ [note] := hnotes
      rw [hsent, ← List.append_assoc]
      exact lastAction_concat hnote
  have hkind' : start.1.kind.eventId.isBehaviour := hstart.1.symm ▸ hkind
  obtain ⟨haction, ⟨more, hmore, hsilent⟩, htarget⟩ := task_behaviour algs hkind' start.2
  have hsame : ended.2.1.kind = start.1.kind := NpcEnv.task_kind start.1 start.2
  have hnumber : ended.2.1.number = start.1.number := congrArg Prod.snd (NpcEnv.task_key algs start.1 start.2)
  have hcur : ended.2.2.curAct = start.2.curAct := NpcEnv.task_curAct algs start.1 start.2
  obtain ⟨status', hstatus'⟩ : ∃ status', ended.1 = status' := ⟨_, rfl⟩
  rw [BtNode.finish]
  by_cases hrun : status' = .running
  · have hgoes : ¬ (BtNode.action ended.2.1 ended.1).status ≠ .running := not_not.2 (hstatus'.trans hrun)
    rw [if_neg hgoes]
    refine ⟨ended.2.1, ended.1, rfl, hsame.trans hstart.1, fun number hpoints => ?_⟩
    obtain ⟨hnumber', htold⟩ := hstart.2 number (hcur.symm.trans hpoints)
    refine ⟨hstatus'.trans hrun, hnumber.trans hnumber', ?_⟩
    have hnotes : ended.2.2.notes = start.2.notes ++ more := hmore
    rw [hnotes, ← List.append_assoc, lastAction_append hsilent]
    refine (htold.resolve_right fun hnone => ?_).trans (congrArg some haction.symm)
    exact htarget (hstatus'.trans hrun) (hstart.1.symm ▸ hnone.1) hnone.2
  · have hends : (BtNode.action ended.2.1 ended.1).status ≠ .running := fun heq => hrun (hstatus'.symm.trans heq)
    rw [if_pos hends]
    have hexit := exit_behaviour (hsame.symm ▸ hkind') ended.2.2
    refine ⟨_, ended.1, rfl, ?_, fun number hpoints => ?_⟩
    · exact (congrArg BtAct.kind hexit.1).trans (hsame.trans hstart.1)
    · exact absurd (hexit.2.1.symm.trans hpoints) (Option.some_ne_none number).symm

end Behaviour

/-! ### A life -/

/-- The children of the selector are behaviours. -/
def AllBehaviours (children : List (BtNode BtAct)) : Prop :=
  ∀ child ∈ children, ∃ act status, child = .action act status ∧ act.kind.eventId.isBehaviour

/-- If `curAct` points to a leaf, it is the one where the selector stands; it runs, and all were told of it. -/
def ShowsAt (log : List NpcNote) (curAct : Option ℕ) (children : List (BtNode BtAct)) (curr : ℕ)
    (status : BtStatus) : Prop :=
  ∀ number, curAct = some number → status = .running ∧ ∃ act, children[curr]? = some (.action act .running) ∧
    act.number = number ∧ lastAction log = some act.action

/-- The middle child of the sequence shows what the NPC does. -/
inductive Shows (log : List NpcNote) (curAct : Option ℕ) : BtNode BtAct → Prop
  | intro {view sense : BtAct} {viewStatus senseStatus behavStatus status : BtStatus}
      {behaviours : List (BtNode BtAct)} {nodes : List (BtEventId × ℕ)} {curr : ℕ}
      (view_kind : view.kind = .view) (sense_kind : sense.kind = .sense) (kinds : AllBehaviours behaviours)
      (shown : ShowsAt log curAct behaviours curr behavStatus) :
      Shows log curAct (.parallel .sequence [.action view viewStatus, .action sense senseStatus,
        .edSelector behaviours nodes curr behavStatus] status)

theorem AllBehaviours.set {children : List (BtNode BtAct)} (h : AllBehaviours children) (curr : ℕ) {act : BtAct}
    (status : BtStatus) (hkind : act.kind.eventId.isBehaviour) :
    AllBehaviours (children.set curr (.action act status)) := by
  intro child hchild
  rcases List.mem_or_eq_of_mem_set hchild with hold | rfl
  · exact h child hold
  · exact ⟨act, status, rfl, hkind⟩

theorem showsAt_none (log : List NpcNote) (children : List (BtNode BtAct)) (curr : ℕ) (status : BtStatus) :
    ShowsAt log none children curr status := fun _ hpoints => by cases hpoints

/-- Without a pointer nothing is to be shown. -/
theorem Shows.none_of {log log' : List NpcNote} {curAct : Option ℕ} {node : BtNode BtAct}
    (h : Shows log curAct node) : Shows log' none node := by
  obtain ⟨hview, hsense, hkinds, -⟩ := h
  exact .intro hview hsense hkinds (showsAt_none _ _ _ _)

section Life

variable {fl : NpcFloats} {algs : Heap.Algorithms BtEvent.less} {pre : List NpcNote}
  {children : List (BtNode BtAct)} {curr : ℕ}

variable (algs) in
/-- **A selector that is left** points to nothing. -/
theorem forceExitAt_shown (status' : BtStatus) {status : BtStatus} {log : List NpcNote} {env : NpcEnv fl}
    (hkinds : AllBehaviours children) (hshown : ShowsAt log env.curAct children curr status) :
    AllBehaviours (BtNode.forceExitAt (npcActions algs) status' children curr env).1 ∧
      (BtNode.forceExitAt (npcActions algs) status' children curr env).2.curAct = none ∧
      (BtNode.forceExitAt (npcActions algs) status' children curr env).2.notes = env.notes := by
  cases hget : children[curr]? with
  | none =>
    rw [BtNode.forceExitAt_of_length_le _ status' (List.getElem?_eq_none_iff.1 hget)]
    refine ⟨hkinds, ?_, rfl⟩
    cases hcur : env.curAct with
    | none => rfl
    | some number =>
      obtain ⟨-, act, hact, -⟩ := hshown number hcur
      cases hget.symm.trans hact
  | some child =>
    obtain ⟨act, status'', rfl, hkind⟩ := hkinds child (List.mem_of_getElem? hget)
    obtain ⟨hsame, hcur, hnotes⟩ := exit_behaviour hkind env
    rw [BtNode.forceExitAt_of_getElem? _ status' hget]
    refine ⟨?_, hcur, hnotes⟩
    have hexit : (BtNode.exit (npcActions algs) (.action act status'') env).1.setStatus status' =
        .action act status' := congrArg (fun a => BtNode.action a status') hsame
    rw [hexit]
    exact hkinds.set curr status' hkind

variable (algs) in
/-- **A selector that runs** shows what it ticks. -/
theorem runAt_shown {start : ℕ} {status : BtStatus} {env : NpcEnv fl} (hkinds : AllBehaviours children)
    (hstart : start = if status ≠ .running then 0 else curr) (hlt : start < children.length)
    (hshown : ShowsAt (pre ++ env.notes) env.curAct children curr status) :
    AllBehaviours (BtNode.runAt (npcActions algs) children start env).1 ∧
      ShowsAt (pre ++ (BtNode.runAt (npcActions algs) children start env).2.notes)
        (BtNode.runAt (npcActions algs) children start env).2.curAct
        (BtNode.runAt (npcActions algs) children start env).1 start .running := by
  have hget := List.getElem?_eq_getElem hlt
  obtain ⟨act, status', hchild, hkind⟩ := hkinds _ (List.getElem_mem hlt)
  rw [hchild] at hget
  have hpointing : Pointing (pre ++ env.notes) env.curAct act status' := by
    intro number hnumber
    obtain ⟨hrun, act', hact', hnumber', htold⟩ := hshown number hnumber
    rw [if_neg (not_not.2 hrun)] at hstart
    rw [← hstart, hget] at hact'
    cases hact'
    exact ⟨rfl, hnumber', htold⟩
  obtain ⟨act', status'', htick, hkind', hpointing'⟩ := tick_behaviour algs hkind hpointing
  obtain ⟨⟨child', env'⟩, htick'⟩ : ∃ r, BtNode.tick (npcActions algs) (.action act status') env = r := ⟨_, rfl⟩
  rw [htick'] at htick hpointing'
  obtain rfl : child' = .action act' status'' := htick
  rw [BtNode.runAt_of_getElem? _ hget htick']
  refine ⟨hkinds.set start status'' (hkind'.symm ▸ hkind), fun number hnumber => ?_⟩
  obtain ⟨rfl, hnumber', htold⟩ := hpointing' number hnumber
  exact ⟨rfl, act', List.getElem?_set_self hlt, hnumber', htold⟩

variable (algs) in
/-- Looking around tells of no behaviour. -/
theorem viewTask_silent (act : BtAct) (env : NpcEnv fl) :
    ∃ more, (NpcEnv.viewTask algs act env).2.2.notes = env.notes ++ more ∧
      ∀ note ∈ more, NpcNote.action note = none := by
  obtain ⟨-, -, -, -, hbehind⟩ := NpcEnv.view_frame algs env.viewLinker
  have hnotes : (NpcEnv.viewTask algs act env).2.2.notes = env.viewLinker.notes := hbehind
  rw [hnotes, NpcEnv.viewLinker]
  cases hold : env.npc.linker with
  | some old => exact ⟨[], (List.append_nil _).symm, List.forall_mem_nil _⟩
  | none =>
    cases hnear : env.sur.getNearestPlayer env.npc.currPos with
    | none =>
      simp only [NpcEnv.setLinkPlayer, hold]
      exact ⟨[], (List.append_nil _).symm, List.forall_mem_nil _⟩
    | some p =>
      simp only [NpcEnv.setLinkPlayer, hold, NpcEnv.send]
      exact ⟨_, rfl, List.forall_mem_singleton.2 rfl⟩

variable (algs) in
theorem senseTask_silent (act : BtAct) (env : NpcEnv fl) :
    (NpcEnv.senseTask algs act env).2.2.curAct = env.curAct ∧
      (NpcEnv.senseTask algs act env).2.2.notes = env.notes := by
  rw [NpcEnv.senseTask]
  split_ifs <;> exact ⟨rfl, rfl⟩

variable (algs) in
/-- **A life that is left** points to nothing. -/
theorem exit_shown {view sense : BtAct} {viewStatus senseStatus behavStatus status : BtStatus}
    {nodes : List (BtEventId × ℕ)} {log : List NpcNote} {env : NpcEnv fl} (hview : view.kind = .view)
    (hsense : sense.kind = .sense) (hkinds : AllBehaviours children)
    (hshown : ShowsAt log env.curAct children curr behavStatus) :
    (∀ log' status', Shows log' none ((BtNode.exit (npcActions algs) (.parallel .sequence [.action view viewStatus,
        .action sense senseStatus, .edSelector children nodes curr behavStatus] status) env).1.setStatus status')) ∧
      (∀ log', Shows log' none (BtNode.exit (npcActions algs) (.parallel .sequence [.action view viewStatus,
        .action sense senseStatus, .edSelector children nodes curr behavStatus] status) env).1) ∧
      (BtNode.exit (npcActions algs) (.parallel .sequence [.action view viewStatus, .action sense senseStatus,
        .edSelector children nodes curr behavStatus] status) env).2.curAct = none ∧
      (BtNode.exit (npcActions algs) (.parallel .sequence [.action view viewStatus, .action sense senseStatus,
        .edSelector children nodes curr behavStatus] status) env).2.notes = env.notes := by
  obtain ⟨hkinds', hcur, hnotes⟩ := forceExitAt_shown algs .aborted hkinds hshown
  have heq : BtNode.exit (npcActions algs) (.parallel .sequence [.action view viewStatus,
        .action sense senseStatus, .edSelector children nodes curr behavStatus] status) env =
      (.parallel .sequence [.action view .invalid, .action sense .invalid,
        .edSelector (BtNode.forceExitAt (npcActions algs) .aborted children curr env).1 nodes curr
          .invalid] status, (BtNode.forceExitAt (npcActions algs) .aborted children curr env).2) := by
    simp only [BtNode.exit, BtNode.forceExitAll, exit_view env (.inl hview), exit_view env (.inr hsense),
      BtNode.setStatus]
  rw [heq]
  exact ⟨fun _ _ => .intro hview hsense hkinds' (showsAt_none _ _ _ _),
    fun _ => .intro hview hsense hkinds' (showsAt_none _ _ _ _), hcur, hnotes⟩

variable {bare inside : Prop} {status : BtStatus} {node : BtNode BtAct}

variable (algs) in
theorem Shows.exit {log : List NpcNote} {env : NpcEnv fl} (hs : Shows log env.curAct node) :
    (∀ log' status', Shows log' none ((BtNode.exit (npcActions algs) node env).1.setStatus status')) ∧
      (BtNode.exit (npcActions algs) node env).2.curAct = none ∧
      (BtNode.exit (npcActions algs) node env).2.notes = env.notes := by
  obtain ⟨hview, hsense, hkinds, hshown⟩ := hs
  obtain ⟨hset, -, hcur, hnotes⟩ := exit_shown algs hview hsense hkinds hshown
  exact ⟨hset, hcur, hnotes⟩

variable (algs) in
/-- **A life that is ticked** points to the behaviour that runs, and that all were told of, or to nothing if it
ends. -/
theorem Shows.tick (h : AliveNode bare inside status node) (hopen : status.IsOpen) {env : NpcEnv fl}
    (hs : Shows (pre ++ env.notes) env.curAct node) :
    Shows (pre ++ (node.tick (npcActions algs) env).2.notes) (node.tick (npcActions algs) env).2.curAct
        (node.tick (npcActions algs) env).1 ∧
      ((node.tick (npcActions algs) env).1.status ≠ .running →
        (node.tick (npcActions algs) env).2.curAct = none) := by
  obtain ⟨hview, hsense, hviewOpen, hsenseOpen, hbehavOpen, -, -, -, -, hentered⟩ := h
  rename_i view sense viewStatus senseStatus behavStatus behaviours nodes curr
  obtain ⟨-, -, hkinds, hshown⟩ := hs
  obtain ⟨env₁, henv₁⟩ : ∃ env₁, (NpcEnv.viewTask algs view env).2.2 = env₁ := ⟨_, rfl⟩
  obtain ⟨env₂, henv₂⟩ : ∃ env₂, (NpcEnv.senseTask algs sense env₁).2.2 = env₂ := ⟨_, rfl⟩
  obtain ⟨start, hstart⟩ : ∃ start, start = if behavStatus ≠ .running then 0 else curr := ⟨_, rfl⟩
  have hcur₁ := NpcEnv.viewTask_curAct algs view env
  obtain ⟨more, hmore, hsilent⟩ := viewTask_silent algs view env
  obtain ⟨hcur₂, hnotes₂⟩ := senseTask_silent algs sense env₁
  rw [henv₁] at hcur₁ hmore
  rw [henv₂] at hcur₂ hnotes₂
  have hshown₂ : ShowsAt (pre ++ env₂.notes) env₂.curAct behaviours curr behavStatus := by
    rw [hcur₂, hcur₁, hnotes₂, hmore, ← List.append_assoc]
    intro number hnumber
    rw [lastAction_append hsilent]
    exact hshown number hnumber
  have hdone : status.isDone = false := by rcases hopen with rfl | rfl <;> rfl
  have hends : ∀ {children : List (BtNode BtAct)} {viewStatus senseStatus behavStatus' : BtStatus} {curr' : ℕ}
      {env' : NpcEnv fl}, AllBehaviours children →
      ShowsAt (pre ++ env'.notes) env'.curAct children curr' behavStatus' →
      Shows (pre ++ (BtNode.exit (npcActions algs) (.parallel .sequence [.action view viewStatus,
          .action sense senseStatus, .edSelector children nodes curr' behavStatus'] .aborted) env').2.notes)
        (BtNode.exit (npcActions algs) (.parallel .sequence [.action view viewStatus,
          .action sense senseStatus, .edSelector children nodes curr' behavStatus'] .aborted) env').2.curAct
        (BtNode.exit (npcActions algs) (.parallel .sequence [.action view viewStatus,
          .action sense senseStatus, .edSelector children nodes curr' behavStatus'] .aborted) env').1 ∧
      (BtNode.exit (npcActions algs) (.parallel .sequence [.action view viewStatus,
          .action sense senseStatus, .edSelector children nodes curr' behavStatus'] .aborted) env').2.curAct =
        none := by
    intro children viewStatus senseStatus behavStatus' curr' env' hkinds' hshown'
    obtain ⟨-, hnode, hcur, -⟩ := exit_shown algs hview hsense hkinds' hshown'
    rw [hcur]
    exact ⟨hnode _, rfl⟩
  by_cases hhp : (NpcEnv.senseTask algs sense env₁).1 = .running
  · by_cases hlt : start < behaviours.length
    · have hbehavDone : behavStatus.isDone = false := by rcases hbehavOpen with rfl | rfl <;> rfl
      have heq : BtNode.tick (npcActions algs) (.parallel .sequence [.action view viewStatus,
            .action sense senseStatus, .edSelector behaviours nodes curr behavStatus] status) env =
          (.parallel .sequence [.action view .running, .action sense .running,
            .edSelector (BtNode.runAt (npcActions algs) behaviours start env₂).1 nodes start .running]
            .running, (BtNode.runAt (npcActions algs) behaviours start env₂).2) := by
        simp [BtNode.tick_parallel, hdone, BtNode.runAll, tick_view env hview hviewOpen, henv₁,
          tick_sense env₁ hsense hsenseOpen, henv₂, hhp, BtNode.tick_edSelector env₂ hbehavDone hstart hlt,
          BtNode.finish]
      rw [heq]
      obtain ⟨hkinds', hshown'⟩ := runAt_shown algs hkinds hstart hlt hshown₂
      exact ⟨.intro hview hsense hkinds' hshown', fun hne => absurd rfl hne⟩
    -- The selector has no child to tick and aborts, and the node forces its children to exit.
    · have hnil : behaviours = [] ∧ behavStatus = .invalid := by
        rcases hbehavOpen with rfl | rfl
        · rw [if_pos (by decide)] at hstart
          exact ⟨List.length_eq_zero_iff.1 (by omega), rfl⟩
        · rw [if_neg (by decide)] at hstart
          exact absurd (hstart ▸ hentered (.inr rfl)) hlt
      obtain ⟨rfl, rfl⟩ := hnil
      have heq : BtNode.tick (npcActions algs) (.parallel .sequence [.action view viewStatus,
            .action sense senseStatus, .edSelector [] nodes curr .invalid] status) env =
          BtNode.exit (npcActions algs) (.parallel .sequence [.action view .running,
            .action sense .running, .edSelector [] nodes 0 .aborted] .aborted) env₂ := by
        simp [BtNode.tick_parallel, hdone, BtNode.runAll, tick_view env hview hviewOpen, henv₁,
          tick_sense env₁ hsense hsenseOpen, henv₂, hhp, BtNode.tick_edSelector_nil, BtNode.finish]
      have hshown₀ : ShowsAt (pre ++ env₂.notes) env₂.curAct [] 0 .aborted := by
        intro number hnumber
        cases (hshown₂ number hnumber).1
      rw [heq]
      obtain ⟨hnode, hcur⟩ := hends hkinds hshown₀
      exact ⟨hnode, fun _ => hcur⟩
  -- The sense aborts before the selector is ticked.
  · have haborted : (NpcEnv.senseTask algs sense env₁).1 = .aborted := by
      rw [senseTask_status] at hhp ⊢
      split at hhp
      · rename_i hzero
        rw [if_pos hzero]
      · exact absurd rfl hhp
    have heq : BtNode.tick (npcActions algs) (.parallel .sequence [.action view viewStatus,
          .action sense senseStatus, .edSelector behaviours nodes curr behavStatus] status) env =
        BtNode.exit (npcActions algs) (.parallel .sequence [.action view .running, .action sense .aborted,
          .edSelector behaviours nodes curr behavStatus] .aborted) env₂ := by
      simp [BtNode.tick_parallel, hdone, BtNode.runAll, tick_view env hview hviewOpen, henv₁,
        tick_sense env₁ hsense hsenseOpen, henv₂, haborted, BtNode.finish]
    rw [heq]
    obtain ⟨hnode, hcur⟩ := hends hkinds hshown₂
    exact ⟨hnode, fun _ => hcur⟩

variable (algs) in
/-- **An event** that the selector switches by leaves no pointer. -/
theorem Shows.handleEvent {id : BtEventId} {node' : BtNode BtAct} {env env' : NpcEnv fl}
    (hs : Shows (pre ++ env.notes) env.curAct node)
    (hevent : node.handleEvent (npcActions algs) id env = some (node', env')) :
    Shows (pre ++ env'.notes) env'.curAct node' ∧ (env'.curAct = none ∨ env'.curAct = env.curAct) := by
  obtain ⟨hview, hsense, hkinds, hshown⟩ := hs
  rename_i view sense viewStatus senseStatus behavStatus status' behaviours nodes curr
  have hactions : ∀ child ∈ behaviours, child.IsAction := by
    intro child hchild
    obtain ⟨act, status'', hact, -⟩ := hkinds child hchild
    exact ⟨act, status'', hact⟩
  cases hfind : nodes.find? fun one => one.1 = id with
  | none =>
    simp [BtNode.handleEvent, BtNode.handleAll, hfind, BtNode.handleAll_of_isAction id env hactions] at hevent
    obtain ⟨rfl, rfl⟩ := hevent
    exact ⟨.intro hview hsense hkinds hshown, .inr rfl⟩
  | some one =>
    by_cases hlt : curr < behaviours.length
    · simp [BtNode.handleEvent, BtNode.handleAll, hfind, hlt] at hevent
      obtain ⟨rfl, rfl⟩ := hevent
      obtain ⟨hkinds', hcur, -⟩ := forceExitAt_shown algs .suspend hkinds hshown
      rw [hcur]
      exact ⟨.intro hview hsense hkinds' (showsAt_none _ _ _ _), .inl rfl⟩
    · simp [BtNode.handleEvent, BtNode.handleAll, hfind, hlt] at hevent

variable (algs) in
/-- The loop of the sequence from its middle child on. -/
theorem run_shown {alive : BtNode BtAct} {death : BtAct} (hdeath : death.kind = .death)
    (h : AliveNode bare inside status alive) (hopen : status.IsOpen) {env : NpcEnv fl}
    (hs : Shows (pre ++ env.notes) env.curAct alive) :
    ∃ alive' death' deathStatus curr env', BtNode.runFrom (npcActions algs) BtNode.passes .success
        [alive, .action death .invalid] 0 env =
          ([alive', .action death' deathStatus], curr, some .running, env') ∧
      death'.kind = .death ∧ Shows (pre ++ env'.notes) env'.curAct alive' ∧
        (curr = 0 ∨ curr = 1 ∧ env'.curAct = none) := by
  obtain ⟨hshows, hcur⟩ := hs.tick algs h hopen
  obtain ⟨⟨alive', env₁⟩, htick⟩ : ∃ r, alive.tick (npcActions algs) env = r := ⟨_, rfl⟩
  have hstatus : alive'.status = .running ∨ alive'.status = .aborted := by
    by_cases hhp : env.npc.hp = 0
    · have hnext := (h.tick_of_eq algs hopen hhp).1
      rw [htick] at hnext
      cases hnext
      exact .inr rfl
    · have hnext := h.tick_of_ne algs hopen hhp
      rw [htick] at hnext
      obtain ⟨hnext, -⟩ | ⟨-, hnext, -⟩ := hnext
      · cases hnext
        exact .inl rfl
      · cases hnext
        exact .inr rfl
  rw [htick] at hshows hcur
  rcases hstatus with hrun | haborted
  · refine ⟨alive', death, .invalid, 0, env₁, ?_, hdeath, hshows, .inl rfl⟩
    rw [BtNode.runFrom_stays htick (by rw [hrun]; rfl), hrun]
  · have hnone : env₁.curAct = none := hcur (by rw [haborted]; decide)
    refine ⟨alive', { death with lastTime := env₁.sur.timeTick }, .running, 1, (NpcEnv.enterDeath death env₁).2, ?_,
      hdeath, ?_, .inr ⟨rfl, hnone⟩⟩
    · exact BtNode.runFrom_moves htick (by rw [haborted]; rfl)
        (BtNode.runFrom_stays (tick_death_enter algs env₁ hdeath) rfl)
    · have hsame : (NpcEnv.enterDeath death env₁).2.curAct = none := hnone
      rw [hsame]
      exact hshows.none_of

/-! ### A tree -/

/-- A tree shows what the NPC does, and only while it lives. -/
inductive Answers (log : List NpcNote) (curAct : Option ℕ) : BtNode BtAct → Prop
  | intro {birth death : BtAct} {birthStatus deathStatus status rootStatus : BtStatus} {alive : BtNode BtAct}
      {curr count limit : ℕ} (birth_kind : birth.kind = .birth) (death_kind : death.kind = .death)
      (shows : Shows log curAct alive)
      (lives : lifePhase (.repeat (.sequence [.action birth birthStatus, alive, .action death deathStatus]
        curr status) count limit rootStatus) ≠ .alive → curAct = none) :
      Answers log curAct (.repeat (.sequence [.action birth birthStatus, alive, .action death deathStatus]
        curr status) count limit rootStatus)

variable (algs) in
/-- **A sequence that is left**, or reset, points to nothing. -/
theorem forceExitAll_shown {birth death : BtAct} {birthStatus deathStatus : BtStatus} {alive : BtNode BtAct}
    (hbirth : birth.kind = .birth) (hdeath : death.kind = .death) {log : List NpcNote} {env : NpcEnv fl}
    (hs : Shows log env.curAct alive) :
    ∃ alive' env', BtNode.forceExitAll (npcActions algs)
        [.action birth birthStatus, alive, .action death deathStatus] env =
          ([.action birth .invalid, alive', .action death .invalid], env') ∧
      env'.curAct = none ∧ ∀ log', Shows log' none alive' := by
  obtain ⟨hset, hcur, -⟩ := hs.exit algs
  refine ⟨(BtNode.exit (npcActions algs) alive env).1.setStatus .invalid, (BtNode.exit (npcActions algs) alive env).2,
    ?_, hcur, fun log' => hset log' .invalid⟩
  simp only [BtNode.forceExitAll, BtNode.exit, npcActions, NpcEnv.exit, hbirth, hdeath, BtNode.setStatus]

variable (algs) in
/-- **A tick of the root.** -/
theorem Answers.tick {since : UInt64} {phase : LifePhase} {lives : ℕ}
    (h : LifeRoot bare inside since phase lives node)
    (hlt : lives < uintMax) {env : NpcEnv fl} (hs : Answers (pre ++ env.notes) env.curAct node) :
    Answers (pre ++ (node.tick (npcActions algs) env).2.notes) (node.tick (npcActions algs) env).2.curAct
      (node.tick (npcActions algs) env).1 := by
  obtain ⟨hlife, hstatus⟩ := h
  rename_i life status
  have hdone : status.isDone = false := by rcases hstatus with rfl | ⟨rfl, -⟩ <;> rfl
  cases hlife with
  | fresh hbirth hdeath halive =>
    rename_i birth death alive curr
    obtain ⟨-, -, hshows, halone⟩ := hs
    have hnone : env.curAct = none := halone (by simp only [lifePhase]; decide)
    have hrun : BtNode.runFrom (npcActions algs) BtNode.passes .success
        [.action birth .invalid, alive, .action death .invalid] 0 env = _ :=
      BtNode.runFrom_stays (tick_birth_enter algs env hbirth) rfl
    have hseq : BtNode.tick (npcActions algs)
        (.sequence [.action birth .invalid, alive, .action death .invalid] curr .invalid) env = _ :=
      BtNode.tick_sequence_invalid hrun
    rw [BtNode.tick_repeat_running hdone hlt hseq rfl]
    exact .intro hbirth hdeath hshows fun _ => hnone
  | birth hbirth hdeath halive =>
    rename_i birth death alive
    obtain ⟨-, -, hshows, halone⟩ := hs
    have hnone : env.curAct = none := halone (by simp only [lifePhase]; decide)
    rcases tick_birth algs env hbirth with ⟨birth', hbirth', htick⟩ | htick
    · have hrun : BtNode.runFrom (npcActions algs) BtNode.passes .success
          [.action birth .running, alive, .action death .invalid] 0 env = _ := BtNode.runFrom_stays htick rfl
      rw [BtNode.tick_repeat_running hdone hlt (BtNode.tick_sequence_running hrun) rfl]
      exact .intro hbirth' hdeath hshows fun _ => hnone
    -- the birth ends, and the loop goes on with the life
    · have hborn : Shows (pre ++ env.bear.notes) env.bear.curAct alive := by
        have hsame : env.bear.curAct = none := hnone
        rw [hsame]
        exact hshows.none_of
      obtain ⟨alive', death', deathStatus, curr, env', hrun, hdeath', hshows', hcurr⟩ :=
        run_shown algs hdeath halive (.inl rfl) hborn
      have hseq := BtNode.tick_sequence_running (BtNode.runFrom_moves htick rfl hrun)
      rw [BtNode.tick_repeat_running hdone hlt hseq rfl]
      refine .intro hbirth hdeath' hshows' fun hphase => ?_
      rcases hcurr with rfl | ⟨rfl, hnone'⟩
      · exact absurd rfl hphase
      · exact hnone'
  | alive hbirth hdeath halive =>
    rename_i birth death alive
    obtain ⟨-, -, hshows, -⟩ := hs
    obtain ⟨alive', death', deathStatus, curr, env', hrun, hdeath', hshows', hcurr⟩ :=
      run_shown algs hdeath halive (.inr rfl) hshows
    have hseq := BtNode.tick_sequence_running (@BtNode.runFrom_succ_eq _ _ _ _ _ (.action birth .success) _ _ _ _ _
      _ _ hrun)
    rw [BtNode.tick_repeat_running hdone hlt hseq rfl]
    refine .intro hbirth hdeath' hshows' fun hphase => ?_
    rcases hcurr with rfl | ⟨rfl, hnone'⟩
    · exact absurd rfl hphase
    · exact hnone'
  | death hbirth hdeath halive hsince =>
    rename_i birth death alive
    obtain ⟨-, -, hshows, halone⟩ := hs
    have hnone : env.curAct = none := halone (by simp only [lifePhase]; decide)
    rcases tick_death algs env hdeath with htick | ⟨-, -, htick⟩
    · have hrun : BtNode.runFrom (npcActions algs) BtNode.passes .success
          [.action birth .success, alive, .action death .running] 2 env = _ :=
        BtNode.runFrom_succ_eq (BtNode.runFrom_succ_eq (BtNode.runFrom_stays htick rfl))
      rw [BtNode.tick_repeat_running hdone hlt (BtNode.tick_sequence_running hrun) rfl]
      exact .intro hbirth hdeath hshows fun _ => hnone
    -- the sequence exits, and is reset
    · have hrun : BtNode.runFrom (npcActions algs) BtNode.passes .success
          [.action birth .success, alive, .action death .running] 2 env = _ :=
        BtNode.runFrom_succ_eq (BtNode.runFrom_succ_eq (BtNode.runFrom_ends htick rfl))
      obtain rfl : status = .running := by
        rcases hstatus with hstatus | ⟨-, hphase⟩
        · exact hstatus
        · cases hphase
      obtain ⟨alive₁, env₁, hexit, hnone₁, hshows₁⟩ :=
        @forceExitAll_shown fl algs birth death .success .success alive hbirth hdeath _ env hshows
      have hend : BtNode.tick (npcActions algs)
          (.sequence [.action birth .success, alive, .action death .running] 2 .running) env =
            (.sequence [.action birth .invalid, alive₁, .action death .invalid] 3 .success, env₁) := by
        rw [BtNode.tick_sequence_success hrun, BtNode.exit_sequence, hexit]
      have hshows₁' : Shows [] env₁.curAct alive₁ := by
        rw [hnone₁]
        exact hshows₁ []
      obtain ⟨alive₂, env₂, hreset, hnone₂, hshows₂⟩ :=
        @forceExitAll_shown fl algs birth death .invalid .invalid alive₁ hbirth hdeath _ env₁ hshows₁'
      rw [BtNode.tick_repeat_success hlt hend rfl, BtNode.reset, hreset]
      refine .intro hbirth hdeath ?_ fun _ => hnone₂
      rw [hnone₂]
      exact hshows₂ _

variable (algs) in
/-- **An event.** -/
theorem Answers.handleEvent {id : BtEventId} {node' : BtNode BtAct} {env env' : NpcEnv fl}
    (hs : Answers (pre ++ env.notes) env.curAct node)
    (hevent : node.handleEvent (npcActions algs) id env = some (node', env')) :
    Answers (pre ++ env'.notes) env'.curAct node' := by
  obtain ⟨hbirth, hdeath, hshows, halone⟩ := hs
  rename_i birth death birthStatus deathStatus status rootStatus alive curr count limit
  rw [BtNode.handleEvent] at hevent
  split at hevent
  · obtain ⟨alive', env₁, hreset, hnone, hshows'⟩ :=
      @forceExitAll_shown fl algs birth death birthStatus deathStatus alive hbirth hdeath _ env hshows
    rw [BtNode.reset, hreset] at hevent
    cases hevent
    refine .intro hbirth hdeath ?_ fun _ => hnone
    rw [hnone]
    exact hshows' _
  · cases halive : alive.handleEvent (npcActions algs) id env with
    | none => simp [BtNode.handleEvent, BtNode.handleAll, halive] at hevent
    | some result =>
      obtain ⟨alive', env₁⟩ := result
      simp [BtNode.handleEvent, BtNode.handleAll, halive] at hevent
      obtain ⟨rfl, rfl⟩ := hevent
      obtain ⟨hshows', hcur⟩ := hshows.handleEvent algs halive
      refine .intro hbirth hdeath hshows' fun hphase => ?_
      rcases hcur with hnone | hsame
      · exact hnone
      · rw [hsame]
        cases status <;> exact halone hphase

/-- **The events behind a tick.** -/
theorem Answers.handleEvents {rounds : ℕ} {node' : BtNode BtAct} {env env' : NpcEnv fl} {ids : List BtEventId}
    (hs : Answers (pre ++ env.notes) env.curAct node)
    (heq : NpcObject.handleEvents algs rounds node env = some (ids, node', env')) :
    Answers (pre ++ env'.notes) env'.curAct node' := by
  induction rounds generalizing node env ids with
  | zero =>
    obtain ⟨-, rfl, rfl, -⟩ | ⟨_, _, _, _, _, _, hrounds, -⟩ := handleEvents_cases heq
    · exact hs
    · cases hrounds
  | succ rounds ih =>
    obtain ⟨-, rfl, rfl, -⟩ | ⟨_, id, events, node₁, env₁, ids₁, ⟨rfl⟩, -, hhandle, hloop⟩ := handleEvents_cases heq
    · exact hs
    · have hpopped : Answers (pre ++ ({ env with events := events } : NpcEnv fl).notes)
          ({ env with events := events } : NpcEnv fl).curAct node := hs
      exact ih (hpopped.handleEvent algs hhandle) hloop

/-- **An update** of an NPC. -/
theorem Answers.update {o o' : NpcObject fl} {sur : Surroundings fl} {notes log : List NpcNote}
    (hround : RewardState.GoesRound o.root) (hs : Answers log o.curAct o.root)
    (h : o.update algs sur = some (o', notes)) : Answers (log ++ notes) o'.curAct o'.root := by
  obtain ⟨⟨ids, root, env'⟩, hhandle, hres⟩ := Option.map_eq_some_iff.1 h
  cases hres
  have hstart : Answers (log ++ (o.env sur).notes) (o.env sur).curAct o.root := by
    have hnil : log ++ (o.env sur).notes = log := List.append_nil log
    rw [hnil]
    exact hs
  have htick : Answers (log ++ (o.root.tick (npcActions algs) (o.env sur)).2.notes)
      (o.root.tick (npcActions algs) (o.env sur)).2.curAct (o.root.tick (npcActions algs) (o.env sur)).1 := by
    rcases hround with hdone | ⟨bare, since, phase, lives, hlt, hlife⟩
    · rw [BtNode.tick_of_isDone (npcActions algs) (by rw [hdone]; rfl)]
      exact hstart
    · exact hstart.tick algs hlife hlt
  exact htick.handleEvents hhandle

end Life

/-! ### The leaf that is asked -/

section Leaf

variable {fl : NpcFloats} (algs : Heap.Algorithms BtEvent.less)

/-- A leaf keeps its number. -/
theorem npcActions_keepsNumber :
    (npcActions algs : BtAction BtAct (NpcEnv fl)).KeepsOwn BtAct.number where
  enter act env := congrArg Prod.snd (NpcEnv.enter_key act env)
  task act env := congrArg Prod.snd (NpcEnv.task_key algs act env)
  exit act env := congrArg Prod.snd (NpcEnv.exit_key act env)

variable {algs}

theorem handleEvents_numbers {rounds : ℕ} {node node' : BtNode BtAct} {env env' : NpcEnv fl} {ids : List BtEventId}
    (heq : NpcObject.handleEvents algs rounds node env = some (ids, node', env')) :
    node'.acts.map BtAct.number = node.acts.map BtAct.number := by
  induction rounds generalizing node env ids with
  | zero =>
    obtain ⟨-, rfl, -, -⟩ | ⟨_, _, _, _, _, _, hrounds, -⟩ := handleEvents_cases heq
    · rfl
    · cases hrounds
  | succ rounds ih =>
    obtain ⟨-, rfl, -, -⟩ | ⟨_, id, events, node₁, env₁, ids₁, ⟨rfl⟩, -, hhandle, hloop⟩ := handleEvents_cases heq
    · rfl
    · exact (ih hloop).trans (BtNode.map_acts_handleEvent (npcActions_keepsNumber algs) id node _ node₁ env₁ hhandle)

/-- An update keeps the numbers of the leaves. -/
theorem update_numbers {o o' : NpcObject fl} {sur : Surroundings fl} {notes : List NpcNote}
    (h : o.update algs sur = some (o', notes)) : o'.root.acts.map BtAct.number = o.root.acts.map BtAct.number := by
  obtain ⟨⟨ids, root, env'⟩, hhandle, hres⟩ := Option.map_eq_some_iff.1 h
  cases hres
  exact (handleEvents_numbers hhandle).trans (BtNode.map_acts_tick (npcActions_keepsNumber algs) o.root _)

theorem mem_actsOf {children : List (BtNode BtAct)} {child : BtNode BtAct} {act : BtAct} (hchild : child ∈ children)
    (hact : act ∈ child.acts) : act ∈ BtNode.actsOf children := by
  induction children with
  | nil => cases hchild
  | cons first rest ih =>
    rw [BtNode.actsOf, List.mem_append]
    rcases List.mem_cons.1 hchild with rfl | hrest
    · exact .inl hact
    · exact .inr (ih hrest)

/-- The numbers of the leaves of a new tree differ. -/
theorem nodup_parseTree (kinds : List BtActKind) (rolls : ℕ → Fin 4) :
    ((parseTree kinds rolls).acts.map BtAct.number).Nodup := by
  have hbehaviours : ∀ pairs : List (BtActKind × ℕ),
      (BtNode.actsOf (pairs.map fun pair => BtAct.new pair.1 pair.2 (rolls pair.2))).map BtAct.number =
        pairs.map Prod.snd := by
    intro pairs
    induction pairs with
    | nil => rfl
    | cons pair pairs ih =>
      rw [List.map_cons, BtNode.map_actsOf_cons, ih]
      rfl
  have hnumbers : (parseTree kinds rolls).acts.map BtAct.number =
      (kinds.length + 2) :: kinds.length :: (kinds.length + 1) ::
        (List.range kinds.length ++ [kinds.length + 3]) := by
    have hmiddle := hbehaviours kinds.zipIdx
    rw [List.zipIdx_map_snd, ← List.range_eq_range'] at hmiddle
    rw [← hmiddle]
    simp only [parseTree, BtNode.acts, BtNode.actsOf, BtAct.new, List.cons_append, List.nil_append, List.append_nil,
      List.map_cons, List.map_append, List.map_nil]
  rw [hnumbers, List.nodup_cons, List.nodup_cons, List.nodup_cons, List.nodup_append]
  refine ⟨?_, ?_, ?_, List.nodup_range, List.nodup_singleton _, ?_⟩
  · simp
  · simp
  · simp
  · intro a ha b hb
    rw [List.mem_range] at ha
    rw [List.mem_singleton] at hb
    omega

/-- A tree that points to a leaf. -/
theorem Answers.shows {log : List NpcNote} {number : ℕ} {node : BtNode BtAct} (hs : Answers log (some number) node) :
    lifePhase node = .alive ∧ ∃ act ∈ node.acts, act.number = number ∧ act.kind.eventId.isBehaviour ∧
      lastAction log = some act.action := by
  obtain ⟨hbirth, hdeath, hshows, halone⟩ := hs
  refine ⟨Classical.byContradiction fun hdead => Option.some_ne_none number (halone hdead), ?_⟩
  obtain ⟨-, -, hkinds, hshown⟩ := hshows
  obtain ⟨-, act, hget, hnumber, htold⟩ := hshown number rfl
  have hmem := List.mem_of_getElem? hget
  obtain ⟨act', status', heq, hkind⟩ := hkinds _ hmem
  cases heq
  refine ⟨act, ?_, hnumber, hkind, htold⟩
  have hin := mem_actsOf hmem (List.mem_singleton_self act)
  simp only [BtNode.acts, BtNode.actsOf, List.mem_append]
  exact .inr (.inl (.inr (.inr (.inl hin))))

/-- **The leaf that is asked** is the one that runs, and that all were told of. -/
theorem Answers.syncAction {o : NpcObject fl} {log : List NpcNote} (hs : Answers log o.curAct o.root)
    (hnodup : (o.root.acts.map BtAct.number).Nodup) {note : NpcNote} (h : o.syncAction = some note) :
    lifePhase o.root = .alive ∧ note.action.isSome ∧ note.action = lastAction log := by
  obtain ⟨number, hnumber, h⟩ := Option.bind_eq_some_iff.1 h
  obtain ⟨act, hfind, hnote⟩ := Option.bind_eq_some_iff.1 h
  rw [hnumber] at hs
  obtain ⟨hphase, act', hmem, hnumber', hkind, htold⟩ := hs.shows
  have hfound : act.number = number := by simpa using List.find?_some hfind
  obtain rfl : act = act' := List.inj_on_of_nodup_map hnodup (List.mem_of_find?_eq_some hfind) hmem
    (hfound.trans hnumber'.symm)
  have haction := BtAct.singlecast_action hkind hnote
  exact ⟨hphase, by rw [haction]; rfl, haction.trans htold.symm⟩

/-! ### The runs -/

/-- What holds of an NPC and of all that was sent about it. -/
structure Truthful (o : NpcObject fl) (log : List NpcNote) : Prop where
  round : RewardState.GoesRound o.root
  answers : Answers log o.curAct o.root
  numbers : (o.root.acts.map BtAct.number).Nodup

/-- Other messages do not change what was told last. -/
theorem Answers.append {log more : List NpcNote} {curAct : Option ℕ} {node : BtNode BtAct}
    (hs : Answers log curAct node) (hmore : ∀ id code playerSn, .syncBtAction id code playerSn ∉ more) :
    Answers (log ++ more) curAct node := by
  have hsilent : ∀ note ∈ more, NpcNote.action note = none := by
    intro note hnote
    cases note with
    | syncBtAction id code playerSn => exact absurd hnote (hmore id code playerSn)
    | reqLinkPlayer | syncNpcProps | born => rfl
  obtain ⟨hbirth, hdeath, hshows, halone⟩ := hs
  obtain ⟨hview, hsense, hkinds, hshown⟩ := hshows
  refine .intro hbirth hdeath (.intro hview hsense hkinds fun number hnumber => ?_) halone
  rw [lastAction_append hsilent]
  exact hshown number hnumber

/-- **One event**, and one NPC. -/
theorem Truthful.npcMoves {w t : NpcWorld fl} {object : Option PlayerRef} {o o' : NpcObject fl}
    {log notes : List NpcNote} (h : Truthful o log) (hmoves : w.NpcMoves algs t object o notes o') :
    Truthful o' (log ++ notes) := by
  cases hmoves with
  | updates update =>
    exact ⟨NpcObject.update_goesRound update h.round, h.answers.update h.round update,
      (update_numbers update).symm ▸ h.numbers⟩
  | passes passed =>
    refine ⟨passed.root ▸ h.round, ?_, passed.root ▸ h.numbers⟩
    rw [passed.root, passed.curAct]
    exact h.answers.append passed.silent
  | disappears held gone nearest =>
    rename_i left sn
    have hroot := NpcWorld.root_playerDisappear algs left o (w.ref sn)
    have hcur : (o.playerDisappear algs left (w.ref sn)).curAct = o.curAct := by
      rw [NpcObject.playerDisappear]
      split_ifs <;> rfl
    refine ⟨hroot ▸ h.round, ?_, hroot ▸ h.numbers⟩
    rw [hroot, hcur]
    refine h.answers.append fun id code playerSn hmem => ?_
    rw [NpcObject.disappearNotes] at hmem
    split at hmem
    · split at hmem
      · cases List.mem_singleton.1 hmem
      · simp at hmem
    · cases hmem
  | renews =>
    rw [List.append_nil]
    exact ⟨h.round, h.answers, h.numbers⟩

theorem truthful_awake (npc : Npc fl) (config : BtConfig) (rolls : ℕ → Fin 4) :
    Truthful (.awake npc config rolls) [] := by
  have hkinds : ∀ kind ∈ config.nodes.filterMap BtActKind.ofName,
      kind.eventId.isBehaviour ∧ kind ≠ .birth := by
    intro kind hkind
    obtain ⟨name, -, hname⟩ := List.mem_filterMap.1 hkind
    exact ofName_isBehaviour hname
  refine ⟨.inr ⟨_, 0, .birth, 0, Nat.zero_lt_succ _, lifeRoot_parseTree rolls 0 hkinds⟩, ?_, nodup_parseTree _ rolls⟩
  refine .intro rfl rfl (.intro rfl rfl (fun child hchild => ?_) (showsAt_none _ _ _ _)) fun _ => rfl
  obtain ⟨⟨kind, number⟩, hpair, rfl⟩ := List.mem_map.1 hchild
  exact ⟨_, _, rfl, (hkinds kind (List.fst_mem_of_mem_zipIdx hpair)).1⟩

end Leaf

/-- **Whoever asks learns what the others know.**  When `SyncAction` answers a player, the NPC lives, and the answer
has the id and the code that all players were told last. -/
theorem answer_run {fl : NpcFloats} {algs : Heap.Algorithms BtEvent.less} {es : List (WorldEvent fl)}
    {s : ControlRun fl} (hrun : (ControlRun.system algs).Run es s) {i : ℕ} {npc : WorldNpc fl}
    (hnpc : s.world.npcs[i]? = some npc) {note : NpcNote} (hnote : npc.object.syncAction = some note) :
    lifePhase npc.object.root = .alive ∧ note.action.isSome ∧ note.action = lastAction (s.logs i) := by
  have hinv : ∀ i npc, s.world.npcs[i]? = some npc → Truthful npc.object (s.logs i) := by
    refine hrun.invariant (p := fun s : ControlRun fl => ∀ i npc, s.world.npcs[i]? = some npc →
      Truthful npc.object (s.logs i)) (fun s hs i npc hnpc => ?_) fun s e t hs hstep i npc' hnpc' => ?_
    · obtain ⟨hawakes, hlogs⟩ := hs
      obtain ⟨npc₀, config, rolls, hobject, -⟩ := ControlRun.object_awake hawakes (List.mem_of_getElem? hnpc)
      rw [hobject, hlogs]
      exact truthful_awake npc₀ config rolls
    · obtain ⟨hsteps, hlogs⟩ := ControlRun.step_cases hstep
      obtain ⟨npc, hnpc, hmoves⟩ := hsteps.moved i npc' hnpc'
      rw [hlogs]
      exact (hs i npc hnpc).npcMoves hmoves
  have htruthful := hinv i npc hnpc
  exact htruthful.answers.syncAction htruthful.numbers hnote

/-- Whoever asks about the skeleton that has just been hit learns that it patrols. -/
theorem answer_handsOver : ∃ (s : ControlRun .int) (npc : WorldNpc .int) (note : NpcNote),
    (ControlRun.system sortedEvents).Run handsOver s ∧ npc.object.syncAction = some note ∧
      note = .syncBtAction .patrol 0 0 ∧ lifePhase npc.object.root = .alive ∧ note.action.isSome ∧
        note.action = lastAction (s.logs 0) := by
  have hrun : (System.execute (ControlRun.step sortedEvents) (fun _ _ => True) ⟨graveyard, fun _ => []⟩
      handsOver).map (fun s => (s.world.npcs[0]?).map fun npc => npc.object.syncAction) =
        some (some (some (.syncBtAction .patrol 0 0))) := by
    decide +kernel
  obtain ⟨s, hs, hfacts⟩ := Option.map_eq_some_iff.1 hrun
  obtain ⟨npc, hnpc, hnote⟩ := Option.map_eq_some_iff.1 hfacts
  have hevents : (ControlRun.system sortedEvents).Run handsOver s :=
    System.run_of_execute_true ⟨graveyard_awakes, rfl⟩ hs
  exact ⟨s, npc, _, hevents, hnote, rfl, answer_run hevents hnpc hnote⟩

end MmoServer
