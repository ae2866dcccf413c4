/-
**The life of an NPC.**

An NPC is updated again and again.  Between two updates messages change its hp, its pointers and its place,
and anyone may queue events; only an event for a behaviour must not come before the NPC has ever been alive,
since the selector of the behaviours does not stand at a child before.  Then the root of the tree runs behind
every update, and the phases follow one another: birth, life, death, and birth again.

Main definitions:

* `MmoServer.LifeEvent`, `MmoServer.LifeState` — what happens to an NPC, and its state;
* `MmoServer.LifeState.Admissible` — the events that come in time, and the lives that are counted;
* `MmoServer.LifeState.Updates` — what is said of an update.

Main results:

* `MmoServer.LifeState.update_eq` — an update is a tick and the events of the queue;
* `MmoServer.life_run` — **the root runs, and the phases follow one another**.
-/

import MmoServer.EventOrder
import MmoServer.Transition

set_option relaxedAutoImplicit false
set_option autoImplicit false

namespace MmoServer

open Transition

/-- What happens to an NPC: an update, an event that is queued, or a message that writes its hp, its pointers
to players or its place. -/
inductive LifeEvent (fl : NpcFloats)
  | update (sur : Surroundings fl)
  | addEvent (id : BtEventId) (priority : ℤ)
  | write (hp : ℤ) (target linker : Option PlayerRef) (currPos nextPos : Vector3 fl.toFloatOps)

/-- An NPC, the time when its death has begun, whether it has ever been alive, how many lives are over since
the last event `Birth`, and whether it has been updated. -/
structure LifeState (fl : NpcFloats) where
  object : NpcObject fl
  since : UInt64
  begun : Bool
  lives : ℕ
  updated : Bool

namespace LifeState

variable {fl : NpcFloats}

/-- An NPC that has just been made. -/
def start (npc : Npc fl) (config : BtConfig) (rolls : ℕ → Fin 4) : LifeState fl :=
  ⟨.awake npc config rolls, 0, false, 0, false⟩

/-- The phase of the NPC. -/
def phase (t : LifeState fl) : LifePhase := lifePhase t.object.root

variable (algs : Heap.Algorithms BtEvent.less)

/-- The tick of an update. -/
def ticked (t : LifeState fl) (sur : Surroundings fl) : BtNode BtAct × NpcEnv fl :=
  t.object.root.tick (npcActions algs) (t.object.env sur)

/-- The events of an update. -/
def handled (t : LifeState fl) (sur : Surroundings fl) :
    Option (List BtEventId × BtNode BtAct × NpcEnv fl) :=
  NpcObject.handleEvents algs (t.ticked algs sur).2.events.heap.length (t.ticked algs sur).1
    (t.ticked algs sur).2

/-- The phase behind the tick of an update. -/
def tickPhase (t : LifeState fl) (sur : Surroundings fl) : LifePhase := lifePhase (t.ticked algs sur).1

/-- The lives that are over behind the tick of an update. -/
def tickLives (t : LifeState fl) (sur : Surroundings fl) : ℕ :=
  livesTick t.lives t.phase (t.tickPhase algs sur)

/-- The steps of an NPC. -/
def step (t : LifeState fl) : LifeEvent fl → Option (LifeState fl)
  | .update sur =>
    (t.handled algs sur).map fun (ids, root, env) =>
      { object := .ofEnv root env
        since := sinceTick t.since sur.timeTick t.phase (t.tickPhase algs sur)
        begun := t.begun || t.tickPhase algs sur ≠ .birth
        lives := if .birth ∈ ids then 0 else t.tickLives algs sur
        updated := true }
  | .addEvent id priority => some { t with object := t.object.addEvent algs id priority }
  | .write hp target linker currPos nextPos =>
    some { t with
      object := { t.object with
        npc := { t.object.npc with
          hp := hp, target := target, linker := linker, currPos := currPos, nextPos := nextPos } } }

/-- The lives of an NPC with some known behaviour. -/
def system : System (LifeState fl) (LifeEvent fl) :=
  .ofFun (fun t => ∃ npc config rolls, (∃ name ∈ config.nodes, (BtActKind.ofName name).isSome) ∧
    t = start npc config rolls) (step algs)

/-- An event for a behaviour comes only to an NPC that has been alive, and fewer than `UINT_MAX` lives are
over since the last event `Birth`. -/
def Admissible (t : LifeState fl) : LifeEvent fl → Prop
  | .update sur => t.tickLives algs sur < uintMax
  | .addEvent id _ => id.isBehaviour → t.begun
  | .write _ _ _ _ _ => True

/-- What is said of an update: its tick goes from phase to phase, its events leave the phase alone but for
`Birth`, the root runs behind both, and an NPC that can have hp comes to the end of the update.  All events that
are queued behind the tick are taken, and `Birth` is handled unless it is the first one of several. -/
structure Updates (t : LifeState fl) (sur : Surroundings fl) : Prop where
  ticked_running : (t.ticked algs sur).1.status = .running
  tick : LifeTick False t.since (t.object.env sur) (t.ticked algs sur).2 t.phase (t.tickPhase algs sur)
  running : ∀ t', t.step algs (.update sur) = some t' → t'.object.root.status = .running
  phase : ∀ ids root env, t.handled algs sur = some (ids, root, env) →
    lifePhase root = if .birth ∈ ids then .birth else t.tickPhase algs sur
  ends : t.object.npc.initHp ≠ 0 → (t.object.update algs sur).isSome
  taken : ∀ ids root env, t.handled algs sur = some (ids, root, env) →
    env.events.heap = [] ∧ ids = passedIds ((t.ticked algs sur).2.events.drain algs)
  birth : ∀ ids root env, t.handled algs sur = some (ids, root, env) →
    (.birth ∈ ids ↔ .birth ∈ ((t.ticked algs sur).2.events.drain algs).tail.map BtEvent.id ∨
      ((t.ticked algs sur).2.events.drain algs).map BtEvent.id = [.birth])

variable {algs}

/-- An update of an NPC is a tick and the events of the queue. -/
theorem update_eq (t : LifeState fl) (sur : Surroundings fl) :
    t.object.update algs sur =
      (t.handled algs sur).map fun (_, root, env) => (.ofEnv root env, env.notes) := rfl

theorem step_update_object (t : LifeState fl) (sur : Surroundings fl) :
    (t.step algs (.update sur)).map object = (t.object.update algs sur).map Prod.fst := by
  rw [update_eq, step, Option.map_map, Option.map_map]
  rfl

/-! ### The invariant -/

/-- What holds between two updates. -/
structure Invariant (t : LifeState fl) : Prop where
  root : LifeRoot False (t.begun ∧ t.object.npc.initHp ≠ 0) t.since t.phase t.lives t.object.root
  begun : t.phase ≠ .birth → t.begun
  running : t.updated → t.object.root.status = .running
  queue : ∀ e ∈ t.object.events.heap, e.id.isBehaviour → t.begun
  lives : t.lives < uintMax

theorem invariant_start (npc : Npc fl) {config : BtConfig} (rolls : ℕ → Fin 4)
    (hknown : ∃ name ∈ config.nodes, (BtActKind.ofName name).isSome) :
    (start npc config rolls).Invariant := by
  have hkinds : ∀ kind ∈ config.nodes.filterMap BtActKind.ofName,
      kind.eventId.isBehaviour ∧ kind ≠ .birth := by
    intro kind hkind
    obtain ⟨name, -, hname⟩ := List.mem_filterMap.1 hkind
    exact ofName_isBehaviour hname
  have hne : config.nodes.filterMap BtActKind.ofName ≠ [] := by
    obtain ⟨name, hname, hsome⟩ := hknown
    obtain ⟨kind, hkind⟩ := Option.isSome_iff_exists.1 hsome
    exact List.ne_nil_of_mem (List.mem_filterMap.2 ⟨name, hname, hkind⟩)
  have hroot := lifeRoot_parseTree rolls 0 hkinds
  rw [eq_false hne] at hroot
  exact {
    root := hroot.anti fun h => nomatch h.1
    begun := fun h => absurd rfl h
    running := nofun
    queue := nofun
    lives := Nat.zero_lt_succ _ }

/-- The tick of an update: where the root is, and what is said of it. -/
theorem Invariant.ticked {t : LifeState fl} (h : t.Invariant) {sur : Surroundings fl}
    (hlives : t.tickLives algs sur < uintMax) :
    (t.ticked algs sur).1.status = .running ∧
      LifeTick False t.since (t.object.env sur) (t.ticked algs sur).2 t.phase (t.tickPhase algs sur) ∧
      LifeRoot False ((t.begun || t.tickPhase algs sur ≠ .birth) ∧ t.object.npc.initHp ≠ 0)
        (sinceTick t.since sur.timeTick t.phase (t.tickPhase algs sur)) (t.tickPhase algs sur)
        (t.tickLives algs sur) (t.ticked algs sur).1 := by
  obtain ⟨phase', hphase, hmove, hroot, -⟩ := h.root.tick algs h.lives (t.object.env sur)
  obtain rfl : t.tickPhase algs sur = phase' := hphase
  obtain ⟨hrunning, hroot⟩ := hroot hlives
  refine ⟨hrunning, hmove, hroot.anti ?_⟩
  -- Whoever is not alive now, and has been so before, has its selector inside already.
  rintro ⟨hbegun, hinit⟩
  have hphaseBegun := h.begun
  clear hroot
  generalize t.tickPhase algs sur = phase' at hmove hbegun ⊢
  generalize t.phase = phase at hmove hphaseBegun
  cases hmove with
  | unborn => exact .inl ⟨by simpa using hbegun, hinit⟩
  | born | alive => exact .inr rfl
  | stillborn init_eq => exact absurd (init_eq.resolve_right id) hinit
  | killed | dead | reborn => exact .inl ⟨hphaseBegun nofun, hinit⟩

/-- What an update leaves to be said once its tick is known. -/
theorem Invariant.updates {t : LifeState fl} (h : t.Invariant) {sur : Surroundings fl}
    (hlives : t.tickLives algs sur < uintMax) :
    t.Updates algs sur ∧ ∀ t', t.step algs (.update sur) = some t' → t'.Invariant := by
  obtain ⟨hrunning, hmove, hroot⟩ := h.ticked hlives
  have hinit : (t.ticked algs sur).2.npc.initHp = t.object.npc.initHp := hmove.initHp
  refine ⟨⟨hrunning, hmove, fun t' hstep => ?_, fun ids root env heq => ?_, fun hne => ?_,
    fun ids root env heq => ?_, fun ids root env heq => ?_⟩, fun t' hstep => ?_⟩
  · obtain ⟨⟨ids, root, env⟩, heq, rfl⟩ := Option.map_eq_some_iff.1 hstep
    exact (handleEvents_keeps heq).1.trans hrunning
  · exact (hroot.handleEvents heq).lifePhase_eq
  · rw [update_eq, Option.isSome_map]
    refine hroot.isSome_handleEvents (fun e he hbehaviour => ⟨?_, hne⟩) le_rfl
    by_cases hbirth : t.tickPhase algs sur = .birth
    · have hevents : (t.ticked algs sur).2.events = t.object.events := (hbirth ▸ hmove).events
      simp [h.queue e (hevents ▸ he) hbehaviour]
    · simp [hbirth]
  · exact ⟨(handleEvents_keeps heq).2.2, handleEvents_ids heq⟩
  · rw [handleEvents_ids heq]
    exact mem_passedIds
  · obtain ⟨⟨ids, root, env⟩, heq, rfl⟩ := Option.map_eq_some_iff.1 hstep
    obtain ⟨hstatus, hsame, hempty⟩ := handleEvents_keeps heq
    have hroot' := hroot.handleEvents heq
    have hphase := hroot'.lifePhase_eq
    have hinit' : env.npc.initHp = t.object.npc.initHp := hsame.initHp.trans hinit
    refine ⟨?_, fun hne => ?_, fun _ => hstatus.trans hrunning, fun e he => ?_, ?_⟩
    · change LifeRoot _ _ _ (lifePhase root) _ root
      rw [hphase]
      exact hroot'.anti fun hin => ⟨hin.1, hinit' ▸ hin.2⟩
    · have hbirth : t.tickPhase algs sur ≠ .birth := by
        intro hbirth
        refine hne (hphase.trans ?_)
        rw [hbirth, ite_self]
      simp [hbirth]
    · have he : e ∈ env.events.heap := he
      rw [hempty] at he
      cases he
    · dsimp only
      split
      · exact Nat.zero_lt_succ _
      · exact hlives

theorem Invariant.step {t t' : LifeState fl} {e : LifeEvent fl} (h : t.Invariant)
    (hadmissible : t.Admissible algs e) (hstep : t.step algs e = some t') : t'.Invariant := by
  cases e with
  | update sur => exact (h.updates hadmissible).2 t' hstep
  | addEvent id priority =>
    cases hstep
    exact { h with
      queue := fun e he hbehaviour => by
        rcases BtEventQueue.mem_emplace.1 he with he | rfl
        · exact h.queue e he hbehaviour
        · exact hadmissible hbehaviour }
  | write hp target linker currPos nextPos =>
    cases hstep
    exact { h with }

end LifeState

/-- **The life of an NPC.**  In every run of updates, events and writes, the root runs behind every update
from the first on; each update goes from phase to phase, and comes to its end. -/
theorem life_run {fl : NpcFloats} {algs : Heap.Algorithms BtEvent.less} {es : List (LifeEvent fl)}
    {t : LifeState fl}
    (hrun : ((LifeState.system algs).restrict (LifeState.Admissible algs)).Run es t) :
    (t.updated → t.object.root.status = .running) ∧
      ∀ sur, t.Admissible algs (.update sur) → t.Updates algs sur := by
  have hinv : t.Invariant := by
    refine hrun.restrict_invariant ?_ fun s e t hs hguard hstep => hs.step hguard hstep
    rintro s ⟨npc, config, rolls, hknown, rfl⟩
    exact LifeState.invariant_start npc rolls hknown
  exact ⟨hinv.running, fun sur hadmissible => (hinv.updates hadmissible).1⟩

/-! ### A skeleton -/

instance {fl : NpcFloats} (algs : Heap.Algorithms BtEvent.less) (t : LifeState fl) (e : LifeEvent fl) :
    Decidable (t.Admissible algs e) :=
  match e with
  | .update sur => inferInstanceAs (Decidable (t.tickLives algs sur < uintMax))
  | .addEvent id _ => inferInstanceAs (Decidable (id.isBehaviour → t.begun))
  | .write _ _ _ _ _ => .isTrue trivial

/-- Integers in place of floats. -/
def NpcFloats.int : NpcFloats where
  toFloatOps := .int
  ofInt := id
  abs := fun a : ℤ => (a.natAbs : ℤ)
  le := fun a b : ℤ => decide (a ≤ b)
  lowHp hp initHp := decide (10 * hp ≤ 3 * initHp)
  recovered hp initHp := decide (7 * initHp ≤ 10 * hp)

/-- Events that are kept sorted. -/
def sortedEvents : Heap.Algorithms BtEvent.less :=
  .sorted fun e : BtEvent => OrderDual.toDual e.priority

/-- The configuration of a public world. -/
def publicConfig : BtConfig := ⟨true, ["BtActPatrol", "BtActIdle", "BtActPursue", "BtActAttack", "BtActFlee"]⟩

/-- The place of a skeleton. -/
def lair : Vector3 NpcFloats.int.toFloatOps := ⟨(-15 : ℤ), (0 : ℤ), (15 : ℤ)⟩

/-- An NPC of a public world. -/
def skeleton : Npc .int :=
  { sn := 1, id := 0, lv := 1, hp := 100, initHp := 100, atk := 10, fleeing := false, rebirth := false,
    target := none, linker := none, initPos := lair, currPos := lair, nextPos := lair }

/-- A player stands where the skeleton is. -/
def besideSkeleton (timeTick : UInt64) : Surroundings .int := ⟨timeTick, [⟨7, 0⟩], fun _ => lair, Npc.firstPoint⟩

/-- The skeleton is born, is killed, is dead for a while, and is to be born again. -/
def skeletonLife : List (LifeEvent .int) :=
  [.update (besideSkeleton 1000), .update (besideSkeleton 3000), .update (besideSkeleton 3030),
    .write 0 (some ⟨7, 0⟩) none lair lair, .addEvent .pursue 0,
    .update (besideSkeleton 3060), .update (besideSkeleton 11060)]

theorem skeleton_init : (LifeState.system sortedEvents).init (.start skeleton publicConfig fun _ => 0) :=
  ⟨skeleton, publicConfig, fun _ => 0, ⟨"BtActIdle", by decide, by decide⟩, rfl⟩

/-- The skeleton lives once, and runs. -/
theorem life_skeleton : ∃ t : LifeState .int,
    ((LifeState.system sortedEvents).restrict (LifeState.Admissible sortedEvents)).Run skeletonLife t ∧
      t.lives = 1 ∧ t.object.root.status = .running := by
  have hrun : (System.execute (LifeState.step sortedEvents) (LifeState.Admissible sortedEvents)
      (.start skeleton publicConfig fun _ => 0) skeletonLife).map (fun t => (t.lives, t.updated)) =
        some (1, true) := by
    decide +kernel
  obtain ⟨t, ht, hfacts⟩ := Option.map_eq_some_iff.1 hrun
  obtain ⟨hlives, hupdated⟩ := Prod.mk.inj hfacts
  have hevents : ((LifeState.system sortedEvents).restrict (LifeState.Admissible sortedEvents)).Run
      skeletonLife t := System.run_of_execute skeleton_init ht
  exact ⟨t, hevents, hlives, (life_run hevents).1 hupdated⟩

end MmoServer
