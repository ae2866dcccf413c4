/-
**The rewards for an NPC.**

Players hit an NPC; who takes the last of its hp is granted its rewards.  The death of the NPC is noticed with
its next update and takes a while, and a hit that leaves no hp grants the rewards, whether there was any hp
before or not.  So the rewards of one life are granted once if nobody hits an NPC that is dead, and more often
otherwise.

Main definitions:

* `MmoServer.Moment`, `MmoServer.RewardEvent`, `MmoServer.RewardState` — what has happened to an NPC, what
  happens to it, and its state;
* `MmoServer.PaysOnce` — the rewards between the ends of two births;
* `MmoServer.RewardState.HitsAlive` — a hit that finds some hp.

Main results:

* `MmoServer.RewardState.births_or_hp`, `MmoServer.RewardState.Sound.update` — what a tick and an update do to
  the hp;
* `MmoServer.rewards_run` — **the rewards are granted once** in every run of hits that find some hp, and the
  first one that does not find any grants them again;
* `MmoServer.not_paysOnce` — a second hit.
-/

import MmoServer.NpcLife

set_option relaxedAutoImplicit false
set_option autoImplicit false

namespace MmoServer

open Transition

/-! ### What has happened -/

/-- What an event leaves: whether a birth has ended in it, the rewards that it has granted, and the hp behind
it. -/
structure Moment where
  born : Bool
  reward : Option (PlayerRef × DropItemList)
  hp : ℤ
  deriving DecidableEq

/-- How often rewards were granted. -/
def granted (moments : List Moment) : ℕ := moments.countP fun m => m.reward.isSome

/-- **From the end of a birth on**, up to the end of another one or to any moment before, the rewards are
granted at most once, and exactly once if the hp have been 0.  The last moment stands first. -/
def PaysOnce (history : List Moment) : Prop :=
  ∀ after life birth before, history = after ++ (life ++ birth :: before) → birth.born →
    (∀ m ∈ life, m.born = false) →
      granted life ≤ 1 ∧ (granted life = 1 ↔ ∃ m ∈ life, m.hp = 0)

/-- What happens to an NPC: an update, a hit by a player with some attack, an event that is queued, and a
message that writes its pointers to players or its place. -/
inductive RewardEvent (fl : NpcFloats)
  | update (sur : Surroundings fl)
  | attack (attacker : PlayerRef) (atk : ℕ) (rolls : DropRolls)
  | addEvent (id : BtEventId) (priority : ℤ)
  | write (target linker : Option PlayerRef) (currPos nextPos : Vector3 fl.toFloatOps)

/-- An NPC, and what has happened to it. -/
structure RewardState (fl : NpcFloats) where
  object : NpcObject fl
  history : List Moment

namespace RewardState

variable {fl : NpcFloats}

/-- An event has happened, and this is the NPC now. -/
def happens (t : RewardState fl) (object : NpcObject fl) (born : Bool)
    (reward : Option (PlayerRef × DropItemList)) : RewardState fl :=
  ⟨object, ⟨born, reward, object.npc.hp⟩ :: t.history⟩

variable (algs : Heap.Algorithms BtEvent.less)

/-- The steps of an NPC. -/
def step (t : RewardState fl) : RewardEvent fl → Option (RewardState fl)
  | .update sur =>
    (t.object.update algs sur).map fun (object, notes) => t.happens object (notes.contains .born) none
  | .attack attacker atk rolls =>
    let (object, reward) := t.object.getDamage algs attacker atk rolls
    some (t.happens object false (reward.map fun list => (attacker, list)))
  | .addEvent id priority => some (t.happens (t.object.addEvent algs id priority) false none)
  | .write target linker currPos nextPos =>
    some (t.happens { t.object with
      npc := { t.object.npc with
        target := target, linker := linker, currPos := currPos, nextPos := nextPos } } false none)

/-- An NPC that has just been made, with these hp. -/
def start (npc : Npc fl) (config : BtConfig) (rolls : ℕ → Fin 4) : RewardState fl :=
  ⟨.awake { npc with hp := npc.initHp } config rolls, []⟩

/-- The NPCs whose hp satisfy a condition at first. -/
def system (initHp : ℤ → Prop) : System (RewardState fl) (RewardEvent fl) :=
  .ofFun (fun t => ∃ npc config rolls, initHp npc.initHp ∧ t = start npc config rolls) (step algs)

/-- A hit finds some hp, once the NPC has ever been born. -/
def HitsAlive (t : RewardState fl) : RewardEvent fl → Prop
  | .attack _ _ _ => (∃ m ∈ t.history, m.born) → 0 < t.object.npc.hp
  | .update _ | .addEvent _ _ | .write _ _ _ _ => True

/-! ### What an update does to the hp -/

/-- The root goes round, or it has counted its last life. -/
def GoesRound (node : BtNode BtAct) : Prop :=
  node.status = .success ∨
    ∃ bare since phase lives, lives < uintMax ∧ LifeRoot bare False since phase lives node

/-- What an NPC has between two events. -/
structure Sound (object : NpcObject fl) : Prop where
  root : GoesRound object.root
  initHp : 0 < object.npc.initHp
  hp_nonneg : 0 ≤ object.npc.hp
  hp_le : object.npc.hp ≤ object.npc.initHp

/-- Only the end of a birth gives hp to an NPC that has none, and no tick takes the last hp. -/
theorem births_or_hp {bare : Prop} {since : UInt64} {env env' : NpcEnv fl} {phase phase' : LifePhase}
    (h : LifeTick bare since env env' phase phase') (hinit : 0 < env.npc.initHp) (hnonneg : 0 ≤ env.npc.hp)
    (hle : env.npc.hp ≤ env.npc.initHp) :
    0 ≤ env'.npc.hp ∧ env'.npc.hp ≤ env'.npc.initHp ∧
      (env'.births = env.births ∧ (env'.npc.hp = 0 ↔ env.npc.hp = 0) ∨
        env'.births = env.births + 1 ∧ 0 < env'.npc.hp) := by
  have hinit' := h.initHp
  -- At the end of a birth all hp are there.
  have hbear : env.bear.births = env.births + 1 := by
    simp [NpcEnv.births, NpcEnv.bear, NpcEnv.send]
  cases h with
  | unborn same | dead same | reborn _ _ same =>
    have hhp := same.hp
    exact ⟨by omega, by omega, .inl ⟨same.sameHp.births, by rw [hhp]⟩⟩
  | killed _ same =>
    have hhp := same.hp
    exact ⟨by omega, by omega, .inl ⟨same.births, by rw [hhp]⟩⟩
  | born _ lives =>
    obtain ⟨hpos, hle'⟩ := lives.hp hinit le_rfl
    exact ⟨hpos.le, hle', .inr ⟨lives.births.trans hbear, hpos⟩⟩
  | stillborn _ same =>
    have hhp : env'.npc.hp = env.npc.initHp := same.hp
    exact ⟨by omega, by omega, .inr ⟨same.births.trans hbear, by omega⟩⟩
  | alive hp_ne lives =>
    obtain ⟨hpos, hle'⟩ := lives.hp (by omega) hle
    exact ⟨hpos.le, hle', .inl ⟨lives.births, by omega⟩⟩

variable {algs}

variable (algs) in
/-- A tick of a root that goes round. -/
theorem Sound.tick {object : NpcObject fl} (h : Sound object) (sur : Surroundings fl) :
    let ended := object.root.tick (npcActions algs) (object.env sur)
    GoesRound ended.1 ∧ ended.2.npc.initHp = object.npc.initHp ∧ 0 ≤ ended.2.npc.hp ∧
      ended.2.npc.hp ≤ ended.2.npc.initHp ∧
      (ended.2.births = 0 ∧ (ended.2.npc.hp = 0 ↔ object.npc.hp = 0) ∨
        ended.2.births = 1 ∧ 0 < ended.2.npc.hp) := by
  rcases h.root with hdone | ⟨bare, since, phase, lives, hlt, hlife⟩
  · rw [BtNode.tick_of_isDone (npcActions algs) (by rw [hdone]; rfl)]
    exact ⟨.inl hdone, rfl, h.hp_nonneg, h.hp_le, .inl ⟨rfl, .rfl⟩⟩
  · obtain ⟨phase', -, hmove, hnext, hlast⟩ := hlife.tick algs hlt (object.env sur)
    obtain ⟨hnonneg, hle, hbirths⟩ := births_or_hp hmove h.initHp h.hp_nonneg h.hp_le
    refine ⟨?_, hmove.initHp, hnonneg, hle, hbirths⟩
    by_cases hlives : livesTick lives phase phase' < uintMax
    · exact .inr ⟨bare, _, phase', _, hlives, (hnext hlives).2.anti False.elim⟩
    · exact .inl (hlast (Nat.not_lt.1 hlives))

/-- The events behind it. -/
theorem GoesRound.handleEvents {node node' : BtNode BtAct} {env env' : NpcEnv fl} {rounds : ℕ}
    {ids : List BtEventId} (h : GoesRound node)
    (heq : NpcObject.handleEvents algs rounds node env = some (ids, node', env')) : GoesRound node' := by
  rcases h with hdone | ⟨bare, since, phase, lives, hlt, hlife⟩
  · exact .inl ((handleEvents_keeps heq).1.trans hdone)
  · refine .inr ⟨bare, since, _, _, ?_, hlife.handleEvents heq⟩
    split
    · exact Nat.zero_lt_succ _
    · exact hlt

/-- **An update** of an NPC: either a birth has ended in it and the NPC has hp, or it has some if it had some
before. -/
theorem Sound.update {object object' : NpcObject fl} {sur : Surroundings fl} {notes : List NpcNote}
    (h : Sound object) (heq : object.update algs sur = some (object', notes)) :
    Sound object' ∧ (notes.contains .born = false ∧ (object'.npc.hp = 0 ↔ object.npc.hp = 0) ∨
      notes.contains .born = true ∧ 0 < object'.npc.hp) := by
  obtain ⟨hround, hinit, hnonneg, hle, hbirths⟩ := h.tick algs sur
  obtain ⟨⟨ids, root, env'⟩, hhandle, hres⟩ := Option.map_eq_some_iff.1 heq
  cases hres
  obtain ⟨-, hsame, -⟩ := handleEvents_keeps hhandle
  have hhp := hsame.hp
  have hinit' := hsame.initHp.trans hinit
  have hcount : env'.notes.count .born = _ := hsame.births
  refine ⟨⟨hround.handleEvents hhandle, ?_, ?_, ?_⟩, ?_⟩
  · exact hinit' ▸ h.initHp
  · exact hhp ▸ hnonneg
  · exact hhp ▸ hsame.initHp ▸ hle
  · rcases hbirths with ⟨hnone, hiff⟩ | ⟨hone, hpos⟩
    · refine .inl ⟨?_, hhp ▸ hiff⟩
      simpa [List.count_eq_zero] using hcount.trans hnone
    · refine .inr ⟨?_, hhp ▸ hpos⟩
      have hmem : 0 < env'.notes.count .born := by omega
      simpa using List.count_pos_iff.1 hmem

variable (algs) in
/-- **A hit** grants the rewards exactly if it leaves no hp. -/
theorem Sound.getDamage {object : NpcObject fl} (h : Sound object) (attacker : PlayerRef) (atk : ℕ)
    (rolls : DropRolls) :
    Sound (object.getDamage algs attacker atk rolls).1 ∧
      (object.getDamage algs attacker atk rolls).1.npc.hp = max (object.npc.hp - atk) 0 ∧
      ((object.getDamage algs attacker atk rolls).2.isSome ↔ max (object.npc.hp - (atk : ℤ)) 0 = 0) := by
  have hinit := h.initHp
  have hle := h.hp_le
  rw [NpcObject.getDamage]
  refine ⟨?_, ?_, ?_⟩
  · dsimp only
    split
    · exact ⟨h.root, hinit, le_max_right _ _, by dsimp only [NpcObject.addEvent]; omega⟩
    · exact ⟨h.root, hinit, le_max_right _ _, by dsimp only; omega⟩
  · dsimp only
    split <;> rfl
  · generalize max (object.npc.hp - (atk : ℤ)) 0 = hp
    by_cases hzero : hp = 0 <;> simp [hzero]

/-- The first patrol points do not change the hp of a new NPC. -/
theorem awake_hp (npc : Npc fl) (config : BtConfig) (rolls : ℕ → Fin 4) :
    (NpcObject.awake npc config rolls).npc.hp = npc.hp ∧
      (NpcObject.awake npc config rolls).npc.initHp = npc.initHp := by
  rw [NpcObject.awake]
  refine List.foldlRecOn (motive := fun n : Npc fl => n.hp = npc.hp ∧ n.initHp = npc.initHp) _ _
    ⟨rfl, rfl⟩ fun n hn pair _ => ?_
  dsimp only
  split
  · exact hn
  · exact hn

theorem sound_start (npc : Npc fl) (config : BtConfig) (rolls : ℕ → Fin 4) (hinit : 0 < npc.initHp) :
    Sound (start npc config rolls).object := by
  obtain ⟨hhp, hinit'⟩ := awake_hp { npc with hp := npc.initHp } config rolls
  have hkinds : ∀ kind ∈ config.nodes.filterMap BtActKind.ofName,
      kind.eventId.isBehaviour ∧ kind ≠ .birth := by
    intro kind hkind
    obtain ⟨name, -, hname⟩ := List.mem_filterMap.1 hkind
    exact ofName_isBehaviour hname
  have hroot := lifeRoot_parseTree rolls 0 hkinds
  have hhp' : (start npc config rolls).object.npc.hp = npc.initHp := hhp
  have hinit'' : (start npc config rolls).object.npc.initHp = npc.initHp := hinit'
  exact ⟨.inr ⟨_, 0, .birth, 0, Nat.zero_lt_succ _, hroot⟩, by omega, by omega, by omega⟩

/-! ### The invariant -/

/-- What holds between two events: the rewards have been granted since the last birth if there are no hp. -/
structure Invariant (t : RewardState fl) : Prop where
  sound : Sound t.object
  pays : PaysOnce t.history
  current : ∀ life birth before, t.history = life ++ birth :: before → birth.born →
    (∀ m ∈ life, m.born = false) →
      granted life = (if t.object.npc.hp = 0 then 1 else 0) ∧
        ((∃ m ∈ life, m.hp = 0) ↔ t.object.npc.hp = 0)

/-- What happens keeps the invariant if it is the end of a birth, or if rewards are granted with the last
hp. -/
theorem Invariant.happens {t : RewardState fl} (h : t.Invariant) {object : NpcObject fl} {born : Bool}
    {reward : Option (PlayerRef × DropItemList)} (hsound : Sound object)
    (hmoment : born = true ∧ 0 < object.npc.hp ∨
      born = false ∧ ((∃ m ∈ t.history, m.born) → (t.object.npc.hp = 0 → object.npc.hp = 0) ∧
        (reward.isSome ↔ object.npc.hp = 0 ∧ t.object.npc.hp ≠ 0))) :
    (t.happens object born reward).Invariant := by
  have hcurrent : ∀ life birth before,
      (t.happens object born reward).history = life ++ birth :: before → birth.born →
      (∀ m ∈ life, m.born = false) →
        granted life = (if object.npc.hp = 0 then 1 else 0) ∧
          ((∃ m ∈ life, m.hp = 0) ↔ object.npc.hp = 0) := by
    intro life birth before heq hborn hlife
    cases life with
    | nil =>
      obtain ⟨rfl, -⟩ := List.cons.inj heq
      rcases hmoment with ⟨-, hpos⟩ | ⟨hunborn, -⟩
      · have hne : object.npc.hp ≠ 0 := by omega
        simp [granted, hne]
      · cases hborn.symm.trans hunborn
    | cons last life =>
      obtain ⟨rfl, hrest⟩ := List.cons.inj heq
      obtain ⟨hunborn, hlife⟩ := List.forall_mem_cons.1 hlife
      obtain ⟨hgranted, hzero⟩ := h.current life birth before hrest hborn hlife
      rcases hmoment with ⟨hborn', -⟩ | ⟨-, hhit⟩
      · cases hborn'.symm.trans hunborn
      · obtain ⟨hstays, hreward⟩ := hhit ⟨birth, hrest ▸ List.mem_append_right life (.head before), hborn⟩
        have hcons : granted (⟨born, reward, object.npc.hp⟩ :: life) =
            granted life + if reward.isSome then 1 else 0 := List.countP_cons
        rw [hcons, hgranted, List.exists_mem_cons_iff, hzero]
        by_cases hbefore : t.object.npc.hp = 0
        · simp [hreward, hbefore, hstays hbefore]
        · by_cases hnow : object.npc.hp = 0 <;> simp [hreward, hbefore, hnow]
  refine ⟨hsound, fun after life birth before heq hborn hlife => ?_, hcurrent⟩
  cases after with
  | nil =>
    obtain ⟨hgranted, hzero⟩ := hcurrent life birth before heq hborn hlife
    rw [hgranted, hzero]
    split <;> simp_all
  | cons last after => exact h.pays after life birth before (List.cons.inj heq).2 hborn hlife

theorem step_attack (t : RewardState fl) (attacker : PlayerRef) (atk : ℕ) (rolls : DropRolls) :
    t.step algs (.attack attacker atk rolls) =
      some (t.happens (t.object.getDamage algs attacker atk rolls).1 false
        ((t.object.getDamage algs attacker atk rolls).2.map fun list => (attacker, list))) := rfl

/-- The hp stay within bounds, whoever hits. -/
theorem Sound.step {t t' : RewardState fl} {e : RewardEvent fl} (h : Sound t.object)
    (hstep : t.step algs e = some t') : Sound t'.object := by
  cases e with
  | update sur =>
    obtain ⟨⟨object, notes⟩, heq, rfl⟩ := Option.map_eq_some_iff.1 hstep
    exact (h.update heq).1
  | attack attacker atk rolls =>
    rw [step_attack] at hstep
    obtain rfl := Option.some.inj hstep
    exact (h.getDamage algs attacker atk rolls).1
  | addEvent id priority =>
    cases hstep
    exact ⟨h.root, h.initHp, h.hp_nonneg, h.hp_le⟩
  | write target linker currPos nextPos =>
    cases hstep
    exact ⟨h.root, h.initHp, h.hp_nonneg, h.hp_le⟩

theorem Invariant.step {t t' : RewardState fl} {e : RewardEvent fl} (h : t.Invariant)
    (hguard : t.HitsAlive e) (hstep : t.step algs e = some t') : t'.Invariant := by
  have hsound := h.sound.step hstep
  cases e with
  | update sur =>
    obtain ⟨⟨object, notes⟩, heq, rfl⟩ := Option.map_eq_some_iff.1 hstep
    obtain ⟨-, ⟨hunborn, hiff⟩ | ⟨hborn, hpos⟩⟩ := h.sound.update heq
    · exact h.happens hsound (.inr ⟨hunborn, fun _ => ⟨hiff.2, by simp [hiff]⟩⟩)
    · exact h.happens hsound (.inl ⟨hborn, hpos⟩)
  | attack attacker atk rolls =>
    rw [step_attack] at hstep
    obtain rfl := Option.some.inj hstep
    obtain ⟨-, hhp, hreward⟩ := h.sound.getDamage algs attacker atk rolls
    refine h.happens hsound (.inr ⟨rfl, fun hborn => ?_⟩)
    have hpos := hguard hborn
    rw [Option.isSome_map, hreward, hhp]
    exact ⟨fun hzero => absurd hzero (by omega), ⟨fun hzero => ⟨hzero, by omega⟩, And.left⟩⟩
  | addEvent id priority =>
    cases hstep
    exact h.happens hsound (.inr ⟨rfl, fun _ => ⟨fun hzero => hzero, by simp [NpcObject.addEvent]⟩⟩)
  | write target linker currPos nextPos =>
    cases hstep
    exact h.happens hsound (.inr ⟨rfl, fun _ => ⟨fun hzero => hzero, by simp⟩⟩)

/-- A hit on an NPC that has died since its last birth grants the rewards once more. -/
theorem Invariant.not_paysOnce {t t' : RewardState fl} {e : RewardEvent fl} (h : t.Invariant)
    (hguard : ¬ t.HitsAlive e) (hstep : t.step algs e = some t') : ¬ PaysOnce t'.history := by
  cases e with
  | attack attacker atk rolls =>
    rw [step_attack] at hstep
    obtain rfl := Option.some.inj hstep
    obtain ⟨⟨m, hm, hmborn⟩, hdead⟩ := Classical.not_imp.1 hguard
    obtain ⟨birth, hfind⟩ := Option.isSome_iff_exists.1
      (List.find?_isSome.2 ⟨m, hm, hmborn⟩ : (t.history.find? fun m => m.born).isSome)
    obtain ⟨hborn, life, before, heq, hlife⟩ := List.find?_eq_some_iff_append.1 hfind
    have hlife : ∀ m ∈ life, m.born = false := by simpa using hlife
    have hnonneg := h.sound.hp_nonneg
    have hzero : t.object.npc.hp = 0 := by omega
    obtain ⟨-, -, hreward⟩ := h.sound.getDamage algs attacker atk rolls
    have hgranted := (h.current life birth before heq hborn hlife).1
    rw [if_pos hzero] at hgranted
    -- Behind the last birth the rewards had been granted already.
    intro hpays
    obtain ⟨hle, -⟩ := hpays [] (_ :: life) birth before (congrArg (List.cons _) heq) hborn
      (List.forall_mem_cons.2 ⟨rfl, hlife⟩)
    rw [granted, List.countP_cons, ← granted, hgranted, Option.isSome_map, if_pos (hreward.2 (by omega))]
      at hle
    omega
  | update | addEvent | write => exact absurd trivial hguard

theorem invariant_start (npc : Npc fl) (config : BtConfig) (rolls : ℕ → Fin 4) (hinit : 0 < npc.initHp) :
    (start npc config rolls).Invariant where
  sound := sound_start npc config rolls hinit
  pays := by
    rintro after life birth before heq
    simp [start] at heq
  current := by
    rintro life birth before heq
    simp [start] at heq

end RewardState

/-- **The rewards for an NPC.**  Its hp stay within bounds in every run.  In the runs of hits that find some hp
once the NPC has been born, the rewards of every life are granted once if the NPC dies in it; and the first hit
that does not find any grants them again. -/
theorem rewards_run {fl : NpcFloats} {algs : Heap.Algorithms BtEvent.less} {es : List (RewardEvent fl)}
    {t : RewardState fl} (hrun : (RewardState.system algs (0 < ·)).Run es t) :
    (0 ≤ t.object.npc.hp ∧ t.object.npc.hp ≤ t.object.npc.initHp) ∧
      (((RewardState.system algs (0 < ·)).restrict RewardState.HitsAlive).Run es t →
        PaysOnce t.history ∧ ∀ e t', t.step algs e = some t' → (PaysOnce t'.history ↔ t.HitsAlive e)) := by
  have hsound : RewardState.Sound t.object := by
    refine hrun.invariant (p := fun t => RewardState.Sound t.object) ?_ fun s e t hs hstep => hs.step hstep
    rintro s ⟨npc, config, rolls, hinit, rfl⟩
    exact RewardState.sound_start npc config rolls hinit
  refine ⟨⟨hsound.hp_nonneg, hsound.hp_le⟩, fun hhits => ?_⟩
  refine hhits.restrict_exact (p := RewardState.Invariant) (q := fun t => PaysOnce t.history) ?_
    (fun s hs => hs.pays) fun s e t hs hstep => ⟨⟨fun hpays => ?_, fun hguard => ?_⟩, fun hguard => ?_⟩
  · rintro s ⟨npc, config, rolls, hinit, rfl⟩
    exact RewardState.invariant_start npc config rolls hinit
  · exact by_contra fun hguard => hs.not_paysOnce hguard hstep hpays
  · exact (hs.step hguard hstep).pays
  · exact hs.step hguard hstep

/-! ### A skeleton that is hit -/

instance {fl : NpcFloats} (t : RewardState fl) (e : RewardEvent fl) : Decidable (t.HitsAlive e) :=
  match e with
  | .attack _ _ _ =>
    decidable_of_iff (t.history.any Moment.born = true → 0 < t.object.npc.hp)
      (by simp only [RewardState.HitsAlive, List.any_eq_true])
  | .update _ | .addEvent _ _ | .write _ _ _ _ => .isTrue trivial

/-- A skeleton drops nothing. -/
def noDrops : DropRolls := ⟨false, 0, fun _ => 0, false, 0, fun _ => 0⟩

/-- The skeleton is born, is killed, and is born again. -/
def skeletonKilled : List (RewardEvent .int) :=
  [.update (besideSkeleton 1000), .update (besideSkeleton 3000), .attack ⟨7, 0⟩ 100 noDrops,
    .update (besideSkeleton 3030), .update (besideSkeleton 11030), .update (besideSkeleton 11060),
    .update (besideSkeleton 13060)]

/-- The same with another hit while it is dead. -/
def skeletonHitTwice : List (RewardEvent .int) :=
  [.update (besideSkeleton 1000), .update (besideSkeleton 3000), .attack ⟨7, 0⟩ 100 noDrops,
    .attack ⟨8, 1⟩ 5 noDrops, .update (besideSkeleton 3030), .update (besideSkeleton 11030),
    .update (besideSkeleton 11060), .update (besideSkeleton 13060)]

/-- The skeleton. -/
def skeletonReward : RewardState .int := .start skeleton publicConfig fun _ => Npc.firstPoint

theorem skeletonReward_init : (RewardState.system sortedEvents (0 < ·)).init skeletonReward :=
  ⟨skeleton, publicConfig, fun _ => Npc.firstPoint, by decide, rfl⟩

/-- The rewards for the skeleton. -/
def skeletonDrops : DropItemList := ⟨1, 55, 110, []⟩

/-- Whoever kills the skeleton is granted its rewards. -/
theorem rewards_skeleton : ∃ t : RewardState .int,
    ((RewardState.system sortedEvents (0 < ·)).restrict RewardState.HitsAlive).Run skeletonKilled t ∧
      granted t.history = 1 ∧ PaysOnce t.history := by
  have hrun : (System.execute (RewardState.step sortedEvents) RewardState.HitsAlive skeletonReward
      skeletonKilled).map (fun t => granted t.history) = some 1 := by
    decide +kernel
  obtain ⟨t, ht, hgranted⟩ := Option.map_eq_some_iff.1 hrun
  have hevents : ((RewardState.system sortedEvents (0 < ·)).restrict RewardState.HitsAlive).Run
      skeletonKilled t := System.run_of_execute skeletonReward_init ht
  exact ⟨t, hevents, hgranted, ((rewards_run hevents.of_restrict).2 hevents).1⟩

/-- **A hit on the dead skeleton** grants its rewards to another player, before it is born again. -/
theorem not_paysOnce : ¬ ∀ (fl : NpcFloats) (algs : Heap.Algorithms BtEvent.less)
    (es : List (RewardEvent fl)) (t : RewardState fl),
    (RewardState.system algs (0 < ·)).Run es t → PaysOnce t.history := by
  intro hall
  have hrun : (System.execute (RewardState.step sortedEvents) (fun _ _ => True) skeletonReward
      skeletonHitTwice).map RewardState.history = some
        [⟨true, none, 100⟩, ⟨false, none, 0⟩, ⟨false, none, 0⟩, ⟨false, none, 0⟩,
          ⟨false, some (⟨8, 1⟩, skeletonDrops), 0⟩, ⟨false, some (⟨7, 0⟩, skeletonDrops), 0⟩,
          ⟨true, none, 100⟩, ⟨false, none, 100⟩] := by
    decide +kernel
  obtain ⟨t, ht, hhistory⟩ := Option.map_eq_some_iff.1 hrun
  have hevents : (RewardState.system sortedEvents (0 < ·)).Run
      skeletonHitTwice t := System.run_of_execute_true skeletonReward_init ht
  have hpays := hall .int sortedEvents skeletonHitTwice t hevents
  rw [hhistory] at hpays
  obtain ⟨hle, -⟩ := hpays [⟨true, none, 100⟩]
    [⟨false, none, 0⟩, ⟨false, none, 0⟩, ⟨false, none, 0⟩, ⟨false, some (⟨8, 1⟩, skeletonDrops), 0⟩,
      ⟨false, some (⟨7, 0⟩, skeletonDrops), 0⟩] ⟨true, none, 100⟩ [⟨false, none, 100⟩] rfl rfl (by decide)
  exact absurd hle (by decide)

end MmoServer
