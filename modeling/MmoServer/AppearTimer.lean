/-
**The appearance timer of a world.**

A world registers its two timers when it awakes, and gives them up when `G2S_RemovePlayer` takes the last
player from a dungeon.  The world is still there then, and the game process of a team remembers it: the
players that come back wait for a timer that is gone.

Main definitions:

* `MmoServer.WorldThread`, `MmoServer.WorldThread.system` — a world, the timers of its thread, and what the
  other components of the thread do to these;
* `MmoServer.WorldThread.Registered`, `MmoServer.WorldThread.Armed` — the appearance timer is there, and
  it is there whenever some player waits for it;
* `MmoServer.WorldThread.KeepsArmed` — the steps that leave no one waiting;
* `MmoServer.WorldThread.KeepsTimer` — the steps that do not give the timer up.

Main results:

* `MmoServer.armed_run` — **the timer is armed** in every run of steps that leave no one waiting;
* `MmoServer.WorldThread.armed_iff` — **one message**, exactly;
* `MmoServer.registered_run` — a world whose timer is never given up has it for ever;
* `MmoServer.not_armed` — a team comes back to its dungeon.
-/

import MmoServer.SpaceWorld
import MmoServer.TimerComponent
import MmoServer.Transition

set_option relaxedAutoImplicit false
set_option autoImplicit false

namespace MmoServer

open Std Handler

/-! ### The thread of a world -/

/-- The handlers of the timers of a thread, from the view of one world. -/
inductive WorldHandler
  | syncWorldToGather
  | syncAppearTimer
  /-- A timer of another component. -/
  | other
  deriving DecidableEq

/-- What another component does to its timers. -/
inductive TimerCall
  | addTimer (total durations : ℤ) (immediateDo : Bool) (immediateDoDelaySecond : ℤ)
  | removeTimer (timer : UInt64)
  deriving DecidableEq

/-- A world in its thread, with the serial numbers of the timers that other components were given. -/
structure WorldThread (fl : FloatOps) where
  global : Global
  timers : TimerComponent WorldHandler
  others : List UInt64
  world : SpaceWorld fl

/-- What happens. -/
inductive ThreadEvent (fl : FloatOps)
  | global (e : GlobalEvent)
  | call (c : TimerCall)
  /-- A round of the loop of `TimerComponent::Update`; the handler of another component makes the calls. -/
  | update (calls : List TimerCall)
  | syncPlayer (identify : NetIdentify) (proto : SyncPlayer fl)
  | removePlayer (identify : NetIdentify) (playerSn : UInt64)
  | networkDisconnect (identify : NetIdentify)

namespace WorldThread

variable {fl : FloatOps}

section Steps

variable (algs : Heap.Algorithms (@compareTimer WorldHandler))

/-- `World::Awake`: two timers without an end, of ten seconds and of one. -/
def awake (global : Global) (timers : TimerComponent WorldHandler) (others : List UInt64)
    (sn : UInt64) (worldId : ℤ) (worldType : ResourceWorldType) (bodies : UInt64 → PlayerBody fl) :
    WorldThread fl :=
  let syncWorld := timers.add algs global 0 10 false 0 .syncWorldToGather
  let syncAppear := syncWorld.2.2.add algs syncWorld.2.1 0 1 false 0 .syncAppearTimer
  { global := syncAppear.2.1
    timers := syncAppear.2.2
    others := others
    world :=
      { sn := sn
        worldId := worldId
        worldType := worldType
        syncWorldTimer := syncWorld.1
        syncAppearTimer := syncAppear.1
        playerMgr := .empty
        bodies := bodies
        adds := ∅ } }

/-- Another component adds a timer, or removes one that it was given. -/
def call (s : WorldThread fl) : TimerCall → Option (WorldThread fl)
  | .addTimer total durations immediateDo immediateDoDelaySecond =>
    let added := s.timers.add algs s.global total durations immediateDo immediateDoDelaySecond .other
    some { s with
      global := added.2.1
      timers := added.2.2
      others := s.others ++ [added.1] }
  | .removeTimer timer =>
    if timer ∈ s.others then some { s with timers := s.timers.remove algs timer } else none

/-- What a message of the world does to the timers. -/
def perform (s : WorldThread fl) : WorldMsg fl → WorldThread fl
  | .removeTimer timer => { s with timers := s.timers.remove algs timer }
  | .send _ _ | .savePlayer _ | .dungeonDisapper _ => s

/-- A handler of the world has run. -/
def after (s : WorldThread fl) (o : Outcome (SpaceWorld fl) (WorldMsg fl)) : Option (WorldThread fl) :=
  o.state.map fun world => o.sent.foldl (perform algs) { s with world := world }

/-- The handler of a timer that is not in the heap. -/
def handle (s : WorldThread fl) (calls : List TimerCall) : WorldHandler → Option (WorldThread fl)
  | .syncWorldToGather => if calls = [] then some s else none
  | .syncAppearTimer => if calls = [] then s.after algs s.world.syncAppear else none
  | .other => calls.foldlM (call algs) s

/-- The timer is put back, unless it has had all its calls. -/
def putBack (s : WorldThread fl) (data : Timer WorldHandler) : WorldThread fl :=
  match data.rearm s.global.timeTick with
  | none => s
  | some data => { s with timers := s.timers.insert algs data }

/-- A round of the loop of `TimerComponent::Update`. -/
def update (s : WorldThread fl) (calls : List TimerCall) : Option (WorldThread fl) :=
  if s.timers.checkTime s.global.timeTick then
    (s.timers.popTimeHeap algs).bind fun (data, timers) =>
      (({ s with timers := timers } : WorldThread fl).handle algs calls data.handler).map fun t =>
        t.putBack algs data
  else none

/-- One event. -/
def step (s : WorldThread fl) : ThreadEvent fl → Option (WorldThread fl)
  | .global e => (s.global.step e).map fun global => { s with global := global }
  | .call c => s.call algs c
  | .update calls => s.update algs calls
  | .syncPlayer identify proto => s.after algs (s.world.handleSyncPlayer identify proto)
  | .removePlayer identify playerSn => s.after algs (s.world.handleG2SRemovePlayer identify playerSn)
  | .networkDisconnect identify => s.after algs (s.world.handleNetworkDisconnect identify)

/-- The system.  A world awakes in a thread that may have timers of other components. -/
def system : Transition.System (WorldThread fl) (ThreadEvent fl) :=
  Transition.System.ofFun
    (fun s => ∃ global timers others sn worldId worldType bodies,
      (∀ t ∈ timers.heap, t.handler = .other) ∧
        s = awake algs global timers others sn worldId worldType bodies)
    (step algs)

end Steps

/-- The appearance timer is registered. -/
def Registered (s : WorldThread fl) : Prop :=
  ∃ t ∈ s.timers.heap, t.sn = s.world.syncAppearTimer ∧ t.handler = .syncAppearTimer

/-- **The timer is armed** whenever some player is still to be announced. -/
def Armed (s : WorldThread fl) : Prop := ∀ sn ∈ s.world.adds, s.Registered

/-- The call removes no timer with the number of the appearance timer. -/
def Spares (s : WorldThread fl) : TimerCall → Prop
  | .addTimer _ _ _ _ => True
  | .removeTimer timer => timer ≠ s.world.syncAppearTimer

/-- **Steps that leave no one waiting.**  A player that enters finds the timer registered; when a dungeon
gives up its timers no player is still to be announced; and no other component removes a timer with the
same number, while one is. -/
def KeepsArmed (s : WorldThread fl) : ThreadEvent fl → Prop
  | .syncPlayer _ proto =>
    s.world.playerMgr.getPlayerBySn proto.playerSn = none → s.Registered
  | .removePlayer identify playerSn => s.world.EmptiesDungeon identify playerSn → s.world.adds = ∅
  | .call c => s.Spares c ∨ s.world.adds = ∅
  | .update calls => (∀ c ∈ calls, s.Spares c) ∨ s.world.adds = ∅
  | .global _ | .networkDisconnect _ => True

/-- Steps that do not give the timer up. -/
def KeepsTimer (s : WorldThread fl) : ThreadEvent fl → Prop
  | .removePlayer identify playerSn => ¬ s.world.EmptiesDungeon identify playerSn
  | .call c => s.Spares c
  | .update calls => ∀ c ∈ calls, s.Spares c
  | .syncPlayer _ _ | .global _ | .networkDisconnect _ => True

variable {algs : Heap.Algorithms (@compareTimer WorldHandler)} {s t : WorldThread fl}

/-! ### The timers behind a step -/

/-- The messages of a handler change the timers, and nothing else. -/
theorem foldl_perform (sent : List (WorldMsg fl)) (s : WorldThread fl) :
    sent.foldl (perform algs) s =
      { s with
        timers := (sent.filterMap WorldMsg.removed).foldl (TimerComponent.remove algs) s.timers } := by
  induction sent generalizing s with
  | nil => rfl
  | cons m sent ih =>
    rw [List.foldl_cons, ih]
    cases m <;> rfl

/-- A handler of the world that removes no timer. -/
theorem after_keeps {o : Outcome (SpaceWorld fl) (WorldMsg fl)} {P : SpaceWorld fl → Prop}
    (ho : o.Ends fun sent world => sent.filterMap WorldMsg.removed = [] ∧ P world)
    (h : s.after algs o = some t) : P t.world ∧ t.timers = s.timers := by
  obtain ⟨world, hworld, rfl⟩ := Option.map_eq_some_iff.1 h
  obtain ⟨hremoved, hp⟩ := ho world hworld
  rw [foldl_perform, hremoved]
  exact ⟨hp, rfl⟩

/-- **A player that comes** costs no timer. -/
theorem syncPlayer_spec {identify : NetIdentify} {proto : SyncPlayer fl}
    (hv : s.step algs (.syncPlayer identify proto) = some t) :
    ∃ world sent, SpaceWorld.SyncsPlayer s.world proto sent world ∧ t = { s with world := world } := by
  obtain ⟨world, hworld, rfl⟩ := Option.map_eq_some_iff.1 hv
  have hspec := SpaceWorld.handleSyncPlayer_spec identify proto world hworld
  refine ⟨world, _, hspec, ?_⟩
  rw [foldl_perform, SpaceWorld.removed_syncPlayer hspec]
  rfl

/-- **A player that leaves** costs the timers of the world exactly if it empties a dungeon. -/
theorem removePlayer_spec {identify : NetIdentify} {playerSn : UInt64}
    (hv : s.step algs (.removePlayer identify playerSn) = some t) :
    t.world.adds = s.world.adds ∧ t.world.syncAppearTimer = s.world.syncAppearTimer ∧
      (s.world.EmptiesDungeon identify playerSn ∧ t.timers =
          (s.timers.remove algs s.world.syncWorldTimer).remove algs s.world.syncAppearTimer ∨
        ¬ s.world.EmptiesDungeon identify playerSn ∧ t.timers = s.timers) := by
  obtain ⟨world, hworld, rfl⟩ := Option.map_eq_some_iff.1 hv
  obtain ⟨hadds, htimer, hremoved⟩ :=
    SpaceWorld.handleG2SRemovePlayer_removed identify playerSn world hworld
  rw [foldl_perform]
  refine ⟨hadds, htimer, hremoved.imp ?_ ?_⟩
  · rintro ⟨hempties, hboth⟩
    exact ⟨hempties, by rw [hboth]; rfl⟩
  · rintro ⟨hnot, hnone⟩
    exact ⟨hnot, by rw [hnone]; rfl⟩

/-- A timer stays where another component removes none with its number. -/
theorem call_mem {c : TimerCall} (h : s.call algs c = some t) :
    t.world = s.world ∧ ∀ u ∈ s.timers.heap, u.sn = s.world.syncAppearTimer → s.Spares c →
      u ∈ t.timers.heap := by
  cases c with
  | addTimer total durations immediateDo immediateDoDelaySecond =>
    obtain rfl := Option.some.inj h
    exact ⟨rfl, fun u hu _ _ => TimerComponent.mem_insert.2 (.inl hu)⟩
  | removeTimer timer =>
    simp only [call] at h
    split at h
    · obtain rfl := Option.some.inj h
      refine ⟨rfl, fun u hu hsn hspares => (TimerComponent.mem_remove_of_ne ?_).2 hu⟩
      rw [hsn]
      exact Ne.symm hspares
    · cases h

theorem calls_mem {calls : List TimerCall} (h : calls.foldlM (call algs) s = some t) :
    t.world = s.world ∧ ∀ u ∈ s.timers.heap, u.sn = s.world.syncAppearTimer →
      (∀ c ∈ calls, s.Spares c) → u ∈ t.timers.heap := by
  induction calls generalizing s with
  | nil =>
    obtain rfl := Option.some.inj h
    exact ⟨rfl, fun u hu _ _ => hu⟩
  | cons c calls ih =>
    obtain ⟨r, hr, hrest⟩ := Option.bind_eq_some_iff.1 h
    obtain ⟨hworld, hmem⟩ := call_mem hr
    obtain ⟨hworld', hmem'⟩ := ih hrest
    refine ⟨hworld'.trans hworld, fun u hu hsn hspares => ?_⟩
    refine hmem' u (hmem u hu hsn (hspares c (.head _))) (hworld ▸ hsn) fun c' hc' => ?_
    unfold Spares
    rw [hworld]
    exact hspares c' (.tail _ hc')

theorem putBack_mem {data u : Timer WorldHandler} :
    u ∈ (s.putBack algs data).timers.heap ↔
      u ∈ s.timers.heap ∨ data.rearm s.global.timeTick = some u := by
  unfold putBack
  cases hrearm : data.rearm s.global.timeTick with
  | none => simp
  | some again =>
    rw [TimerComponent.mem_insert, Option.some.injEq, eq_comm]

theorem putBack_world (s : WorldThread fl) (data : Timer WorldHandler) :
    (s.putBack algs data).world = s.world := by
  unfold putBack
  split
  · rfl
  · rfl

/-- What a round of the loop does: the first timer is taken out, and its handler runs. -/
theorem update_cases {calls : List TimerCall} (h : s.update algs calls = some t) :
    ∃ (data : Timer WorldHandler) (timers : TimerComponent WorldHandler) (u : WorldThread fl),
      (∀ a, a ∈ s.timers.heap ↔ a = data ∨ a ∈ timers.heap) ∧
        ({ s with timers := timers } : WorldThread fl).handle algs calls data.handler = some u ∧
          t = u.putBack algs data := by
  unfold update at h
  split at h
  · rename_i hcheck
    obtain ⟨⟨data, timers⟩, hpop, hhandle⟩ := Option.bind_eq_some_iff.1 h
    obtain ⟨u, hu, rfl⟩ := Option.map_eq_some_iff.1 hhandle
    refine ⟨data, timers, u, fun a => ?_, hu, rfl⟩
    cases hheap : s.timers.heap with
    | nil =>
      unfold TimerComponent.checkTime at hcheck
      rw [hheap] at hcheck
      cases hcheck
    | cons b l =>
      obtain ⟨rest, hrest, hperm⟩ := TimerComponent.popTimeHeap_eq algs hheap
      obtain ⟨rfl, rfl⟩ := Prod.mk.inj (Option.some.inj (hpop.symm.trans hrest))
      rw [List.mem_cons, hperm.mem_iff]
  · cases h

/-- What the handler of a timer does: one of another component calls the timers, and `SyncAppearTimer` leaves
no new players. -/
theorem handle_cases {calls : List TimerCall} {handler : WorldHandler}
    (h : s.handle algs calls handler = some t) :
    handler = .syncWorldToGather ∧ t = s ∨
      handler = .syncAppearTimer ∧ t = { s with world := { s.world with adds := ∅ } } ∨
        handler = .other ∧ calls.foldlM (call algs) s = some t := by
  cases handler with
  | syncWorldToGather =>
    simp only [handle] at h
    split at h
    · exact .inl ⟨rfl, (Option.some.inj h).symm⟩
    · cases h
  | syncAppearTimer =>
    simp only [handle] at h
    split at h
    · obtain ⟨world, hworld, rfl⟩ := Option.map_eq_some_iff.1 h
      rw [SpaceWorld.syncAppear_state] at hworld
      refine .inr (.inl ⟨rfl, ?_⟩)
      rw [foldl_perform, SpaceWorld.removed_syncAppear, ← Option.some.inj hworld]
      rfl
    · cases h
  | other => exact .inr (.inr ⟨rfl, h⟩)

/-! ### Steps that leave no one waiting -/

theorem Registered.of_mem (h : s.Registered) (hworld : t.world.syncAppearTimer = s.world.syncAppearTimer)
    (hmem : ∀ u ∈ s.timers.heap, u.sn = s.world.syncAppearTimer → u.handler = .syncAppearTimer →
      u ∈ t.timers.heap) : t.Registered := by
  obtain ⟨u, hu, hsn, hhandler⟩ := h
  exact ⟨u, hmem u hu hsn hhandler, hsn.trans hworld.symm, hhandler⟩

theorem Armed.of_adds_empty (h : t.world.adds = ∅) : t.Armed := by
  intro sn hsn
  rw [h] at hsn
  exact absurd hsn ExtTreeSet.not_mem_empty

/-- A round of the loop leaves no one waiting. -/
theorem Armed.update (h : s.Armed) {calls : List TimerCall}
    (hspares : (∀ c ∈ calls, s.Spares c) ∨ s.world.adds = ∅)
    (hv : s.update algs calls = some t) : t.Armed := by
  obtain ⟨data, timers, u, hheap, hhandle, rfl⟩ := update_cases hv
  -- With another handler the timer is not the one that was taken out, and stays in the heap.
  have hother : data.handler ≠ .syncAppearTimer → u.world = s.world →
      (∀ a ∈ timers.heap, a.sn = s.world.syncAppearTimer → (∀ c ∈ calls, s.Spares c) →
        a ∈ u.timers.heap) → (u.putBack algs data).Armed := by
    intro hne hworld hmem sn hsn
    rw [putBack_world, hworld] at hsn
    rcases hspares with hspares | hempty
    · refine (h sn hsn).of_mem (by rw [putBack_world, hworld]) fun a ha hasn hahandler => ?_
      rcases (hheap a).1 ha with rfl | hrest
      · exact absurd hahandler hne
      · exact putBack_mem.2 (.inl (hmem a hrest hasn hspares))
    · rw [hempty] at hsn
      exact absurd hsn ExtTreeSet.not_mem_empty
  obtain ⟨hhandler, rfl⟩ | ⟨-, rfl⟩ | ⟨hhandler, hcalls⟩ := handle_cases hhandle
  · exact hother (by simp [hhandler]) rfl fun a ha _ _ => ha
  · refine Armed.of_adds_empty ?_
    rw [putBack_world]
  · obtain ⟨hworld, hmem⟩ := calls_mem hcalls
    exact hother (by simp [hhandler]) hworld hmem

/-- **One step** that leaves no one waiting. -/
theorem Armed.step (h : s.Armed) {e : ThreadEvent fl} (hkeeps : s.KeepsArmed e)
    (hv : s.step algs e = some t) : t.Armed := by
  cases e with
  | global e =>
    obtain ⟨global, -, rfl⟩ := Option.map_eq_some_iff.1 hv
    exact h
  | call c =>
    obtain ⟨hworld, hmem⟩ := call_mem hv
    rcases hkeeps with hspares | hempty
    · intro sn hsn
      rw [hworld] at hsn
      exact (h sn hsn).of_mem (by rw [hworld]) fun u hu husn _ => hmem u hu husn hspares
    · exact Armed.of_adds_empty (hworld ▸ hempty)
  | update calls => exact h.update hkeeps hv
  | syncPlayer identify proto =>
    obtain ⟨world, sent, hspec, rfl⟩ := syncPlayer_spec hv
    cases hspec with
    | known => exact h
    | enters hsn hfree hplayers => exact fun sn _ => hkeeps hfree
  | removePlayer identify playerSn =>
    obtain ⟨hadds, htimer, ⟨hempties, -⟩ | ⟨-, hsame⟩⟩ := removePlayer_spec hv
    · exact Armed.of_adds_empty (hadds.trans (hkeeps hempties))
    · intro sn hsn
      exact (h sn (hadds ▸ hsn)).of_mem htimer fun u hu _ _ => hsame ▸ hu
  | networkDisconnect identify =>
    obtain ⟨⟨hadds, htimer⟩, htimers⟩ :=
      after_keeps (SpaceWorld.handleNetworkDisconnect_keeps identify) hv
    intro sn hsn
    exact (h sn (hadds ▸ hsn)).of_mem htimer fun u hu _ _ => htimers ▸ hu

/-! ### One message, exactly -/

/-- The messages of the world. -/
def IsMessage : ThreadEvent fl → Prop
  | .syncPlayer _ _ | .removePlayer _ _ | .networkDisconnect _ => True
  | .global _ | .call _ | .update _ => False

/-- **One message**, exactly, as long as serial numbers are not used twice. -/
theorem armed_iff (h : s.Armed) (hnodup : (s.timers.heap.map Timer.sn).Nodup) {e : ThreadEvent fl}
    (hmessage : IsMessage e) (hv : s.step algs e = some t) : t.Armed ↔ s.KeepsArmed e := by
  refine ⟨fun ht => ?_, fun hkeeps => h.step hkeeps hv⟩
  cases e with
  | syncPlayer identify proto =>
    intro hfree
    obtain ⟨world, sent, hspec, rfl⟩ := syncPlayer_spec hv
    cases hspec with
    | known hheld => simp [hfree] at hheld
    | enters => exact ht proto.playerSn ExtTreeSet.mem_insert_self
  | removePlayer identify playerSn =>
    intro hempties
    obtain ⟨hadds, htimer, hremoved⟩ := removePlayer_spec hv
    obtain ⟨-, hboth⟩ := hremoved.resolve_right fun hnot => hnot.1 hempties
    refine ExtTreeSet.eq_empty_iff_forall_not_mem.2 fun sn hsn => ?_
    obtain ⟨u, hu, husn, -⟩ := ht sn (hadds ▸ hsn)
    rw [hboth] at hu
    have hnodup' : (((s.timers.remove algs s.world.syncWorldTimer).heap).map Timer.sn).Nodup :=
      TimerComponent.nodup_remove hnodup
    exact TimerComponent.sn_ne_of_mem_remove hnodup' hu (husn.trans htimer)
  | networkDisconnect identify => trivial
  | global e => cases hmessage
  | call c => cases hmessage
  | update calls => cases hmessage

/-! ### Timers that are never given up -/

/-- The appearance timer is registered, and has no end. -/
def Endless (s : WorldThread fl) : Prop :=
  ∃ u ∈ s.timers.heap, u.sn = s.world.syncAppearTimer ∧ u.handler = .syncAppearTimer ∧
    u.callCountTotal = 0

theorem Endless.registered (h : s.Endless) : s.Registered := by
  obtain ⟨u, hu, hsn, hhandler, -⟩ := h
  exact ⟨u, hu, hsn, hhandler⟩

theorem Endless.of_mem (h : s.Endless) (hworld : t.world.syncAppearTimer = s.world.syncAppearTimer)
    (hmem : ∀ u ∈ s.timers.heap, u.sn = s.world.syncAppearTimer → u.callCountTotal = 0 →
      ∃ v ∈ t.timers.heap, v.sn = u.sn ∧ v.handler = u.handler ∧ v.callCountTotal = 0) :
    t.Endless := by
  obtain ⟨u, hu, hsn, hhandler, htotal⟩ := h
  obtain ⟨v, hv, hvsn, hvhandler, hvtotal⟩ := hmem u hu hsn htotal
  exact ⟨v, hv, (hvsn.trans hsn).trans hworld.symm, hvhandler.trans hhandler, hvtotal⟩

/-- A timer without an end is put back. -/
theorem rearm_endless {data : Timer WorldHandler} (htotal : data.callCountTotal = 0)
    (timeTick : UInt64) :
    ∃ again, data.rearm timeTick = some again ∧ again.sn = data.sn ∧
      again.handler = data.handler ∧ again.callCountTotal = 0 := by
  unfold Timer.rearm
  rw [if_pos (.inl htotal)]
  exact ⟨_, rfl, rfl, rfl, htotal⟩

theorem Endless.update (h : s.Endless) {calls : List TimerCall} (hspares : ∀ c ∈ calls, s.Spares c)
    (hv : s.update algs calls = some t) : t.Endless := by
  obtain ⟨data, timers, u, hheap, hhandle, rfl⟩ := update_cases hv
  have hkeeps : u.world.syncAppearTimer = s.world.syncAppearTimer ∧
      ∀ a ∈ timers.heap, a.sn = s.world.syncAppearTimer → a ∈ u.timers.heap := by
    obtain ⟨-, rfl⟩ | ⟨-, rfl⟩ | ⟨-, hcalls⟩ := handle_cases hhandle
    · exact ⟨rfl, fun a ha _ => ha⟩
    · exact ⟨rfl, fun a ha _ => ha⟩
    · obtain ⟨hworld, hmem⟩ := calls_mem hcalls
      exact ⟨congrArg _ hworld, fun a ha hasn => hmem a ha hasn hspares⟩
  refine h.of_mem (by rw [putBack_world, hkeeps.1]) fun a ha hasn hatotal => ?_
  rcases (hheap a).1 ha with rfl | hrest
  · obtain ⟨again, hagain, hspec⟩ := rearm_endless hatotal u.global.timeTick
    exact ⟨again, putBack_mem.2 (.inr hagain), hspec⟩
  · exact ⟨a, putBack_mem.2 (.inl (hkeeps.2 a hrest hasn)), rfl, rfl, hatotal⟩

theorem Endless.step (h : s.Endless) {e : ThreadEvent fl} (hkeeps : s.KeepsTimer e)
    (hv : s.step algs e = some t) : t.Endless := by
  cases e with
  | global e =>
    obtain ⟨global, -, rfl⟩ := Option.map_eq_some_iff.1 hv
    exact h
  | call c =>
    obtain ⟨hworld, hmem⟩ := call_mem hv
    exact h.of_mem (by rw [hworld]) fun u hu husn htotal =>
      ⟨u, hmem u hu husn hkeeps, rfl, rfl, htotal⟩
  | update calls => exact h.update hkeeps hv
  | syncPlayer identify proto =>
    obtain ⟨world, sent, hspec, rfl⟩ := syncPlayer_spec hv
    cases hspec with
    | known => exact h
    | enters => exact h
  | removePlayer identify playerSn =>
    obtain ⟨-, htimer, hremoved⟩ := removePlayer_spec hv
    obtain ⟨-, hsame⟩ := hremoved.resolve_left fun hempties => hkeeps hempties.1
    exact h.of_mem htimer fun u hu _ htotal => ⟨u, hsame ▸ hu, rfl, rfl, htotal⟩
  | networkDisconnect identify =>
    obtain ⟨⟨-, htimer⟩, htimers⟩ :=
      after_keeps (SpaceWorld.handleNetworkDisconnect_keeps identify) hv
    exact h.of_mem htimer fun u hu _ htotal => ⟨u, htimers ▸ hu, rfl, rfl, htotal⟩

theorem endless_awake {global : Global} {timers : TimerComponent WorldHandler}
    {others : List UInt64} {sn : UInt64} {worldId : ℤ} {worldType : ResourceWorldType}
    {bodies : UInt64 → PlayerBody fl} :
    (awake algs global timers others sn worldId worldType bodies).Endless :=
  ⟨_, TimerComponent.mem_insert.2 (.inr rfl), rfl, rfl, rfl⟩

end WorldThread

/-! ### Runs -/

/-- **The timer is armed** in every run of steps that leave no one waiting. -/
theorem armed_run {fl : FloatOps} {algs : Heap.Algorithms (@compareTimer WorldHandler)}
    {es : List (ThreadEvent fl)} {s : WorldThread fl}
    (hrun : ((WorldThread.system algs).restrict WorldThread.KeepsArmed).Run es s) : s.Armed := by
  refine hrun.restrict_invariant ?_ fun s e t hs hkeeps hstep => hs.step hkeeps hstep
  rintro s ⟨global, timers, others, sn, worldId, worldType, bodies, -, rfl⟩
  exact WorldThread.Armed.of_adds_empty rfl

/-- **A timer that is never given up** is registered after every run: that of a public world, and that of a
dungeon whose last player always leaves by losing its connection. -/
theorem registered_run {fl : FloatOps} {algs : Heap.Algorithms (@compareTimer WorldHandler)}
    {es : List (ThreadEvent fl)} {s : WorldThread fl}
    (hrun : ((WorldThread.system algs).restrict WorldThread.KeepsTimer).Run es s) :
    s.Registered := by
  refine WorldThread.Endless.registered ?_
  refine hrun.restrict_invariant ?_ fun s e t hs hkeeps hstep => hs.step hkeeps hstep
  rintro s ⟨global, timers, others, sn, worldId, worldType, bodies, -, rfl⟩
  exact WorldThread.endless_awake

/-! ### A team in a dungeon -/

instance {fl : FloatOps} (w : SpaceWorld fl) (identify : NetIdentify) (playerSn : UInt64) :
    Decidable (w.EmptiesDungeon identify playerSn) :=
  match hfound : World.getPlayer w.playerMgr identify with
  | none => .isFalse (by rintro ⟨-, player, hplayer, -⟩; rw [hfound] at hplayer; cases hplayer)
  | some player =>
    decidable_of_iff (w.worldType = .dungeon ∧ player.playerSn = playerSn ∧
        w.players.all (fun q => q.playerSn = playerSn) = true) (by
      simp only [SpaceWorld.EmptiesDungeon, hfound, Option.mem_some_iff, exists_eq_left',
        List.all_eq_true, decide_eq_true_iff])

instance {fl : FloatOps} (s : WorldThread fl) (c : TimerCall) : Decidable (s.Spares c) :=
  match c with
  | .addTimer _ _ _ _ => .isTrue trivial
  | .removeTimer timer => inferInstanceAs (Decidable (timer ≠ s.world.syncAppearTimer))

instance {fl : FloatOps} (s : WorldThread fl) (e : ThreadEvent fl) : Decidable (s.KeepsArmed e) :=
  letI : Decidable s.Registered := inferInstanceAs (Decidable (∃ t ∈ s.timers.heap, _))
  letI : Decidable (s.world.adds = ∅) := decidable_of_iff _ ExtTreeSet.isEmpty_iff
  match e with
  | .syncPlayer _ proto =>
    letI : Decidable (s.world.playerMgr.getPlayerBySn proto.playerSn = none) :=
      decidable_of_iff _ Option.isNone_iff_eq_none
    inferInstanceAs (Decidable (_ → _))
  | .removePlayer identify playerSn =>
    inferInstanceAs (Decidable (s.world.EmptiesDungeon identify playerSn → _))
  | .call c => inferInstanceAs (Decidable (s.Spares c ∨ _))
  | .update calls => inferInstanceAs (Decidable ((∀ c ∈ calls, s.Spares c) ∨ _))
  | .global _ | .networkDisconnect _ => .isTrue trivial

/-- Timers that are kept sorted. -/
def sortedTimers : Heap.Algorithms (@compareTimer WorldHandler) :=
  .sorted fun t : Timer WorldHandler => t.nextTime.toNat

/-- A dungeon that has just been made. -/
def newDungeon : WorldThread .int :=
  .awake sortedTimers (.start 1700000000000 302) .empty [] 19791873 4 .dungeon fun sn =>
    ⟨[], .parserFromProto (traveller sn).player, .origin⟩

/-- Two players enter and are announced; one of them goes, and comes back. -/
def oneComesBack : List (ThreadEvent .int) :=
  [.syncPlayer (fromSocket 5) (traveller 7), .syncPlayer (fromSocket 6) (traveller 8),
    .global (.updateTime 1700000001000), .update [], .removePlayer (fromSocket 5) 7,
    .syncPlayer (fromSocket 5) (traveller 7)]

/-- One player enters and is announced, goes, and comes back. -/
def lastComesBack : List (ThreadEvent .int) :=
  [.syncPlayer (fromSocket 5) (traveller 7), .global (.updateTime 1700000001000), .update [],
    .removePlayer (fromSocket 5) 7, .syncPlayer (fromSocket 5) (traveller 7)]

theorem newDungeon_init : (WorldThread.system sortedTimers).init newDungeon :=
  ⟨_, .empty, _, _, _, _, _, (fun _ ht => nomatch ht), rfl⟩

/-- As long as someone stays, the timer is there for the one that comes back. -/
theorem armed_comesBack : ∃ s : WorldThread .int,
    ((WorldThread.system sortedTimers).restrict WorldThread.KeepsArmed).Run oneComesBack s ∧
      s.world.adds.toList = [7] ∧ s.Armed := by
  have hrun : (Transition.System.execute (WorldThread.step sortedTimers) WorldThread.KeepsArmed
      newDungeon oneComesBack).map (fun s => s.world.adds.toList) = some [7] := by
    decide
  obtain ⟨s, hs, hadds⟩ := Option.map_eq_some_iff.1 hrun
  have hevents : ((WorldThread.system sortedTimers).restrict WorldThread.KeepsArmed).Run
      oneComesBack s := Transition.System.run_of_execute newDungeon_init hs
  exact ⟨s, hevents, hadds, armed_run hevents⟩

/-- **A team comes back to its dungeon**, which has no timer any more. -/
theorem not_armed : ¬ ∀ (fl : FloatOps) (algs : Heap.Algorithms (@compareTimer WorldHandler))
    (es : List (ThreadEvent fl)) (s : WorldThread fl), (WorldThread.system algs).Run es s →
      s.Armed := by
  intro hall
  have hrun : (Transition.System.execute (WorldThread.step sortedTimers) (fun _ _ => True)
      newDungeon lastComesBack).map (fun s => (s.world.adds.toList, s.timers.heap)) =
        some ([7], []) := by
    decide
  obtain ⟨s, hs, hfacts⟩ := Option.map_eq_some_iff.1 hrun
  obtain ⟨hadds, hheap⟩ := Prod.mk.inj hfacts
  have hevents : (WorldThread.system sortedTimers).Run lastComesBack s :=
    Transition.System.run_of_execute_true newDungeon_init hs
  have hseven : 7 ∈ s.world.adds := by
    rw [← ExtTreeSet.mem_toList, hadds]
    exact .head _
  obtain ⟨u, hu, -⟩ := hall .int sortedTimers lastComesBack s hevents 7 hseven
  rw [hheap] at hu
  cases hu

end MmoServer
