/-
**Who is told of whom.**

A client learns of the players of its world by their appearances, and forgets a player at its
disappearance.  The new players are announced together when the timer fires, to all players, and the others
to the new ones; a player may leave before that, and come back.

Main definitions:

* `MmoServer.AppearRun`, `MmoServer.AppearRun.system` — a world, and all that it has sent;
* `MmoServer.AppearRun.AllShown` — each player was sent the appearance of each player, since both entered;
* `MmoServer.AppearRun.GoneHidden` — a player that was sent the appearance of one that is gone, since it
  entered, was sent the disappearance afterwards;
* `MmoServer.AppearRun.Invariant` — the invariant, with the pairs that still wait for the timer.

Main results:

* `MmoServer.AppearRun.Invariant.step` — **one step**;
* `MmoServer.appear_run` — **everyone is told of everyone** behind the timer, and of who is gone, always;
* `MmoServer.not_goneHidden` — a player that comes back is not told of those that went in the meantime.
-/

import MmoServer.EventLog
import MmoServer.SpaceWorld
import MmoServer.Transition

set_option relaxedAutoImplicit false
set_option autoImplicit false

namespace MmoServer

open Std Handler EventLog

/-- A world, and all that it has sent. -/
structure AppearRun (fl : FloatOps) where
  world : SpaceWorld fl
  log : List (WorldMsg fl)

/-- What happens. -/
inductive AppearEvent (fl : FloatOps)
  | syncPlayer (identify : NetIdentify) (proto : SyncPlayer fl)
  /-- `MI_NetworkDisconnect` with a tag of a player. -/
  | networkDisconnect (identify : NetIdentify)
  | removePlayer (identify : NetIdentify) (playerSn : UInt64)
  | syncAppearTimer

namespace AppearRun

variable {fl : FloatOps}

/-- A handler of the world has run. -/
def after (s : AppearRun fl) (o : Outcome (SpaceWorld fl) (WorldMsg fl)) : Option (AppearRun fl) :=
  o.state.map fun world => ⟨world, s.log ++ o.sent⟩

/-- One event. -/
def step (s : AppearRun fl) : AppearEvent fl → Option (AppearRun fl)
  | .syncPlayer identify proto => s.after (s.world.handleSyncPlayer identify proto)
  | .networkDisconnect identify =>
    if (identify.tagKey.getTagValue .player).isSome then
      s.after (s.world.handleNetworkDisconnect identify)
    else none
  | .removePlayer identify playerSn => s.after (s.world.handleG2SRemovePlayer identify playerSn)
  | .syncAppearTimer => s.after s.world.syncAppear

/-- The system.  A world begins without players. -/
def system : Transition.System (AppearRun fl) (AppearEvent fl) :=
  Transition.System.ofFun (fun s => s.world.playerMgr = .empty ∧ s.world.adds = ∅ ∧ s.log = []) step

/-- The player is in the world. -/
def Present (s : AppearRun fl) (sn : UInt64) : Prop :=
  ∃ player, s.world.playerMgr.getPlayerBySn sn = some player

/-- The message is sent to the player when it enters. -/
def Entered (sn : UInt64) (m : WorldMsg fl) : Prop :=
  ∃ player worldId position, m = .send player (.enterWorld worldId position) ∧ player.playerSn = sn

/-- The message shows the player with the second serial number to the one with the first. -/
def Shows (viewer sn : UInt64) (m : WorldMsg fl) : Prop :=
  ∃ player roles, m = .send player (.allRoleAppear roles) ∧ player.playerSn = viewer ∧
    ∃ role ∈ roles, role.sn = sn

/-- The message hides it. -/
def Hides (viewer sn : UInt64) (m : WorldMsg fl) : Prop :=
  ∃ player, m = .send player (.roleDisappear sn) ∧ player.playerSn = viewer

/-- **Everyone is shown to everyone**, since both have entered. -/
def AllShown (s : AppearRun fl) : Prop :=
  ∀ viewer sn, s.Present viewer → s.Present sn →
    ShownSince (fun m => Entered viewer m ∨ Entered sn m) (Shows viewer sn) s.log

/-- **Who is gone is hidden** from everyone that it was shown to since entering. -/
def GoneHidden (s : AppearRun fl) : Prop :=
  ∀ viewer sn, s.Present viewer → ¬ s.Present sn →
    Answered (Entered viewer) (Shows viewer sn) (Hides viewer sn) s.log

/-- Only pairs with a new player still wait to be shown. -/
structure Invariant (s : AppearRun fl) : Prop where
  shown : ∀ viewer sn, s.Present viewer → s.Present sn → viewer ∉ s.world.adds →
    sn ∉ s.world.adds →
      ShownSince (fun m => Entered viewer m ∨ Entered sn m) (Shows viewer sn) s.log
  hidden : s.GoneHidden

variable {s t : AppearRun fl}

/-! ### One step -/

theorem present_iff {sn : UInt64} :
    s.Present sn ↔ ∃ player ∈ s.world.players, player.playerSn = sn := by
  constructor
  · rintro ⟨player, hplayer⟩
    have hsn := PlayerManager.getPlayerBySn_some hplayer
    exact ⟨player, SpaceWorld.mem_players.2 (hsn ▸ hplayer), hsn⟩
  · rintro ⟨player, hplayer, rfl⟩
    exact ⟨player, SpaceWorld.mem_players.1 hplayer⟩

/-- A player enters: no one is shown, and it is one of the new ones. -/
theorem Invariant.syncPlayer (h : s.Invariant) {proto : SyncPlayer fl} {sent : List (WorldMsg fl)}
    {world : SpaceWorld fl} (hspec : SpaceWorld.SyncsPlayer s.world proto sent world) :
    (⟨world, s.log ++ sent⟩ : AppearRun fl).Invariant := by
  cases hspec with
  | known =>
    rw [List.append_nil]
    exact h
  | @enters player playerMgr hsn hfree hplayers =>
    have hpresent : ∀ sn, sn ≠ proto.playerSn → (∃ q, playerMgr.getPlayerBySn sn = some q) →
        s.Present sn := by
      rintro sn hne ⟨q, hq⟩
      rw [hplayers, if_neg (Ne.symm hne)] at hq
      exact ⟨q, hq⟩
    have hentered : ∀ (sn : UInt64) (m : WorldMsg fl),
        m ∈ [WorldMsg.send player (.enterWorld s.world.worldId proto.position)] →
          Entered sn m → sn = proto.playerSn := by
      rintro sn m hm ⟨q, worldId, position, rfl, rfl⟩
      obtain ⟨rfl, -⟩ := WorldMsg.send.inj (List.mem_singleton.1 hm)
      exact hsn
    have hshows : ∀ (viewer sn : UInt64) (m : WorldMsg fl),
        m ∈ [WorldMsg.send player (.enterWorld s.world.worldId proto.position)] →
          ¬ Shows viewer sn m := by
      rintro viewer sn m hm ⟨q, roles, rfl, -⟩
      cases (WorldMsg.send.inj (List.mem_singleton.1 hm)).2
    constructor
    · intro viewer sn hviewer hin hviewerAdds hadds
      have hold : ∀ a, a ∉ s.world.adds.insert proto.playerSn →
          a ≠ proto.playerSn ∧ a ∉ s.world.adds := by
        intro a ha
        rw [ExtTreeSet.mem_insert, not_or] at ha
        exact ⟨fun heq => ha.1 (heq ▸ ReflCmp.compare_self), ha.2⟩
      obtain ⟨hne, hviewerAdds⟩ := hold viewer hviewerAdds
      obtain ⟨hne', hadds⟩ := hold sn hadds
      refine (h.shown viewer sn (hpresent viewer hne hviewer) (hpresent sn hne' hin) hviewerAdds
        hadds).append fun m hm => ?_
      rintro (hm' | hm')
      · exact hne (hentered viewer m hm hm')
      · exact hne' (hentered sn m hm hm')
    · intro viewer sn hviewer hgone
      by_cases hself : viewer = proto.playerSn
      · refine answered_of_mark (List.mem_singleton_self _) ?_ (hshows viewer sn)
        exact ⟨player, _, _, rfl, hsn.trans hself.symm⟩
      · refine (h.hidden viewer sn (hpresent viewer hself hviewer) fun hin => hgone ?_).append
          (hshows viewer sn)
        obtain ⟨q, hq⟩ := hin
        have hne : sn ≠ proto.playerSn := by
          rintro rfl
          rw [hfree] at hq
          cases hq
        exact ⟨q, by rw [hplayers, if_neg (Ne.symm hne), hq]⟩

/-- A player leaves: it is hidden from the others. -/
theorem Invariant.leaves (h : s.Invariant) {sent : List (WorldMsg fl)} {world : SpaceWorld fl}
    (hspec : SpaceWorld.Leaves s.world sent world) :
    (⟨world, s.log ++ sent⟩ : AppearRun fl).Invariant := by
  cases hspec with
  | nobody =>
    rw [List.append_nil]
    exact h
  | @leaves player _ hheld htold honly =>
    have hpresent : ∀ sn, (∃ q, (s.world.playerMgr.removePlayerBySn
        player.playerSn).getPlayerBySn sn = some q) ↔ s.Present sn ∧ sn ≠ player.playerSn := by
      intro sn
      rw [PlayerManager.getPlayerBySn_removePlayerBySn]
      by_cases heq : player.playerSn = sn
      · simp [heq]
      · rw [if_neg heq]
        exact (and_iff_left (Ne.symm heq)).symm
    have hentered : ∀ (sn : UInt64), ∀ m ∈ sent, ¬ Entered sn m := by
      rintro sn m hm ⟨q, worldId, position, rfl, -⟩
      cases honly q _ hm
    have hshows : ∀ (viewer sn : UInt64), ∀ m ∈ sent, ¬ Shows viewer sn m := by
      rintro viewer sn m hm ⟨q, roles, rfl, -⟩
      cases honly q _ hm
    constructor
    · intro viewer sn hviewer hin hviewerAdds hadds
      refine (h.shown viewer sn ((hpresent viewer).1 hviewer).1 ((hpresent sn).1 hin).1 hviewerAdds
        hadds).append fun m hm => ?_
      exact not_or.2 ⟨hentered viewer m hm, hentered sn m hm⟩
    · intro viewer sn hviewer hgone
      obtain ⟨hviewer, hne⟩ := (hpresent viewer).1 hviewer
      by_cases hself : sn = player.playerSn
      · obtain ⟨q, hq, rfl⟩ := present_iff.1 hviewer
        refine answered_of_answer (htold q hq hne) ?_ (hshows q.playerSn sn)
        exact ⟨q, by rw [hself], rfl⟩
      · refine (h.hidden viewer sn hviewer fun hin => hgone ?_).append (hshows viewer sn)
        exact (hpresent sn).2 ⟨hin, hself⟩

/-- The timer: all pairs with a new player are shown. -/
theorem Invariant.syncAppear (h : s.Invariant) {world : SpaceWorld fl}
    (hstate : s.world.syncAppear.state = some world) :
    (⟨world, s.log ++ s.world.syncAppear.sent⟩ : AppearRun fl).Invariant ∧
      (⟨world, s.log ++ s.world.syncAppear.sent⟩ : AppearRun fl).AllShown := by
  obtain ⟨rfl, htold, honly⟩ := s.world.syncAppear_spec world hstate
  generalize s.world.syncAppear.sent = sent at htold honly
  have hentered : ∀ (sn : UInt64), ∀ m ∈ sent, ¬ Entered sn m := by
    rintro sn m hm ⟨q, worldId, position, heq, -⟩
    obtain ⟨viewer, roles, rfl, -⟩ := honly m hm
    cases heq
  have hall : (⟨{ s.world with adds := ∅ }, s.log ++ sent⟩ : AppearRun fl).AllShown := by
    intro viewer sn hviewer hin
    have hmark : ∀ m ∈ sent, ¬ (Entered viewer m ∨ Entered sn m) := fun m hm =>
      not_or.2 ⟨hentered viewer m hm, hentered sn m hm⟩
    by_cases hnew : viewer ∈ s.world.adds ∨ sn ∈ s.world.adds
    · obtain ⟨q, hq, rfl⟩ := present_iff.1 (show s.Present viewer from hviewer)
      obtain ⟨player, hplayer, rfl⟩ := present_iff.1 (show s.Present sn from hin)
      obtain ⟨roles, hsent, hrole⟩ := htold q hq player hplayer hnew
      exact shownSince_of_mem hsent ⟨q, roles, rfl, rfl, _, hrole, rfl⟩ hmark
    · obtain ⟨hviewerAdds, hadds⟩ := not_or.1 hnew
      exact (h.shown viewer sn hviewer hin hviewerAdds hadds).append hmark
  refine ⟨⟨fun viewer sn hviewer hin _ _ => hall viewer sn hviewer hin,
    fun viewer sn hviewer hgone => (h.hidden viewer sn hviewer hgone).append fun m hm => ?_⟩, hall⟩
  rintro ⟨q, roles, heq, -, role, hrole, rfl⟩
  obtain ⟨viewer', roles', rfl, hroles⟩ := honly m hm
  obtain ⟨rfl, hnotice⟩ := WorldMsg.send.inj heq
  obtain rfl := AppearNotice.allRoleAppear.inj hnotice
  obtain ⟨player, hplayer, rfl⟩ := hroles role hrole
  exact hgone (present_iff.2 ⟨player, hplayer, rfl⟩)

/-- **One step** keeps the invariant, and the timer shows everyone to everyone. -/
theorem Invariant.step (h : s.Invariant) {e : AppearEvent fl} (hv : s.step e = some t) :
    t.Invariant ∧ (e = .syncAppearTimer → t.AllShown) := by
  cases e with
  | syncPlayer identify proto =>
    obtain ⟨world, hworld, rfl⟩ := Option.map_eq_some_iff.1 hv
    exact ⟨h.syncPlayer (SpaceWorld.handleSyncPlayer_spec identify proto world hworld), nofun⟩
  | networkDisconnect identify =>
    simp only [AppearRun.step] at hv
    split at hv
    · rename_i hplayer
      obtain ⟨value, hvalue⟩ := Option.isSome_iff_exists.1 hplayer
      obtain ⟨world, hworld, rfl⟩ := Option.map_eq_some_iff.1 hv
      exact ⟨h.leaves (SpaceWorld.handleNetworkDisconnect_spec hvalue world hworld), nofun⟩
    · cases hv
  | removePlayer identify playerSn =>
    obtain ⟨world, hworld, rfl⟩ := Option.map_eq_some_iff.1 hv
    exact ⟨h.leaves (SpaceWorld.handleG2SRemovePlayer_spec identify playerSn world hworld), nofun⟩
  | syncAppearTimer =>
    obtain ⟨world, hworld, rfl⟩ := Option.map_eq_some_iff.1 hv
    obtain ⟨hinv, hall⟩ := h.syncAppear hworld
    exact ⟨hinv, fun _ => hall⟩

theorem invariant_start (hplayers : s.world.playerMgr = .empty) : s.Invariant := by
  have hnobody : ∀ sn, ¬ s.Present sn := by
    rintro sn ⟨player, hplayer⟩
    rw [hplayers] at hplayer
    simp [PlayerManager.empty, PlayerManager.getPlayerBySn] at hplayer
  exact ⟨fun viewer _ hviewer => absurd hviewer (hnobody viewer),
    fun viewer _ hviewer => absurd hviewer (hnobody viewer)⟩

end AppearRun

/-! ### Runs -/

/-- **Everyone is told of everyone** right behind the timer, and in every state everyone is told who of
those that it was shown, since it entered, is gone. -/
theorem appear_run {fl : FloatOps} {es : List (AppearEvent fl)} {s : AppearRun fl}
    (hrun : AppearRun.system.Run es s) :
    s.GoneHidden ∧ ∀ t, AppearRun.system.step s .syncAppearTimer t → t.AllShown := by
  have hinv : s.Invariant := by
    refine hrun.invariant ?_ fun s e t hs hstep => (hs.step hstep).1
    rintro s ⟨hplayers, -⟩
    exact AppearRun.invariant_start hplayers
  exact ⟨hinv.hidden, fun t hstep => (hinv.step hstep).2 rfl⟩

/-! ### A player that comes back -/

instance {fl : FloatOps} (viewer sn : UInt64) (m : WorldMsg fl) :
    Decidable (AppearRun.Shows viewer sn m) :=
  match m with
  | .send player (.allRoleAppear roles) =>
    decidable_of_iff (player.playerSn = viewer ∧ ∃ role ∈ roles, role.sn = sn)
      ⟨fun h => ⟨player, roles, rfl, h⟩, by rintro ⟨_, _, heq, h⟩; cases heq; exact h⟩
  | .send _ (.enterWorld _ _) | .send _ (.roleDisappear _) | .savePlayer _ | .removeTimer _
  | .dungeonDisapper _ => .isFalse (by rintro ⟨_, _, heq, -⟩; cases heq)

instance {fl : FloatOps} (viewer sn : UInt64) (m : WorldMsg fl) :
    Decidable (AppearRun.Hides viewer sn m) :=
  match m with
  | .send player (.roleDisappear gone) =>
    decidable_of_iff (gone = sn ∧ player.playerSn = viewer)
      ⟨fun ⟨hgone, h⟩ => ⟨player, hgone ▸ rfl, h⟩, by rintro ⟨_, heq, h⟩; cases heq; exact ⟨rfl, h⟩⟩
  | .send _ (.enterWorld _ _) | .send _ (.allRoleAppear _) | .savePlayer _ | .removeTimer _
  | .dungeonDisapper _ => .isFalse (by rintro ⟨_, heq, -⟩; cases heq)

/-- A world without players. -/
def AppearRun.new : AppearRun .int where
  world :=
    { sn := 19791873
      worldId := 1
      worldType := .publicWorld
      syncWorldTimer := 1
      syncAppearTimer := 2
      playerMgr := .empty
      bodies := fun sn => ⟨[], .parserFromProto (traveller sn).player, .origin⟩
      adds := ∅ }
  log := []

/-- A player enters and is announced, and another one enters. -/
def joins : List (AppearEvent .int) :=
  [.syncPlayer (fromSocket 5) (traveller 7), .syncAppearTimer,
    .syncPlayer (fromSocket 6) (traveller 8)]

/-- The next timer shows both players to both. -/
theorem appear_joins : ∃ s t : AppearRun .int, AppearRun.system.Run joins s ∧
    AppearRun.system.step s .syncAppearTimer t ∧ t.Present 7 ∧ t.Present 8 ∧ t.AllShown := by
  have hrun : ((Transition.System.execute AppearRun.step (fun _ _ => True) .new joins).bind
      fun s => (s.step .syncAppearTimer).map fun t => (s, t)).map
        (fun st => ((st.2.world.playerMgr.getPlayerBySn 7).isSome,
          (st.2.world.playerMgr.getPlayerBySn 8).isSome)) = some (true, true) := by
    decide
  obtain ⟨⟨s, t⟩, hst, hfacts⟩ := Option.map_eq_some_iff.1 hrun
  obtain ⟨hseven, height⟩ := Prod.mk.inj hfacts
  obtain ⟨u, hu, hpair⟩ := Option.bind_eq_some_iff.1 hst
  obtain ⟨v, hv, heq⟩ := Option.map_eq_some_iff.1 hpair
  obtain ⟨rfl, rfl⟩ := Prod.mk.inj heq
  have hevents : AppearRun.system.Run joins u :=
    Transition.System.run_of_execute_true ⟨rfl, rfl, rfl⟩ hu
  exact ⟨u, v, hevents, hv, Option.isSome_iff_exists.1 hseven,
    Option.isSome_iff_exists.1 height, (appear_run hevents).2 v hv⟩

/-- Two players meet; the second one loses its connection, the first one goes, and the second one comes
back. -/
def comesBackAlone : List (AppearEvent .int) :=
  [.syncPlayer (fromSocket 5) (traveller 7), .syncPlayer (fromSocket 6) (traveller 8), .syncAppearTimer,
    .networkDisconnect ⟨SocketKey.none, TagKey.clear.addTagInt .player 8⟩,
    .removePlayer (fromSocket 5) 7, .syncPlayer (fromSocket 6) (traveller 8)]

/-- **A player that comes back** was sent, in its earlier stay, the appearance of one that is gone now, and
never its disappearance. -/
theorem not_goneHidden : ¬ ∀ (fl : FloatOps) (es : List (AppearEvent fl)) (s : AppearRun fl),
    AppearRun.system.Run es s → ∀ viewer sn, s.Present viewer → ¬ s.Present sn →
      ∀ m after, Since s.log m after → AppearRun.Shows viewer sn m →
        ∃ x ∈ after, AppearRun.Hides viewer sn x := by
  intro hall
  have hrun : (Transition.System.execute AppearRun.step (fun _ _ => True) .new
      comesBackAlone).map (fun s => ((s.world.playerMgr.getPlayerBySn 8).isSome,
        (s.world.playerMgr.getPlayerBySn 7).isSome,
        decide (∃ m ∈ s.log, AppearRun.Shows 8 7 m),
        decide (∃ m ∈ s.log, AppearRun.Hides 8 7 m))) = some (true, false, true, false) := by
    decide
  obtain ⟨s, hs, hfacts⟩ := Option.map_eq_some_iff.1 hrun
  obtain ⟨hviewer, hrest⟩ := Prod.mk.inj hfacts
  obtain ⟨hgone, hrest⟩ := Prod.mk.inj hrest
  obtain ⟨hshown, hhidden⟩ := Prod.mk.inj hrest
  have hevents : AppearRun.system.Run comesBackAlone s :=
    Transition.System.run_of_execute_true ⟨rfl, rfl, rfl⟩ hs
  obtain ⟨m, hm, hshows⟩ := of_decide_eq_true hshown
  obtain ⟨after, hsince, hafter⟩ := since_of_mem hm
  have hnotPresent : ¬ s.Present 7 := by
    rintro ⟨player, hplayer⟩
    rw [hplayer] at hgone
    cases hgone
  obtain ⟨x, hx, hhides⟩ := hall .int comesBackAlone s hevents 8 7
    (Option.isSome_iff_exists.1 hviewer) hnotPresent m after hsince hshows
  exact of_decide_eq_false hhidden ⟨x, hafter x hx, hhides⟩

end MmoServer
