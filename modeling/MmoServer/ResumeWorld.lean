/-
**Back to where a player was last.**

A player that logs in is sent to a world by the lobby, which looks at the two places in the data of the
player: if there is a dungeon, the player goes there, or waits until the app manager knows whether the dungeon
still exists; only then, or if there is no dungeon, it goes to the public world.

Main definitions:

* `MmoServer.targets` — where a player is teleported;
* `MmoServer.GoesToPublic`, `MmoServer.GoesToDungeon`, `MmoServer.AwaitsDungeon` — how a player is sent to a
  world;
* `MmoServer.ResumesWhereLeft` — **a player is sent to the world that it entered last**.

Main results:

* `MmoServer.Lobby.sound_processPacket` — in every lobby, those who wait have their last worlds;
* `MmoServer.enterPublicWorld_goes`, `MmoServer.handleQueryWorldRs_goes` — how the lobby sends a player to a
  public world;
* `MmoServer.resumesWhereLeft_iff` — **when a player is sent to the world that it entered last**.
-/

import MmoServer.PlayerComponentLastMap

set_option relaxedAutoImplicit false
set_option autoImplicit false

namespace MmoServer

open Std Handler

/-! ### How a player is sent to a world -/

/-- The world of a teleport of a player. -/
def LobbyMsg.targetOf (playerSn : UInt64) : LobbyMsg → Option UInt64
  | teleport player _ targetWorldSn => if player.playerSn = playerSn then some targetWorldSn else none
  | _ => none

/-- Where a player is teleported. -/
def targets (playerSn : UInt64) (o : Outcome Lobby LobbyMsg) : List UInt64 :=
  o.sent.filterMap (LobbyMsg.targetOf playerSn)

/-- A player waits for a public world. -/
def Lobby.WaitsForWorld (l : Lobby) (worldId : ℤ) (playerSn : UInt64) : Prop :=
  ∃ players, l.waitingForWorld worldId = some players ∧ playerSn ∈ players

/-- A player waits for a dungeon. -/
def Lobby.WaitsForDungeon (l : Lobby) (worldSn playerSn : UInt64) : Prop :=
  ∃ players, l.waitingForDungeon worldSn = some players ∧ playerSn ∈ players

/-- A player goes to a public world: it is teleported to the proxy, or waits for one. -/
def GoesToPublic (locator : WorldProxyLocator) (playerSn : UInt64) (worldId : ℤ)
    (o : Outcome Lobby LobbyMsg) : Prop :=
  ∃ u, o.state = some u ∧
    if locator.getWorldSnById worldId = invalidId then
      targets playerSn o = [] ∧ u.WaitsForWorld worldId playerSn
    else targets playerSn o = [locator.getWorldSnById worldId]

/-- A player goes to a dungeon: it is teleported to the proxy, or waits for one. -/
def GoesToDungeon (locator : WorldProxyLocator) (playerSn worldSn : UInt64)
    (o : Outcome Lobby LobbyMsg) : Prop :=
  ∃ u, o.state = some u ∧
    if locator.isExistDungeon worldSn then targets playerSn o = [worldSn]
    else targets playerSn o = [] ∧ u.WaitsForDungeon worldSn playerSn

/-- No one is asked about a dungeon. -/
def AsksNoDungeon (o : Outcome Lobby LobbyMsg) : Prop :=
  ∀ worldSn lastWorldSn, .queryWorld worldSn lastWorldSn ∉ o.sent

/-- A player of the lobby waits for a dungeon, and everyone who does has its last worlds. -/
structure Lobby.Awaits (l : Lobby) (player : Player) (worldSn : UInt64) : Prop where
  waits : l.WaitsForDungeon worldSn player.playerSn
  found : l.players.getPlayerBySn player.playerSn = some player
  lastMap : ∀ sn q, l.WaitsForDungeon worldSn sn → l.players.getPlayerBySn sn = some q → q.lastMap ≠ none

/-- How the waiting for a dungeon ends: the dungeon is gone, and the player goes to a public world, or the
dungeon has a proxy, and the player is teleported. -/
structure AwaitsDungeon (worlds : ResourceWorldMgr) (player : Player) (worldSn : UInt64) (publicId : ℤ) :
    Prop where
  gone : ∀ (u : Lobby) (locator : WorldProxyLocator), u.Awaits player worldSn →
    GoesToPublic locator player.playerSn publicId (u.handleQueryWorldRs locator worldSn false)
  announced : ∀ (u : Lobby) (worldId : ℤ), u.Awaits player worldSn →
    worlds.getResource worldId = some .dungeon →
      targets player.playerSn (u.handleBroadcastCreateWorldProxy worlds worldId worldSn) = [worldSn]

/-- What a login should lead to, if a world was entered last: in every lobby, for a player that has presented its
account and has got no data yet. -/
def ResumesAt (worlds : ResourceWorldMgr) (record : PlayerRecord) (world : LastWorld) (publicId : ℤ) : Prop :=
  ∀ (locator : WorldProxyLocator) (l : Lobby) (account : List UInt8) (player : Player),
    (l.players.getPlayerByAccount account).1 = some player → player.lastMap = none →
      if worlds.isPublic world then
        GoesToPublic locator record.sn world.worldId
            (l.handleQueryPlayerRs worlds locator ⟨account, record⟩) ∧
          AsksNoDungeon (l.handleQueryPlayerRs worlds locator ⟨account, record⟩)
      else
        GoesToDungeon locator record.sn world.worldSn
            (l.handleQueryPlayerRs worlds locator ⟨account, record⟩) ∧
          AwaitsDungeon worlds (player.load worlds record) world.worldSn publicId

/-- **A player is sent to the world that it entered last**, after it has entered worlds, was saved, and logs
in. -/
def ResumesWhereLeft {Pos : Type} (worlds : ResourceWorldMgr) (initPosition : ℤ → Pos) (curWorldId : ℤ)
    (proto : PlacesProto Pos) (es : List LastMapEvent) : Prop :=
  ∃ s, (PlayerPlaces.awake worlds initPosition curWorldId proto).run worlds initPosition es = some s ∧
    ∀ world, (enteredWorlds es).getLast? = some world →
      ResumesAt worlds s.saved.record world
        (lastPublicId worlds (LastMap.parserFromProto worlds proto.record) es)

/-! ### Those who wait have their last worlds -/

namespace Lobby

/-- A player with a serial number has its last worlds. -/
def Placed (player : Player) : Prop := player.playerSn ≠ 0 → player.lastMap ≠ none

/-- **Every packet** leaves those with a serial number their last worlds. -/
theorem sound_processPacket {l : Lobby} (hl : l.Sound Placed) (worlds : ResourceWorldMgr)
    (locator : WorldProxyLocator) (identify : NetIdentify) {packet : LobbyPacket}
    (hpacket : ∀ rs, packet = .queryPlayerRs rs → rs.player.sn ≠ 0) {u : Lobby}
    (hu : (l.processPacket worlds locator identify packet).state = some u) : u.Sound Placed := by
  cases packet with
  | networkDisconnect => exact (handleNetworkDisconnect_meets hl identify).2 u hu
  | loginByToken account token =>
    refine (handleLoginByToken_meets hl fun hsn => ?_).2 u hu
    exact absurd rfl hsn
  | gameTokenToRedisRs account tokenInfo =>
    exact (handleGameTokenToRedisRs_meets hl account tokenInfo).2 u hu
  | queryPlayerRs rs =>
    refine (handleQueryPlayerRs_meets hl worlds locator fun player _ => ⟨fun _ => ?_, hpacket rs rfl⟩).2 u hu
    exact Option.some_ne_none _
  | queryWorldRs worldSn ok => exact (handleQueryWorldRs_meets hl locator worldSn ok).2 u hu
  | broadcastCreateWorldProxy worldId worldSn =>
    exact (handleBroadcastCreateWorldProxy_meets hl worlds worldId worldSn).2 u hu
  | teleportAfter => exact (handleTeleportAfter_meets hl identify).2 u hu

/-- In a sound lobby, everyone who waits for a dungeon has its last worlds. -/
theorem Sound.awaits {l : Lobby} (hl : l.Sound Placed) {player : Player} {worldSn : UInt64}
    (hwaits : l.WaitsForDungeon worldSn player.playerSn)
    (hfound : l.players.getPlayerBySn player.playerSn = some player) : l.Awaits player worldSn where
  waits := hwaits
  found := hfound
  lastMap := by
    rintro sn q ⟨players, hplayers, hmem⟩ hq
    obtain ⟨hplaced, rfl⟩ := hl.getPlayerBySn hq
    exact hplaced (hl.waitingForDungeon.ne_zero hplayers (ExtTreeSet.mem_toList.2 hmem))

end Lobby

/-! ### To a public world -/

section

variable {locator : WorldProxyLocator} {player : Player} {lastMap : LastMap}

/-- Who begins to wait for a public world is not teleported, and no one is asked about a dungeon. -/
theorem waitWorld_sent (l : Lobby) (worldId : ℤ) (sn playerSn : UInt64) :
    targets playerSn (l.waitWorld worldId sn) = [] ∧ AsksNoDungeon (l.waitWorld worldId sn) := by
  unfold targets AsksNoDungeon Lobby.waitWorld Outcome.send
  cases ((l.waitingForWorld worldId).getD ∅).isEmpty with
  | true => simp [LobbyMsg.targetOf]
  | false => simp [LobbyMsg.targetOf]

/-- Who begins to wait for a public world waits for it, with everyone who waits for some world. -/
theorem waitWorld_state (l : Lobby) (worldId : ℤ) (sn : UInt64) :
    ∃ u, (l.waitWorld worldId sn).state = some u ∧ u.players = l.players ∧ u.WaitsForWorld worldId sn ∧
      ∀ w other, l.WaitsForWorld w other → u.WaitsForWorld w other := by
  refine ⟨_, rfl, rfl, ⟨_, Function.update_self .., ?_⟩, ?_⟩
  · exact ExtTreeSet.mem_insert.2 (Or.inl ReflCmp.compare_self)
  · rintro w other ⟨players, hplayers, hmem⟩
    by_cases hkey : w = worldId
    · subst hkey
      refine ⟨_, Function.update_self .., ?_⟩
      rw [hplayers]
      exact ExtTreeSet.mem_insert.2 (Or.inr hmem)
    · exact ⟨players, (Function.update_of_ne hkey ..).trans hplayers, hmem⟩

variable (locator) in
/-- Someone else's way to a public world teleports no one else, and everyone keeps waiting. -/
theorem enterPublicWorld_sends {p : Player} (hp : p.lastMap ≠ none) (l : Lobby) (playerSn : UInt64) :
    ∃ u, (Lobby.enterPublicWorld locator p l).state = some u ∧ u.players = l.players ∧
      (∀ worldId sn, l.WaitsForWorld worldId sn → u.WaitsForWorld worldId sn) ∧
      (p.playerSn ≠ playerSn → targets playerSn (Lobby.enterPublicWorld locator p l) = []) := by
  obtain ⟨lastMap, hlast⟩ := Option.ne_none_iff_exists'.1 hp
  unfold Lobby.enterPublicWorld targets
  rw [hlast]
  simp only
  split
  · refine ⟨l, rfl, rfl, fun _ _ hwaits => hwaits, fun hne => ?_⟩
    simp [Outcome.send, LobbyMsg.targetOf, hne]
  · obtain ⟨u, hu, hplayers, -, hkeeps⟩ := waitWorld_state l lastMap.lastPublicMap.worldId p.playerSn
    exact ⟨u, hu, hplayers, hkeeps, fun _ => (waitWorld_sent ..).1⟩

/-- **A player goes to its last public world**, and no one is asked about a dungeon. -/
theorem enterPublicWorld_goes (hlast : player.lastMap = some lastMap) (l : Lobby) :
    GoesToPublic locator player.playerSn lastMap.lastPublicMap.worldId
        (Lobby.enterPublicWorld locator player l) ∧
      AsksNoDungeon (Lobby.enterPublicWorld locator player l) := by
  unfold GoesToPublic AsksNoDungeon Lobby.enterPublicWorld targets
  rw [hlast]
  simp only
  by_cases hproxy : locator.getWorldSnById lastMap.lastPublicMap.worldId = invalidId
  · obtain ⟨htargets, hasks⟩ :=
      waitWorld_sent l lastMap.lastPublicMap.worldId player.playerSn player.playerSn
    obtain ⟨u, hu, -, hwaits, -⟩ := waitWorld_state l lastMap.lastPublicMap.worldId player.playerSn
    simp only [ne_eq, hproxy, not_true_eq_false, if_false, if_true]
    exact ⟨⟨u, hu, htargets, hwaits⟩, hasks⟩
  · simp only [ne_eq, hproxy, not_false_eq_true, if_true, if_false]
    refine ⟨⟨l, rfl, ?_⟩, ?_⟩
    · simp [Outcome.send, LobbyMsg.targetOf]
    · intro worldSn lastWorldSn hmem
      simp [Outcome.send] at hmem

/-! ### The end of the waiting for a dungeon -/

/-- What only one element of a list without duplicates contributes. -/
theorem flatMap_of_nodup {α β : Type} {as : List α} (hnodup : as.Nodup) {a : α} (ha : a ∈ as)
    {g : α → List β} (hg : ∀ b ∈ as, b ≠ a → g b = []) : as.flatMap g = g a := by
  obtain ⟨before, after, rfl⟩ := List.append_of_mem ha
  have hne : ∀ b, b ∈ before ∨ b ∈ after → b ≠ a := by
    rintro b hb rfl
    rw [List.nodup_middle] at hnodup
    exact (List.nodup_cons.1 hnodup).1 (List.mem_append.2 hb)
  have hbefore : before.flatMap g = [] :=
    List.flatMap_eq_nil_iff.2 fun b hb => hg b (by simp [hb]) (hne b (Or.inl hb))
  have hafter : after.flatMap g = [] :=
    List.flatMap_eq_nil_iff.2 fun b hb => hg b (by simp [hb]) (hne b (Or.inr hb))
  rw [List.flatMap_append, List.flatMap_cons, hbefore, hafter, List.nil_append, List.append_nil]

/-- Who waits is there once. -/
theorem nodup_waiting (players : ExtTreeSet UInt64 compare) : players.toList.Nodup := by
  unfold List.Nodup
  refine (ExtTreeSet.distinct_toList (t := players)).imp fun {a b} hne heq => hne ?_
  rw [heq]
  exact ReflCmp.compare_self

/-- What comes behind the sending of other messages. -/
theorem targets_andThen {l : Lobby} {o : Outcome Lobby LobbyMsg} (ho : o.state = some l)
    (f : Lobby → Outcome Lobby LobbyMsg) (playerSn : UInt64) :
    targets playerSn (o.andThen f) = targets playerSn o ++ targets playerSn (f l) ∧
      (o.andThen f).state = (f l).state := by
  unfold targets Outcome.andThen
  rw [ho]
  exact ⟨List.filterMap_append .., rfl⟩

/-- The player waits for its last public world, if that has no proxy. -/
def WaitsIfNone (locator : WorldProxyLocator) (worldId : ℤ) (playerSn : UInt64) (t : Lobby) : Prop :=
  locator.getWorldSnById worldId = invalidId → t.WaitsForWorld worldId playerSn

/-- The proxy of a public world, if there is one. -/
def publicTargets (locator : WorldProxyLocator) (worldId : ℤ) : List UInt64 :=
  if locator.getWorldSnById worldId = invalidId then [] else [locator.getWorldSnById worldId]

theorem goesToPublic_iff {playerSn : UInt64} {worldId : ℤ} {o : Outcome Lobby LobbyMsg} :
    GoesToPublic locator playerSn worldId o ↔ ∃ u, o.state = some u ∧
      targets playerSn o = publicTargets locator worldId ∧ WaitsIfNone locator worldId playerSn u := by
  unfold GoesToPublic publicTargets WaitsIfNone
  by_cases hproxy : locator.getWorldSnById worldId = invalidId
  · simp [hproxy]
  · simp [hproxy]

variable (locator) in
/-- One of those who wait goes to its last public world. -/
theorem enterWaiting_round (hlast : player.lastMap = some lastMap) {s : Lobby}
    (hfound : s.players.getPlayerBySn player.playerSn = some player) {sn : UInt64}
    (hmap : ∀ q, s.players.getPlayerBySn sn = some q → q.lastMap ≠ none) :
    ∃ t, (Lobby.enterWaiting locator sn s).state = some t ∧ t.players = s.players ∧
      (sn = player.playerSn → WaitsIfNone locator lastMap.lastPublicMap.worldId player.playerSn t) ∧
      (∀ b : UInt64,
        (b = player.playerSn → WaitsIfNone locator lastMap.lastPublicMap.worldId player.playerSn s) →
        b = player.playerSn → WaitsIfNone locator lastMap.lastPublicMap.worldId player.playerSn t) ∧
      (Lobby.enterWaiting locator sn s).sent.filterMap (LobbyMsg.targetOf player.playerSn) =
        if sn = player.playerSn then publicTargets locator lastMap.lastPublicMap.worldId else [] := by
  unfold Lobby.enterWaiting
  cases hq : s.players.getPlayerBySn sn with
  | none =>
    have hne : sn ≠ player.playerSn := by
      rintro rfl
      rw [hfound] at hq
      cases hq
    exact ⟨s, rfl, rfl, fun heq => absurd heq hne, fun b hb => hb, (if_neg hne).symm⟩
  | some q =>
    obtain ⟨t, ht, hplayers, hkeeps, hother⟩ :=
      enterPublicWorld_sends locator (hmap q hq) s player.playerSn
    have hqsn : q.playerSn = sn := (PlayerCollector.getPlayerBySn_some hq).2
    by_cases hsn : sn = player.playerSn
    · obtain rfl : q = player := by
        rw [hsn, hfound] at hq
        exact (Option.some.inj hq).symm
      obtain ⟨u, hu, htargets, hwaits⟩ := goesToPublic_iff.1 (enterPublicWorld_goes hlast s).1
      obtain rfl : t = u := Option.some.inj (ht.symm.trans hu)
      exact ⟨t, ht, hplayers, fun _ => hwaits, fun b hb heq => hwaits, htargets.trans (if_pos hsn).symm⟩
    · refine ⟨t, ht, hplayers, fun heq => absurd heq hsn, fun b hb heq hproxy => ?_, ?_⟩
      · exact hkeeps _ _ (hb heq hproxy)
      · rw [if_neg hsn]
        exact hother (hqsn ▸ hsn)

/-- **The dungeon is gone**: the player goes to its last public world. -/
theorem handleQueryWorldRs_goes (hlast : player.lastMap = some lastMap) {u : Lobby} {worldSn : UInt64}
    (h : u.Awaits player worldSn) :
    GoesToPublic locator player.playerSn lastMap.lastPublicMap.worldId
      (u.handleQueryWorldRs locator worldSn false) := by
  obtain ⟨players, hplayers, hmem⟩ := h.waits
  have hmem' := ExtTreeSet.mem_toList.2 hmem
  have hround : ∀ sn ∈ players.toList, ∀ s : Lobby, s.players = u.players → _ := fun sn hsn s hs =>
    enterWaiting_round locator hlast (hs ▸ h.found) fun q hq =>
      h.lastMap sn q ⟨players, hplayers, ExtTreeSet.mem_toList.1 hsn⟩ (hs ▸ hq)
  obtain ⟨t, ht, -, hwaits, -, hsent⟩ := runs_forEach (fun s => s.players = u.players) _ _ _
    (fun sn hsn s hs => (hround sn hsn s hs).imp fun t ht => ⟨ht.1, ht.2.1.trans hs, ht.2.2⟩) rfl
  unfold Lobby.handleQueryWorldRs
  simp only [hplayers]
  obtain ⟨htargets, hstate⟩ := targets_andThen ht (Lobby.eraseDungeon worldSn) player.playerSn
  refine goesToPublic_iff.2 ⟨_, hstate.trans rfl, htargets.trans ?_, hwaits _ hmem' rfl⟩
  have honce := flatMap_of_nodup (nodup_waiting players) hmem'
    (g := fun sn => if sn = player.playerSn then publicTargets locator lastMap.lastPublicMap.worldId
      else []) fun b _ hb => if_neg hb
  rw [if_pos rfl] at honce
  unfold targets
  rw [hsent, honce]
  exact List.append_nil _

/-- **The dungeon has a proxy**: the player is teleported. -/
theorem handleBroadcastCreateWorldProxy_goes {worlds : ResourceWorldMgr} {worldId : ℤ}
    (hdungeon : worlds.getResource worldId = some .dungeon) {u : Lobby} {worldSn : UInt64}
    (h : u.Awaits player worldSn) :
    targets player.playerSn (u.handleBroadcastCreateWorldProxy worlds worldId worldSn) = [worldSn] := by
  obtain ⟨players, hplayers, hmem⟩ := h.waits
  have hround : ∀ sn ∈ players.toList, ∀ s : Lobby, s = u → ∃ t,
      (Lobby.teleportWaiting worldSn sn s).state = some t ∧ t = u ∧ True ∧ (∀ _ : UInt64, True → True) ∧
        (Lobby.teleportWaiting worldSn sn s).sent.filterMap (LobbyMsg.targetOf player.playerSn) =
          if sn = player.playerSn then [worldSn] else [] := by
    rintro sn - s rfl
    unfold Lobby.teleportWaiting
    cases hq : s.players.getPlayerBySn sn with
    | none =>
      have hne : sn ≠ player.playerSn := by
        rintro rfl
        rw [h.found] at hq
        cases hq
      exact ⟨s, rfl, rfl, trivial, fun _ _ => trivial, (if_neg hne).symm⟩
    | some q =>
      have hqsn : q.playerSn = sn := (PlayerCollector.getPlayerBySn_some hq).2
      refine ⟨s, rfl, rfl, trivial, fun _ _ => trivial, ?_⟩
      by_cases hsn : sn = player.playerSn
      · simp [Outcome.send, LobbyMsg.targetOf, hqsn, hsn]
      · simp [Outcome.send, LobbyMsg.targetOf, hqsn, hsn]
  obtain ⟨t, ht, -, -, -, hsent⟩ := runs_forEach (fun s => s = u) (fun _ _ => True) _ _ hround rfl
  unfold Lobby.handleBroadcastCreateWorldProxy
  simp only [hdungeon, hplayers]
  refine (targets_andThen ht (Lobby.eraseDungeon worldSn) player.playerSn).1.trans ?_
  have honce := flatMap_of_nodup (nodup_waiting players) (ExtTreeSet.mem_toList.2 hmem)
    (g := fun sn => if sn = player.playerSn then [worldSn] else []) fun b _ hb => if_neg hb
  rw [if_pos rfl] at honce
  unfold targets
  rw [hsent, honce]
  rfl

/-! ### The login -/

/-- The data are passed on to the client, and the player goes to one of its places. -/
theorem handleQueryPlayerRs_load {worlds : ResourceWorldMgr} {l : Lobby} {account : List UInt8}
    {record : PlayerRecord} (hplayer : (l.players.getPlayerByAccount account).1 = some player)
    (hnew : player.lastMap = none) :
    l.handleQueryPlayerRs worlds locator ⟨account, record⟩ =
      (Outcome.send [.syncPlayer player record]
        { l with players := l.players.insert (player.load worlds record) }).andThen
        (Lobby.enterLastWorld locator (player.load worlds record)) := by
  unfold Lobby.handleQueryPlayerRs
  cases hsearch : l.players.getPlayerByAccount account with
  | mk found players =>
    rw [hsearch] at hplayer
    obtain rfl : found = some player := hplayer
    simp only [hnew]

variable (locator player) in
/-- Without a dungeon the player goes straight to its public world. -/
theorem enterLastWorld_goes_public (hlast : player.lastMap = some lastMap)
    (hnone : lastMap.lastDungeon = none) (l : Lobby) :
    GoesToPublic locator player.playerSn lastMap.lastPublicMap.worldId
        (Lobby.enterLastWorld locator player l) ∧
      AsksNoDungeon (Lobby.enterLastWorld locator player l) := by
  have heq : Lobby.enterLastWorld locator player l = Lobby.enterPublicWorld locator player l := by
    unfold Lobby.enterLastWorld
    simp only [hlast, Option.bind_some, hnone]
  rw [heq]
  exact enterPublicWorld_goes hlast l

variable (locator player) in
/-- With a dungeon the player goes there. -/
theorem enterLastWorld_goes_dungeon (hlast : player.lastMap = some lastMap) {dungeon : LastWorld}
    (hdungeon : lastMap.lastDungeon = some dungeon) (l : Lobby) :
    GoesToDungeon locator player.playerSn dungeon.worldSn (Lobby.enterLastWorld locator player l) := by
  unfold GoesToDungeon Lobby.enterLastWorld targets
  simp only [hlast, Option.bind_some, hdungeon]
  cases hexists : locator.isExistDungeon dungeon.worldSn with
  | true =>
    refine ⟨l, rfl, ?_⟩
    simp [Outcome.send, LobbyMsg.targetOf]
  | false =>
    refine ⟨_, rfl, ?_, _, Function.update_self .., ?_⟩
    · unfold Lobby.waitDungeon Outcome.send
      cases ((l.waitingForDungeon dungeon.worldSn).getD ∅).isEmpty with
      | true => simp [LobbyMsg.targetOf]
      | false => simp [LobbyMsg.targetOf]
    · exact ExtTreeSet.mem_insert.2 (Or.inl ReflCmp.compare_self)

variable (player) in
/-- The message to the client is no teleport, and no question. -/
theorem behind_sync (l : Lobby) (record : PlayerRecord) (f : Lobby → Outcome Lobby LobbyMsg)
    (playerSn : UInt64) :
    targets playerSn ((Outcome.send [.syncPlayer player record] l).andThen f) = targets playerSn (f l) ∧
      ((Outcome.send [.syncPlayer player record] l).andThen f).state = (f l).state ∧
      (AsksNoDungeon (f l) → AsksNoDungeon ((Outcome.send [.syncPlayer player record] l).andThen f)) := by
  obtain ⟨htargets, hstate⟩ := targets_andThen (o := Outcome.send [.syncPlayer player record] l) rfl f playerSn
  refine ⟨htargets.trans (List.nil_append _), hstate, fun hasks worldSn lastWorldSn hmem => ?_⟩
  rcases List.mem_cons.1 hmem with hsync | hlater
  · cases hsync
  · exact hasks worldSn lastWorldSn hlater

end

/-! ### When a player is sent to the world that it entered last -/

section

variable {worlds : ResourceWorldMgr} {record : PlayerRecord} {world : LastWorld} {publicId : ℤ}

/-- A lobby with one player, which has presented the empty account. -/
def Lobby.single : Lobby :=
  { Lobby.awake 0 with
    players :=
      { PlayerCollector.empty.insert (Player.awake ⟨⟨0, .tcpListen⟩, TagKey.clear⟩ []) with
        accounts := fun _ => some 0 } }

theorem Lobby.single_player :
    (Lobby.single.players.getPlayerByAccount []).1 =
      some (Player.awake ⟨⟨0, .tcpListen⟩, TagKey.clear⟩ []) := by
  have hplayer : Lobby.single.players.players[(0 : ℤ)]? =
      some (Player.awake ⟨⟨0, .tcpListen⟩, TagKey.clear⟩ []) :=
    (OrdMap.getElem?_insert ..).trans (if_pos rfl)
  unfold PlayerCollector.getPlayerByAccount
  simp only [Lobby.single] at hplayer ⊢
  simp only [hplayer]

/-- **Behind a public world**, the player goes straight there exactly if there is no dungeon in its data. -/
theorem resumesAt_public_iff (hpublic : worlds.isPublic world = true)
    (hworld : (LastMap.parserFromProto worlds record).lastPublicMap.worldId = world.worldId) :
    ResumesAt worlds record world publicId ↔ (LastMap.parserFromProto worlds record).lastDungeon = none := by
  constructor
  · intro h
    cases hdungeon : (LastMap.parserFromProto worlds record).lastDungeon with
    | none => rfl
    | some dungeon =>
      -- the dungeon has a proxy, and the public world has none
      have hgoes := h ⟨fun _ => none, fun _ => true⟩ Lobby.single [] _ Lobby.single_player rfl
      rw [if_pos hpublic, handleQueryPlayerRs_load Lobby.single_player rfl] at hgoes
      obtain ⟨u, -, hpart, -⟩ := goesToPublic_iff.1 hgoes.1
      rw [(behind_sync ..).1] at hpart
      obtain ⟨v, -, hteleported⟩ := enterLastWorld_goes_dungeon ⟨fun _ => none, fun _ => true⟩
        ((Player.awake ⟨⟨0, .tcpListen⟩, TagKey.clear⟩ []).load worlds record) rfl hdungeon _
      cases hpart.symm.trans hteleported
  · intro hnone locator l account player hplayer hnew
    rw [if_pos hpublic, handleQueryPlayerRs_load hplayer hnew]
    obtain ⟨htargets, hstate, hasks⟩ := behind_sync player
      { l with players := l.players.insert (player.load worlds record) } record
      (Lobby.enterLastWorld locator (player.load worlds record)) record.sn
    obtain ⟨hgoes, hno⟩ := enterLastWorld_goes_public locator
      (player.load worlds record) rfl hnone
      { l with players := l.players.insert (player.load worlds record) }
    refine ⟨?_, hasks hno⟩
    unfold GoesToPublic at hgoes ⊢
    rw [htargets, hstate]
    rw [hworld] at hgoes
    exact hgoes

/-- **Behind a dungeon**, the player goes there, or to its last public world. -/
theorem resumesAt_dungeon (hpublic : worlds.isPublic world = false) {dungeon : LastWorld}
    (hdungeon : (LastMap.parserFromProto worlds record).lastDungeon = some dungeon)
    (hsn : dungeon.worldSn = world.worldSn) :
    ResumesAt worlds record world (LastMap.parserFromProto worlds record).lastPublicMap.worldId := by
  intro locator l account player hplayer hnew
  rw [hpublic, if_neg Bool.false_ne_true, handleQueryPlayerRs_load hplayer hnew]
  refine ⟨?_, fun u locator' hawaits => ?_, fun u worldId hawaits hkind => ?_⟩
  · obtain ⟨htargets, hstate, -⟩ := behind_sync player
      { l with players := l.players.insert (player.load worlds record) } record
      (Lobby.enterLastWorld locator (player.load worlds record)) record.sn
    have hgoes := enterLastWorld_goes_dungeon locator (player.load worlds record) rfl hdungeon
      { l with players := l.players.insert (player.load worlds record) }
    unfold GoesToDungeon at hgoes ⊢
    rw [htargets, hstate]
    rw [hsn] at hgoes
    exact hgoes
  · exact handleQueryWorldRs_goes rfl hawaits
  · exact handleBroadcastCreateWorldProxy_goes hkind hawaits

/-- The last one of a list is the last one of its kind. -/
theorem getLast?_filter {α : Type} {p : α → Bool} {as : List α} {a : α} (hlast : as.getLast? = some a)
    (ha : p a = true) : (as.filter p).getLast? = some a := by
  obtain ⟨before, rfl⟩ := List.getLast?_eq_some_iff.1 hlast
  rw [getLast?_filter_append, if_pos ha]

/-- **When a player is sent to the world that it entered last**: if that was a dungeon, or if the player never was
in a dungeon. -/
theorem resumesWhereLeft_iff {Pos : Type} (initPosition : ℤ → Pos) (curWorldId : ℤ)
    (proto : PlacesProto Pos) {es : List LastMapEvent}
    (hes : ∀ world ∈ enteredWorlds es, worlds.getResource world.worldId = some .publicWorld ∨
      worlds.getResource world.worldId = some .dungeon) :
    ResumesWhereLeft worlds initPosition curWorldId proto es ↔
      ∀ world, (enteredWorlds es).getLast? = some world → worlds.isPublic world = true →
        lastDungeonSn worlds (LastMap.parserFromProto worlds proto.record) es = none := by
  obtain ⟨s, hs, htracks⟩ := PlayerPlaces.run_tracks curWorldId proto hes
  obtain ⟨places, hplaces, hworldId, hdungeonSn⟩ := htracks.tracks
  obtain rfl : LastMap.parserFromProto worlds s.saved.record = places :=
    Option.some.inj (htracks.load_saved.trans hplaces)
  have hpublicId : ∀ world, (enteredWorlds es).getLast? = some world → worlds.isPublic world = true →
      (LastMap.parserFromProto worlds s.saved.record).lastPublicMap.worldId = world.worldId := by
    intro world hlast hpublic
    rw [hworldId, lastPublicId, getLast?_filter hlast hpublic]
  constructor
  · rintro ⟨t, ht, hresumes⟩ world hlast hpublic
    obtain rfl : s = t := Option.some.inj (hs.symm.trans ht)
    rw [← hdungeonSn, (resumesAt_public_iff hpublic (hpublicId world hlast hpublic)).1 (hresumes world hlast)]
    rfl
  · intro h
    refine ⟨s, hs, fun world hlast => ?_⟩
    cases hpublic : worlds.isPublic world with
    | true =>
      refine (resumesAt_public_iff hpublic (hpublicId world hlast hpublic)).2 ?_
      rw [← Option.map_eq_none_iff, hdungeonSn]
      exact h world hlast hpublic
    | false =>
      rw [lastDungeonSn, getLast?_filter hlast (by simp [hpublic])] at hdungeonSn
      obtain ⟨dungeon, hdungeon, hsn⟩ := Option.map_eq_some_iff.1 hdungeonSn
      rw [← hworldId]
      exact resumesAt_dungeon hpublic hdungeon hsn

end

/-! ### A dungeon, and a public world -/

/-- The worlds of the resources: one public world, and one dungeon. -/
def ResourceWorldMgr.two : ResourceWorldMgr where
  getResource := fun worldId =>
    if worldId = 1 then some .publicWorld else if worldId = 2 then some .dungeon else none
  initMap := 1

/-- The data of a new player. -/
def PlacesProto.new : PlacesProto Unit := ⟨3, [97], ⟨0, 0, ()⟩, ⟨0, 0, ()⟩⟩

/-- A player that was in the public world, and then in the dungeon, is sent to the dungeon. -/
theorem resumesWhereLeft_dungeon :
    ResumesWhereLeft .two (fun _ => ()) 0 PlacesProto.new
      [.enterWorld ⟨1, 5⟩, .syncPlayer 0, .enterWorld ⟨2, 7⟩] := by
  refine (resumesWhereLeft_iff (fun _ => ()) 0 PlacesProto.new ?_).2 ?_
  · intro world hworld
    simp only [enteredWorlds, List.filterMap_cons, List.filterMap_nil, List.mem_cons, List.not_mem_nil,
      or_false] at hworld
    rcases hworld with rfl | rfl
    · exact Or.inl rfl
    · exact Or.inr rfl
  · intro world hlast hpublic
    obtain rfl : (⟨2, 7⟩ : LastWorld) = world := Option.some.inj hlast
    cases hpublic

/-- **A player that was in the dungeon, and then in the public world**, is sent to the dungeon. -/
theorem not_resumesWhereLeft_public :
    ¬ ∀ (worlds : ResourceWorldMgr) (initPosition : ℤ → Unit) (curWorldId : ℤ) (proto : PlacesProto Unit)
      (es : List LastMapEvent),
        (∀ world ∈ enteredWorlds es, worlds.getResource world.worldId = some .publicWorld ∨
          worlds.getResource world.worldId = some .dungeon) →
          ResumesWhereLeft worlds initPosition curWorldId proto es := by
  intro hall
  obtain ⟨s, hs, hresumes⟩ := hall .two (fun _ => ()) 0 PlacesProto.new
    [.enterWorld ⟨2, 7⟩, .syncPlayer 0, .enterWorld ⟨1, 5⟩] (by
      intro world hworld
      simp only [enteredWorlds, List.filterMap_cons, List.filterMap_nil, List.mem_cons, List.not_mem_nil,
        or_false] at hworld
      rcases hworld with rfl | rfl
      · exact Or.inr rfl
      · exact Or.inl rfl)
  obtain rfl := Option.some.inj hs
  have hpublic : ResumesAt .two _ ⟨1, 5⟩ 1 := hresumes ⟨1, 5⟩ rfl
  cases (resumesAt_public_iff rfl rfl).1 hpublic

end MmoServer
