/-
**A world of the space process.**

A world holds the players that the game processes have sent to it, and the serial numbers of those whose
appearance it has not sent out yet.  A timer of one second sends the appearance of the new players to all,
and that of the others to the new ones.  A player leaves when its game process says so, or when its
connection is lost.  A dungeon that its last player was taken from gives up its timers.

Main definitions:

* `MmoServer.Role`, `MmoServer.AppearNotice`, `MmoServer.WorldMsg` — what a world sends;
* `MmoServer.SpaceWorld` — the world;
* `MmoServer.SpaceWorld.handleSyncPlayer`, `MmoServer.SpaceWorld.handleNetworkDisconnect`,
  `MmoServer.SpaceWorld.handleG2SRemovePlayer`, `MmoServer.SpaceWorld.syncAppear` — its handlers.

Main results:

* `MmoServer.SpaceWorld.SyncsPlayer`, `MmoServer.SpaceWorld.Leaves` — **what a handler can do**, with
  `MmoServer.SpaceWorld.handleSyncPlayer_spec`, `MmoServer.SpaceWorld.handleNetworkDisconnect_spec` and
  `MmoServer.SpaceWorld.handleG2SRemovePlayer_spec`;
* `MmoServer.SpaceWorld.syncAppear_spec` — **what the timer shows**;
* `MmoServer.SpaceWorld.handleG2SRemovePlayer_removed` — when the timers are given up.
-/

import MmoServer.Knapsack
import MmoServer.PlayerTransit
import MmoServer.Recycling

set_option relaxedAutoImplicit false
set_option autoImplicit false

namespace MmoServer

open Std Handler

/-! ### What is sent -/

/-- `Proto.Role`: what the clients learn of a player. -/
structure Role (fl : FloatOps) where
  name : List UInt8
  sn : UInt64
  level : Int32
  xp : Int32
  hp : Int32
  mp : Int32
  atk : Int32
  def' : Int32
  gender : Int32
  position : Vector3 fl

/-- What a world sends to the client of a player when players come and go. -/
inductive AppearNotice (fl : FloatOps)
  | enterWorld (worldId : ℤ) (position : Vector3 fl)
  | allRoleAppear (roles : List (Role fl))
  | roleDisappear (sn : UInt64)

/-- What the handlers of a world send. -/
inductive WorldMsg (fl : FloatOps)
  | send (player : Player) (notice : AppearNotice fl)
  /-- `G2DB_SavePlayer`. -/
  | savePlayer (playerSn : UInt64)
  /-- `RemoveTimer`. -/
  | removeTimer (timer : UInt64)
  /-- `MI_DungeonDisapper`. -/
  | dungeonDisapper (worldSn : UInt64)

/-! ### The world -/

/-- The timer that a message removes. -/
def WorldMsg.removed {fl : FloatOps} : WorldMsg fl → Option UInt64
  | .removeTimer timer => some timer
  | .send _ _ | .savePlayer _ | .dungeonDisapper _ => none

/-- `Proto.SyncPlayer`: the record of a player.  The position is the one that `PlayerComponentLastMap`
finds in it for the world that is entered. -/
structure SyncPlayer (fl : FloatOps) where
  playerSn : UInt64
  name : List UInt8
  player : PlayerProto
  position : Vector3 fl

/-- What a world knows of a player that it holds. -/
structure PlayerBody (fl : FloatOps) where
  name : List UInt8
  detail : PlayerComponentDetail
  position : Vector3 fl

/-- `World`, with its players. -/
structure SpaceWorld (fl : FloatOps) where
  sn : UInt64
  worldId : ℤ
  worldType : ResourceWorldType
  syncWorldTimer : UInt64
  syncAppearTimer : UInt64
  playerMgr : PlayerManager
  /-- By the serial numbers of the players. -/
  bodies : UInt64 → PlayerBody fl
  adds : ExtTreeSet UInt64 compare

namespace SpaceWorld

variable {fl : FloatOps}

/-- The players, in the order of `GetAll`. -/
def players (w : SpaceWorld fl) : List Player := w.playerMgr.players.toList.map Prod.snd

/-- `BroadcastPacket`. -/
def broadcastPacket (w : SpaceWorld fl) (notice : AppearNotice fl) : List (WorldMsg fl) :=
  w.players.map fun player => .send player notice

/-- `BroadcastPacket` to some of the players. -/
def broadcastPacketTo (w : SpaceWorld fl) (notice : AppearNotice fl)
    (players : ExtTreeSet UInt64 compare) : List (WorldMsg fl) :=
  (players.toList.filterMap w.playerMgr.getPlayerBySn).map fun player => .send player notice

/-- `AddRoleToAppear`. -/
def role (w : SpaceWorld fl) (player : Player) : Role fl :=
  let body := w.bodies player.playerSn
  { name := body.name
    sn := player.playerSn
    level := body.detail.lv
    xp := body.detail.xp
    hp := body.detail.hp
    mp := body.detail.mp
    atk := body.detail.atk
    def' := body.detail.def'
    gender := body.detail.gender
    position := body.position }

/-- The new players that are still there. -/
def newRoles (w : SpaceWorld fl) : List (Role fl) :=
  (w.adds.toList.filterMap w.playerMgr.getPlayerBySn).map w.role

/-- The players that are not new. -/
def otherRoles (w : SpaceWorld fl) : List (Role fl) :=
  ((w.playerMgr.players.toList.filter fun one => one.1 ∉ w.adds).map Prod.snd).map w.role

/-- `SyncAppearTimer`. -/
def syncAppear (w : SpaceWorld fl) : Outcome (SpaceWorld fl) (WorldMsg fl) :=
  if w.adds.isEmpty then .pure w
  else
    let protoNewAppear := w.newRoles
    let protoOther := w.otherRoles
    .send
      ((if protoNewAppear.length > 0 then w.broadcastPacket (.allRoleAppear protoNewAppear) else []) ++
        if protoOther.length > 0 then w.broadcastPacketTo (.allRoleAppear protoOther) w.adds else [])
      { w with adds := ∅ }

/-- `HandleSyncPlayer`. -/
def handleSyncPlayer (w : SpaceWorld fl) (identify : NetIdentify) (proto : SyncPlayer fl) :
    Outcome (SpaceWorld fl) (WorldMsg fl) :=
  match w.playerMgr.addPlayer proto.playerSn w.sn identify with
  | none => .crash []
  | some (_, none) => .pure w
  | some (playerMgr, some player) =>
    let body : PlayerBody fl :=
      ⟨proto.name, .parserFromProto proto.player, proto.position⟩
    .send [.send player (.enterWorld w.worldId body.position)]
      { w with
        playerMgr := playerMgr
        bodies := Function.update w.bodies proto.playerSn body
        adds := w.adds.insert proto.playerSn }

/-- `HandleNetworkDisconnect`. -/
def handleNetworkDisconnect (w : SpaceWorld fl) (identify : NetIdentify) :
    Outcome (SpaceWorld fl) (WorldMsg fl) :=
  match identify.tagKey.getTagValue .player with
  | some value =>
    match w.playerMgr.getPlayerBySn value.keyInt64 with
    | none => .pure w
    | some player =>
      .send (.savePlayer player.playerSn :: w.broadcastPacket (.roleDisappear player.playerSn))
        { w with playerMgr := w.playerMgr.removePlayerBySn value.keyInt64 }
  | none =>
    match identify.tagKey.getTagValue .app with
    | none => .pure w
    | some _ =>
      .send ((w.players.filter fun player =>
          player.socketKey.socket = identify.socketKey.socket).map fun player =>
            .savePlayer player.playerSn)
        { w with playerMgr := w.playerMgr.removeAllPlayers identify.socketKey.socket }

/-- The player is taken out, and a dungeon that is empty then gives up its timers. -/
def takeOut (w : SpaceWorld fl) (playerSn : UInt64) : Outcome (SpaceWorld fl) (WorldMsg fl) :=
  let left : SpaceWorld fl := { w with playerMgr := w.playerMgr.removePlayerBySn playerSn }
  .send
    (if w.worldType = .dungeon ∧ left.players = [] then
      [.removeTimer w.syncWorldTimer, .removeTimer w.syncAppearTimer, .dungeonDisapper w.sn]
    else [])
    left

/-- `HandleG2SRemovePlayer`, for the player that `GetPlayer` finds. -/
def handleG2SRemovePlayer (w : SpaceWorld fl) (identify : NetIdentify) (playerSn : UInt64) :
    Outcome (SpaceWorld fl) (WorldMsg fl) :=
  match World.getPlayer w.playerMgr identify with
  | none => .pure w
  | some player =>
    if playerSn ≠ player.playerSn then .pure w
    else
      (w.takeOut player.playerSn).andThen fun left =>
        .send (left.broadcastPacket (.roleDisappear player.playerSn)) left

variable {w : SpaceWorld fl}

/-! ### What the handlers can do -/

theorem mem_players {player : Player} :
    player ∈ w.players ↔ w.playerMgr.getPlayerBySn player.playerSn = some player := by
  refine OrdMap.mem_values.trans ⟨?_, fun h => ⟨_, h⟩⟩
  rintro ⟨sn, h⟩
  rw [w.playerMgr.sn_eq sn player h]
  exact h

/-- The appearance timer leaves no new player behind. -/
theorem syncAppear_state (w : SpaceWorld fl) : w.syncAppear.state = some { w with adds := ∅ } := by
  unfold syncAppear
  split
  · rename_i hempty
    have hadds : w.adds = ∅ := ExtTreeSet.isEmpty_iff.1 hempty
    rw [← hadds]
    rfl
  · rfl

/-- What `HandleSyncPlayer` can do: nothing for a player that is there, or let it enter. -/
inductive SyncsPlayer (w : SpaceWorld fl) (proto : SyncPlayer fl) :
    List (WorldMsg fl) → SpaceWorld fl → Prop
  | known (hheld : (w.playerMgr.getPlayerBySn proto.playerSn).isSome = true) : SyncsPlayer w proto [] w
  | enters {player : Player} {playerMgr : PlayerManager} (hsn : player.playerSn = proto.playerSn)
      (hfree : w.playerMgr.getPlayerBySn proto.playerSn = none)
      (hplayers : ∀ sn, playerMgr.getPlayerBySn sn =
        if proto.playerSn = sn then some player else w.playerMgr.getPlayerBySn sn) :
      SyncsPlayer w proto [.send player (.enterWorld w.worldId proto.position)]
        { w with
          playerMgr := playerMgr
          bodies := Function.update w.bodies proto.playerSn
            ⟨proto.name, .parserFromProto proto.player, proto.position⟩
          adds := w.adds.insert proto.playerSn }

theorem handleSyncPlayer_spec (identify : NetIdentify) (proto : SyncPlayer fl) :
    (w.handleSyncPlayer identify proto).Ends (SyncsPlayer w proto) := by
  unfold handleSyncPlayer
  split
  · exact Outcome.ends_crash
  · rename_i playerMgr hadd
    refine Outcome.ends_pure (.known ?_)
    unfold PlayerManager.addPlayer at hadd
    split at hadd
    · split at hadd
      · cases hadd
      · cases hadd
    · rename_i hheld
      exact Option.isSome_iff_ne_none.2 hheld
  · rename_i playerMgr player hadd
    obtain ⟨-, hsn, hfree, hplayers⟩ := PlayerManager.getPlayerBySn_addPlayer hadd
    exact Outcome.ends_send (.enters hsn hfree hplayers)

/-- What the departure of a player can do: nothing, or take out one player and tell the others. -/
inductive Leaves (w : SpaceWorld fl) : List (WorldMsg fl) → SpaceWorld fl → Prop
  | nobody : Leaves w [] w
  | leaves {player : Player} {sent : List (WorldMsg fl)}
      (hheld : w.playerMgr.getPlayerBySn player.playerSn = some player)
      (htold : ∀ q ∈ w.players, q.playerSn ≠ player.playerSn →
        .send q (.roleDisappear player.playerSn) ∈ sent)
      (honly : ∀ q notice, .send q notice ∈ sent → notice = .roleDisappear player.playerSn) :
      Leaves w sent { w with playerMgr := w.playerMgr.removePlayerBySn player.playerSn }

/-- The same notice for some players. -/
theorem send_mem_map {players : List Player} {notice notice' : AppearNotice fl} {player : Player} :
    WorldMsg.send player notice' ∈ players.map (fun q => .send q notice) ↔
      player ∈ players ∧ notice' = notice := by
  rw [List.mem_map]
  constructor
  · rintro ⟨q, hq, heq⟩
    obtain ⟨rfl, rfl⟩ := WorldMsg.send.inj heq
    exact ⟨hq, rfl⟩
  · rintro ⟨hplayer, rfl⟩
    exact ⟨player, hplayer, rfl⟩

theorem send_mem_broadcastPacket {notice notice' : AppearNotice fl} {player : Player} :
    .send player notice' ∈ w.broadcastPacket notice ↔ player ∈ w.players ∧ notice' = notice :=
  send_mem_map

theorem handleNetworkDisconnect_spec {identify : NetIdentify} {value : TagValue}
    (hplayer : identify.tagKey.getTagValue .player = some value) :
    (w.handleNetworkDisconnect identify).Ends (Leaves w) := by
  cases hheld : w.playerMgr.getPlayerBySn value.keyInt64 with
  | none =>
    simp only [handleNetworkDisconnect, hplayer, hheld]
    exact Outcome.ends_pure Leaves.nobody
  | some player =>
    have hsn : player.playerSn = value.keyInt64 := PlayerManager.getPlayerBySn_some hheld
    simp only [handleNetworkDisconnect, hplayer, hheld]
    rw [← hsn] at hheld ⊢
    refine Outcome.ends_send (.leaves hheld (fun q hq _ => ?_) fun q notice hsent => ?_)
    · exact List.mem_cons_of_mem _ (send_mem_broadcastPacket.2 ⟨hq, rfl⟩)
    · rcases List.mem_cons.1 hsent with heq | hsent
      · cases heq
      · exact (send_mem_broadcastPacket.1 hsent).2

theorem getPlayer_held {identify : NetIdentify} {player : Player}
    (h : World.getPlayer w.playerMgr identify = some player) :
    w.playerMgr.getPlayerBySn player.playerSn = some player := by
  unfold World.getPlayer at h
  split at h
  · exact (PlayerManager.getPlayerBySocket_some h).2
  · split at h
    · rw [PlayerManager.getPlayerBySn_some h]
      exact h
    · cases h

theorem handleG2SRemovePlayer_spec (identify : NetIdentify) (playerSn : UInt64) :
    (w.handleG2SRemovePlayer identify playerSn).Ends (Leaves w) := by
  unfold handleG2SRemovePlayer
  split
  · exact Outcome.ends_pure Leaves.nobody
  · rename_i player hfound
    split
    · exact Outcome.ends_pure Leaves.nobody
    · refine Outcome.ends_send (.leaves (getPlayer_held hfound) (fun q hq hne => ?_)
        fun q notice hsent => ?_)
      · refine List.mem_append_right _ (send_mem_broadcastPacket.2 ⟨?_, rfl⟩)
        rw [mem_players] at hq ⊢
        rw [PlayerManager.getPlayerBySn_removePlayerBySn, if_neg hne.symm]
        exact hq
      · rcases List.mem_append.1 hsent with hsent | hsent
        · simp only [takeOut, Outcome.send] at hsent
          split at hsent
          · simp at hsent
          · cases hsent
        · exact (send_mem_broadcastPacket.1 hsent).2

/-- The players that `BroadcastPacket` reaches by their serial numbers. -/
theorem mem_filterMap_getPlayerBySn {sns : ExtTreeSet UInt64 compare} {player : Player} :
    player ∈ sns.toList.filterMap w.playerMgr.getPlayerBySn ↔
      player ∈ w.players ∧ player.playerSn ∈ sns := by
  rw [List.mem_filterMap, mem_players]
  constructor
  · rintro ⟨sn, hsn, hplayer⟩
    rw [PlayerManager.getPlayerBySn_some hplayer]
    exact ⟨hplayer, ExtTreeSet.mem_toList.1 hsn⟩
  · rintro ⟨hplayer, hsn⟩
    exact ⟨player.playerSn, ExtTreeSet.mem_toList.2 hsn, hplayer⟩

theorem mem_newRoles {role : Role fl} :
    role ∈ w.newRoles ↔ ∃ player ∈ w.players, player.playerSn ∈ w.adds ∧ w.role player = role := by
  unfold newRoles
  rw [List.mem_map]
  refine exists_congr fun player => ?_
  rw [mem_filterMap_getPlayerBySn, and_assoc]

theorem mem_otherRoles {role : Role fl} :
    role ∈ w.otherRoles ↔ ∃ player ∈ w.players, player.playerSn ∉ w.adds ∧ w.role player = role := by
  unfold otherRoles players
  simp only [List.mem_map, List.mem_filter, decide_eq_true_iff]
  constructor
  · rintro ⟨player, ⟨one, ⟨hone, hnot⟩, rfl⟩, rfl⟩
    have hsn := w.playerMgr.sn_eq _ _ (ExtTreeMap.mem_toList_iff_getElem?_eq_some.1 hone)
    exact ⟨one.2, ⟨one, hone, rfl⟩, hsn ▸ hnot, rfl⟩
  · rintro ⟨player, ⟨one, hone, rfl⟩, hnot, rfl⟩
    have hsn := w.playerMgr.sn_eq _ _ (ExtTreeMap.mem_toList_iff_getElem?_eq_some.1 hone)
    exact ⟨one.2, ⟨one, ⟨hone, hsn ▸ hnot⟩, rfl⟩, rfl⟩

theorem send_mem_broadcastPacketTo {notice notice' : AppearNotice fl} {player : Player}
    {sns : ExtTreeSet UInt64 compare} :
    .send player notice' ∈ w.broadcastPacketTo notice sns ↔
      (player ∈ w.players ∧ player.playerSn ∈ sns) ∧ notice' = notice := by
  rw [← mem_filterMap_getPlayerBySn]
  exact send_mem_map

/-- **The timer** shows the new players to all, and the others to the new ones. -/
theorem syncAppear_spec (w : SpaceWorld fl) :
    w.syncAppear.Ends fun sent t =>
      t = { w with adds := ∅ } ∧
        (∀ viewer ∈ w.players, ∀ player ∈ w.players,
          (viewer.playerSn ∈ w.adds ∨ player.playerSn ∈ w.adds) →
            ∃ roles, .send viewer (.allRoleAppear roles) ∈ sent ∧ w.role player ∈ roles) ∧
        ∀ m ∈ sent, ∃ viewer roles, m = .send viewer (.allRoleAppear roles) ∧
          ∀ role ∈ roles, ∃ player ∈ w.players, w.role player = role := by
  intro t ht
  refine ⟨Option.some.inj (ht.symm.trans (syncAppear_state w)), ?_⟩
  unfold syncAppear
  split
  · rename_i hempty
    refine ⟨fun viewer _ player _ hnew => ?_, fun m hm => nomatch hm⟩
    rw [ExtTreeSet.isEmpty_iff.1 hempty] at hnew
    rcases hnew with hnew | hnew
    · exact absurd hnew ExtTreeSet.not_mem_empty
    · exact absurd hnew ExtTreeSet.not_mem_empty
  · simp only [Outcome.send]
    refine ⟨fun viewer hviewer player hplayer hnew => ?_, fun m hm => ?_⟩
    · by_cases hadds : player.playerSn ∈ w.adds
      · have hrole : w.role player ∈ w.newRoles := mem_newRoles.2 ⟨player, hplayer, hadds, rfl⟩
        refine ⟨w.newRoles, List.mem_append_left _ ?_, hrole⟩
        rw [if_pos (List.length_pos_of_mem hrole)]
        exact send_mem_broadcastPacket.2 ⟨hviewer, rfl⟩
      · have hrole : w.role player ∈ w.otherRoles := mem_otherRoles.2 ⟨player, hplayer, hadds, rfl⟩
        refine ⟨w.otherRoles, List.mem_append_right _ ?_, hrole⟩
        rw [if_pos (List.length_pos_of_mem hrole)]
        exact send_mem_broadcastPacketTo.2 ⟨⟨hviewer, hnew.resolve_right hadds⟩, rfl⟩
    · rcases List.mem_append.1 hm with hm | hm
      · split at hm
        · obtain ⟨viewer, -, rfl⟩ := List.mem_map.1 hm
          refine ⟨viewer, w.newRoles, rfl, fun role hrole => ?_⟩
          obtain ⟨player, hplayer, -, rfl⟩ := mem_newRoles.1 hrole
          exact ⟨player, hplayer, rfl⟩
        · cases hm
      · split at hm
        · obtain ⟨viewer, -, rfl⟩ := List.mem_map.1 hm
          refine ⟨viewer, w.otherRoles, rfl, fun role hrole => ?_⟩
          obtain ⟨player, hplayer, -, rfl⟩ := mem_otherRoles.1 hrole
          exact ⟨player, hplayer, rfl⟩
        · cases hm

/-! ### The timers -/

/-- The message takes the last player from a dungeon. -/
def EmptiesDungeon (w : SpaceWorld fl) (identify : NetIdentify) (playerSn : UInt64) : Prop :=
  w.worldType = .dungeon ∧ ∃ player ∈ World.getPlayer w.playerMgr identify,
    player.playerSn = playerSn ∧ ∀ q ∈ w.players, q.playerSn = playerSn

theorem removed_send (players : List Player) (notice : AppearNotice fl) :
    (players.map fun player => WorldMsg.send player notice).filterMap WorldMsg.removed = [] := by
  rw [List.filterMap_eq_nil_iff]
  intro m hm
  obtain ⟨player, -, rfl⟩ := List.mem_map.1 hm
  rfl

theorem removed_save (players : List Player) :
    (players.map fun player => (WorldMsg.savePlayer player.playerSn : WorldMsg fl)).filterMap
      WorldMsg.removed = [] := by
  rw [List.filterMap_eq_nil_iff]
  intro m hm
  obtain ⟨player, -, rfl⟩ := List.mem_map.1 hm
  rfl

theorem removed_syncAppear (w : SpaceWorld fl) :
    w.syncAppear.sent.filterMap WorldMsg.removed = [] := by
  unfold syncAppear
  split
  · rfl
  · simp only [Outcome.send, List.filterMap_append, List.append_eq_nil_iff]
    constructor
    · split
      · exact removed_send _ _
      · rfl
    · split
      · exact removed_send _ _
      · rfl

theorem removed_syncPlayer {proto : SyncPlayer fl} {sent : List (WorldMsg fl)} {t : SpaceWorld fl}
    (h : SyncsPlayer w proto sent t) : sent.filterMap WorldMsg.removed = [] := by
  cases h with
  | known => rfl
  | enters => rfl

/-- A lost connection costs no timer, and leaves the new players to be announced. -/
theorem handleNetworkDisconnect_keeps (identify : NetIdentify) :
    (w.handleNetworkDisconnect identify).Ends fun sent t =>
      sent.filterMap WorldMsg.removed = [] ∧ t.adds = w.adds ∧
        t.syncAppearTimer = w.syncAppearTimer := by
  unfold handleNetworkDisconnect
  split
  · split
    · exact Outcome.ends_pure ⟨rfl, rfl, rfl⟩
    · exact Outcome.ends_send ⟨removed_send _ _, rfl, rfl⟩
  · split
    · exact Outcome.ends_pure ⟨rfl, rfl, rfl⟩
    · exact Outcome.ends_send ⟨removed_save _, rfl, rfl⟩

theorem players_removePlayerBySn (playerSn : UInt64) :
    ({ w with playerMgr := w.playerMgr.removePlayerBySn playerSn } : SpaceWorld fl).players = [] ↔
      ∀ q ∈ w.players, q.playerSn = playerSn := by
  rw [List.eq_nil_iff_forall_not_mem]
  have hmem : ∀ q, q ∈ ({ w with playerMgr := w.playerMgr.removePlayerBySn playerSn } :
      SpaceWorld fl).players ↔ q ∈ w.players ∧ q.playerSn ≠ playerSn := by
    intro q
    rw [mem_players, mem_players, PlayerManager.getPlayerBySn_removePlayerBySn]
    split
    · rename_i heq
      simp [heq]
    · rename_i hne
      exact (and_iff_left (Ne.symm hne)).symm
  constructor
  · intro h q hq
    by_contra hne
    exact h q ((hmem q).2 ⟨hq, hne⟩)
  · intro h q hq
    obtain ⟨hin, hne⟩ := (hmem q).1 hq
    exact hne (h q hin)

/-- **Both timers are given up** exactly if the message takes the last player from a dungeon. -/
theorem handleG2SRemovePlayer_removed (identify : NetIdentify) (playerSn : UInt64) :
    (w.handleG2SRemovePlayer identify playerSn).Ends fun sent t =>
      t.adds = w.adds ∧ t.syncAppearTimer = w.syncAppearTimer ∧
        (w.EmptiesDungeon identify playerSn ∧
            sent.filterMap WorldMsg.removed = [w.syncWorldTimer, w.syncAppearTimer] ∨
          ¬ w.EmptiesDungeon identify playerSn ∧ sent.filterMap WorldMsg.removed = []) := by
  unfold handleG2SRemovePlayer
  split
  · rename_i hnone
    refine Outcome.ends_pure ⟨rfl, rfl, .inr ⟨?_, rfl⟩⟩
    rintro ⟨-, player, hplayer, -⟩
    rw [hnone] at hplayer
    cases hplayer
  · rename_i player hfound
    split
    · rename_i hne
      refine Outcome.ends_pure ⟨rfl, rfl, .inr ⟨?_, rfl⟩⟩
      rintro ⟨-, q, hq, hsn, -⟩
      obtain rfl := Option.some.inj (hfound.symm.trans hq)
      exact hne hsn.symm
    · rename_i heq
      obtain rfl : playerSn = player.playerSn := not_not.1 heq
      refine Outcome.ends_send ⟨rfl, rfl, ?_⟩
      have hempties : w.EmptiesDungeon identify player.playerSn ↔
          w.worldType = .dungeon ∧ ∀ q ∈ w.players, q.playerSn = player.playerSn := by
        refine and_congr_right fun _ => ⟨?_, fun hall => ⟨player, hfound, rfl, hall⟩⟩
        rintro ⟨-, -, -, hall⟩
        exact hall
      rw [hempties, ← players_removePlayerBySn, List.filterMap_append]
      simp only [takeOut, Outcome.send]
      by_cases hlast : w.worldType = .dungeon ∧
          ({ w with playerMgr := w.playerMgr.removePlayerBySn player.playerSn } :
            SpaceWorld fl).players = []
      · refine .inl ⟨hlast, ?_⟩
        rw [if_pos hlast, broadcastPacket, removed_send]
        rfl
      · refine .inr ⟨hlast, ?_⟩
        rw [if_neg hlast, broadcastPacket, removed_send]
        rfl

end SpaceWorld

/-! ### Travellers -/

/-- A packet of the client of a socket. -/
def fromSocket (socket : ℤ) : NetIdentify :=
  ⟨SocketKey.none, TagKey.clear.addTagInt .socket (socketTag socket)⟩

/-- The place where worlds begin. -/
def Vector3.origin : Vector3 .int := ⟨FloatOps.int.zero, FloatOps.int.zero, FloatOps.int.zero⟩

/-- The record of a player. -/
def traveller (playerSn : UInt64) : SyncPlayer .int :=
  ⟨playerSn, [], ⟨⟨0, 1, 0, 100, 100, 10, 10⟩, ⟨0, []⟩⟩, .origin⟩

end MmoServer
