/-
**Waiting players and null pointers.**

The table of the players that wait for a teleport outlives the messages that fill it: a player may
leave its proxy while it waits, because its client disconnects or because another teleport is over.
The announcement of a world then searches the players of the proxy for one that is gone.  The
entries of the teams are shared by all proxies of the process, and two handlers make null pointers
there.  This module runs a proxy with its table, its players and the gather of the process.

Main definitions:

* `MmoServer.TeleportProxy` — the proxy, its table, and the gather;
* `MmoServer.TeleportProxy.handleC2GEnterWorld`, `MmoServer.TeleportProxy.createTeleportObject`,
  `MmoServer.broadcastSyncPlayer` — the handlers that fill the table;
* `MmoServer.TeleportProxy.step` — one message;
* `MmoServer.WaitingHeld` — everyone who waits is held by the proxy;
* `MmoServer.NoNullPointer` — a message makes no handler read through a null player or team;
* `MmoServer.TeleportProxy.Undisturbed` — the condition on the messages.

Main results:

* `MmoServer.TeleportProxy.Safe.noNullPointer` — a safe state handles every message;
* `MmoServer.TeleportProxy.Safe.step` — **one step** that meets the condition keeps a state safe;
* `MmoServer.waitingHeld_of_undisturbed` — **no null pointer is read in an undisturbed run**.
-/

import MmoServer.PlayerTransit
import MmoServer.TeamGather

set_option relaxedAutoImplicit false
set_option autoImplicit false

namespace MmoServer

open Handler Std

/-! ### The proxy -/

/-- What the handlers read from other components of the process. -/
structure TeleportEnv where
  worldSnById : ℤ → UInt64
  isExistDungeon : UInt64 → Bool
  spaceApp : Option ℕ
  curAppId : ℕ

/-- What `GetWorldSnById` returns for an unknown world. -/
def invalidWorldSn : UInt64 := UInt64.ofInt (-1)

/-- What the handlers send. -/
inductive EnterMsg
  /-- `MI_Teleport`. -/
  | teleport (m : TeleportMsg)
  /-- `G2M_RequestWorld`. -/
  | requestWorld (worldId : ℤ)
  /-- `G2S_CreateWorld`, to a space process. -/
  | createWorld (appId : ℕ) (worldId : ℤ) (lastWorldSn : UInt64) (gameAppId : ℕ)
  /-- `G2S_RequestSyncPlayer`, to the world, on behalf of a player. -/
  | requestSyncPlayer (player : Player) (playerSn : UInt64)

/-- `WorldProxy` with `WorldComponentTeleport`, and the gather of its process. -/
structure TeleportProxy extends WorldProxy where
  table : TeleportTable
  gather : GatherState

/-- `FlagPlayerSync.SetValue`. -/
def TeleportObject.setSync (obj : TeleportObject) : TeleportObject :=
  { obj with flagPlayerSync := TeleportFlag.setValue true }

/-- `WorldComponentTeleport::BroadcastSyncPlayer`; nothing if it reads through a null pointer. -/
def broadcastSyncPlayer (w : TeleportContext) (playerSn : UInt64) (s : TeleportState) :
    Option TeleportState :=
  match OrdMap.findIf s.table.objects fun _ obj => obj.playerSn = playerSn with
  | none => some s
  | some (_, obj) =>
    (teleportCheck w obj.setSync { s with table := s.table.insert obj.setSync }).map Prod.snd

/-- The store behind a handler of the teleports, which writes the dungeons of teams. -/
def TeamStore.setDungeons (st : TeamStore) (teams : ℕ → GameTeam) : TeamStore :=
  { st with
    teams := fun t =>
      { st.teams t with dungeonId := (teams t).dungeonId, dungeonSn := (teams t).dungeonSn } }

/-- The gather behind a handler of the teleports. -/
def GatherState.setDungeons (g : GatherState) (teams : ℕ → GameTeam) : GatherState :=
  { g with gather := { g.gather with store := g.gather.store.setDungeons teams } }

namespace TeleportProxy

/-- The entries of the teams. -/
def teamMap (w : TeleportProxy) : UInt64 → Option (Option ℕ) := w.gather.gather.store.teamMap

/-- What the handlers of the teleports read. -/
def context (w : TeleportProxy) (env : TeleportEnv) : TeleportContext where
  sn := w.sn
  players := w.players
  teamMap := w.teamMap
  isExistDungeon := env.isExistDungeon
  allPlayers := w.gather.gather.players

/-- What they change. -/
def teleportState (w : TeleportProxy) : TeleportState where
  table := w.table
  teams := fun t => (w.gather.gather.store.teams t).toGameTeam
  sent := []

/-- The proxy behind such a handler. -/
def write (w : TeleportProxy) (s : TeleportState) : TeleportProxy :=
  { w with table := s.table, gather := w.gather.setDungeons s.teams }

/-- `IsTeleporting`. -/
def isTeleporting (w : TeleportProxy) (player : Player) : Bool :=
  (w.table.objects[player.playerSn]?).isSome

/-- `CreateWorldFlag`: the flag of the world, and what is sent; nothing if there is no resource. -/
def createWorldFlag (worldType : ℤ → Option ResourceWorldType) (env : TeleportEnv)
    (w : TeleportProxy) (worldId : ℤ) : Option (TeleportFlag UInt64 × List EnterMsg) :=
  match worldType worldId with
  | none => none
  | some .publicWorld =>
    if env.worldSnById worldId = invalidWorldSn then some (⟨.waiting, 0⟩, [.requestWorld worldId])
    else some (.setValue (env.worldSnById worldId), [])
  | some .dungeon =>
    match env.spaceApp with
    | none => some (⟨.none, 0⟩, [])
    | some appId => some (⟨.waiting, 0⟩, [.createWorld appId worldId w.sn env.curAppId])
  | some .login | some .roles => some (⟨.none, 0⟩, [])

/-- `WorldComponentTeleport::CreateTeleportObject`, with `CreateWorldFlag` and `CreateSyncFlag`.  The
table keeps an entry that is there. -/
def createTeleportObject (worldType : ℤ → Option ResourceWorldType) (env : TeleportEnv)
    (w : TeleportProxy) (worldId : ℤ) (player : Player) : Outcome TeleportProxy EnterMsg :=
  match createWorldFlag worldType env w worldId with
  | none => .crash []
  | some (flagWorld, sent) =>
    match w.players.getPlayerBySn player.playerSn with
    | none => .crash sent
    | some p =>
      .send (sent ++ [.requestSyncPlayer p player.playerSn])
        { w with
          table :=
            if w.isTeleporting player then w.table
            else w.table.insert ⟨flagWorld, ⟨.waiting, false⟩, worldId, player.playerSn⟩ }

/-- The dungeon of the player's team, if that is where it wants to go. -/
def teamDungeon (env : TeleportEnv) (w : TeleportProxy) (worldId : ℤ) (player : Player) :
    Option UInt64 :=
  match w.teamMap player.playerSn with
  | some (some t) =>
    let team := w.gather.gather.store.teams t
    if worldId = team.dungeonId ∧ env.isExistDungeon team.dungeonSn = true then some team.dungeonSn
    else none
  | _ => none

/-- `WorldProxy::HandleC2GEnterWorld`. -/
def handleC2GEnterWorld (worldType : ℤ → Option ResourceWorldType) (env : TeleportEnv)
    (w : TeleportProxy) (player : Player) (worldId : ℤ) : Outcome TeleportProxy EnterMsg :=
  if (worldType worldId).isNone || w.isTeleporting player then .pure w
  else
    match w.teamDungeon env worldId player with
    | some dungeonSn => .send [.teleport (teleportMsg player w.sn dungeonSn)] w
    | none => w.createTeleportObject worldType env worldId player

/-- `WorldProxy::HandleS2GSyncPlayer`: the player gets its data, and the teleports are told. -/
def handleS2GSyncPlayer (env : TeleportEnv) (w : TeleportProxy) (player : Player)
    (name : List UInt8) : Option TeleportProxy :=
  let v := { w with players := w.players.insert { player with name := name } }
  (broadcastSyncPlayer (v.context env) player.playerSn v.teleportState).map v.write

/-- A packet about players in transit: they arrive, or leave. -/
def processTransit (app : AppType) (w : TeleportProxy) (m : TransitMessage) :
    Option TeleportProxy :=
  (w.toWorldProxy.processTransit app m).state.map fun p => { w with toWorldProxy := p }

end TeleportProxy

/-! ### Runs -/

/-- What the proxy or the gather of its process handles.  The announcement of a world comes with the
number of rounds of its loop. -/
inductive TeleportEvent
  | transit (m : TransitMessage)
  | enterWorld (env : TeleportEnv) (identify : NetIdentify) (worldId : ℤ)
  | syncPlayer (env : TeleportEnv) (identify : NetIdentify) (name : List UInt8)
  | broadcastCreateWorldProxy (rounds : ℕ) (env : TeleportEnv) (worldId : ℤ) (worldSn : UInt64)
  | teamChat (identify : NetIdentify)
  | gather (e : GatherEvent)
  /-- Another proxy of the process writes the dungeons of teams. -/
  | dungeons (teams : ℕ → GameTeam)

namespace TeleportProxy

/-- The gather has handled an event. -/
def stepGather (w : TeleportProxy) (e : GatherEvent) : Option TeleportProxy :=
  (w.gather.step e).map fun gather => { w with gather := gather }

/-- One message.  A message of nobody is dropped before its handler; there is no state behind a
null pointer, or behind a loop with too few rounds. -/
def step (app : AppType) (worldType : ℤ → Option ResourceWorldType) (w : TeleportProxy) :
    TeleportEvent → Option TeleportProxy
  | .transit m => w.processTransit app m
  | .enterWorld env identify worldId =>
    match w.getPlayer identify with
    | none => some w
    | some player => (w.handleC2GEnterWorld worldType env player worldId).state
  | .syncPlayer env identify name =>
    match w.getPlayer identify with
    | none => some w
    | some player => w.handleS2GSyncPlayer env player name
  | .broadcastCreateWorldProxy rounds env worldId worldSn =>
    (handleBroadcastCreateWorldProxy rounds worldType (w.context env) worldId worldSn
      w.teleportState).map w.write
  | .teamChat identify =>
    match w.getPlayer identify with
    | none => some w
    | some player => w.stepGather (.teamChat player.playerSn)
  | .gather e => w.stepGather e
  | .dungeons teams => some { w with gather := w.gather.setDungeons teams }

end TeleportProxy

/-- The runs of a proxy, which starts without players and with an empty table, while the gather may
be in any state. -/
def teleportSystem (app : AppType) (worldType : ℤ → Option ResourceWorldType) :
    Transition.System TeleportProxy TeleportEvent :=
  Transition.System.ofFun
    (fun w => ∃ (sn : UInt64) (gather : GatherState), w = ⟨⟨sn, .empty⟩, .empty, gather⟩)
    (TeleportProxy.step app worldType)

/-- **A message makes no handler read through a null player or a null team.**  The loop of a public
world may run for ever; none of its rounds does. -/
def NoNullPointer (worldType : ℤ → Option ResourceWorldType) (w : TeleportProxy) :
    TeleportEvent → Prop
  | .enterWorld env identify worldId =>
    ∀ player ∈ w.getPlayer identify,
      ((w.handleC2GEnterWorld worldType env player worldId).state).isSome = true
  | .syncPlayer env identify name =>
    ∀ player ∈ w.getPlayer identify, (w.handleS2GSyncPlayer env player name).isSome = true
  | .broadcastCreateWorldProxy _ env worldId worldSn =>
    match worldType worldId with
    | some .publicWorld =>
      ∀ s, Loop.Reaches (hasTarget worldId) (publicBody (w.context env) worldId worldSn)
        w.teleportState s → hasTarget worldId s = true →
        (publicBody (w.context env) worldId worldSn s).isSome = true
    | some .dungeon =>
      (handleDungeon (w.context env) worldId worldSn w.teleportState).isSome = true
    | _ => True
  | _ => True

/-- The player that a packet takes away from a proxy. -/
def WorldProxy.leaver (w : WorldProxy) (m : TransitMessage) : Option Player :=
  match m.body with
  | .networkDisconnect =>
    if m.identify.socketKey.netType.isTcp && (m.identify.tagKey.getTagValue .account).isSome then
      w.players.getPlayerBySocket m.identify.socketKey.socket
    else none
  | .teleportAfter _ => w.getPlayer m.identify
  | _ => none

namespace TeleportProxy

/-- A player that waits has an entry of the teams before it is read with `[]`. -/
def HasTeamEntry (w : TeleportProxy) (sn : UInt64) : Prop :=
  w.teamMap sn ≠ none ∨ w.table.objects[sn]? = none

/-- **Undisturbed steps**: no one who waits leaves the proxy, or has its team looked up without an
entry, and no one with a null pointer for a team starts to wait. -/
def Undisturbed (w : TeleportProxy) : TeleportEvent → Prop
  | .transit m => ∀ player ∈ w.leaver m, w.table.objects[player.playerSn]? = none
  | .enterWorld _ identify _ =>
    ∀ player ∈ w.getPlayer identify, w.teamMap player.playerSn ≠ some none
  | .teamChat identify => ∀ player ∈ w.getPlayer identify, w.HasTeamEntry player.playerSn
  | .gather (.teamChat sn) => w.HasTeamEntry sn
  | .gather (.networkDisconnect identify) =>
    ∀ player ∈ w.gather.gather.players.getPlayerBySocket identify.socketKey.socket,
      (identify.tagKey.getTagValue .account).isSome = true → w.HasTeamEntry player.playerSn
  | _ => True

instance (w : TeleportProxy) (sn : UInt64) : Decidable (w.HasTeamEntry sn) :=
  inferInstanceAs (Decidable (_ ∨ _))

instance (w : TeleportProxy) (e : TeleportEvent) : Decidable (w.Undisturbed e) :=
  match e with
  | .transit m =>
    inferInstanceAs (Decidable (∀ player ∈ w.leaver m, w.table.objects[player.playerSn]? = none))
  | .enterWorld _ identify _ =>
    inferInstanceAs (Decidable (∀ player ∈ w.getPlayer identify,
      w.teamMap player.playerSn ≠ some none))
  | .teamChat identify =>
    inferInstanceAs (Decidable (∀ player ∈ w.getPlayer identify, w.HasTeamEntry player.playerSn))
  | .gather (.teamChat sn) => inferInstanceAs (Decidable (w.HasTeamEntry sn))
  | .gather (.networkDisconnect identify) =>
    inferInstanceAs (Decidable
      (∀ player ∈ w.gather.gather.players.getPlayerBySocket identify.socketKey.socket,
        (identify.tagKey.getTagValue .account).isSome = true → w.HasTeamEntry player.playerSn))
  | .gather (.loginByToken _ _) => inferInstanceAs (Decidable True)
  | .gather (.queryPlayerRs _ _ _) => inferInstanceAs (Decidable True)
  | .gather (.createTeam _) => inferInstanceAs (Decidable True)
  | .syncPlayer _ _ _ => inferInstanceAs (Decidable True)
  | .broadcastCreateWorldProxy _ _ _ _ => inferInstanceAs (Decidable True)
  | .dungeons _ => inferInstanceAs (Decidable True)

/-- Everyone who waits is held, and has no null pointer for a team. -/
def Safe (w : TeleportProxy) : Prop :=
  ∀ (sn : UInt64) (obj : TeleportObject), w.table.objects[sn]? = some obj →
    (w.players.getPlayerBySn sn).isSome = true ∧ w.teamMap sn ≠ some none

end TeleportProxy

/-! ### What the handlers of the teleports do to the table -/

/-- Whoever waits in the one state waits in the other. -/
def TeleportState.KeysIn (t s : TeleportState) : Prop :=
  ∀ sn : UInt64, (t.table.objects[sn]?).isSome = true → (s.table.objects[sn]?).isSome = true

/-- Everyone who waits is a player of the proxy, and has no null pointer for a team. -/
def TeleportState.Fits (w : TeleportContext) (s : TeleportState) : Prop :=
  ∀ sn : UInt64, (s.table.objects[sn]?).isSome = true →
    (w.players.getPlayerBySn sn).isSome = true ∧ w.teamMap sn ≠ some none

section

variable {w : TeleportContext} {s t u : TeleportState}

theorem TeleportState.KeysIn.refl (s : TeleportState) : s.KeysIn s := fun _ h => h

theorem TeleportState.KeysIn.trans (h : u.KeysIn t) (h' : t.KeysIn s) : u.KeysIn s :=
  fun sn hu => h' sn (h sn hu)

theorem TeleportState.Fits.of_keysIn (h : s.Fits w) (hkeys : t.KeysIn s) : t.Fits w :=
  fun sn ht => h sn (hkeys sn ht)

/-- To write the object of someone who waits adds no one. -/
theorem TeleportState.keysIn_insert {obj : TeleportObject}
    (hobj : (s.table.objects[obj.playerSn]?).isSome = true) {teams : ℕ → GameTeam}
    {sent : List TeleportMsg} :
    TeleportState.KeysIn ⟨s.table.insert obj, teams, sent⟩ s := by
  intro sn hsn
  rw [TeleportTable.getElem?_insert] at hsn
  split at hsn
  · rename_i heq
    rw [← heq]
    exact hobj
  · exact hsn

/-- **`Check`** of a player of the proxy whose team is no null pointer reads through no null pointer,
and adds no one. -/
theorem teleportCheck_of_held {obj : TeleportObject}
    (hheld : (w.players.getPlayerBySn obj.playerSn).isSome = true)
    (hteam : w.teamMap obj.playerSn ≠ some none) (s : TeleportState) :
    ∃ b t, teleportCheck w obj s = some (b, t) ∧ t.KeysIn s := by
  unfold teleportCheck
  split
  · exact ⟨false, s, rfl, .refl s⟩
  · split
    · exact ⟨false, s, rfl, .refl s⟩
    · obtain ⟨player, hplayer⟩ := Option.isSome_iff_exists.1 hheld
      have hsn := (PlayerCollector.getPlayerBySn_some hplayer).2
      have hasked : (askMembers w s.teams player obj.targetWorldId obj.flagWorld.value).isSome =
          true := (askMembers_isSome s.teams player).2 (by rw [hsn]; exact hteam)
      obtain ⟨asked, hasked⟩ := Option.isSome_iff_exists.1 hasked
      rw [hplayer]
      simp only [hasked, Option.map_some]
      refine ⟨true, _, rfl, fun sn ht => ?_⟩
      rw [TeleportTable.getElem?_erase] at ht
      split at ht
      · cases ht
      · exact ht

/-- **A flag is raised** for a player of the proxy, and the object is checked. -/
theorem raise_of_held (obj : TeleportObject) (hfits : s.Fits w)
    (hobj : (s.table.objects[obj.playerSn]?).isSome = true) (teams : ℕ → GameTeam)
    (sent : List TeleportMsg) :
    ∃ t, (teleportCheck w obj ⟨s.table.insert obj, teams, sent⟩).map Prod.snd = some t ∧
      t.KeysIn s := by
  obtain ⟨hheld, hteam⟩ := hfits obj.playerSn hobj
  obtain ⟨b, t, hcheck, hkeys⟩ :=
    teleportCheck_of_held hheld hteam ⟨s.table.insert obj, teams, sent⟩
  exact ⟨t, by rw [hcheck]; rfl, hkeys.trans (TeleportState.keysIn_insert hobj)⟩

/-- One round of the loop for a public world. -/
theorem publicBody_of_fits {worldId : ℤ} (worldSn : UInt64) (hfits : s.Fits w)
    (hcond : hasTarget worldId s = true) :
    ∃ t, publicBody w worldId worldSn s = some t ∧ t.KeysIn s := by
  obtain ⟨⟨sn, obj⟩, hfind⟩ := Option.isSome_iff_exists.1 hcond
  obtain ⟨hmem, -, hsn⟩ := TeleportTable.findTarget_some hfind
  unfold publicBody
  rw [hfind]
  refine raise_of_held (obj.setWorld worldSn) hfits ?_ s.teams s.sent
  rw [TeleportObject.setWorld_playerSn, hsn, hmem]
  rfl

theorem publicBody_keysIn {worldId : ℤ} {worldSn : UInt64} (hfits : s.Fits w)
    (ht : publicBody w worldId worldSn s = some t) : t.KeysIn s := by
  have hcond : hasTarget worldId s = true := by
    unfold publicBody at ht
    unfold hasTarget
    cases hfind : s.table.findTarget worldId with
    | none =>
      rw [hfind] at ht
      cases ht
    | some e => rfl
  obtain ⟨u, hu, hkeys⟩ := publicBody_of_fits worldSn hfits hcond
  obtain rfl : u = t := Option.some.inj (hu.symm.trans ht)
  exact hkeys

/-- The handling of a dungeon. -/
theorem handleDungeon_of_fits (worldId : ℤ) (worldSn : UInt64) (hfits : s.Fits w) :
    ∃ t, handleDungeon w worldId worldSn s = some t ∧ t.KeysIn s := by
  unfold handleDungeon
  cases hfind : s.table.findTarget worldId with
  | none => exact ⟨s, rfl, .refl s⟩
  | some e =>
    obtain ⟨sn, obj⟩ := e
    obtain ⟨hmem, -, hsn⟩ := TeleportTable.findTarget_some hfind
    have hkey : (s.table.objects[(obj.setWorld worldSn).playerSn]?).isSome = true := by
      rw [TeleportObject.setWorld_playerSn, hsn, hmem]
      rfl
    have hteam : w.teamMap sn ≠ some none := (hfits sn (by rw [hmem]; rfl)).2
    cases hentry : w.teamMap sn with
    | none =>
      simp only [hentry]
      exact raise_of_held (obj.setWorld worldSn) hfits hkey s.teams s.sent
    | some pointer =>
      cases pointer with
      | none => exact absurd hentry hteam
      | some team =>
        simp only [hentry]
        exact raise_of_held (obj.setWorld worldSn) hfits hkey _ s.sent

/-- The data of a player have arrived. -/
theorem broadcastSyncPlayer_of_fits (playerSn : UInt64) (hfits : s.Fits w) :
    ∃ t, broadcastSyncPlayer w playerSn s = some t ∧ t.KeysIn s := by
  unfold broadcastSyncPlayer
  cases hfind : OrdMap.findIf s.table.objects fun _ obj => decide (obj.playerSn = playerSn) with
  | none => exact ⟨s, rfl, .refl s⟩
  | some e =>
    obtain ⟨sn, obj⟩ := e
    obtain ⟨hmem, -⟩ := OrdMap.findIf_some hfind
    refine raise_of_held obj.setSync hfits ?_ s.teams s.sent
    have hsn : obj.setSync.playerSn = sn := s.table.playerSn_eq sn obj hmem
    rw [hsn, hmem]
    rfl

/-- The announcement of a world, when it is over. -/
theorem handleBroadcast_keysIn {rounds : ℕ} {worldType : ℤ → Option ResourceWorldType}
    {worldId : ℤ} {worldSn : UInt64} (hfits : s.Fits w)
    (ht : handleBroadcastCreateWorldProxy rounds worldType w worldId worldSn s = some t) :
    t.KeysIn s := by
  unfold handleBroadcastCreateWorldProxy at ht
  split at ht
  · cases ht
  · -- what a round keeps, the loop keeps
    have hbody : ∀ v v' : TeleportState, v.KeysIn s → publicBody w worldId worldSn v = some v' →
        v'.KeysIn s := fun v v' hkeys hround =>
      (publicBody_keysIn (hfits.of_keysIn hkeys) hround).trans hkeys
    exact Loop.run_invariant hbody (.refl s) ht
  · obtain ⟨u, hu, hkeys⟩ := handleDungeon_of_fits worldId worldSn hfits
    obtain rfl : u = t := Option.some.inj (hu.symm.trans ht)
    exact hkeys
  · obtain rfl := Option.some.inj ht
    exact .refl s
  · obtain rfl := Option.some.inj ht
    exact .refl s

end

/-! ### Safe states -/

namespace TeleportProxy

variable {app : AppType} {worldType : ℤ → Option ResourceWorldType} {w v : TeleportProxy}

/-- A safe state is one that the handlers of the teleports can work with. -/
theorem Safe.fits (h : w.Safe) (env : TeleportEnv) : w.teleportState.Fits (w.context env) := by
  intro sn hsn
  obtain ⟨obj, hobj⟩ := Option.isSome_iff_exists.1 hsn
  exact h sn obj hobj

/-- A handler of the teleports that adds no one keeps a state safe. -/
theorem Safe.write (h : w.Safe) {t : TeleportState} (ht : t.KeysIn w.teleportState) :
    (w.write t).Safe := by
  intro sn obj hobj
  have hkey : (w.teleportState.table.objects[sn]?).isSome = true :=
    ht sn (Option.isSome_iff_exists.2 ⟨obj, hobj⟩)
  obtain ⟨old, hold⟩ := Option.isSome_iff_exists.1 hkey
  exact h sn old hold

/-- What `GetPlayer` finds is a player of the collector. -/
theorem getPlayer_held {p : WorldProxy} {identify : NetIdentify} {player : Player}
    (h : p.getPlayer identify = some player) :
    p.players.getPlayerBySocket player.socketKey.socket = some player := by
  unfold WorldProxy.getPlayer at h
  split at h
  · rw [PlayerCollector.getPlayerBySocket_socket h]
    exact h
  · split at h
    · exact (PlayerCollector.getPlayerBySn_some h).1
    · cases h

theorem isSome_getPlayerBySn {p : WorldProxy} {identify : NetIdentify} {player : Player}
    (h : p.getPlayer identify = some player) :
    (p.players.getPlayerBySn player.playerSn).isSome = true :=
  PlayerCollector.getPlayerBySn_isSome_iff.2 ⟨_, player, getPlayer_held h, rfl⟩

/-- The flag of a world with a resource. -/
theorem createWorldFlag_isSome (env : TeleportEnv) {worldId : ℤ} (h : worldType worldId ≠ none) :
    (createWorldFlag worldType env w worldId).isSome = true := by
  unfold createWorldFlag
  cases htype : worldType worldId with
  | none => exact absurd htype h
  | some type =>
    cases type with
    | login | roles => rfl
    | publicWorld =>
      simp only
      split <;> rfl
    | dungeon =>
      simp only
      split <;> rfl

/-- **A player of the proxy enters a world**: nothing happens, or it waits behind it. -/
theorem handleC2GEnterWorld_spec (worldType : ℤ → Option ResourceWorldType) (env : TeleportEnv)
    {identify : NetIdentify} {player : Player} (hplayer : w.getPlayer identify = some player) (worldId : ℤ) :
    ∃ table, (w.handleC2GEnterWorld worldType env player worldId).state =
        some { w with table := table } ∧
      ∀ sn : UInt64, (table.objects[sn]?).isSome = true →
        (w.table.objects[sn]?).isSome = true ∨ sn = player.playerSn := by
  have hsame : ∀ sn : UInt64, (w.table.objects[sn]?).isSome = true →
      (w.table.objects[sn]?).isSome = true ∨ sn = player.playerSn := fun _ h => .inl h
  unfold handleC2GEnterWorld
  split
  · exact ⟨w.table, rfl, hsame⟩
  · rename_i hcond
    split
    · exact ⟨w.table, rfl, hsame⟩
    · have htype : worldType worldId ≠ none := by
        intro hnone
        rw [hnone] at hcond
        exact hcond rfl
      unfold createTeleportObject
      obtain ⟨⟨flagWorld, sent⟩, hflag⟩ :=
        Option.isSome_iff_exists.1 (createWorldFlag_isSome (w := w) env htype)
      obtain ⟨q, hq⟩ := Option.isSome_iff_exists.1 (isSome_getPlayerBySn hplayer)
      rw [hflag]
      simp only [hq]
      refine ⟨_, rfl, fun sn hsn => ?_⟩
      split at hsn
      · exact .inl hsn
      · rw [TeleportTable.getElem?_insert] at hsn
        split at hsn
        · rename_i heq
          exact .inr heq.symm
        · exact .inl hsn

/-- A player of the proxy gets its data, and the other players stay as they are. -/
theorem isSome_getPlayerBySn_insert {c : PlayerCollector} {player q : Player}
    (hplayer : c.getPlayerBySocket player.socketKey.socket = some player)
    (hsocket : q.socketKey = player.socketKey) (hsn : q.playerSn = player.playerSn) {sn : UInt64}
    (h : (c.getPlayerBySn sn).isSome = true) : ((c.insert q).getPlayerBySn sn).isSome = true := by
  obtain ⟨socket, p, hp, rfl⟩ := PlayerCollector.getPlayerBySn_isSome_iff.1 h
  rw [PlayerCollector.getPlayerBySn_isSome_iff]
  by_cases hs : q.socketKey.socket = socket
  · refine ⟨socket, q, by rw [PlayerCollector.getPlayerBySocket_insert, if_pos hs], ?_⟩
    rw [← hs, hsocket, hplayer] at hp
    rw [hsn, Option.some.inj hp]
  · exact ⟨socket, p, by rw [PlayerCollector.getPlayerBySocket_insert, if_neg hs, hp], rfl⟩

/-- The proxy behind the data of a player is as safe as before. -/
theorem Safe.withName (h : w.Safe) {identify : NetIdentify} {player : Player}
    (hplayer : w.getPlayer identify = some player) (name : List UInt8) :
    Safe { w with players := w.players.insert { player with name := name } } := by
  intro sn obj hobj
  obtain ⟨hheld, hteam⟩ := h sn obj hobj
  exact ⟨isSome_getPlayerBySn_insert (q := { player with name := name }) (getPlayer_held hplayer) rfl
    rfl hheld, hteam⟩

end TeleportProxy

/-- A look-up makes a null pointer only for its own key. -/
theorem TeamStore.lookup_null {st : TeamStore} {key sn : UInt64}
    (h : (st.lookup key).teamMap sn = some none) :
    st.teamMap sn = some none ∨ (st.teamMap sn = none ∧ sn = key) := by
  unfold lookup at h
  simp only at h
  split at h
  · rename_i heq
    subst heq
    cases hentry : st.teamMap sn with
    | none => exact .inr ⟨rfl, rfl⟩
    | some pointer =>
      rw [hentry] at h
      exact .inl h
  · exact .inl h

/-- **The null pointers of the gather**: a message of the team chat, or the end of a connection,
makes one for a player without an entry. -/
theorem GatherState.step_null {g g' : GatherState} {e : GatherEvent} (hstep : g.step e = some g')
    {sn : UInt64} (hnull : g'.gather.store.teamMap sn = some none) :
    g.gather.store.teamMap sn = some none ∨ (g.gather.store.teamMap sn = none ∧
      (e = .teamChat sn ∨ ∃ identify player, e = .networkDisconnect identify ∧
        (identify.tagKey.getTagValue .account).isSome = true ∧
        g.gather.players.getPlayerBySocket identify.socketKey.socket = some player ∧
        player.playerSn = sn)) := by
  cases e with
  | loginByToken identify account =>
    exact .inl ((GatherState.step_loginByToken hstep).1 ▸ hnull)
  | queryPlayerRs account playerSn name =>
    exact .inl ((GatherState.step_queryPlayerRs hstep).1 ▸ hnull)
  | networkDisconnect identify =>
    simp only [GatherState.step, WorldProxyGather.handleNetworkDisconnect] at hstep
    split at hstep
    · rename_i value player haccount hplayer
      -- both branches leave the map as the look-up makes it
      have hmap : (g.gather.store.lookup player.playerSn).teamMap sn = some none := by
        split at hstep
        · obtain rfl := Option.some.inj hstep
          exact hnull
        · obtain rfl := Option.some.inj hstep
          exact hnull
      rcases TeamStore.lookup_null hmap with hold | ⟨hnone, hsn⟩
      · exact .inl hold
      · exact .inr ⟨hnone, .inr ⟨identify, player, rfl, by rw [haccount]; rfl, hplayer, hsn.symm⟩⟩
    · obtain rfl := Option.some.inj hstep
      exact .inl hnull
  | createTeam team =>
    simp only [GatherState.step, WorldProxyGather.handleCreateTeam_eq] at hstep
    obtain rfl := Option.some.inj hstep
    have hmap : (g.gather.store.createTeam team.captain team.members).teamMap sn = some none := hnull
    rw [TeamStore.createTeam_teamMap] at hmap
    split at hmap
    · cases hentry : g.gather.store.teamMap sn with
      | none =>
        rw [hentry] at hmap
        cases hmap
      | some pointer =>
        rw [hentry] at hmap
        exact .inl hmap
    · exact .inl hmap
  | teamChat playerSn =>
    simp only [GatherState.step, WorldProxyGather.handleTeamChat] at hstep
    have hmap : (g.gather.store.lookup playerSn).teamMap sn = some none := by
      split at hstep
      · obtain rfl := Option.some.inj hstep
        exact hnull
      · obtain rfl := Option.some.inj hstep
        exact hnull
    rcases TeamStore.lookup_null hmap with hold | ⟨hnone, hsn⟩
    · exact .inl hold
    · exact .inr ⟨hnone, .inl (by rw [hsn])⟩

/-- Removing the player of a socket takes no other serial number away. -/
theorem PlayerCollector.isSome_getPlayerBySn_removePlayerBySocket {c : PlayerCollector} {socket : ℤ}
    {sn : UInt64} (h : (c.getPlayerBySn sn).isSome = true) :
    ((c.removePlayerBySocket socket).getPlayerBySn sn).isSome = true ∨
      ∃ player, c.getPlayerBySocket socket = some player ∧ player.playerSn = sn := by
  obtain ⟨s, player, hplayer, rfl⟩ := getPlayerBySn_isSome_iff.1 h
  by_cases hs : socket = s
  · subst hs
    exact .inr ⟨player, hplayer, rfl⟩
  · refine .inl (getPlayerBySn_isSome_iff.2 ⟨s, player, ?_, rfl⟩)
    rw [getPlayerBySocket_removePlayerBySocket, if_neg hs, hplayer]

/-- **A packet about players in transit** takes away at most one player of a proxy. -/
theorem WorldProxy.processTransit_held {app : AppType} {w p : WorldProxy} {m : TransitMessage}
    (hp : (w.processTransit app m).state = some p) {sn : UInt64}
    (h : (w.players.getPlayerBySn sn).isSome = true) :
    (p.players.getPlayerBySn sn).isSome = true ∨
      ∃ player, w.leaver m = some player ∧ player.playerSn = sn := by
  obtain ⟨identify, body⟩ := m
  cases body with
  | networkDisconnect =>
    simp only [WorldProxy.processTransit, WorldProxy.handleNetworkDisconnect] at hp
    cases htcp : identify.socketKey.netType.isTcp with
    | false =>
      rw [htcp] at hp
      obtain rfl := Option.some.inj hp
      exact .inl h
    | true =>
      rw [htcp] at hp
      simp only [Bool.not_true, Bool.false_eq_true, if_false] at hp
      cases haccount : identify.tagKey.getTagValue .account with
      | none =>
        -- the end of another process, which may take the proxy with it
        rw [haccount] at hp
        simp only at hp
        split at hp
        · obtain rfl := Option.some.inj hp
          exact .inl h
        · split at hp
          · obtain rfl := Option.some.inj hp
            exact .inl h
          · cases hp
      | some value =>
        rw [haccount] at hp
        simp only at hp
        have hleaver : w.leaver ⟨identify, .networkDisconnect⟩ =
            w.players.getPlayerBySocket identify.socketKey.socket := by
          unfold WorldProxy.leaver
          simp [htcp, haccount]
        rw [hleaver]
        cases hplayer : w.players.getPlayerBySocket identify.socketKey.socket with
        | none =>
          rw [hplayer] at hp
          obtain rfl := Option.some.inj hp
          exact .inl h
        | some player =>
          rw [hplayer] at hp
          obtain rfl := Option.some.inj hp
          rw [← hplayer]
          exact PlayerCollector.isSome_getPlayerBySn_removePlayerBySocket h
  | loginByToken account token =>
    obtain rfl := Option.some.inj hp
    exact .inl h
  | teleport lastWorldSn account playerSn =>
    simp only [WorldProxy.processTransit, WorldProxy.handleTeleport] at hp
    cases hadd : w.players.addPlayer identify account with
    | none =>
      rw [hadd] at hp
      obtain rfl := Option.some.inj hp
      exact .inl h
    | some added =>
      obtain ⟨players, player⟩ := added
      rw [hadd] at hp
      obtain rfl := Option.some.inj hp
      obtain ⟨rfl, hfree, hsockets⟩ := PlayerCollector.getPlayerBySocket_addPlayer hadd
      obtain ⟨socket, q, hq, rfl⟩ := PlayerCollector.getPlayerBySn_isSome_iff.1 h
      refine .inl (PlayerCollector.getPlayerBySn_isSome_iff.2 ⟨socket, q, ?_, rfl⟩)
      have hne : ¬ identify.socketKey.socket = socket := by
        rintro rfl
        rw [hfree] at hq
        cases hq
      rw [PlayerCollector.getPlayerBySocket_insert]
      exact (if_neg hne).trans ((hsockets socket).trans ((if_neg hne).trans hq))
  | teleportAfter playerSn =>
    simp only [WorldProxy.processTransit, WorldProxy.handleTeleportAfter] at hp
    have hleaver : w.leaver ⟨identify, .teleportAfter playerSn⟩ = w.getPlayer identify := rfl
    rw [hleaver]
    cases hplayer : w.getPlayer identify with
    | none =>
      rw [hplayer] at hp
      obtain rfl := Option.some.inj hp
      exact .inl h
    | some player =>
      rw [hplayer] at hp
      obtain rfl := Option.some.inj hp
      rcases PlayerCollector.isSome_getPlayerBySn_removePlayerBySocket
        (c := w.players) h with hstays | ⟨q, hq, hsn⟩
      · exact .inl hstays
      · rw [TeleportProxy.getPlayer_held hplayer] at hq
        exact .inr ⟨q, hq, hsn⟩

namespace TeleportProxy

variable {app : AppType} {worldType : ℤ → Option ResourceWorldType} {w v : TeleportProxy}

/-- The gather has handled an event that makes no null pointer for someone who waits. -/
theorem Safe.stepGather (h : w.Safe) {e : GatherEvent}
    (hund : w.Undisturbed (.gather e)) (hstep : w.stepGather e = some v) : v.Safe := by
  obtain ⟨g, hg, rfl⟩ := Option.map_eq_some_iff.1 hstep
  intro sn obj hobj
  obtain ⟨hheld, hteam⟩ := h sn obj hobj
  refine ⟨hheld, fun hnull => ?_⟩
  rcases GatherState.step_null hg hnull with hold | ⟨hnone, hmade⟩
  · exact hteam hold
  · have hentry : w.HasTeamEntry sn := by
      rcases hmade with rfl | ⟨identify, player, rfl, haccount, hplayer, rfl⟩
      · exact hund
      · exact hund player hplayer haccount
    rcases hentry with hsome | hfree
    · exact hsome hnone
    · rw [hfree] at hobj
      cases hobj

/-- **One step.** -/
theorem Safe.step (h : w.Safe) {e : TeleportEvent} (hund : w.Undisturbed e)
    (hstep : w.step app worldType e = some v) : v.Safe := by
  cases e with
  | transit m =>
    obtain ⟨p, hp, rfl⟩ := Option.map_eq_some_iff.1 hstep
    intro sn obj hobj
    obtain ⟨hheld, hteam⟩ := h sn obj hobj
    refine ⟨?_, hteam⟩
    rcases WorldProxy.processTransit_held hp hheld with hstays | ⟨player, hleaver, rfl⟩
    · exact hstays
    · have hfree : w.table.objects[player.playerSn]? = none := hund player hleaver
      have hobj' : w.table.objects[player.playerSn]? = some obj := hobj
      rw [hfree] at hobj'
      cases hobj'
  | enterWorld env identify worldId =>
    simp only [TeleportProxy.step] at hstep
    cases hplayer : w.getPlayer identify with
    | none =>
      rw [hplayer] at hstep
      obtain rfl := Option.some.inj hstep
      exact h
    | some player =>
      rw [hplayer] at hstep
      obtain ⟨table, htable, hkeys⟩ := handleC2GEnterWorld_spec worldType env hplayer worldId
      simp only [htable] at hstep
      obtain rfl := Option.some.inj hstep
      intro sn obj hobj
      have hobj' : table.objects[sn]? = some obj := hobj
      rcases hkeys sn (by rw [hobj']; rfl) with hold | rfl
      · obtain ⟨old, hold⟩ := Option.isSome_iff_exists.1 hold
        exact h sn old hold
      · exact ⟨isSome_getPlayerBySn hplayer, hund player hplayer⟩
  | syncPlayer env identify name =>
    simp only [TeleportProxy.step] at hstep
    cases hplayer : w.getPlayer identify with
    | none =>
      rw [hplayer] at hstep
      obtain rfl := Option.some.inj hstep
      exact h
    | some player =>
      rw [hplayer] at hstep
      have hsafe := h.withName hplayer name
      obtain ⟨t, ht, hkeys⟩ := broadcastSyncPlayer_of_fits player.playerSn (hsafe.fits env)
      simp only [handleS2GSyncPlayer, ht, Option.map_some] at hstep
      obtain rfl := Option.some.inj hstep
      exact hsafe.write hkeys
  | broadcastCreateWorldProxy rounds env worldId worldSn =>
    obtain ⟨t, ht, rfl⟩ := Option.map_eq_some_iff.1 hstep
    exact h.write (handleBroadcast_keysIn (h.fits env) ht)
  | teamChat identify =>
    simp only [TeleportProxy.step] at hstep
    cases hplayer : w.getPlayer identify with
    | none =>
      rw [hplayer] at hstep
      obtain rfl := Option.some.inj hstep
      exact h
    | some player =>
      rw [hplayer] at hstep
      have hentry : w.Undisturbed (.gather (.teamChat player.playerSn)) := hund player hplayer
      exact h.stepGather hentry hstep
  | gather e => exact h.stepGather hund hstep
  | dungeons teams =>
    obtain rfl := Option.some.inj hstep
    exact h

end TeleportProxy

/-- A process that knows no world yet. -/
def TeleportEnv.fresh : TeleportEnv := ⟨fun _ => invalidWorldSn, fun _ => false, none, 1⟩

/-- The player 7 arrives, goes on to the public world 3, and its data arrive. -/
def waitingSeven : List TeleportEvent :=
  [.transit ⟨identifyOfA, .teleport 0 [97] 7⟩, .enterWorld .fresh identifyOfA 3,
    .syncPlayer .fresh identifyOfA [97]]

/-- The proxy of the example at its start. -/
def TeleportProxy.first : TeleportProxy := ⟨⟨1, .empty⟩, .empty, .start⟩

/-- **A waiting player without a team chats with it**: its entry is a null pointer from then on, and
the announcement of the world reads through it. -/
theorem not_noNullPointer_chat : ∃ (w : TeleportProxy) (e : TeleportEvent),
    (teleportSystem .game fun _ => some .publicWorld).Run
      (waitingSeven ++ [TeleportEvent.teamChat identifyOfA]) w ∧
    ¬ NoNullPointer (fun _ => some .publicWorld) w e := by
  have hrun : (Transition.System.execute
      (TeleportProxy.step .game fun _ => some .publicWorld) (fun _ _ => True) .first
      (waitingSeven ++ [TeleportEvent.teamChat identifyOfA])).map (fun w =>
        (hasTarget 3 w.teleportState, (publicBody (w.context .fresh) 3 9 w.teleportState).isSome)) =
      some (true, false) := by
    decide
  obtain ⟨w, hw, hround⟩ := Option.map_eq_some_iff.1 hrun
  obtain ⟨hcond, hbody⟩ := Prod.mk.inj hround
  have hevents : ((teleportSystem .game fun _ => some .publicWorld).restrict
      fun _ _ => True).Run (waitingSeven ++ [TeleportEvent.teamChat identifyOfA]) w :=
    Transition.System.run_of_execute ⟨1, .start, rfl⟩ hw
  refine ⟨w, .broadcastCreateWorldProxy 1 .fresh 3 9, hevents.of_restrict, fun hsafe => ?_⟩
  have hsome := hsafe w.teleportState .refl hcond
  rw [hbody] at hsome
  cases hsome

end MmoServer
