/-
**Players on their way between worlds.**

The player of a client is held by the lobby or by a proxy of a world, and by the world behind that
proxy.  A teleport is a packet to the proxy of the target world, which takes the player, tells its
own world and the old holder, and notes that packets of the socket are for it now.  The end of the
connection is a packet to everyone.

All packets of the game process go through one queue, of which every entity has handled some
beginning; different entities may be in different places.  The packets for a world go through a
queue of their own.  This module follows one client: who initiates a teleport, and when, is left
open.

Main definitions:

* `MmoServer.WorldProxy.handleNetworkDisconnect`, `MmoServer.WorldProxy.handleTeleport`,
  `MmoServer.WorldProxy.handleTeleportAfter` — the handlers of a proxy;
* `MmoServer.World.handleNetworkDisconnect`, `MmoServer.World.handleSyncPlayer`,
  `MmoServer.World.handleG2SRemovePlayer` — those of a world;
* `MmoServer.Transit`, `MmoServer.TransitEvent`, `MmoServer.Transit.step` — the client's packets,
  and what can happen.

Main results:

* `MmoServer.Lobby.transits`, `MmoServer.WorldProxy.transits` — a packet about a client does nothing
  to the lobby or a proxy, or brings the player there, or takes it away;
* `MmoServer.World.process_spec` — what a packet of its proxy does to a world.
-/

import MmoServer.Lobby
import MmoServer.Transition
import MmoServer.WorldProxy

set_option relaxedAutoImplicit false
set_option autoImplicit false

namespace MmoServer

open Std Handler

/-! ### Packets -/

/-- The packets of the game process about a player in transit. -/
inductive TransitBody
  | networkDisconnect
  | loginByToken (account token : List UInt8)
  | teleport (lastWorldSn : UInt64) (account : List UInt8) (playerSn : UInt64)
  | teleportAfter (playerSn : UInt64)

/-- A packet of the game process. -/
structure TransitMessage where
  identify : NetIdentify
  body : TransitBody

/-- The packets of a proxy for its world. -/
inductive WorldBody
  | networkDisconnect
  /-- `G2S_SyncPlayer`, with the serial number in the data of the player. -/
  | syncPlayer (playerSn : UInt64)
  | removePlayer (playerSn : UInt64)

/-- A packet of a proxy for its world. -/
structure WorldMessage where
  identify : NetIdentify
  body : WorldBody

/-- `WorldProxyHelp::Teleport`. -/
def teleportMessage (player : Player) (lastWorldSn targetWorldSn : UInt64) : TransitMessage where
  identify := ⟨player.socketKey, TagKey.clear.addTagInt .entity targetWorldSn⟩
  body := .teleport lastWorldSn (cStr player.account) player.playerSn

/-- The entity that a packet is for, as `MessageSystem::Update` reads it; zero is everyone. -/
def NetIdentify.entitySn (identify : NetIdentify) : UInt64 :=
  ((identify.tagKey.getTagValue .entity).map TagValue.keyInt64).getD 0

/-- `MessageSystem::Update` gives a packet to an entity. -/
def NetIdentify.isFor (identify : NetIdentify) (sn : UInt64) : Bool :=
  identify.entitySn = 0 ∨ identify.entitySn = sn

/-- `NetworkHelp::IsTcp`. -/
def NetworkType.isTcp (t : NetworkType) : Bool := t = .tcpConnector ∨ t = .tcpListen

/-- `GetTypeFromAppKey`. -/
def typeFromAppKey (appKey : UInt64) : UInt64 := appKey >>> 32

/-- `GetIdFromAppKey`. -/
def idFromAppKey (appKey : UInt64) : UInt64 := appKey &&& 0xFFFF

/-- `Global::GetAppIdFromSN`. -/
def appIdFromSn (sn : UInt64) : UInt64 := ((sn <<< 38) >>> 38) >>> 16

/-- `APP_SPACE`. -/
def appSpace : UInt64 := 32

/-! ### Proxies -/

/-- What a proxy sends. -/
inductive ProxyMsg
  /-- A packet for the world of the proxy. -/
  | toWorld (m : WorldMessage)
  /-- `MI_TeleportAfter`. -/
  | teleportAfter (m : TransitMessage)
  /-- `RegisterToLocator`, a call that the locator of sockets gets. -/
  | registerToLocator (socket : ℤ) (sn : UInt64)
  /-- `MI_NetworkRequestDisconnect`, for the socket of a player. -/
  | networkRequestDisconnect (player : Player)
  /-- `Remove`, a call that the locator of proxies gets. -/
  | removeFromLocator (worldSn : UInt64)

namespace WorldProxy

/-- `SendPacketToWorld`. -/
def sendPacketToWorld (w : WorldProxy) (app : AppType) (player : Player) (body : WorldBody) :
    ProxyMsg :=
  .toWorld ⟨⟨SocketKey.none, TagKey.clear.copyFrom (w.addWorldTags app TagKey.clear player)⟩, body⟩

/-- `HandleNetworkDisconnect`.  When the space process is gone, so is the proxy. -/
def handleNetworkDisconnect (app : AppType) (w : WorldProxy) (identify : NetIdentify) :
    Outcome WorldProxy ProxyMsg :=
  if !identify.socketKey.netType.isTcp then .pure w
  else
    match identify.tagKey.getTagValue .account with
    | some _ =>
      match w.players.getPlayerBySocket identify.socketKey.socket with
      | none => .pure w
      | some player =>
        .send [w.sendPacketToWorld app player .networkDisconnect]
          { w with players := w.players.removePlayerBySocket identify.socketKey.socket }
    | none =>
      match identify.tagKey.getTagValue .app with
      | none => .pure w
      | some value =>
        if typeFromAppKey value.keyInt64 ≠ appSpace ∨
            appIdFromSn w.sn ≠ idFromAppKey value.keyInt64 then .pure w
        else
          ⟨(w.players.players.toList.map fun entry => .networkRequestDisconnect entry.2) ++
            [.removeFromLocator w.sn], none⟩

/-- The packet that tells the old holder of a player that it has arrived. -/
def teleportAfterMessage (playerSn lastWorldSn : UInt64) : TransitMessage where
  identify := ⟨SocketKey.none,
    (TagKey.clear.addTagInt .player playerSn).addTagInt .entity lastWorldSn⟩
  body := .teleportAfter playerSn

/-- `HandleTeleport`. -/
def handleTeleport (app : AppType) (w : WorldProxy) (identify : NetIdentify) (lastWorldSn : UInt64)
    (account : List UInt8) (playerSn : UInt64) : Outcome WorldProxy ProxyMsg :=
  match w.players.addPlayer identify account with
  | none => .pure w
  | some (players, added) =>
    let player := { added with playerSn := playerSn }
    .send
      [w.sendPacketToWorld app player (.syncPlayer playerSn),
        .teleportAfter (teleportAfterMessage player.playerSn lastWorldSn),
        .registerToLocator player.socketKey.socket w.sn]
      { w with players := players.insert player }

/-- `HandleTeleportAfter`, behind the search for the player. -/
def handleTeleportAfter (app : AppType) (w : WorldProxy) (identify : NetIdentify)
    (playerSn : UInt64) : Outcome WorldProxy ProxyMsg :=
  match w.getPlayer identify with
  | none => .pure w
  | some player =>
    .send [w.sendPacketToWorld app player (.removePlayer playerSn)]
      { w with players := w.players.removePlayerBySocket player.socketKey.socket }

/-- `ProcessPacket` of a proxy.  A login that reaches it goes through the default function, which
changes nothing here. -/
def processTransit (app : AppType) (w : WorldProxy) (m : TransitMessage) :
    Outcome WorldProxy ProxyMsg :=
  match m.body with
  | .networkDisconnect => w.handleNetworkDisconnect app m.identify
  | .loginByToken _ _ => .pure w
  | .teleport lastWorldSn account playerSn =>
    w.handleTeleport app m.identify lastWorldSn account playerSn
  | .teleportAfter playerSn => w.handleTeleportAfter app m.identify playerSn

/-- `MessageSystem::Update`, for a packet and a proxy. -/
def receiveTransit (app : AppType) (w : WorldProxy) (m : TransitMessage) :
    Outcome WorldProxy ProxyMsg :=
  if m.identify.isFor w.sn then w.processTransit app m else .pure w

end WorldProxy

/-- `ProcessPacket` of the lobby. -/
def Lobby.processTransit (l : Lobby) (m : TransitMessage) : Outcome Lobby LobbyMsg :=
  match m.body with
  | .networkDisconnect => l.handleNetworkDisconnect m.identify
  | .loginByToken account token => l.handleLoginByToken m.identify account token
  | .teleport _ _ _ => .pure l
  | .teleportAfter _ => l.handleTeleportAfter m.identify

/-- `MessageSystem::Update`, for a packet and the lobby. -/
def Lobby.receiveTransit (l : Lobby) (m : TransitMessage) : Outcome Lobby LobbyMsg :=
  if m.identify.isFor l.sn then l.processTransit m else .pure l

/-! ### Worlds -/

namespace World

/-- `HandleNetworkDisconnect`. -/
def handleNetworkDisconnect (players : PlayerManager) (identify : NetIdentify) : PlayerManager :=
  match identify.tagKey.getTagValue .player with
  | some value =>
    match players.getPlayerBySn value.keyInt64 with
    | none => players
    | some _ => players.removePlayerBySn value.keyInt64
  | none =>
    match identify.tagKey.getTagValue .app with
    | none => players
    | some _ => players.removeAllPlayers identify.socketKey.socket

/-- `HandleSyncPlayer`; nothing if the player cannot be set up. -/
def handleSyncPlayer (worldSn : UInt64) (players : PlayerManager) (identify : NetIdentify)
    (playerSn : UInt64) : Option PlayerManager :=
  (players.addPlayer playerSn worldSn identify).map Prod.fst

/-- `HandleG2SRemovePlayer`, behind the search for the player. -/
def handleG2SRemovePlayer (players : PlayerManager) (identify : NetIdentify)
    (playerSn : UInt64) : PlayerManager :=
  match getPlayer players identify with
  | none => players
  | some player =>
    if playerSn ≠ player.playerSn then players else players.removePlayerBySn player.playerSn

/-- `ProcessPacket` of a world. -/
def process (worldSn : UInt64) (players : PlayerManager) (identify : NetIdentify) :
    WorldBody → Option PlayerManager
  | .networkDisconnect => some (handleNetworkDisconnect players identify)
  | .syncPlayer playerSn => handleSyncPlayer worldSn players identify playerSn
  | .removePlayer playerSn => some (handleG2SRemovePlayer players identify playerSn)

end World

/-! ### One client -/

/-- The socket of a client, and the serial number of its player. -/
structure TransitClient where
  socket : ℤ
  isInt : IsInt socket
  playerSn : UInt64

/-- How the worlds are reached: in the same process, or over a connection between processes. -/
structure Deployment where
  app : AppType
  socketKey : SocketKey
  gameKey : UInt64

/-- What identifies a packet of a proxy when it has arrived at the world. -/
def Deployment.arrived (d : Deployment) (identify : NetIdentify) : NetIdentify :=
  d.app.deliver ⟨d.socketKey, TagKey.clear.addTagInt .app d.gameKey⟩
    { toNetIdentify := identify, msgId := .none, body := [] }

/-- Those who handle packets of the game process. -/
inductive TransitEntity
  | lobby
  | proxy (sn : UInt64)
  | locator
  deriving DecidableEq

/-- The packets about a client, and those who may hold its player. -/
structure Transit where
  /-- All packets of the game process, in the order in which they were dispatched. -/
  log : List TransitMessage
  /-- How many of them an entity has handled. -/
  cursor : TransitEntity → ℕ
  /-- The place of the packet with the end of the connection. -/
  closedAt : Option ℕ
  lobby : Option Lobby
  proxySns : List UInt64
  proxies : UInt64 → Option WorldProxy
  worlds : UInt64 → Option PlayerManager
  toWorld : UInt64 → List WorldMessage
  locator : SocketLocator

/-- What can happen. -/
inductive TransitEvent
  /-- The client sends `C2G_LoginByToken`. -/
  | login (tagKey : TagKey) (account token : List UInt8)
  /-- The data of the player come from the database. -/
  | loaded (worlds : ResourceWorldMgr) (record : PlayerRecord)
  /-- The holder of the player teleports it. -/
  | teleport (holder : TransitEntity) (targetWorldSn : UInt64)
  /-- The connection ends; it has the account if the network has been told. -/
  | disconnect (account : Option (List UInt8))
  /-- A proxy of a world is made. -/
  | createProxy (sn : UInt64)
  /-- An entity handles the next packet. -/
  | handle (e : TransitEntity)
  /-- A world handles the next packet of its proxy. -/
  | worldHandles (sn : UInt64)

/-- What a message of the lobby does to the locator of sockets. -/
def LobbyMsg.register (locator : SocketLocator) : LobbyMsg → SocketLocator
  | .registerToLocator socket sn => locator.registerToLocator socket sn
  | _ => locator

/-- What a message of a proxy does to the locator of sockets. -/
def ProxyMsg.register (locator : SocketLocator) : ProxyMsg → SocketLocator
  | .registerToLocator socket sn => locator.registerToLocator socket sn
  | _ => locator

/-- A message of a proxy that is a packet for its world. -/
def ProxyMsg.worldMessage : ProxyMsg → Option WorldMessage
  | .toWorld m => some m
  | _ => none

/-- A message of a proxy that is a packet of the game process. -/
def ProxyMsg.transitMessage : ProxyMsg → Option TransitMessage
  | .teleportAfter m => some m
  | _ => none

namespace Transit

/-- The lobby has handled a packet. -/
def afterLobby (t : Transit) (o : Outcome Lobby LobbyMsg) : Transit :=
  { t with
    lobby := o.state
    locator := o.sent.foldl LobbyMsg.register t.locator }

/-- A proxy has handled a packet. -/
def afterProxy (t : Transit) (sn : UInt64) (o : Outcome WorldProxy ProxyMsg) : Transit :=
  { t with
    proxies := Function.update t.proxies sn o.state
    toWorld :=
      Function.update t.toWorld sn (t.toWorld sn ++ o.sent.filterMap ProxyMsg.worldMessage)
    log := t.log ++ o.sent.filterMap ProxyMsg.transitMessage
    locator := o.sent.foldl ProxyMsg.register t.locator }

/-- An entity has handled one packet more. -/
def advance (t : Transit) (e : TransitEntity) : Transit :=
  { t with cursor := Function.update t.cursor e (t.cursor e + 1) }

/-- An entity handles the next packet. -/
def handle (d : Deployment) (t : Transit) (e : TransitEntity) : Option Transit :=
  t.log[t.cursor e]?.bind fun m =>
    match e with
    | .lobby => t.lobby.map fun l => (t.advance .lobby).afterLobby (l.receiveTransit m)
    | .proxy sn =>
      (t.proxies sn).map fun w =>
        (t.advance (.proxy sn)).afterProxy sn (w.receiveTransit d.app m)
    | .locator =>
      match m.identify.entitySn, m.body with
      | 0, .networkDisconnect =>
        some { t.advance .locator with locator := t.locator.handleNetworkDisconnect m.identify }
      | _, _ => some (t.advance .locator)

/-- The serial number of an entity, and its players. -/
def holder (t : Transit) : TransitEntity → Option (UInt64 × PlayerCollector)
  | .lobby => t.lobby.map fun l => (l.sn, l.players)
  | .proxy sn => (t.proxies sn).map fun w => (w.sn, w.players)
  | .locator => none

/-- The player of the client that an entity holds. -/
def held (c : TransitClient) (t : Transit) (e : TransitEntity) : Option Player :=
  (t.holder e).bind fun h => h.2.getPlayerBySocket c.socket

theorem held_lobby (c : TransitClient) (t : Transit) :
    t.held c .lobby = t.lobby.bind fun l => l.players.getPlayerBySocket c.socket := by
  cases h : t.lobby <;> simp [held, holder, h]

theorem held_proxy (c : TransitClient) (t : Transit) (sn : UInt64) :
    t.held c (.proxy sn) = (t.proxies sn).bind fun w => w.players.getPlayerBySocket c.socket := by
  cases h : t.proxies sn <;> simp [held, holder, h]

/-- One step; nothing if it is not possible. -/
def step (c : TransitClient) (d : Deployment) (t : Transit) : TransitEvent → Option Transit
  | .login tagKey account token =>
    match t.closedAt with
    | some _ => none
    | none =>
      some { t with
        log := t.log ++ [⟨⟨⟨c.socket, .tcpListen⟩, tagKey⟩, .loginByToken account token⟩] }
  | .loaded worlds record =>
    match t.lobby, t.held c .lobby with
    | some l, some player =>
      if record.sn = c.playerSn then
        some { t with
          lobby := some { l with players := l.players.insert (player.load worlds record) } }
      else none
    | _, _ => none
  | .teleport e targetWorldSn =>
    match t.holder e, t.held c e with
    | some (sn, _), some player =>
      -- a player without its data is not teleported
      if player.playerSn = c.playerSn then
        some { t with log := t.log ++ [teleportMessage player sn targetWorldSn] }
      else none
    | _, _ => none
  | .disconnect account =>
    match t.closedAt with
    | some _ => none
    | none =>
      let tagKey := account.elim TagKey.clear (TagKey.clear.addTagStr .account)
      some { t with
        log := t.log ++ [⟨⟨⟨c.socket, .tcpListen⟩, tagKey⟩, .networkDisconnect⟩]
        closedAt := some t.log.length }
  | .createProxy sn =>
    if sn ∈ t.proxySns then none
    else
      some { t with
        proxySns := sn :: t.proxySns
        proxies := Function.update t.proxies sn (some ⟨sn, PlayerCollector.empty⟩)
        worlds := Function.update t.worlds sn (some PlayerManager.empty)
        cursor := Function.update t.cursor (.proxy sn) t.log.length }
  | .handle e => t.handle d e
  | .worldHandles sn =>
    match t.worlds sn, t.toWorld sn with
    | some players, m :: rest =>
      some { t with
        worlds := Function.update t.worlds sn (World.process sn players (d.arrived m.identify) m.body)
        toWorld := Function.update t.toWorld sn rest }
    | _, _ => none

/-- A game process with a lobby, and without proxies. -/
def start (sn : UInt64) : Transit where
  log := []
  cursor _ := 0
  closedAt := none
  lobby := some (Lobby.awake sn)
  proxySns := []
  proxies _ := none
  worlds _ := none
  toWorld _ := []
  locator := SocketLocator.empty

/-- The process as a system. -/
def system (c : TransitClient) (d : Deployment) : Transition.System Transit TransitEvent :=
  .ofFun (fun t => ∃ sn : UInt64, t = start sn) (step c d)

end Transit

/-! ### What packets of a client are -/

/-- A packet that does not say whose account it is about. -/
def TransitMessage.Nameless (m : TransitMessage) : Prop :=
  m.identify.tagKey.getTagValue .account = none

/-- A packet about a client, as the client, the network and the holders of the player send it. -/
def TransitMessage.OfClient (c : TransitClient) (m : TransitMessage) : Prop :=
  match m.body with
  | .networkDisconnect =>
    m.identify.socketKey = ⟨c.socket, .tcpListen⟩ ∧ m.identify.entitySn = 0 ∧
      (m.Nameless → m.identify.tagKey = TagKey.clear)
  | .loginByToken _ _ => m.identify.socketKey.socket = c.socket
  | .teleport _ _ playerSn => m.identify.socketKey.socket = c.socket ∧ playerSn = c.playerSn
  | .teleportAfter playerSn =>
    m.identify.tagKey.getTagValue .account = none ∧
      (m.identify.tagKey.getTagValue .player).map TagValue.keyInt64 = some c.playerSn ∧
      playerSn = c.playerSn

/-- The serial number in the body of a packet for a world, if there is one, is that of the
client. -/
def WorldBody.OfClient (c : TransitClient) : WorldBody → Prop
  | .networkDisconnect => True
  | .syncPlayer playerSn => playerSn = c.playerSn
  | .removePlayer playerSn => playerSn = c.playerSn

/-- A packet about a client, as a proxy sends it to its world. -/
structure WorldMessage.OfClient (c : TransitClient) (d : Deployment) (m : WorldMessage) : Prop where
  player : ((d.arrived m.identify).tagKey.getTagValue .player).map TagValue.keyInt64 =
    some c.playerSn
  socket : ∀ value : TagValue, (d.arrived m.identify).tagKey.getTagValue .socket = some value →
    tagSocket value.keyInt64 = c.socket
  body : m.body.OfClient c

/-- A tag that is copied keeps its number. -/
theorem TagKey.keyInt64_normal (value : TagValue) :
    (TagKey.normal value).keyInt64 = value.keyInt64 := by
  unfold TagKey.normal
  by_cases h : value.keyInt64 = 0
  · rw [if_neg (fun hne => hne h), h]
  · rw [if_pos h]

/-- The packets that a proxy sends about the player of a client. -/
theorem WorldProxy.ofClient_sendPacketToWorld (c : TransitClient) (d : Deployment) (w : WorldProxy)
    {player : Player} (hsocket : player.socketKey.socket = c.socket)
    (hsn : player.playerSn = c.playerSn) {body : WorldBody} (hbody : body.OfClient c)
    {m : WorldMessage} (hm : w.sendPacketToWorld d.app player body = .toWorld m) :
    m.OfClient c d := by
  obtain rfl := ProxyMsg.toWorld.inj hm
  obtain ⟨hsocketTag, hplayerTag, -⟩ := w.getTagValue_addWorldTags d.app TagKey.clear player
  rw [hsocket] at hsocketTag
  rw [hsn] at hplayerTag
  refine ⟨?_, fun value hvalue => ?_, hbody⟩
  · unfold Deployment.arrived AppType.deliver
    by_cases hspace : d.app.hasSpace = true
    · rw [if_pos hspace]
      simp only
      rw [TagKey.getTagValue_copyFrom_clear, hplayerTag]
      exact congrArg some (TagKey.keyInt64_normal _)
    · rw [if_neg hspace]
      simp only [TagKey.getTagValue_addTagInt_self, TagKey.getTagValue_copyFrom_clear, hplayerTag,
        Option.map_some, Option.getD_some, TagKey.keyInt64_normal]
  · unfold Deployment.arrived AppType.deliver at hvalue
    by_cases hspace : d.app.hasSpace = true
    · rw [if_pos hspace] at hvalue
      simp only at hvalue
      rw [TagKey.getTagValue_copyFrom_clear, hsocketTag] at hvalue
      rw [← Option.some.inj hvalue, TagKey.keyInt64_normal, tagSocket_socketTag c.isInt]
    · rw [if_neg hspace, TagKey.getTagValue_addTagInt_of_ne _ _ (by decide),
        TagKey.getTagValue_addTagInt_of_ne _ _ (by decide), TagKey.getTagValue_copyFrom_clear,
        TagKey.getTagValue_addTagInt_of_ne _ _ (by decide)] at hvalue
      cases hvalue

/-! ### Collectors with the player of one client -/

namespace PlayerCollector

/-- All players are at one socket. -/
def OnlyAt (c : PlayerCollector) (socket : ℤ) : Prop :=
  ∀ (s : ℤ) (player : Player), c.getPlayerBySocket s = some player → s = socket

variable {c : PlayerCollector} {socket : ℤ}

theorem onlyAt_empty (socket : ℤ) : empty.OnlyAt socket := by
  intro s player h
  cases h

theorem OnlyAt.insert (hc : c.OnlyAt socket) {player : Player}
    (hsocket : player.socketKey.socket = socket) : (c.insert player).OnlyAt socket := by
  intro s q hq
  rw [getPlayerBySocket_insert] at hq
  by_cases hs : player.socketKey.socket = s
  · exact hs.symm.trans hsocket
  · rw [if_neg hs] at hq
    exact hc s q hq

theorem OnlyAt.addPlayer (hc : c.OnlyAt socket) {d : PlayerCollector} {identify : NetIdentify}
    {account : List UInt8} {player : Player} (h : c.addPlayer identify account = some (d, player))
    (hsocket : identify.socketKey.socket = socket) : d.OnlyAt socket := by
  obtain ⟨-, -, hframe⟩ := getPlayerBySocket_addPlayer h
  intro s q hq
  rw [hframe] at hq
  by_cases hs : identify.socketKey.socket = s
  · exact hs.symm.trans hsocket
  · rw [if_neg hs] at hq
    exact hc s q hq

theorem OnlyAt.removePlayerBySocket (hc : c.OnlyAt socket) (s : ℤ) :
    (c.removePlayerBySocket s).OnlyAt socket := by
  intro s' q hq
  rw [getPlayerBySocket_removePlayerBySocket] at hq
  by_cases hs : s = s'
  · rw [if_pos hs] at hq
    cases hq
  · rw [if_neg hs] at hq
    exact hc s' q hq

/-- A search for a serial number finds the player of the socket. -/
theorem OnlyAt.getPlayerBySn (hc : c.OnlyAt socket) {playerSn : UInt64} {player : Player}
    (h : c.getPlayerBySn playerSn = some player) :
    player.socketKey.socket = socket ∧ c.getPlayerBySocket socket = some player := by
  obtain ⟨hplayer, -⟩ := getPlayerBySn_some h
  have hsocket := hc _ player hplayer
  exact ⟨hsocket, hsocket ▸ hplayer⟩

/-- A socket whose player is removed has none. -/
theorem getPlayerBySocket_removed (c : PlayerCollector) (socket : ℤ) :
    (c.removePlayerBySocket socket).getPlayerBySocket socket = none := by
  rw [getPlayerBySocket_removePlayerBySocket]
  exact if_pos rfl

end PlayerCollector

/-! ### What the handlers of the game process do -/

/-- A login. -/
def TransitBody.isLogin : TransitBody → Bool
  | .loginByToken _ _ => true
  | _ => false

/-- A teleport. -/
def TransitBody.isTeleport : TransitBody → Bool
  | .teleport _ _ _ => true
  | _ => false

/-- A packet of this kind makes an entity take the player, if it has none. -/
def TransitBody.brings (b : TransitBody) : TransitEntity → Bool
  | .lobby => b.isLogin
  | .proxy _ => b.isTeleport
  | .locator => false

theorem TransitBody.brings_eq_false {b : TransitBody} (hlogin : b.isLogin = false)
    (hteleport : b.isTeleport = false) (e : TransitEntity) : b.brings e = false := by
  cases e with
  | lobby => exact hlogin
  | proxy sn => exact hteleport
  | locator => rfl

/-- The end of the connection. -/
def TransitBody.isDisconnect : TransitBody → Bool
  | .networkDisconnect => true
  | _ => false

/-- The end of the connection is for everyone. -/
theorem TransitMessage.OfClient.isFor {c : TransitClient} {m : TransitMessage} (hm : m.OfClient c)
    (hbody : m.body.isDisconnect = true) (sn : UInt64) : m.identify.isFor sn = true := by
  obtain ⟨identify, body⟩ := m
  cases body with
  | networkDisconnect =>
    obtain ⟨-, hentity, -⟩ := hm
    exact decide_eq_true (Or.inl hentity)
  | _ => cases hbody

/-- What a packet about a client does to the lobby. -/
inductive Lobby.Transits (c : TransitClient) (l : Lobby) (m : TransitMessage) :
    Outcome Lobby LobbyMsg → Prop
  /-- Nothing; the end of the connection does nothing only if it does not name the account. -/
  | keeps {sent : List LobbyMsg} (hbody : m.body.isDisconnect = true → m.Nameless)
      (hregister : ∀ locator, sent.foldl LobbyMsg.register locator = locator) :
      Transits c l m ⟨sent, some l⟩
  /-- The lobby takes the player, and registers it. -/
  | takes {sent : List LobbyMsg} {players : PlayerCollector} (hbody : m.body.isLogin = true)
      (hfor : m.identify.isFor l.sn = true)
      (hfree : l.players.getPlayerBySocket c.socket = none) (honly : players.OnlyAt c.socket)
      (hregister : ∀ locator, sent.foldl LobbyMsg.register locator =
        locator.registerToLocator c.socket l.sn) :
      Transits c l m ⟨sent, some { l with players := players }⟩
  /-- The lobby loses the player. -/
  | loses : Transits c l m
      (.pure { l with players := l.players.removePlayerBySocket c.socket })

theorem Lobby.transits {c : TransitClient} {l : Lobby} (hl : l.players.OnlyAt c.socket)
    {m : TransitMessage} (hm : m.OfClient c) : l.Transits c m (l.receiveTransit m) := by
  unfold receiveTransit
  split
  case isFalse hfor => exact .keeps (fun h => absurd (hm.isFor h _) hfor) fun _ => rfl
  rename_i hfor
  obtain ⟨identify, body⟩ := m
  cases body with
  | networkDisconnect =>
    obtain ⟨hsocket, -, -⟩ := hm
    simp only at hsocket
    unfold processTransit handleNetworkDisconnect
    cases haccount : identify.tagKey.getTagValue .account with
    | none =>
      simp only
      exact .keeps (fun _ => haccount) fun locator => rfl
    | some value =>
      simp only [hsocket]
      exact .loses
  | loginByToken account token =>
    have hsocket : identify.socketKey.socket = c.socket := hm
    unfold processTransit handleLoginByToken
    simp only
    cases hadd : l.players.addPlayer identify account with
    | none => exact .keeps (fun h => by cases h) fun locator => rfl
    | some added =>
      obtain ⟨players, player⟩ := added
      obtain ⟨rfl, hfree, -⟩ := PlayerCollector.getPlayerBySocket_addPlayer hadd
      refine .takes rfl hfor (hsocket ▸ hfree) ((hl.addPlayer hadd hsocket).insert hsocket)
        fun locator => ?_
      rw [← hsocket]
      rfl
  | teleport lastWorldSn account playerSn => exact .keeps (fun h => by cases h) fun locator => rfl
  | teleportAfter playerSn =>
    unfold processTransit handleTeleportAfter
    simp only
    cases hfound : l.getPlayer identify with
    | none => exact .keeps (fun h => by cases h) fun locator => rfl
    | some player =>
      obtain ⟨value, -, hplayer⟩ := Option.bind_eq_some_iff.1 hfound
      simp only [(hl.getPlayerBySn hplayer).1]
      exact .loses

/-- What a packet about a client does to a proxy. -/
inductive WorldProxy.Transits (c : TransitClient) (app : AppType) (w : WorldProxy)
    (m : TransitMessage) : Outcome WorldProxy ProxyMsg → Prop
  /-- Nothing; the end of the connection does nothing only if the player is not there, or it does
  not name the account. -/
  | keeps (hbody : m.body.isDisconnect = true →
        w.players.getPlayerBySocket c.socket = none ∨ m.Nameless) :
      Transits c app w m (.pure w)
  /-- The proxy takes the player, and tells its world, the old holder, and the locator. -/
  | takes {players : PlayerCollector} {player : Player} {lastWorldSn : UInt64}
      (hbody : m.body.isTeleport = true) (hfor : m.identify.isFor w.sn = true)
      (hfree : w.players.getPlayerBySocket c.socket = none) (honly : players.OnlyAt c.socket)
      (hplayer : players.getPlayerBySocket c.socket = some player)
      (hsocket : player.socketKey.socket = c.socket) (hsn : player.playerSn = c.playerSn) :
      Transits c app w m (.send
        [w.sendPacketToWorld app player (.syncPlayer c.playerSn),
          .teleportAfter (teleportAfterMessage c.playerSn lastWorldSn),
          .registerToLocator c.socket w.sn] { w with players := players })
  /-- The proxy loses the player, and tells its world. -/
  | loses {player : Player} {body : WorldBody} (hbody : m.body.isTeleport = false)
      (hplayer : w.players.getPlayerBySocket c.socket = some player)
      (hworld : body = .networkDisconnect ∨ body = .removePlayer c.playerSn) :
      Transits c app w m (.send [w.sendPacketToWorld app player body]
        { w with players := w.players.removePlayerBySocket c.socket })

theorem WorldProxy.transits {c : TransitClient} {app : AppType} {w : WorldProxy}
    (hw : w.players.OnlyAt c.socket) {m : TransitMessage} (hm : m.OfClient c) :
    w.Transits c app m (w.receiveTransit app m) := by
  unfold receiveTransit
  split
  case isFalse hfor => exact .keeps fun h => absurd (hm.isFor h _) hfor
  rename_i hfor
  obtain ⟨identify, body⟩ := m
  cases body with
  | networkDisconnect =>
    obtain ⟨hsocket, -, hclear⟩ := hm
    simp only at hsocket hclear
    unfold processTransit handleNetworkDisconnect
    cases haccount : identify.tagKey.getTagValue .account with
    | none =>
      -- without an account, and without an app, the proxy does not know whom it is about
      have hnone : identify.tagKey.getTagValue .app = none := by
        rw [hclear haccount]
        rfl
      simp only [hnone, ite_self]
      exact .keeps fun _ => Or.inr haccount
    | some value =>
      simp only [hsocket]
      cases hplayer : w.players.getPlayerBySocket c.socket with
      | none => exact .keeps fun _ => Or.inl hplayer
      | some player => exact .loses rfl hplayer (Or.inl rfl)
  | loginByToken account token => exact .keeps fun h => by cases h
  | teleport lastWorldSn account playerSn =>
    obtain ⟨hsocket, hsn⟩ := hm
    simp only at hsocket hsn
    subst hsn
    unfold processTransit handleTeleport
    simp only
    cases hadd : w.players.addPlayer identify account with
    | none => exact .keeps fun h => by cases h
    | some added =>
      obtain ⟨players, player⟩ := added
      obtain ⟨rfl, hfree, -⟩ := PlayerCollector.getPlayerBySocket_addPlayer hadd
      have hown : (Player.awake identify account).socketKey.socket = c.socket := hsocket
      have honly : (players.insert { Player.awake identify account with
          playerSn := c.playerSn }).OnlyAt c.socket := (hw.addPlayer hadd hsocket).insert hsocket
      simp only [hown]
      refine .takes rfl hfor (hsocket ▸ hfree) honly ?_ hsocket rfl
      rw [PlayerCollector.getPlayerBySocket_insert]
      exact if_pos hsocket
  | teleportAfter playerSn =>
    obtain ⟨haccount, hplayer, hsn⟩ := hm
    simp only at haccount hplayer hsn
    obtain ⟨value, hvalue, -⟩ := Option.map_eq_some_iff.1 hplayer
    unfold processTransit handleTeleportAfter
    simp only
    rw [getPlayer_of_player haccount hvalue]
    cases hfound : w.players.getPlayerBySn value.keyInt64 with
    | none => exact .keeps fun h => by cases h
    | some player =>
      obtain ⟨hsocket, hat⟩ := hw.getPlayerBySn hfound
      simp only [hsocket, hsn]
      exact .loses rfl hat (Or.inr rfl)

/-! ### What the handlers of a world do -/

/-- A packet brings the player to the world; the others take it away. -/
def WorldBody.adds : WorldBody → Bool
  | .syncPlayer _ => true
  | _ => false

namespace PlayerManager

variable {c : TransitClient} {m : PlayerManager}

/-- The player of a client is in the world with its socket, or neither is there. -/
def Tracks (c : TransitClient) (m : PlayerManager) : Prop :=
  (m.getPlayerBySn c.playerSn = none ∧ m.sockets[c.socket]? = none) ∨
    ∃ player : Player, m.getPlayerBySn c.playerSn = some player ∧
      player.socketKey.socket = c.socket ∧ m.sockets[c.socket]? = some c.playerSn

theorem tracks_empty (c : TransitClient) : empty.Tracks c := Or.inl ⟨rfl, rfl⟩

/-- The socket leads to the player, if there is one. -/
theorem Tracks.getPlayerBySocket (h : m.Tracks c) :
    m.getPlayerBySocket c.socket = m.getPlayerBySn c.playerSn := by
  unfold PlayerManager.getPlayerBySocket
  rcases h with ⟨hsn, hsocket⟩ | ⟨player, -, -, hsocket⟩
  · rw [hsocket, hsn]
    rfl
  · rw [hsocket]
    rfl

/-- A player that is removed takes its socket with it. -/
theorem Tracks.removePlayerBySn (h : m.Tracks c) :
    (m.removePlayerBySn c.playerSn).getPlayerBySn c.playerSn = none ∧
      (m.removePlayerBySn c.playerSn).Tracks c := by
  have hnone : (m.removePlayerBySn c.playerSn).getPlayerBySn c.playerSn = none := by
    rw [getPlayerBySn_removePlayerBySn]
    exact if_pos rfl
  refine ⟨hnone, Or.inl ⟨hnone, ?_⟩⟩
  rcases h with ⟨hsn, hsocket⟩ | ⟨player, hsn, hown, -⟩
  · have hkept : m.removePlayerBySn c.playerSn = m := by
      unfold PlayerManager.removePlayerBySn
      split
      · rfl
      · rename_i player hplayer
        rw [show m.players[c.playerSn]? = none from hsn] at hplayer
        cases hplayer
    rw [hkept]
    exact hsocket
  · unfold PlayerManager.removePlayerBySn
    split
    · rename_i hplayer
      rw [show m.players[c.playerSn]? = some player from hsn] at hplayer
      cases hplayer
    · rename_i q hq
      rw [show m.players[c.playerSn]? = some player from hsn] at hq
      obtain rfl := Option.some.inj hq
      rw [OrdMap.getElem?_erase]
      exact if_pos hown

/-- A player that is added brings its socket with it. -/
theorem Tracks.addPlayer (h : m.Tracks c) {worldSn : UInt64} {identify : NetIdentify}
    {n : PlayerManager} {added : Option Player}
    (hsocket : ∀ value : TagValue, identify.tagKey.getTagValue .socket = some value →
      tagSocket value.keyInt64 = c.socket)
    (hadd : m.addPlayer c.playerSn worldSn identify = some (n, added)) : n.Tracks c := by
  unfold PlayerManager.addPlayer at hadd
  split at hadd
  · split at hadd
    · cases hadd
    · rename_i player hawake
      obtain ⟨rfl, -⟩ := Prod.mk.inj (Option.some.inj hadd)
      have hplayer : player.socketKey.socket = c.socket ∧ player.playerSn = c.playerSn := by
        unfold Player.awakeInWorld at hawake
        split at hawake
        · cases hawake
        · rename_i value hvalue
          rw [← Option.some.inj hawake]
          exact ⟨hsocket value hvalue, rfl⟩
      refine Or.inr ⟨player, ?_, hplayer.1, ?_⟩
      · rw [getPlayerBySn_insert]
        exact if_pos hplayer.2
      · unfold PlayerManager.insert
        simp only
        rw [OrdMap.getElem?_insert, if_pos hplayer.1, hplayer.2]
  · obtain ⟨rfl, -⟩ := Prod.mk.inj (Option.some.inj hadd)
    exact h

end PlayerManager

/-- **What a packet of its proxy does to a world**: the player is tracked, and is there afterwards
only if the packet brings it. -/
theorem World.process_spec {c : TransitClient} {d : Deployment} {worldSn : UInt64}
    {players players' : PlayerManager} {m : WorldMessage} (h : players.Tracks c)
    (hm : m.OfClient c d)
    (hprocess : World.process worldSn players (d.arrived m.identify) m.body = some players') :
    players'.Tracks c ∧
      (m.body.adds = false → players'.getPlayerBySn c.playerSn = none) := by
  obtain ⟨hplayer, hsocket, hbody⟩ := hm
  obtain ⟨value, hvalue, hsn⟩ := Option.map_eq_some_iff.1 hplayer
  cases hm : m.body with
  | networkDisconnect =>
    rw [hm] at hprocess
    obtain rfl := Option.some.inj hprocess
    unfold World.handleNetworkDisconnect
    simp only [hvalue, hsn]
    cases hfound : players.getPlayerBySn c.playerSn with
    | none => exact ⟨h, fun _ => hfound⟩
    | some player => exact ⟨h.removePlayerBySn.2, fun _ => h.removePlayerBySn.1⟩
  | syncPlayer playerSn =>
    rw [hm] at hprocess hbody
    obtain rfl : playerSn = c.playerSn := hbody
    obtain ⟨⟨players'', added⟩, hadd, rfl⟩ := Option.map_eq_some_iff.1 hprocess
    exact ⟨h.addPlayer hsocket hadd, fun hadds => by cases hadds⟩
  | removePlayer playerSn =>
    rw [hm] at hprocess hbody
    obtain rfl : playerSn = c.playerSn := hbody
    obtain rfl := Option.some.inj hprocess
    -- the world looks for the socket, or for the serial number, and finds the same
    have hfind : World.getPlayer players (d.arrived m.identify) =
        players.getPlayerBySn c.playerSn := by
      cases hs : (d.arrived m.identify).tagKey.getTagValue .socket with
      | none =>
        rw [World.getPlayer_of_no_socket hs, hvalue, ← hsn]
        rfl
      | some socket =>
        unfold World.getPlayer
        simp only [hs]
        rw [hsocket socket hs, h.getPlayerBySocket]
    unfold World.handleG2SRemovePlayer
    rw [hfind]
    cases hfound : players.getPlayerBySn c.playerSn with
    | none => exact ⟨h, fun _ => hfound⟩
    | some player =>
      have hown : player.playerSn = c.playerSn := PlayerManager.getPlayerBySn_some hfound
      simp only [hown, ne_eq, not_true_eq_false, if_false]
      exact ⟨h.removePlayerBySn.2, fun _ => h.removePlayerBySn.1⟩

end MmoServer
