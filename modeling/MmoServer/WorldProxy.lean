/-
**How a packet finds its player.**

A packet of a client reaches the proxy of a world, which finds the player, and handles the packet
or passes it on: to the client of the player, or to the real world in the space process, which
finds the player again.  What they find depends on the tags of the packet, and each of them looks
at the tags in an order of its own.

Main definitions:

* `MmoServer.AppType` — the kinds of processes;
* `MmoServer.Message` — what of a packet is read and passed on;
* `MmoServer.WorldProxy` and its `getPlayer`, `addWorldTags`, `handleDefaultFunction`;
* `MmoServer.World.getPlayer` — the search of a world;
* `MmoServer.AppType.deliver` — how the tags of a packet arrive at the world.

Main results:

* `MmoServer.WorldProxy.getPlayer_of_account` — a packet with an account is its socket's;
* `MmoServer.WorldProxy.getPlayer_of_player`, `MmoServer.WorldProxy.forwarded_of_player` — a packet
  with a serial number, and no account, is of the player with that number; the default function
  does not look at the account;
* `MmoServer.World.getPlayer_deliver` — what the world finds for a packet of the proxy.
-/

import MmoServer.PlayerManager

set_option relaxedAutoImplicit false
set_option autoImplicit false

namespace MmoServer

/-! ### Processes and messages -/

/-- `APP_TYPE`, as the processes are built. -/
inductive AppType
  | dbMgr | appMgr | login | game | space | allInOne
  deriving DecidableEq

/-- The process has the worlds of the space process in it. -/
def AppType.hasSpace (app : AppType) : Bool := app = .space ∨ app = .allInOne

/-- What of a packet the handlers read and pass on. -/
structure Message extends NetIdentify where
  msgId : MsgId
  body : List UInt8

/-- The message of a packet. -/
def Packet.toMessage (p : Packet) : Message := ⟨p.toNetIdentify, p.msgId, p.body⟩

/-- `CreatePacket` and `CopyFrom`: the body of a packet, with another identification. -/
def Message.copyFor (m : Message) (identify : Option NetIdentify) : Message where
  socketKey :=
    match identify with
    | some i => i.socketKey
    | none => SocketKey.none
  tagKey :=
    match identify with
    | some i => TagKey.clear.copyFrom i.tagKey
    | none => TagKey.clear
  msgId := m.msgId
  body := m.body

/-- How the identification of a message for the world arrives there: as it is in the same process,
and otherwise as the two numbers of the long head, on the connection between the processes. -/
def AppType.deliver (app : AppType) (connection : NetIdentify) (m : Message) : NetIdentify :=
  if app.hasSpace then m.toNetIdentify
  else
    { socketKey := connection.socketKey
      tagKey :=
        ((TagKey.clear.copyFrom connection.tagKey).addTagInt .entity
          (((m.tagKey.getTagValue .entity).map TagValue.keyInt64).getD 0)).addTagInt .player
          (((m.tagKey.getTagValue .player).map TagValue.keyInt64).getD 0) }

/-! ### The proxy -/

/-- `WorldProxy`, with its collector of players. -/
structure WorldProxy where
  sn : UInt64
  players : PlayerCollector

/-- What the default function does with a packet. -/
inductive Forward
  /-- A copy goes to the client of a player. -/
  | toClient (player : Player) (m : Message)
  /-- A copy goes to the world, on behalf of a player. -/
  | toWorld (player : Player) (m : Message)

/-- The player that a packet was forwarded to, or on behalf of. -/
def Forward.player : Forward → Player
  | .toClient player _ => player
  | .toWorld player _ => player

namespace WorldProxy

/-- The tags of a packet for the world. -/
def addWorldTags (w : WorldProxy) (app : AppType) (tagKey : TagKey) (player : Player) : TagKey :=
  let tagKey := ((tagKey.addTagInt .socket (socketTag player.socketKey.socket)).addTagInt .player
    player.playerSn).addTagInt .entity w.sn
  if app = .allInOne then tagKey.addTagInt .toWorld w.sn else tagKey

/-- `CopyPacketToWorld`: the packet that is sent. -/
def copyPacketToWorld (w : WorldProxy) (app : AppType) (player : Player) (m : Message) : Message :=
  { m.copyFor none with tagKey := w.addWorldTags app TagKey.clear player }

/-- `WorldProxy::GetPlayer`. -/
def getPlayer (w : WorldProxy) (identify : NetIdentify) : Option Player :=
  match identify.tagKey.getTagValue .account with
  | some _ => w.players.getPlayerBySocket identify.socketKey.socket
  | none =>
    match identify.tagKey.getTagValue .player with
    | some value => w.players.getPlayerBySn value.keyInt64
    | none => none

/-- `WorldProxy::HandleDefaultFunction`. -/
def handleDefaultFunction (w : WorldProxy) (app : AppType) (m : Message) : Option Forward :=
  match m.tagKey.getTagValue .player with
  | some value =>
    (w.players.getPlayerBySn value.keyInt64).map fun player =>
      .toClient player (m.copyFor (some player.toNetIdentify))
  | none =>
    (w.players.getPlayerBySocket m.socketKey.socket).map fun player =>
      .toWorld player (w.copyPacketToWorld app player m)

end WorldProxy

/-- `World::GetPlayer`. -/
def World.getPlayer (players : PlayerManager) (identify : NetIdentify) : Option Player :=
  match identify.tagKey.getTagValue .socket with
  | some value => players.getPlayerBySocket (tagSocket value.keyInt64)
  | none =>
    match identify.tagKey.getTagValue .player with
    | some value => players.getPlayerBySn value.keyInt64
    | none => none

/-! ### What is found -/

namespace WorldProxy

variable {w : WorldProxy} {app : AppType}

/-- A packet with an account belongs to the player of its socket. -/
theorem getPlayer_of_account {identify : NetIdentify} {value : TagValue}
    (h : identify.tagKey.getTagValue .account = some value) :
    w.getPlayer identify = w.players.getPlayerBySocket identify.socketKey.socket := by
  unfold getPlayer
  rw [h]

/-- A packet without an account belongs to the player whose serial number it carries. -/
theorem getPlayer_of_player {identify : NetIdentify} {value : TagValue}
    (haccount : identify.tagKey.getTagValue .account = none)
    (h : identify.tagKey.getTagValue .player = some value) :
    w.getPlayer identify = w.players.getPlayerBySn value.keyInt64 := by
  unfold getPlayer
  rw [haccount, h]

theorem getPlayer_of_none {identify : NetIdentify}
    (haccount : identify.tagKey.getTagValue .account = none)
    (h : identify.tagKey.getTagValue .player = none) : w.getPlayer identify = none := by
  unfold getPlayer
  rw [haccount, h]

/-- The default function passes a packet with a serial number on to the client of the player with
that number, whether the packet has an account or not. -/
theorem forwarded_of_player {m : Message} {value : TagValue}
    (h : m.tagKey.getTagValue .player = some value) :
    w.handleDefaultFunction app m =
      (w.players.getPlayerBySn value.keyInt64).map fun player =>
        .toClient player (m.copyFor (some player.toNetIdentify)) := by
  unfold handleDefaultFunction
  rw [h]

/-- The default function passes a packet without a serial number on to the world, on behalf of the
player of its socket. -/
theorem forwarded_of_none {m : Message} (h : m.tagKey.getTagValue .player = none) :
    w.handleDefaultFunction app m =
      (w.players.getPlayerBySocket m.socketKey.socket).map fun player =>
        .toWorld player (w.copyPacketToWorld app player m) := by
  unfold handleDefaultFunction
  rw [h]

/-- What is sent to the world is a copy for the player of the socket. -/
theorem forwarded_toWorld {m copy : Message} {q : Player}
    (h : w.handleDefaultFunction app m = some (.toWorld q copy)) :
    w.players.getPlayerBySocket m.socketKey.socket = some q ∧
      copy = w.copyPacketToWorld app q m := by
  cases hplayer : m.tagKey.getTagValue .player with
  | none =>
    rw [forwarded_of_none hplayer] at h
    obtain ⟨q', hq, heq⟩ := Option.map_eq_some_iff.1 h
    obtain ⟨rfl, rfl⟩ := Forward.toWorld.inj heq
    exact ⟨hq, rfl⟩
  | some value =>
    rw [forwarded_of_player hplayer] at h
    obtain ⟨q', -, heq⟩ := Option.map_eq_some_iff.1 h
    cases heq

/-- The tags of a packet for the world name the player and its socket. -/
theorem getTagValue_addWorldTags (w : WorldProxy) (app : AppType) (tagKey : TagKey)
    (player : Player) :
    (w.addWorldTags app tagKey player).getTagValue .socket =
        some ⟨[], socketTag player.socketKey.socket⟩ ∧
      (w.addWorldTags app tagKey player).getTagValue .player = some ⟨[], player.playerSn⟩ ∧
      (w.addWorldTags app tagKey player).getTagValue .entity = some ⟨[], w.sn⟩ := by
  unfold addWorldTags
  by_cases happ : app = .allInOne
  · simp only [if_pos happ]
    exact ⟨rfl, rfl, rfl⟩
  · simp only [if_neg happ]
    exact ⟨rfl, rfl, rfl⟩

end WorldProxy

/-- A packet without a socket tag belongs, in a world, to the player whose serial number it
carries. -/
theorem World.getPlayer_of_no_socket {players : PlayerManager} {identify : NetIdentify}
    (h : identify.tagKey.getTagValue .socket = none) :
    World.getPlayer players identify =
      (identify.tagKey.getTagValue .player).bind fun value =>
        players.getPlayerBySn value.keyInt64 := by
  unfold World.getPlayer
  rw [h]
  cases identify.tagKey.getTagValue .player with
  | none => rfl
  | some value => rfl

/-- **What the world finds for a packet of the proxy** is a player with the socket of the player
on whose behalf the packet came, or with its serial number. -/
theorem World.getPlayer_deliver {players : PlayerManager} {w : WorldProxy} {app : AppType}
    {connection : NetIdentify} (hconnection : connection.tagKey.getTagValue .socket = none)
    {player r : Player} {m : Message} (hint : IsInt player.socketKey.socket)
    (h : World.getPlayer players (app.deliver connection (w.copyPacketToWorld app player m)) =
      some r) : r.socketKey.socket = player.socketKey.socket ∨ r.playerSn = player.playerSn := by
  obtain ⟨hsocket, hplayer, -⟩ :=
    w.getTagValue_addWorldTags app TagKey.clear player
  unfold AppType.deliver at h
  by_cases hspace : app.hasSpace = true
  · rw [if_pos hspace] at h
    unfold World.getPlayer WorldProxy.copyPacketToWorld at h
    simp only [hsocket] at h
    rw [tagSocket_socketTag hint] at h
    exact Or.inl (PlayerManager.getPlayerBySocket_some h).1
  · rw [if_neg hspace] at h
    have hnone : (TagKey.clear.copyFrom connection.tagKey).getTagValue .socket = none := by
      rw [TagKey.getTagValue_copyFrom_clear, hconnection]
      rfl
    rw [World.getPlayer_of_no_socket hnone] at h
    unfold WorldProxy.copyPacketToWorld at h
    simp only [TagKey.getTagValue_addTagInt_self, hplayer, Option.map_some, Option.getD_some,
      Option.bind_some] at h
    exact Or.inr (PlayerManager.getPlayerBySn_some h)

end MmoServer
