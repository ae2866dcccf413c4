/-
**The players of a world, and where sockets lead.**

A world of the space process finds its players by their serial numbers, and by the sockets of the
game process that it has read from a tag of the packet that brought the player.  The game process
notes, for the socket of a client, the lobby or the proxy that its packets are for.

Main definitions:

* `MmoServer.socketTag`, `MmoServer.tagSocket` — a socket as the number of a tag, and back;
* `MmoServer.Player.awakeInWorld` — a player that enters a world;
* `MmoServer.PlayerManager` — the players of a world, with the invariants that a player stands
  under its own serial number, and that a socket leads to a player with that socket;
* `MmoServer.SocketLocator` — where the packets of a socket go.

Main results:

* `MmoServer.tagSocket_socketTag` — a socket survives the tag;
* `MmoServer.PlayerManager.getPlayerBySocket_some`, `MmoServer.PlayerManager.getPlayerBySn_some` —
  what the searches find;
* `MmoServer.PlayerManager.getPlayerBySn_addPlayer`,
  `MmoServer.PlayerManager.getPlayerBySn_removePlayerBySn` — the frame of the changes.
-/

import MmoServer.PlayerCollector

set_option relaxedAutoImplicit false
set_option autoImplicit false

namespace MmoServer

open Std

/-! ### Sockets in tags -/

/-- A socket, an `int`, as the number of a tag. -/
def socketTag (socket : ℤ) : UInt64 := UInt64.ofInt socket

/-- The number of a tag as a socket. -/
def tagSocket (value : UInt64) : ℤ := toInt32 (value.toNat % 2 ^ 32)

/-- The range of an `int`. -/
def IsInt (socket : ℤ) : Prop := -(2 ^ 31) ≤ socket ∧ socket < 2 ^ 31

/-- **A socket survives the tag.** -/
theorem tagSocket_socketTag {socket : ℤ} (h : IsInt socket) :
    tagSocket (socketTag socket) = socket := by
  obtain ⟨hlow, hhigh⟩ := h
  have hnat : (socketTag socket).toNat = (socket % 2 ^ 64).toNat := by
    rw [socketTag, UInt64.ofInt, UInt64.toNat_ofNat']
    omega
  unfold tagSocket toInt32
  rw [hnat]
  split <;> omega

/-! ### Players in a world -/

/-- `Player::Awake` for a player of a world; nothing if the packet has no socket tag to read. -/
def Player.awakeInWorld (identify : NetIdentify) (playerSn worldSn : UInt64) : Option Player :=
  match identify.tagKey.getTagValue .socket with
  | none => none
  | some value =>
    some
      { socketKey := ⟨tagSocket value.keyInt64, identify.socketKey.netType⟩
        tagKey := (TagKey.clear.addTagInt .player playerSn).addTagInt .entity worldSn
        account := []
        playerSn := playerSn
        name := []
        token := none
        lastMap := none
        accountInfo := none
        protoList := none }

/-- `PlayerManagerComponent`.  A socket leads to a player by the player's serial number. -/
structure PlayerManager where
  players : ExtTreeMap UInt64 Player compare
  sockets : ExtTreeMap ℤ UInt64 compare
  sn_eq : ∀ (sn : UInt64) (player : Player), players[sn]? = some player → player.playerSn = sn
  socket_eq : ∀ (socket : ℤ) (sn : UInt64), sockets[socket]? = some sn →
    ∃ player : Player, players[sn]? = some player ∧ player.socketKey.socket = socket

namespace PlayerManager

/-- The players of a new world. -/
def empty : PlayerManager := ⟨∅, ∅, by simp, by simp⟩

/-- `GetPlayerBySn`. -/
def getPlayerBySn (m : PlayerManager) (sn : UInt64) : Option Player := m.players[sn]?

/-- `GetPlayerBySocket`. -/
def getPlayerBySocket (m : PlayerManager) (socket : ℤ) : Option Player :=
  m.sockets[socket]?.bind m.getPlayerBySn

/-- A player that is not there yet stands under its serial number and its socket. -/
def insert (m : PlayerManager) (player : Player) (h : m.players[player.playerSn]? = none) :
    PlayerManager where
  players := m.players.insert player.playerSn player
  sockets := m.sockets.insert player.socketKey.socket player.playerSn
  sn_eq := by
    intro sn q hq
    rw [OrdMap.getElem?_insert] at hq
    by_cases hsn : player.playerSn = sn
    · rw [if_pos hsn] at hq
      rw [← Option.some.inj hq, hsn]
    · rw [if_neg hsn] at hq
      exact m.sn_eq sn q hq
  socket_eq := by
    intro socket sn hs
    rw [OrdMap.getElem?_insert] at hs
    by_cases hsocket : player.socketKey.socket = socket
    · rw [if_pos hsocket] at hs
      obtain rfl := Option.some.inj hs
      exact ⟨player, by rw [OrdMap.getElem?_insert, if_pos rfl], hsocket⟩
    · rw [if_neg hsocket] at hs
      obtain ⟨q, hq, hqsocket⟩ := m.socket_eq socket sn hs
      refine ⟨q, ?_, hqsocket⟩
      rw [OrdMap.getElem?_insert, if_neg, hq]
      rintro rfl
      rw [h] at hq
      cases hq

/-- `AddPlayer`: the manager is unchanged, and there is no player, if the serial number is there
already.  Nothing if the player cannot be set up. -/
def addPlayer (m : PlayerManager) (playerSn worldSn : UInt64) (identify : NetIdentify) :
    Option (PlayerManager × Option Player) :=
  if h : m.players[playerSn]? = none then
    match hawake : Player.awakeInWorld identify playerSn worldSn with
    | none => none
    | some player =>
      some (m.insert player (by
        unfold Player.awakeInWorld at hawake
        split at hawake
        · cases hawake
        · rw [← Option.some.inj hawake]
          exact h), some player)
  else some (m, none)

/-- `RemovePlayerBySn`. -/
def removePlayerBySn (m : PlayerManager) (playerSn : UInt64) : PlayerManager :=
  match hp : m.players[playerSn]? with
  | none => m
  | some player =>
    { players := m.players.erase playerSn
      sockets := m.sockets.erase player.socketKey.socket
      sn_eq := by
        intro sn q hq
        rw [OrdMap.getElem?_erase] at hq
        by_cases hsn : playerSn = sn
        · rw [if_pos hsn] at hq
          cases hq
        · rw [if_neg hsn] at hq
          exact m.sn_eq sn q hq
      socket_eq := by
        intro socket sn hs
        rw [OrdMap.getElem?_erase] at hs
        by_cases hsocket : player.socketKey.socket = socket
        · rw [if_pos hsocket] at hs
          cases hs
        · rw [if_neg hsocket] at hs
          obtain ⟨q, hq, hqsocket⟩ := m.socket_eq socket sn hs
          refine ⟨q, ?_, hqsocket⟩
          rw [OrdMap.getElem?_erase, if_neg, hq]
          rintro rfl
          rw [hp] at hq
          rw [← Option.some.inj hq] at hqsocket
          exact hsocket hqsocket }

/-- `RemoveAllPlayers`: all sockets are forgotten, and the players of one socket removed. -/
def removeAllPlayers (m : PlayerManager) (socket : ℤ) : PlayerManager where
  players := m.players.filter fun _ player => player.socketKey.socket ≠ socket
  sockets := ∅
  sn_eq := by
    intro sn q hq
    rw [ExtTreeMap.getElem?_filter'] at hq
    exact m.sn_eq sn q (Option.eq_some_of_filter_eq_some hq)
  socket_eq := by simp

/-! ### What the searches find -/

theorem getPlayerBySn_some {m : PlayerManager} {sn : UInt64} {player : Player}
    (h : m.getPlayerBySn sn = some player) : player.playerSn = sn :=
  m.sn_eq sn player h

/-- A socket leads to a player of the world, with that socket. -/
theorem getPlayerBySocket_some {m : PlayerManager} {socket : ℤ} {player : Player}
    (h : m.getPlayerBySocket socket = some player) :
    player.socketKey.socket = socket ∧ m.getPlayerBySn player.playerSn = some player := by
  obtain ⟨sn, hsn, hplayer⟩ := Option.bind_eq_some_iff.1 h
  obtain ⟨q, hq, hqsocket⟩ := m.socket_eq socket sn hsn
  obtain rfl : q = player := Option.some.inj (hq.symm.trans hplayer)
  refine ⟨hqsocket, ?_⟩
  rw [getPlayerBySn_some hplayer]
  exact hplayer

/-! ### The frame of the changes -/

theorem getPlayerBySn_insert (m : PlayerManager) (player : Player)
    (h : m.players[player.playerSn]? = none) (sn : UInt64) :
    (m.insert player h).getPlayerBySn sn =
      if player.playerSn = sn then some player else m.getPlayerBySn sn :=
  OrdMap.getElem?_insert _ _ _ _

/-- Adding a player changes its serial number only, and only if that was free. -/
theorem getPlayerBySn_addPlayer {m n : PlayerManager} {playerSn worldSn : UInt64}
    {identify : NetIdentify} {player : Player}
    (h : m.addPlayer playerSn worldSn identify = some (n, some player)) :
    Player.awakeInWorld identify playerSn worldSn = some player ∧ player.playerSn = playerSn ∧
      m.getPlayerBySn playerSn = none ∧
      ∀ sn, n.getPlayerBySn sn = if playerSn = sn then some player else m.getPlayerBySn sn := by
  unfold addPlayer at h
  split at h
  · rename_i hfree
    split at h
    · cases h
    · rename_i q hawake
      obtain ⟨rfl, hq⟩ := Prod.mk.inj (Option.some.inj h)
      obtain rfl := Option.some.inj hq
      have hsn : q.playerSn = playerSn := by
        unfold Player.awakeInWorld at hawake
        split at hawake
        · cases hawake
        · rw [← Option.some.inj hawake]
      refine ⟨hawake, hsn, hfree, fun sn => ?_⟩
      rw [getPlayerBySn_insert, hsn]
  · simp at h

/-- Removing a player empties its serial number only. -/
theorem getPlayerBySn_removePlayerBySn (m : PlayerManager) (playerSn sn : UInt64) :
    (m.removePlayerBySn playerSn).getPlayerBySn sn =
      if playerSn = sn then none else m.getPlayerBySn sn := by
  unfold removePlayerBySn
  split
  · rename_i hnone
    by_cases hsn : playerSn = sn
    · rw [if_pos hsn, ← hsn]
      exact hnone
    · rw [if_neg hsn]
  · exact OrdMap.getElem?_erase _ _ _

end PlayerManager

/-! ### Where sockets lead -/

/-- `SocketLocator`: for a socket, the lobby or the proxy that its packets are for. -/
structure SocketLocator where
  componentes : ℤ → Option UInt64

namespace SocketLocator

/-- The locator of a new process. -/
def empty : SocketLocator := ⟨fun _ => none⟩

/-- `RegisterToLocator`. -/
def registerToLocator (l : SocketLocator) (socket : ℤ) (sn : UInt64) : SocketLocator :=
  ⟨Function.update l.componentes socket (some sn)⟩

/-- `Remove`. -/
def remove (l : SocketLocator) (socket : ℤ) : SocketLocator :=
  ⟨Function.update l.componentes socket none⟩

/-- `GetTargetEntitySn`: zero for an unknown socket. -/
def getTargetEntitySn (l : SocketLocator) (socket : ℤ) : UInt64 :=
  match l.componentes socket with
  | none => 0
  | some sn => sn

/-- `HandleNetworkDisconnect`. -/
def handleNetworkDisconnect (l : SocketLocator) (identify : NetIdentify) : SocketLocator :=
  l.remove identify.socketKey.socket

end SocketLocator

end MmoServer
