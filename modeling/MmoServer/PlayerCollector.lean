/-
**Players, and the table that holds them.**

The lobby, every proxy of a world and every world have a collector of players.  It maps a socket
to its player, and an account to the socket that used it last.  A player is looked up by either, or
by a search for its serial number, which is zero until the player's data has been read from the
database.

Main definitions:

* `MmoServer.Player` — a player, with those of its components that decide where it goes;
* `MmoServer.PlayerCollector` — the table, with the invariant that a player stands under its own
  socket;
* `MmoServer.PlayerCollector.addPlayer`, `MmoServer.PlayerCollector.removePlayer` — the changes;
* `MmoServer.PlayerCollector.getPlayerBySocket`, `MmoServer.PlayerCollector.getPlayerByAccount`,
  `MmoServer.PlayerCollector.getPlayerBySn` — the searches;
* `MmoServer.PlayerCollector.Consistent` — an account leads to a player with that account.

Main results:

* `MmoServer.PlayerCollector.getPlayerBySn_some`, `MmoServer.PlayerCollector.getPlayerBySn_eq_none`
  — what a search for a serial number finds;
* `MmoServer.PlayerCollector.getPlayerBySocket_addPlayer`,
  `MmoServer.PlayerCollector.getPlayerBySocket_removePlayer` — the frame of the changes;
* `MmoServer.PlayerCollector.Consistent.addPlayer`,
  `MmoServer.PlayerCollector.Consistent.removePlayer` — an account leads to its own player.
-/

import MmoServer.OrdMap
import MmoServer.Packet

set_option relaxedAutoImplicit false
set_option autoImplicit false

namespace MmoServer

open Std

/-! ### Players -/

/-- A world that a player was in. -/
structure LastWorld where
  worldId : ℤ
  worldSn : UInt64
  deriving DecidableEq

/-- `PlayerComponentLastMap`: the last public world, and the last dungeon if there was one. -/
structure LastMap where
  lastPublicMap : LastWorld
  lastDungeon : Option LastWorld
  deriving DecidableEq

/-- `PlayerComponentAccount`: the password, and the character that was selected. -/
structure PlayerComponentAccount where
  password : List UInt8
  selectPlayerSn : UInt64
  deriving DecidableEq

/-- A player, with its components. -/
structure Player extends NetIdentify where
  account : List UInt8
  playerSn : UInt64
  name : List UInt8
  /-- `PlayerComponentToken`, in the game process. -/
  token : Option (List UInt8)
  /-- `PlayerComponentLastMap`, in the game process. -/
  lastMap : Option LastMap
  /-- `PlayerComponentAccount`, in the login process. -/
  accountInfo : Option PlayerComponentAccount
  /-- `PlayerComponentProtoList`, in the login process: the characters of the account. -/
  protoList : Option (List UInt64)

/-- `Player::Awake` for a player of a connection. -/
def Player.awake (identify : NetIdentify) (account : List UInt8) : Player where
  socketKey := identify.socketKey
  tagKey := TagKey.clear.addTagStr .account account
  account := account
  playerSn := 0
  name := []
  token := none
  lastMap := none
  accountInfo := none
  protoList := none

/-- A login that a process has accepted: its socket, and how many the socket has had so far. -/
structure Login where
  socket : ℤ
  number : ℕ
  deriving DecidableEq

/-! ### The collector -/

/-- `PlayerCollectorComponent`. -/
structure PlayerCollector where
  players : ExtTreeMap ℤ Player compare
  accounts : List UInt8 → Option ℤ
  socket_eq : ∀ (socket : ℤ) (player : Player), players[socket]? = some player →
    player.socketKey.socket = socket

namespace PlayerCollector

/-- The collector of a new component. -/
def empty : PlayerCollector := ⟨∅, fun _ => none, by simp⟩

/-- `GetPlayerBySocket`. -/
def getPlayerBySocket (c : PlayerCollector) (socket : ℤ) : Option Player := c.players[socket]?

/-- `GetPlayerBySn`: the first player with the serial number, in the order of the sockets. -/
def getPlayerBySn (c : PlayerCollector) (playerSn : UInt64) : Option Player :=
  (OrdMap.findIf c.players fun _ p => p.playerSn = playerSn).map Prod.snd

/-- Put a player under its socket. -/
def insert (c : PlayerCollector) (player : Player) : PlayerCollector where
  players := c.players.insert player.socketKey.socket player
  accounts := c.accounts
  socket_eq := by
    intro socket q hq
    rw [OrdMap.getElem?_insert] at hq
    by_cases h : player.socketKey.socket = socket
    · rw [if_pos h] at hq
      rw [← Option.some.inj hq, h]
    · rw [if_neg h] at hq
      exact c.socket_eq socket q hq

/-- `AddPlayer`: nothing if the socket has a player already. -/
def addPlayer (c : PlayerCollector) (identify : NetIdentify) (account : List UInt8) :
    Option (PlayerCollector × Player) :=
  match c.players[identify.socketKey.socket]? with
  | some _ => none
  | none =>
    let player := Player.awake identify account
    some ({ c.insert player with
      accounts := fun a => if a = account then some identify.socketKey.socket else c.accounts a },
      player)

/-- `RemovePlayer`: also the entry of the account, whichever socket it names. -/
def removePlayer (c : PlayerCollector) (player : Player) : PlayerCollector where
  players := c.players.erase player.socketKey.socket
  accounts := fun a => if a = player.account then none else c.accounts a
  socket_eq := by
    intro socket q hq
    rw [OrdMap.getElem?_erase] at hq
    by_cases h : player.socketKey.socket = socket
    · rw [if_pos h] at hq
      cases hq
    · rw [if_neg h] at hq
      exact c.socket_eq socket q hq

/-- `RemovePlayerBySocket`. -/
def removePlayerBySocket (c : PlayerCollector) (socket : ℤ) : PlayerCollector :=
  match c.players[socket]? with
  | none => c
  | some player => c.removePlayer player

/-- `RemovePlayerBySn`. -/
def removePlayerBySn (c : PlayerCollector) (playerSn : UInt64) : PlayerCollector :=
  match c.getPlayerBySn playerSn with
  | none => c
  | some player => c.removePlayer player

/-- `GetPlayerByAccount`: the player of the socket that used the account last.  An account whose
socket has no player is forgotten. -/
def getPlayerByAccount (c : PlayerCollector) (account : List UInt8) :
    Option Player × PlayerCollector :=
  match c.accounts account with
  | none => (none, c)
  | some socket =>
    match c.players[socket]? with
    | none => (none, { c with accounts := fun a => if a = account then none else c.accounts a })
    | some player => (some player, c)

/-! ### What the searches find -/

theorem getPlayerBySocket_socket {c : PlayerCollector} {socket : ℤ} {player : Player}
    (h : c.getPlayerBySocket socket = some player) : player.socketKey.socket = socket :=
  c.socket_eq socket player h

/-- What a search for a serial number finds is a player of the table, with that number. -/
theorem getPlayerBySn_some {c : PlayerCollector} {playerSn : UInt64} {player : Player}
    (h : c.getPlayerBySn playerSn = some player) :
    c.getPlayerBySocket player.socketKey.socket = some player ∧ player.playerSn = playerSn := by
  unfold getPlayerBySn at h
  cases hf : OrdMap.findIf c.players fun _ p => decide (p.playerSn = playerSn) with
  | none => rw [hf] at h; cases h
  | some e =>
    obtain ⟨socket, q⟩ := e
    rw [hf] at h
    obtain rfl : q = player := Option.some.inj h
    obtain ⟨hmem, hsn⟩ := OrdMap.findIf_some hf
    refine ⟨?_, of_decide_eq_true hsn⟩
    rw [c.socket_eq socket q hmem]
    exact hmem

/-- Nothing is found exactly if no player has the number. -/
theorem getPlayerBySn_eq_none {c : PlayerCollector} {playerSn : UInt64} :
    c.getPlayerBySn playerSn = none ↔
      ∀ socket player, c.getPlayerBySocket socket = some player → player.playerSn ≠ playerSn := by
  unfold getPlayerBySn
  rw [Option.map_eq_none_iff, OrdMap.findIf_eq_none]
  constructor
  · intro h socket player hp
    exact of_decide_eq_false (h socket player hp)
  · intro h socket player hp
    exact decide_eq_false (h socket player hp)

/-- A search for a serial number finds someone exactly if a player has the number. -/
theorem getPlayerBySn_isSome_iff {c : PlayerCollector} {playerSn : UInt64} :
    (c.getPlayerBySn playerSn).isSome = true ↔
      ∃ socket player, c.getPlayerBySocket socket = some player ∧ player.playerSn = playerSn := by
  rw [← not_iff_not, Bool.not_eq_true, Option.isSome_eq_false_iff, Option.isNone_iff_eq_none,
    getPlayerBySn_eq_none]
  push Not
  exact Iff.rfl

/-- What a search for an account finds is the player of the socket that used it last. -/
theorem getPlayerByAccount_some {c d : PlayerCollector} {account : List UInt8} {player : Player}
    (h : c.getPlayerByAccount account = (some player, d)) :
    d = c ∧ c.accounts account = some player.socketKey.socket ∧
      c.getPlayerBySocket player.socketKey.socket = some player := by
  unfold getPlayerByAccount at h
  cases ha : c.accounts account with
  | none => rw [ha] at h; simp at h
  | some socket =>
    rw [ha] at h
    simp only at h
    cases hp : c.players[socket]? with
    | none => rw [hp] at h; simp at h
    | some q =>
      rw [hp] at h
      obtain ⟨rfl, rfl⟩ : q = player ∧ c = d := by simpa using h
      have hsocket := c.socket_eq socket q hp
      exact ⟨rfl, by rw [hsocket], by rw [hsocket]; exact hp⟩

/-! ### The frame of the changes -/

theorem getPlayerBySocket_insert (c : PlayerCollector) (player : Player) (socket : ℤ) :
    (c.insert player).getPlayerBySocket socket =
      if player.socketKey.socket = socket then some player else c.getPlayerBySocket socket :=
  OrdMap.getElem?_insert _ _ _ _

/-- Adding a player changes its socket only, and only if that was free. -/
theorem getPlayerBySocket_addPlayer {c d : PlayerCollector} {identify : NetIdentify}
    {account : List UInt8} {player : Player} (h : c.addPlayer identify account = some (d, player)) :
    player = Player.awake identify account ∧
      c.getPlayerBySocket identify.socketKey.socket = none ∧
      ∀ socket, d.getPlayerBySocket socket =
        if identify.socketKey.socket = socket then some player else c.getPlayerBySocket socket := by
  unfold addPlayer at h
  cases hfree : c.players[identify.socketKey.socket]? with
  | some q => rw [hfree] at h; cases h
  | none =>
    rw [hfree] at h
    obtain ⟨rfl, rfl⟩ := Prod.mk.inj (Option.some.inj h)
    exact ⟨rfl, hfree, fun socket => getPlayerBySocket_insert c _ socket⟩

/-- Removing a player empties its socket only. -/
theorem getPlayerBySocket_removePlayer (c : PlayerCollector) (player : Player) (socket : ℤ) :
    (c.removePlayer player).getPlayerBySocket socket =
      if player.socketKey.socket = socket then none else c.getPlayerBySocket socket :=
  OrdMap.getElem?_erase _ _ _

theorem getPlayerBySocket_removePlayerBySocket (c : PlayerCollector) (s socket : ℤ) :
    (c.removePlayerBySocket s).getPlayerBySocket socket =
      if s = socket then none else c.getPlayerBySocket socket := by
  unfold removePlayerBySocket
  cases hp : c.players[s]? with
  | none =>
    by_cases hs : s = socket
    · rw [if_pos hs, ← hs]
      exact hp
    · rw [if_neg hs]
  | some player =>
    have hsocket := c.socket_eq s player hp
    rw [← hsocket]
    exact getPlayerBySocket_removePlayer c player socket

/-! ### Accounts that lead to their players -/

/-- An account leads to a player, which has that account. -/
def Consistent (c : PlayerCollector) : Prop :=
  ∀ (account : List UInt8) (socket : ℤ), c.accounts account = some socket →
    ∃ player : Player, c.getPlayerBySocket socket = some player ∧ player.account = account

theorem consistent_empty : empty.Consistent := by
  intro account socket h
  cases h

/-- What a search for an account finds has that account. -/
theorem Consistent.account_eq {c d : PlayerCollector} (hc : c.Consistent) {account : List UInt8}
    {player : Player} (h : c.getPlayerByAccount account = (some player, d)) :
    player.account = account := by
  obtain ⟨-, haccount, hplayer⟩ := getPlayerByAccount_some h
  obtain ⟨q, hq, hqaccount⟩ := hc account _ haccount
  obtain rfl : q = player := Option.some.inj (hq.symm.trans hplayer)
  exact hqaccount

/-- A player that is changed, but not in its socket and its account. -/
theorem Consistent.insert {c : PlayerCollector} (hc : c.Consistent) {old player : Player}
    (hold : c.getPlayerBySocket player.socketKey.socket = some old)
    (haccount : player.account = old.account) : (c.insert player).Consistent := by
  intro account socket h
  obtain ⟨q, hq, hqaccount⟩ := hc account socket h
  rw [getPlayerBySocket_insert]
  by_cases hsocket : player.socketKey.socket = socket
  · rw [if_pos hsocket]
    rw [hsocket, hq] at hold
    obtain rfl := Option.some.inj hold
    exact ⟨player, rfl, haccount.trans hqaccount⟩
  · rw [if_neg hsocket]
    exact ⟨q, hq, hqaccount⟩

theorem Consistent.addPlayer {c d : PlayerCollector} (hc : c.Consistent) {identify : NetIdentify}
    {account : List UInt8} {player : Player} (h : c.addPlayer identify account = some (d, player)) :
    d.Consistent := by
  obtain ⟨hplayer, hfree, hframe⟩ := getPlayerBySocket_addPlayer h
  have haccounts : d.accounts = fun a =>
      if a = account then some identify.socketKey.socket else c.accounts a := by
    unfold PlayerCollector.addPlayer at h
    split at h
    · cases h
    · rw [← (Prod.mk.inj (Option.some.inj h)).1]
  intro a socket ha
  rw [haccounts] at ha
  rw [hframe]
  by_cases hown : a = account
  · simp only [if_pos hown] at ha
    rw [if_pos (Option.some.inj ha)]
    exact ⟨player, rfl, by rw [hplayer, hown]; rfl⟩
  · simp only [if_neg hown] at ha
    obtain ⟨q, hq, hqaccount⟩ := hc a socket ha
    rw [if_neg]
    · exact ⟨q, hq, hqaccount⟩
    · intro hsocket
      rw [← hsocket, hfree] at hq
      cases hq

/-- A player that is removed takes all its accounts with it. -/
theorem Consistent.removePlayer {c : PlayerCollector} (hc : c.Consistent) {player : Player}
    (hplayer : c.getPlayerBySocket player.socketKey.socket = some player) :
    (c.removePlayer player).Consistent := by
  intro account socket h
  have hkept : account ≠ player.account ∧ c.accounts account = some socket := by
    unfold PlayerCollector.removePlayer at h
    by_cases haccount : account = player.account
    · simp [haccount] at h
    · simp only [if_neg haccount] at h
      exact ⟨haccount, h⟩
  obtain ⟨q, hq, hqaccount⟩ := hc account socket hkept.2
  rw [getPlayerBySocket_removePlayer, if_neg]
  · exact ⟨q, hq, hqaccount⟩
  · intro hsocket
    rw [← hsocket, hplayer] at hq
    obtain rfl := Option.some.inj hq
    exact hkept.1 hqaccount.symm

theorem Consistent.removePlayerBySocket {c : PlayerCollector} (hc : c.Consistent) (socket : ℤ) :
    (c.removePlayerBySocket socket).Consistent := by
  unfold PlayerCollector.removePlayerBySocket
  cases hp : c.players[socket]? with
  | none => exact hc
  | some player =>
    refine hc.removePlayer ?_
    rw [c.socket_eq socket player hp]
    exact hp

/-- A search that finds nothing forgets at most an account. -/
theorem Consistent.getPlayerByAccount_none {c d : PlayerCollector} (hc : c.Consistent)
    {account : List UInt8} (h : c.getPlayerByAccount account = (none, d)) :
    d.Consistent ∧ ∀ socket, d.getPlayerBySocket socket = c.getPlayerBySocket socket := by
  unfold PlayerCollector.getPlayerByAccount at h
  cases ha : c.accounts account with
  | none =>
    rw [ha] at h
    obtain rfl : c = d := (Prod.mk.inj h).2
    exact ⟨hc, fun socket => rfl⟩
  | some socket =>
    obtain ⟨q, hq, -⟩ := hc account socket ha
    have hq' : c.players[socket]? = some q := hq
    rw [ha] at h
    simp only [hq'] at h
    cases (Prod.mk.inj h).1

end PlayerCollector

end MmoServer
