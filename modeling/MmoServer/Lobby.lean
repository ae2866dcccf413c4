/-
**The lobby.**

A client that connects to the game process presents an account and a token, and gets a player in
the lobby.  The lobby asks Redis for the token of the account, answers the client, asks the
database for the player's data, passes them on to the client, and sends the player to the world in
which it was last, as soon as there is a proxy of that world.  All replies are matched to a player
by its account, and players that wait for a world by their serial numbers.

Main definitions:

* `MmoServer.isTokenValid` — the comparison of tokens;
* `MmoServer.QueryPlayerRs`, `MmoServer.LastMap.parserFromProto` — what comes from the database;
* `MmoServer.Lobby`, with its players, and those who wait, and its handlers;
* `MmoServer.LobbyPacket`, `MmoServer.Lobby.processPacket` — the packets for the lobby;
* `MmoServer.Lobby.Sound` — every player has a given property, an account leads to its player, and
  no one without a serial number waits.

Main results:

* `MmoServer.isTokenValid_iff` — a presented token is accepted if the stored one begins with it;
* `MmoServer.Lobby.handleLoginByToken_meets`, `MmoServer.Lobby.handleGameTokenToRedisRs_meets`,
  `MmoServer.Lobby.handleQueryPlayerRs_meets`, `MmoServer.Lobby.handleQueryWorldRs_meets`,
  `MmoServer.Lobby.handleBroadcastCreateWorldProxy_meets`,
  `MmoServer.Lobby.handleTeleportAfter_meets`, `MmoServer.Lobby.handleNetworkDisconnect_meets` —
  **what each handler does to a sound lobby**, and whom it sends something.
-/

import MmoServer.Outcome
import MmoServer.Teleport

set_option relaxedAutoImplicit false
set_option autoImplicit false

namespace MmoServer

open Std Handler

/-! ### Tokens -/

/-- `strncmp(a, b, n) == 0`, for the zero-terminated bytes of two strings. -/
def strncmpEq : ℕ → List UInt8 → List UInt8 → Bool
  | 0, _, _ => true
  | n + 1, a, b =>
    if a.headD 0 ≠ b.headD 0 then false
    else if a.headD 0 = 0 then true
    else strncmpEq n a.tail b.tail

/-- `PlayerComponentToken::IsTokenValid`: the comparison stops behind the presented token. -/
def isTokenValid (presented stored : List UInt8) : Bool :=
  strncmpEq presented.length presented stored

/-- **A presented token is accepted** if the stored one begins with it, or, if it contains a zero,
if both are the same up to there. -/
theorem isTokenValid_iff (presented stored : List UInt8) :
    isTokenValid presented stored = true ↔
      if 0 ∈ presented then cStr presented = cStr stored else presented <+: stored := by
  unfold isTokenValid
  induction presented generalizing stored with
  | nil => simp [strncmpEq]
  | cons x presented ih =>
    rw [List.length_cons, strncmpEq, List.headD_cons, List.tail_cons]
    cases stored with
    | nil =>
      by_cases hx : x = 0
      · simp [hx, cStr]
      · have hx' : ¬ 0 = x := fun h => hx h.symm
        by_cases hmem : 0 ∈ presented
        · simp [hx, hx', hmem, cStr]
        · simp [hx, hx', hmem]
    | cons y stored =>
      rw [List.headD_cons, List.tail_cons]
      by_cases hxy : x = y
      · subst hxy
        by_cases hx : x = 0
        · simp [hx, cStr]
        · have hx' : ¬ 0 = x := fun h => hx h.symm
          simp only [ne_eq, not_true_eq_false, if_false, hx, ih stored, List.mem_cons, hx', false_or]
          by_cases hmem : 0 ∈ presented
          · simp [hmem, cStr, hx]
          · simp [hmem]
      · simp only [ne_eq, hxy, not_false_eq_true, if_true, Bool.false_eq_true, false_iff]
        by_cases hmem : 0 ∈ x :: presented
        · rw [if_pos hmem]
          intro h
          unfold cStr at h
          by_cases hx : x = 0
          · by_cases hy : y = 0
            · exact hxy (hx.trans hy.symm)
            · simp [hx, hy] at h
          · by_cases hy : y = 0
            · simp [hx, hy] at h
            · simp [hx, hy] at h
              exact hxy h.1
        · rw [if_neg hmem]
          intro h
          exact hxy (List.cons_prefix_cons.1 h).1

/-! ### What comes from Redis, and from the database -/

/-- The value of the key of an account in Redis. -/
structure TokenInfo where
  token : List UInt8
  playerSn : UInt64
  deriving DecidableEq

/-- The data of a player in the database, as far as the lobby looks at them. -/
structure PlayerRecord where
  sn : UInt64
  name : List UInt8
  lastWorld : LastWorld
  lastDungeon : LastWorld
  deriving DecidableEq

/-- `QueryPlayerRs`. -/
structure QueryPlayerRs where
  account : List UInt8
  player : PlayerRecord
  deriving DecidableEq

/-- `ResourceWorldMgr`: the type of a world, and the world of new players. -/
structure ResourceWorldMgr where
  getResource : ℤ → Option ResourceWorldType
  initMap : ℤ

/-- `PlayerComponentLastMap::ParserFromProto`: unknown worlds are left out. -/
def LastMap.parserFromProto (worlds : ResourceWorldMgr) (player : PlayerRecord) : LastMap where
  lastPublicMap :=
    if (worlds.getResource player.lastWorld.worldId).isSome then player.lastWorld
    else ⟨worlds.initMap, 0⟩
  lastDungeon :=
    if (worlds.getResource player.lastDungeon.worldId).isSome then some player.lastDungeon
    else none

/-- `Player::ParserFromProto`, and the component with the last worlds. -/
def Player.load (player : Player) (worlds : ResourceWorldMgr) (record : PlayerRecord) : Player :=
  { player with
    playerSn := record.sn
    name := record.name
    lastMap := some (LastMap.parserFromProto worlds record) }

@[simp]
theorem Player.load_socketKey (player : Player) (worlds : ResourceWorldMgr)
    (record : PlayerRecord) : (player.load worlds record).socketKey = player.socketKey := rfl

@[simp]
theorem Player.load_account (player : Player) (worlds : ResourceWorldMgr) (record : PlayerRecord) :
    (player.load worlds record).account = player.account := rfl

@[simp]
theorem Player.load_token (player : Player) (worlds : ResourceWorldMgr) (record : PlayerRecord) :
    (player.load worlds record).token = player.token := rfl

@[simp]
theorem Player.load_playerSn (player : Player) (worlds : ResourceWorldMgr)
    (record : PlayerRecord) : (player.load worlds record).playerSn = record.sn := rfl

/-! ### Where the proxies of worlds are -/

/-- `(uint64)INVALID_ID`. -/
def invalidId : UInt64 := UInt64.ofInt (-1)

/-- `WorldProxyLocator`: the public worlds by their ids, and all worlds by their serial numbers. -/
structure WorldProxyLocator where
  publics : ℤ → Option UInt64
  worlds : UInt64 → Bool

namespace WorldProxyLocator

/-- `GetWorldSnById`. -/
def getWorldSnById (locator : WorldProxyLocator) (worldId : ℤ) : UInt64 :=
  match locator.publics worldId with
  | none => invalidId
  | some worldSn => worldSn

/-- `IsExistDungeon`. -/
def isExistDungeon (locator : WorldProxyLocator) (worldSn : UInt64) : Bool :=
  locator.worlds worldSn

end WorldProxyLocator

/-! ### The lobby and its handlers -/

/-- What the lobby sends. -/
inductive LobbyMsg
  /-- `MI_NetworkRequestDisconnect`, for the socket of a packet. -/
  | networkRequestDisconnect (identify : NetIdentify)
  /-- `MI_GameTokenToRedis`. -/
  | gameTokenToRedis (account : List UInt8)
  /-- `RegisterToLocator`, a call that the locator of sockets gets. -/
  | registerToLocator (socket : ℤ) (sn : UInt64)
  /-- `C2G_LoginByTokenRs` to the client of a player: `LGRC_OK`, or `LGRC_TOKEN_WRONG`. -/
  | loginByTokenRs (player : Player) (ok : Bool)
  /-- `G2DB_QueryPlayer`. -/
  | queryPlayer (playerSn : UInt64)
  /-- `G2C_SyncPlayer` to the client of a player. -/
  | syncPlayer (player : Player) (record : PlayerRecord)
  /-- `G2M_QueryWorld`. -/
  | queryWorld (worldSn lastWorldSn : UInt64)
  /-- `G2M_RequestWorld`. -/
  | requestWorld (worldId : ℤ)
  /-- `MI_Teleport` of a player, which `WorldProxyHelp::Teleport` sends. -/
  | teleport (player : Player) (lastWorldSn targetWorldSn : UInt64)

/-- The lobby.  Players wait for a public world by its id, and for a dungeon by its serial
number. -/
structure Lobby where
  sn : UInt64
  players : PlayerCollector
  waitingForWorld : ℤ → Option (ExtTreeSet UInt64 compare)
  waitingForDungeon : UInt64 → Option (ExtTreeSet UInt64 compare)

namespace Lobby

/-- A new lobby. -/
def awake (sn : UInt64) : Lobby := ⟨sn, PlayerCollector.empty, fun _ => none, fun _ => none⟩

/-- `HandleLoginByToken`. -/
def handleLoginByToken (l : Lobby) (identify : NetIdentify) (account token : List UInt8) :
    Outcome Lobby LobbyMsg :=
  match l.players.addPlayer identify account with
  | none => .send [.networkRequestDisconnect identify] l
  | some (players, player) =>
    .send
      [.gameTokenToRedis (cStr player.account),
        .registerToLocator player.socketKey.socket l.sn]
      { l with players := players.insert { player with token := some token } }

/-- `HandleGameTokenToRedisRs`.  A player without a token component is a null pointer. -/
def handleGameTokenToRedisRs (l : Lobby) (account : List UInt8) (tokenInfo : TokenInfo) :
    Outcome Lobby LobbyMsg :=
  match l.players.getPlayerByAccount account with
  | (none, players) => .pure { l with players := players }
  | (some player, _) =>
    match player.token with
    | none => .crash []
    | some token =>
      if isTokenValid token tokenInfo.token then
        .send [.loginByTokenRs player true, .queryPlayer tokenInfo.playerSn] l
      else .send [.loginByTokenRs player false] l

/-- The query for a dungeon, unless others wait for it, and the player waits for it. -/
def waitDungeon (l : Lobby) (worldSn playerSn : UInt64) : Outcome Lobby LobbyMsg :=
  let waiting := (l.waitingForDungeon worldSn).getD ∅
  .send (if waiting.isEmpty then [.queryWorld worldSn l.sn] else [])
    { l with
      waitingForDungeon :=
        Function.update l.waitingForDungeon worldSn (some (waiting.insert playerSn)) }

/-- The request of a public world, unless others wait for it, and the player waits for it. -/
def waitWorld (l : Lobby) (worldId : ℤ) (playerSn : UInt64) : Outcome Lobby LobbyMsg :=
  let waiting := (l.waitingForWorld worldId).getD ∅
  .send (if waiting.isEmpty then [.requestWorld worldId] else [])
    { l with
      waitingForWorld :=
        Function.update l.waitingForWorld worldId (some (waiting.insert playerSn)) }

/-- `EnterPublicWorld`.  A player without its last worlds is a null pointer. -/
def enterPublicWorld (locator : WorldProxyLocator) (player : Player) (l : Lobby) :
    Outcome Lobby LobbyMsg :=
  match player.lastMap with
  | none => .crash []
  | some lastMap =>
    let lastMapSn := locator.getWorldSnById lastMap.lastPublicMap.worldId
    if lastMapSn ≠ invalidId then .send [.teleport player l.sn lastMapSn] l
    else l.waitWorld lastMap.lastPublicMap.worldId player.playerSn

/-- The end of `HandleQueryPlayerRs`: a player with its last worlds goes there. -/
def enterLastWorld (locator : WorldProxyLocator) (player : Player) (l : Lobby) :
    Outcome Lobby LobbyMsg :=
  match player.lastMap.bind LastMap.lastDungeon with
  | none => enterPublicWorld locator player l
  | some lastDungeon =>
    if locator.isExistDungeon lastDungeon.worldSn then
      .send [.teleport player l.sn lastDungeon.worldSn] l
    else l.waitDungeon lastDungeon.worldSn player.playerSn

/-- `HandleQueryPlayerRs`.  A second component with the last worlds is not made, and the pointer to
it is null. -/
def handleQueryPlayerRs (worlds : ResourceWorldMgr) (locator : WorldProxyLocator) (l : Lobby)
    (rs : QueryPlayerRs) : Outcome Lobby LobbyMsg :=
  match l.players.getPlayerByAccount rs.account with
  | (none, players) => .pure { l with players := players }
  | (some player, _) =>
    match player.lastMap with
    | some _ => .crash [.syncPlayer player rs.player]
    | none =>
      (Outcome.send [.syncPlayer player rs.player]
        { l with players := l.players.insert (player.load worlds rs.player) }).andThen
        (enterLastWorld locator (player.load worlds rs.player))

/-- A waiting player whose dungeon is gone goes to a public world. -/
def enterWaiting (locator : WorldProxyLocator) (playerSn : UInt64) (l : Lobby) :
    Outcome Lobby LobbyMsg :=
  match l.players.getPlayerBySn playerSn with
  | none => .pure l
  | some player => enterPublicWorld locator player l

/-- A waiting player whose world is there is teleported. -/
def teleportWaiting (worldSn playerSn : UInt64) (l : Lobby) : Outcome Lobby LobbyMsg :=
  match l.players.getPlayerBySn playerSn with
  | none => .pure l
  | some player => .send [.teleport player l.sn worldSn] l

/-- No one waits for a dungeon any more. -/
def eraseDungeon (worldSn : UInt64) (l : Lobby) : Outcome Lobby LobbyMsg :=
  .pure { l with waitingForDungeon := Function.update l.waitingForDungeon worldSn none }

/-- No one waits for a public world any more. -/
def eraseWorld (worldId : ℤ) (l : Lobby) : Outcome Lobby LobbyMsg :=
  .pure { l with waitingForWorld := Function.update l.waitingForWorld worldId none }

/-- `HandleQueryWorldRs`. -/
def handleQueryWorldRs (locator : WorldProxyLocator) (l : Lobby) (worldSn : UInt64) (ok : Bool) :
    Outcome Lobby LobbyMsg :=
  match l.waitingForDungeon worldSn with
  | none => .pure l
  | some players =>
    if ok then .pure l
    else (forEach (enterWaiting locator) players.toList l).andThen (eraseDungeon worldSn)

/-- `HandleBroadcastCreateWorldProxy`. -/
def handleBroadcastCreateWorldProxy (worlds : ResourceWorldMgr) (l : Lobby) (worldId : ℤ)
    (worldSn : UInt64) : Outcome Lobby LobbyMsg :=
  match worlds.getResource worldId with
  | none => .pure l
  | some .publicWorld =>
    match l.waitingForWorld worldId with
    | none => .pure l
    | some players =>
      (forEach (teleportWaiting worldSn) players.toList l).andThen (eraseWorld worldId)
  | some _ =>
    match l.waitingForDungeon worldSn with
    | none => .pure l
    | some players =>
      (forEach (teleportWaiting worldSn) players.toList l).andThen (eraseDungeon worldSn)

/-- `Lobby::GetPlayer`. -/
def getPlayer (l : Lobby) (identify : NetIdentify) : Option Player :=
  (identify.tagKey.getTagValue .player).bind fun value => l.players.getPlayerBySn value.keyInt64

/-- `HandleTeleportAfter`, behind the search for the player. -/
def handleTeleportAfter (l : Lobby) (identify : NetIdentify) : Outcome Lobby LobbyMsg :=
  match l.getPlayer identify with
  | none => .pure l
  | some player =>
    .pure { l with players := l.players.removePlayerBySocket player.socketKey.socket }

/-- `HandleNetworkDisconnect`. -/
def handleNetworkDisconnect (l : Lobby) (identify : NetIdentify) : Outcome Lobby LobbyMsg :=
  match identify.tagKey.getTagValue .account with
  | none => .pure l
  | some _ =>
    .pure { l with players := l.players.removePlayerBySocket identify.socketKey.socket }

end Lobby

/-! ### Packets for the lobby -/

/-- The packets that the lobby has registered for. -/
inductive LobbyPacket
  | networkDisconnect
  | loginByToken (account token : List UInt8)
  | gameTokenToRedisRs (account : List UInt8) (tokenInfo : TokenInfo)
  | queryPlayerRs (rs : QueryPlayerRs)
  | queryWorldRs (worldSn : UInt64) (ok : Bool)
  | broadcastCreateWorldProxy (worldId : ℤ) (worldSn : UInt64)
  | teleportAfter

/-- `ProcessPacket`: the handler of a packet. -/
def Lobby.processPacket (worlds : ResourceWorldMgr) (locator : WorldProxyLocator)
    (identify : NetIdentify) (packet : LobbyPacket) (l : Lobby) : Outcome Lobby LobbyMsg :=
  match packet with
  | .networkDisconnect => l.handleNetworkDisconnect identify
  | .loginByToken account token => l.handleLoginByToken identify account token
  | .gameTokenToRedisRs account tokenInfo => l.handleGameTokenToRedisRs account tokenInfo
  | .queryPlayerRs rs => l.handleQueryPlayerRs worlds locator rs
  | .queryWorldRs worldSn ok => l.handleQueryWorldRs locator worldSn ok
  | .broadcastCreateWorldProxy worldId worldSn =>
    l.handleBroadcastCreateWorldProxy worlds worldId worldSn
  | .teleportAfter => l.handleTeleportAfter identify

/-! ### Sound lobbies -/

/-- No one without a serial number waits. -/
def NoZeroWaits {κ : Type} (waiting : κ → Option (ExtTreeSet UInt64 compare)) : Prop :=
  ∀ (k : κ) (players : ExtTreeSet UInt64 compare), waiting k = some players → 0 ∉ players

namespace NoZeroWaits

variable {κ : Type} {waiting : κ → Option (ExtTreeSet UInt64 compare)}

theorem insert [DecidableEq κ] (h : NoZeroWaits waiting) (k : κ) {playerSn : UInt64}
    (hsn : playerSn ≠ 0) :
    NoZeroWaits (Function.update waiting k (some (((waiting k).getD ∅).insert playerSn))) := by
  intro j players hj
  by_cases hk : j = k
  · subst hk
    rw [Function.update_self] at hj
    obtain rfl := Option.some.inj hj
    rw [ExtTreeSet.mem_insert, not_or, LawfulEqCmp.compare_eq_iff_eq]
    refine ⟨hsn, ?_⟩
    cases hold : waiting j with
    | none => exact ExtTreeSet.not_mem_empty
    | some players => exact h j players hold
  · rw [Function.update_of_ne hk] at hj
    exact h j players hj

theorem erase [DecidableEq κ] (h : NoZeroWaits waiting) (k : κ) :
    NoZeroWaits (Function.update waiting k none) := by
  intro j players hj
  by_cases hk : j = k
  · rw [hk, Function.update_self] at hj
    cases hj
  · rw [Function.update_of_ne hk] at hj
    exact h j players hj

theorem ne_zero (h : NoZeroWaits waiting) {k : κ} {players : ExtTreeSet UInt64 compare}
    (hk : waiting k = some players) {playerSn : UInt64} (hmem : playerSn ∈ players.toList) :
    playerSn ≠ 0 := by
  rintro rfl
  exact h k players hk (ExtTreeSet.mem_toList.1 hmem)

end NoZeroWaits

/-- Every player has a property, an account leads to its player, and no one without a serial number
waits. -/
structure Lobby.Sound (R : Player → Prop) (l : Lobby) : Prop where
  players : ∀ (socket : ℤ) (player : Player),
    l.players.getPlayerBySocket socket = some player → R player
  consistent : l.players.Consistent
  waitingForWorld : NoZeroWaits l.waitingForWorld
  waitingForDungeon : NoZeroWaits l.waitingForDungeon

/-- The player that a message treats as one that has logged in. -/
def LobbyMsg.served : LobbyMsg → Option Player
  | .loginByTokenRs player true => some player
  | .syncPlayer player _ => some player
  | .teleport player _ _ => some player
  | _ => none

namespace Lobby

variable {R R' : Player → Prop} {l : Lobby}

theorem sound_awake (sn : UInt64) : (awake sn).Sound R where
  players := by
    intro socket player h
    cases h
  consistent := PlayerCollector.consistent_empty
  waitingForWorld := by
    intro worldId waiting h
    cases h
  waitingForDungeon := by
    intro worldSn waiting h
    cases h

/-- The property may be weakened for the players that are there. -/
theorem Sound.mono (hl : l.Sound R)
    (h : ∀ (socket : ℤ) (player : Player), l.players.getPlayerBySocket socket = some player →
      R player → R' player) : l.Sound R' where
  players := fun socket player hplayer => h socket player hplayer (hl.players socket player hplayer)
  consistent := hl.consistent
  waitingForWorld := hl.waitingForWorld
  waitingForDungeon := hl.waitingForDungeon

/-- Other players, with the same who wait. -/
theorem Sound.withPlayers (hl : l.Sound R) {players : PlayerCollector}
    (hconsistent : players.Consistent)
    (hplayers : ∀ (socket : ℤ) (player : Player),
      players.getPlayerBySocket socket = some player → R' player) :
    ({ l with players := players } : Lobby).Sound R' where
  players := hplayers
  consistent := hconsistent
  waitingForWorld := hl.waitingForWorld
  waitingForDungeon := hl.waitingForDungeon

/-- A search for an account that finds nothing leaves a sound lobby. -/
theorem Sound.forget (hl : l.Sound R) {account : List UInt8} {players : PlayerCollector}
    (h : l.players.getPlayerByAccount account = (none, players)) :
    ({ l with players := players } : Lobby).Sound R := by
  obtain ⟨hconsistent, hframe⟩ := hl.consistent.getPlayerByAccount_none h
  refine hl.withPlayers hconsistent fun socket player hplayer => ?_
  rw [hframe] at hplayer
  exact hl.players socket player hplayer

/-- A lobby that loses the player of a socket. -/
theorem Sound.removePlayerBySocket (hl : l.Sound R) (socket : ℤ) :
    ({ l with players := l.players.removePlayerBySocket socket } : Lobby).Sound R := by
  refine hl.withPlayers (hl.consistent.removePlayerBySocket socket) fun s player hplayer => ?_
  rw [PlayerCollector.getPlayerBySocket_removePlayerBySocket] at hplayer
  by_cases hs : socket = s
  · rw [if_pos hs] at hplayer
    cases hplayer
  · rw [if_neg hs] at hplayer
    exact hl.players s player hplayer

/-- The player that is found by its serial number is one of the players, and has the number. -/
theorem Sound.getPlayerBySn (hl : l.Sound R) {playerSn : UInt64} {player : Player}
    (h : l.players.getPlayerBySn playerSn = some player) : R player ∧ player.playerSn = playerSn := by
  obtain ⟨hplayer, hsn⟩ := PlayerCollector.getPlayerBySn_some h
  exact ⟨hl.players _ player hplayer, hsn⟩

/-! ### What the handlers do -/

/-- Every message that treats a player as logged in is for a player with a property. -/
def Serves (S : Player → Prop) (m : LobbyMsg) : Prop :=
  ∀ player : Player, m.served = some player → S player

/-- A message that treats no player as logged in. -/
theorem Serves.of_none {S : Player → Prop} {m : LobbyMsg} (h : m.served = none) : Serves S m := by
  intro player hplayer
  rw [h] at hplayer
  cases hplayer

/-- **A login** gives the socket a player without a serial number, with the token that it
presented; nothing is done if the socket has a player. -/
theorem handleLoginByToken_meets (hl : l.Sound R) {identify : NetIdentify}
    {account token : List UInt8}
    (hnew : R { Player.awake identify account with token := some token }) :
    (l.handleLoginByToken identify account token).Meets (Serves fun _ => False) (Sound R) := by
  unfold handleLoginByToken
  cases hadd : l.players.addPlayer identify account with
  | none =>
    refine Outcome.meets_send (fun m hm => ?_) hl
    obtain rfl := List.mem_singleton.1 hm
    exact Serves.of_none rfl
  | some added =>
    obtain ⟨players, player⟩ := added
    obtain ⟨rfl, -, hframe⟩ := PlayerCollector.getPlayerBySocket_addPlayer hadd
    have hown : players.getPlayerBySocket (Player.awake identify account).socketKey.socket =
        some (Player.awake identify account) := by
      rw [hframe]
      exact if_pos rfl
    refine Outcome.meets_send (fun m hm => ?_) (hl.withPlayers ?_ fun socket q hq => ?_)
    · simp only [List.mem_cons, List.not_mem_nil, or_false] at hm
      rcases hm with rfl | rfl
      · exact Serves.of_none rfl
      · exact Serves.of_none rfl
    · exact PlayerCollector.Consistent.insert (hl.consistent.addPlayer hadd) hown rfl
    · rw [PlayerCollector.getPlayerBySocket_insert, hframe] at hq
      by_cases hsocket : identify.socketKey.socket = socket
      · rw [if_pos (show (Player.awake identify account).socketKey.socket = socket from hsocket)]
          at hq
        exact Option.some.inj hq ▸ hnew
      · rw [if_neg (show ¬ (Player.awake identify account).socketKey.socket = socket from hsocket),
          if_neg hsocket] at hq
        exact hl.players socket q hq

/-- The player whose token a reply from Redis confirms. -/
def accepts (l : Lobby) (account : List UInt8) (tokenInfo : TokenInfo) : Option Player :=
  (l.players.getPlayerByAccount account).1.filter fun player =>
    player.token.any fun token => isTokenValid token tokenInfo.token

/-- The confirmed player is one of the players, with that account, and its token is accepted. -/
theorem Sound.accepts (hl : l.Sound R) {account : List UInt8} {tokenInfo : TokenInfo}
    {player : Player} (h : l.accepts account tokenInfo = some player) :
    (l.players.getPlayerByAccount account).1 = some player ∧
      l.players.getPlayerBySocket player.socketKey.socket = some player ∧
      player.account = account ∧
      ∃ token : List UInt8, player.token = some token ∧
        isTokenValid token tokenInfo.token = true := by
  obtain ⟨hfound, hvalid⟩ := Option.filter_eq_some_iff.1 h
  cases hsearch : l.players.getPlayerByAccount account with
  | mk found players =>
    rw [hsearch] at hfound
    simp only at hfound
    subst hfound
    refine ⟨rfl, (PlayerCollector.getPlayerByAccount_some hsearch).2.2,
      hl.consistent.account_eq hsearch, ?_⟩
    obtain ⟨token, htoken, htrue⟩ := (Option.any_eq_true ..).1 hvalid
    exact ⟨token, htoken, htrue⟩

/-- **A reply from Redis** is told to the player of the account; whether it is a good one is what
the comparison of the tokens says. -/
theorem handleGameTokenToRedisRs_meets (hl : l.Sound R) (account : List UInt8)
    (tokenInfo : TokenInfo) :
    (l.handleGameTokenToRedisRs account tokenInfo).Meets
      (fun m => Serves (fun p => l.accepts account tokenInfo = some p) m ∧
        (∀ playerSn, m = .queryPlayer playerSn → (l.accepts account tokenInfo).isSome = true))
      (Sound R) := by
  unfold handleGameTokenToRedisRs accepts
  cases hsearch : l.players.getPlayerByAccount account with
  | mk found players =>
    cases found with
    | none => exact Outcome.meets_pure (hl.forget hsearch)
    | some player =>
      cases htoken : player.token with
      | none =>
        simp only [htoken]
        refine Outcome.meets_crash fun m hm => ?_
        cases hm
      | some token =>
        simp only [htoken, Option.filter_some, Option.any_some]
        by_cases hvalid : isTokenValid token tokenInfo.token = true
        · simp only [if_pos hvalid]
          refine Outcome.meets_send (fun m hm => ?_) hl
          simp only [List.mem_cons, List.not_mem_nil, or_false] at hm
          rcases hm with rfl | rfl
          · exact ⟨fun p hp => hp, fun playerSn h => rfl⟩
          · exact ⟨Serves.of_none rfl, fun playerSn h => rfl⟩
        · simp only [if_neg hvalid]
          refine Outcome.meets_send (fun m hm => ?_) hl
          obtain rfl := List.mem_singleton.1 hm
          exact ⟨Serves.of_none rfl, fun playerSn h => by cases h⟩

theorem waitWorld_meets (hl : l.Sound R) {S : Player → Prop} (worldId : ℤ) {playerSn : UInt64}
    (hsn : playerSn ≠ 0) : (l.waitWorld worldId playerSn).Meets (Serves S) (Sound R) := by
  refine Outcome.meets_send (fun m hm => ?_) ⟨hl.players, hl.consistent,
    hl.waitingForWorld.insert worldId hsn, hl.waitingForDungeon⟩
  split at hm
  · obtain rfl := List.mem_singleton.1 hm
    exact Serves.of_none rfl
  · cases hm

theorem waitDungeon_meets (hl : l.Sound R) {S : Player → Prop} (worldSn : UInt64)
    {playerSn : UInt64} (hsn : playerSn ≠ 0) :
    (l.waitDungeon worldSn playerSn).Meets (Serves S) (Sound R) := by
  refine Outcome.meets_send (fun m hm => ?_) ⟨hl.players, hl.consistent, hl.waitingForWorld,
    hl.waitingForDungeon.insert worldSn hsn⟩
  split at hm
  · obtain rfl := List.mem_singleton.1 hm
    exact Serves.of_none rfl
  · cases hm

/-- A message that a player is teleported treats that player as logged in. -/
theorem serves_teleport {S : Player → Prop} {player : Player} (h : S player)
    (lastWorldSn targetWorldSn : UInt64) :
    ∀ m ∈ [LobbyMsg.teleport player lastWorldSn targetWorldSn], Serves S m := by
  intro m hm p hp
  obtain rfl := List.mem_singleton.1 hm
  exact Option.some.inj hp ▸ h

/-- A player with a serial number goes to a public world, or waits for it. -/
theorem enterPublicWorld_meets (hl : l.Sound R) {S : Player → Prop} (locator : WorldProxyLocator)
    {player : Player} (hplayer : S player) (hsn : player.playerSn ≠ 0) :
    (enterPublicWorld locator player l).Meets (Serves S) (Sound R) := by
  unfold enterPublicWorld
  cases player.lastMap with
  | none =>
    refine Outcome.meets_crash fun m hm => ?_
    cases hm
  | some lastMap =>
    simp only
    split
    · exact Outcome.meets_send (serves_teleport hplayer _ _) hl
    · exact waitWorld_meets hl _ hsn

theorem enterLastWorld_meets (hl : l.Sound R) {S : Player → Prop} (locator : WorldProxyLocator)
    {player : Player} (hplayer : S player) (hsn : player.playerSn ≠ 0) :
    (enterLastWorld locator player l).Meets (Serves S) (Sound R) := by
  unfold enterLastWorld
  cases player.lastMap.bind LastMap.lastDungeon with
  | none => exact enterPublicWorld_meets hl locator hplayer hsn
  | some lastDungeon =>
    simp only
    split
    · exact Outcome.meets_send (serves_teleport hplayer _ _) hl
    · exact waitDungeon_meets hl _ hsn

/-- **A reply from the database** gives the player of the account its data, which must have a serial
number; only that player is served. -/
theorem handleQueryPlayerRs_meets (hl : l.Sound R) (worlds : ResourceWorldMgr)
    (locator : WorldProxyLocator) {rs : QueryPlayerRs}
    (hload : ∀ player : Player, (l.players.getPlayerByAccount rs.account).1 = some player →
      R (player.load worlds rs.player) ∧ rs.player.sn ≠ 0) :
    (l.handleQueryPlayerRs worlds locator rs).Meets
      (Serves fun p => ∃ player : Player,
        (l.players.getPlayerByAccount rs.account).1 = some player ∧
          (p = player ∨ p = player.load worlds rs.player)) (Sound R) := by
  unfold handleQueryPlayerRs
  cases hsearch : l.players.getPlayerByAccount rs.account with
  | mk found players =>
    cases found with
    | none => exact Outcome.meets_pure (hl.forget hsearch)
    | some player =>
      rw [hsearch] at hload
      obtain ⟨hR, hsn⟩ := hload player rfl
      have hsync : ∀ m ∈ [LobbyMsg.syncPlayer player rs.player], Serves (fun p =>
          ∃ q : Player, some player = some q ∧ (p = q ∨ p = q.load worlds rs.player)) m := by
        intro m hm p hp
        obtain rfl := List.mem_singleton.1 hm
        exact ⟨player, rfl, Or.inl (Option.some.inj hp).symm⟩
      cases hlast : player.lastMap with
      | some lastMap =>
        simp only [hlast]
        exact Outcome.meets_crash hsync
      | none =>
        simp only [hlast]
        refine Outcome.Meets.andThen (P := Sound R) (Outcome.meets_send hsync ?_) fun t ht =>
          enterLastWorld_meets ht locator ⟨player, rfl, Or.inr rfl⟩ hsn
        refine hl.withPlayers (hl.consistent.insert
          (PlayerCollector.getPlayerByAccount_some hsearch).2.2 rfl) fun socket q hq => ?_
        rw [PlayerCollector.getPlayerBySocket_insert] at hq
        by_cases hsocket : (player.load worlds rs.player).socketKey.socket = socket
        · rw [if_pos hsocket] at hq
          exact Option.some.inj hq ▸ hR
        · rw [if_neg hsocket] at hq
          exact hl.players socket q hq

/-- The players with serial numbers that have the property. -/
abbrev Known (R : Player → Prop) (player : Player) : Prop := R player ∧ player.playerSn ≠ 0

theorem enterWaiting_meets (hl : l.Sound R) (locator : WorldProxyLocator) {playerSn : UInt64}
    (hsn : playerSn ≠ 0) :
    (enterWaiting locator playerSn l).Meets (Serves (Known R)) (Sound R) := by
  unfold enterWaiting
  cases hfound : l.players.getPlayerBySn playerSn with
  | none => exact Outcome.meets_pure hl
  | some player =>
    obtain ⟨hR, rfl⟩ := hl.getPlayerBySn hfound
    exact enterPublicWorld_meets hl locator ⟨hR, hsn⟩ hsn

theorem teleportWaiting_meets (hl : l.Sound R) (worldSn : UInt64) {playerSn : UInt64}
    (hsn : playerSn ≠ 0) :
    (teleportWaiting worldSn playerSn l).Meets (Serves (Known R)) (Sound R) := by
  unfold teleportWaiting
  cases hfound : l.players.getPlayerBySn playerSn with
  | none => exact Outcome.meets_pure hl
  | some player =>
    obtain ⟨hR, rfl⟩ := hl.getPlayerBySn hfound
    exact Outcome.meets_send (serves_teleport ⟨hR, hsn⟩ _ _) hl

theorem eraseDungeon_meets (hl : l.Sound R) {S : Player → Prop} (worldSn : UInt64) :
    (eraseDungeon worldSn l).Meets (Serves S) (Sound R) :=
  Outcome.meets_pure ⟨hl.players, hl.consistent, hl.waitingForWorld,
    hl.waitingForDungeon.erase worldSn⟩

theorem eraseWorld_meets (hl : l.Sound R) {S : Player → Prop} (worldId : ℤ) :
    (eraseWorld worldId l).Meets (Serves S) (Sound R) :=
  Outcome.meets_pure ⟨hl.players, hl.consistent, hl.waitingForWorld.erase worldId,
    hl.waitingForDungeon⟩

/-- **A dungeon that is gone**: those who wait for it go to a public world. -/
theorem handleQueryWorldRs_meets (hl : l.Sound R) (locator : WorldProxyLocator) (worldSn : UInt64)
    (ok : Bool) :
    (l.handleQueryWorldRs locator worldSn ok).Meets (Serves (Known R)) (Sound R) := by
  unfold handleQueryWorldRs
  cases hwaiting : l.waitingForDungeon worldSn with
  | none => exact Outcome.meets_pure hl
  | some waiting =>
    cases ok with
    | true => exact Outcome.meets_pure hl
    | false =>
      refine (meets_forEach (fun sn hsn t ht => ?_) hl).andThen fun t ht => eraseDungeon_meets ht _
      exact enterWaiting_meets ht locator
        (hl.waitingForDungeon.ne_zero hwaiting hsn)

/-- **A new proxy of a world**: those who wait for it are teleported. -/
theorem handleBroadcastCreateWorldProxy_meets (hl : l.Sound R) (worlds : ResourceWorldMgr)
    (worldId : ℤ) (worldSn : UInt64) :
    (l.handleBroadcastCreateWorldProxy worlds worldId worldSn).Meets (Serves (Known R))
      (Sound R) := by
  have hdungeon : ∀ waiting, l.waitingForDungeon worldSn = some waiting →
      ((forEach (teleportWaiting worldSn) waiting.toList l).andThen
        (eraseDungeon worldSn)).Meets (Serves (Known R)) (Sound R) := by
    intro waiting hwaiting
    refine (meets_forEach (fun sn hsn t ht => ?_) hl).andThen fun t ht => eraseDungeon_meets ht _
    exact teleportWaiting_meets ht worldSn
      (hl.waitingForDungeon.ne_zero hwaiting hsn)
  unfold handleBroadcastCreateWorldProxy
  cases worlds.getResource worldId with
  | none => exact Outcome.meets_pure hl
  | some worldType =>
    cases worldType with
    | publicWorld =>
      cases hwaiting : l.waitingForWorld worldId with
      | none => exact Outcome.meets_pure hl
      | some waiting =>
        refine (meets_forEach (fun sn hsn t ht => ?_) hl).andThen fun t ht => eraseWorld_meets ht _
        exact teleportWaiting_meets ht worldSn
          (hl.waitingForWorld.ne_zero hwaiting hsn)
    | login | roles =>
      cases hwaiting : l.waitingForDungeon worldSn with
      | none => exact Outcome.meets_pure hl
      | some waiting => exact hdungeon waiting hwaiting
    | dungeon =>
      cases hwaiting : l.waitingForDungeon worldSn with
      | none => exact Outcome.meets_pure hl
      | some waiting => exact hdungeon waiting hwaiting

/-- **A player that has arrived elsewhere** is removed, and no one is served. -/
theorem handleTeleportAfter_meets (hl : l.Sound R) (identify : NetIdentify) :
    (l.handleTeleportAfter identify).Meets (Serves fun _ => False) (Sound R) := by
  unfold handleTeleportAfter
  cases l.getPlayer identify with
  | none => exact Outcome.meets_pure hl
  | some player => exact Outcome.meets_pure (hl.removePlayerBySocket _)

/-- **A connection that is closed** takes its player with it, and no one is served. -/
theorem handleNetworkDisconnect_meets (hl : l.Sound R) (identify : NetIdentify) :
    (l.handleNetworkDisconnect identify).Meets (Serves fun _ => False) (Sound R) := by
  unfold handleNetworkDisconnect
  cases identify.tagKey.getTagValue .account with
  | none => exact Outcome.meets_pure hl
  | some value => exact Outcome.meets_pure (hl.removePlayerBySocket _)

end Lobby

end MmoServer
