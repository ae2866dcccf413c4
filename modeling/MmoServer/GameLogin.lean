/-
**The login to the game process.**

Clients, the lobby, Redis and the database exchange packets that arrive in any order.  A client may
send any packet, also one that Redis or the database should have sent.  Sockets are reused: the
next connection on a socket has the next number, and so has its next login.  The requests to Redis
and to the database are kept with the logins that they were made for, and the state keeps a history
of what was presented, of what Redis held when it was read, and of who was served; no step looks at
these.

Main definitions:

* `MmoServer.GameProcess`, `MmoServer.GameEvent`, `MmoServer.GameProcess.step` — the process, and
  what can happen;
* `MmoServer.GameProcess.LoginsAuthenticated` — whoever was served has presented, with that login
  and on that connection, a token that is not empty and that Redis held for the account when it was
  read for the login;
* `MmoServer.TokenSlip` — when the comparison of tokens takes one for another;
* `MmoServer.ReadsToken` — when the key of the account is read, and its token;
* `MmoServer.GameProcess.Regular` — keys are read so, no such token is compared, replies are replies
  to the login of the player that they reach, and sockets are reused only when the lobby is done with
  them.

Main results:

* `MmoServer.tokenSlip_iff` — the comparison slips exactly if it accepts a wrong or an empty token;
* `MmoServer.GameProcess.Invariant.step` — what one step keeps;
* `MmoServer.loginsAuthenticated_of_regular` — **in a run whose steps are all regular, whoever is
  served is authenticated**.
-/

import MmoServer.Lobby
import MmoServer.OnlineFlag
import MmoServer.Transition
import MmoServer.Wire

set_option relaxedAutoImplicit false
set_option autoImplicit false

namespace MmoServer

open Std Handler Hiredis

/-! ### Tokens in Redis -/

/-- How the value of a token is parsed: there is nothing in an empty one. -/
structure TokenParser where
  parse : List UInt8 → TokenInfo
  parse_nil : parse [] = ⟨[], 0⟩

/-- The key of the token of an account. -/
def tokenKey (account : List UInt8) : List UInt8 := redisKeyAccountTokey ++ account

/-- What `HandleGameTokenToRedis` does at Redis: it reads the token of an account, and deletes the key; nothing if it
reads through a null pointer. -/
def takeToken {Db : Type} (link : RedisLink Db) (parser : TokenParser) (db : Db) (account : List UInt8) :
    Option (TokenInfo × Db) :=
  (getString link db (tokenKey account)).bind fun read =>
    (delete link read.2 (tokenKey account)).map fun db => (parser.parse read.1, db)

/-! ### Packets in flight, and what has happened -/

/-- Who has sent a packet to the lobby. -/
inductive PacketOrigin
  /-- A client, over a connection of a socket. -/
  | client (socket : ℤ) (connection : ℕ)
  /-- Redis, which answers the request of a login, or one that a client has sent. -/
  | redis (cause : Option Login)
  /-- The database, which answers the query that was made for a login. -/
  | database (cause : Login)
  | server
  deriving DecidableEq

/-- A packet that is under way to the lobby. -/
structure Letter where
  identify : NetIdentify
  packet : LobbyPacket
  origin : PacketOrigin

/-- What has happened. -/
inductive Fact
  /-- A login has presented an account and a token over a connection. -/
  | presented (login : Login) (connection : ℕ) (account token : List UInt8)
  /-- Redis held a token of the account when it was read for a login. -/
  | stored (login : Login) (account token : List UInt8)
  /-- A connection was treated as logged in. -/
  | served (login : Login) (connection : ℕ) (account : List UInt8)
  deriving DecidableEq

/-- The game process, with what is under way between its parts. -/
structure GameProcess (Db : Type) where
  lobby : Option Lobby
  inbox : List Letter
  /-- `MI_GameTokenToRedis` packets, with the logins that they were sent for. -/
  requests : List (List UInt8 × Option Login)
  /-- Redis. -/
  db : Db
  /-- `G2DB_QueryPlayer` packets, with the logins that they were sent for. -/
  queries : List (UInt64 × Login)
  connection : ℤ → ℕ
  logins : ℤ → ℕ
  /-- The logins whose tokens were confirmed. -/
  checked : List Login
  history : List Fact

/-- What can happen. -/
inductive GameEvent (Db : Type)
  /-- A socket gets a new connection. -/
  | connect (socket : ℤ)
  /-- A client sends a packet that the lobby has registered for. -/
  | receive (identify : NetIdentify) (packet : LobbyPacket)
  /-- A client sends `MI_GameTokenToRedis`. -/
  | receiveRequest (account : List UInt8)
  /-- Another process writes to Redis, or a key expires. -/
  | redisChanges (db : Db)
  /-- `RedisGame::HandleGameTokenToRedis`. -/
  | redisReads (i : ℕ)
  /-- The database answers a query. -/
  | dbReplies (i : ℕ) (identify : NetIdentify) (rs : QueryPlayerRs)
  /-- A server sends one of its other packets. -/
  | serverSends (identify : NetIdentify) (packet : LobbyPacket)
  /-- The lobby handles a packet. -/
  | lobbyHandles (i : ℕ) (locator : WorldProxyLocator)

/-- The packets that come from servers, and are no replies of Redis or the database. -/
def LobbyPacket.isServers : LobbyPacket → Bool
  | .networkDisconnect | .queryWorldRs _ _ | .broadcastCreateWorldProxy _ _ | .teleportAfter => true
  | _ => false

/-- A login. -/
def LobbyPacket.isLogin : LobbyPacket → Bool
  | .loginByToken _ _ => true
  | _ => false

namespace GameProcess

variable {Db : Type}

/-! ### Steps -/

/-- The last login of the socket of a player. -/
def loginOf (s : GameProcess Db) (player : Player) : Login :=
  ⟨player.socketKey.socket, s.logins player.socketKey.socket⟩

/-- The login that a packet makes. -/
def loginBy (s : GameProcess Db) (l : Lobby) (identify : NetIdentify) : LobbyPacket → Option Login
  | .loginByToken account _ =>
    if (l.players.addPlayer identify account).isSome then
      some ⟨identify.socketKey.socket, s.logins identify.socketKey.socket + 1⟩
    else none
  | _ => none

/-- What a packet of a client presents, if it makes a login. -/
def presentedBy (s : GameProcess Db) (l : Lobby) (letter : Letter) : List Fact :=
  match letter.packet, letter.origin with
  | .loginByToken account token, .client _ connection =>
    ((s.loginBy l letter.identify (.loginByToken account token)).map fun login =>
      Fact.presented login connection account token).toList
  | _, _ => []

/-- The token that Redis holds for an account when it is read for a login. -/
def storedFor (redis : OnlineRedis Db) (parser : TokenParser) (db : Db) (account : List UInt8) :
    Option Login → List Fact
  | none => []
  | some login =>
    ((redis.lookup db (tokenKey account)).map fun value =>
      Fact.stored login account (parser.parse value).token).toList

/-- The login whose token a packet confirms. -/
def confirmed (s : GameProcess Db) (l : Lobby) : LobbyPacket → Option Login
  | .gameTokenToRedisRs account tokenInfo => (l.accepts account tokenInfo).map s.loginOf
  | _ => none

/-- The logins of the sockets, when the lobby has handled a packet. -/
def loginsAfter (s : GameProcess Db) (l : Lobby) (identify : NetIdentify) (packet : LobbyPacket) : ℤ → ℕ :=
  match s.loginBy l identify packet with
  | some login => Function.update s.logins login.socket login.number
  | none => s.logins

/-- Whom a message of the lobby treats as logged in. -/
def servedBy (s : GameProcess Db) (m : LobbyMsg) : Option Fact :=
  m.served.map fun player =>
    .served (s.loginOf player) (s.connection player.socketKey.socket) player.account

/-- The request to Redis that is made for a login. -/
def requestOf (cause : Option Login) : LobbyMsg → Option (List UInt8 × Option Login)
  | .gameTokenToRedis account => some (account, cause)
  | _ => none

/-- The query to the database that is made for a login. -/
def queryOf (cause : Login) : LobbyMsg → Option (UInt64 × Login)
  | .queryPlayer playerSn => some (playerSn, cause)
  | _ => none

/-- The lobby has handled a packet. -/
def handled (s : GameProcess Db) (l : Lobby) (letter : Letter) (i : ℕ) (o : Outcome Lobby LobbyMsg) :
    GameProcess Db :=
  { s with
    lobby := o.state
    inbox := s.inbox.eraseIdx i
    requests := s.requests ++ o.sent.filterMap (requestOf (s.loginBy l letter.identify letter.packet))
    queries := s.queries ++
      (s.confirmed l letter.packet).toList.flatMap fun cause => o.sent.filterMap (queryOf cause)
    logins := s.loginsAfter l letter.identify letter.packet
    checked := s.checked ++ (s.confirmed l letter.packet).toList
    history := s.history ++ s.presentedBy l letter ++ o.sent.filterMap s.servedBy }

/-- One step; nothing if it is not possible, or the process reads through a null pointer. -/
def step (redis : OnlineRedis Db) (parser : TokenParser) (worlds : ResourceWorldMgr) (s : GameProcess Db) :
    GameEvent Db → Option (GameProcess Db)
  | .connect socket =>
    some { s with connection := Function.update s.connection socket (s.connection socket + 1) }
  | .receive identify packet =>
    let socket := identify.socketKey.socket
    some { s with inbox := s.inbox ++ [⟨identify, packet, .client socket (s.connection socket)⟩] }
  | .receiveRequest account => some { s with requests := s.requests ++ [(account, none)] }
  | .redisChanges db => some { s with db := db }
  | .redisReads i =>
    s.requests[i]?.bind fun request =>
      (takeToken redis.link parser s.db request.1).map fun taken =>
        -- the account of the reply ends at the first zero, as it does in the commands to Redis
        { s with
          requests := s.requests.eraseIdx i
          db := taken.2
          inbox := s.inbox ++
            [⟨⟨SocketKey.none, TagKey.clear⟩, .gameTokenToRedisRs (cStr request.1) taken.1, .redis request.2⟩]
          history := s.history ++ storedFor redis parser s.db (cStr request.1) request.2 }
  | .dbReplies i identify rs =>
    s.queries[i]?.map fun query =>
      { s with
        queries := s.queries.eraseIdx i
        inbox := s.inbox ++ [⟨identify, .queryPlayerRs rs, .database query.2⟩] }
  | .serverSends identify packet =>
    if packet.isServers then some { s with inbox := s.inbox ++ [⟨identify, packet, .server⟩] }
    else none
  | .lobbyHandles i locator =>
    match s.lobby, s.inbox[i]? with
    | some l, some letter =>
      some (s.handled l letter i (l.processPacket worlds locator letter.identify letter.packet))
    | _, _ => none

/-- A process whose lobby is new. -/
def start (sn : UInt64) (db : Db) : GameProcess Db where
  lobby := some (Lobby.awake sn)
  inbox := []
  requests := []
  db := db
  queries := []
  connection := fun _ => 0
  logins := fun _ => 0
  checked := []
  history := []

/-- The process as a system. -/
def system (redis : OnlineRedis Db) (parser : TokenParser) (worlds : ResourceWorldMgr) :
    Transition.System (GameProcess Db) (GameEvent Db) :=
  .ofFun (fun s => ∃ (sn : UInt64) (db : Db), s = start sn db) (step redis parser worlds)

end GameProcess

/-! ### Authentication -/

/-- **A login is authenticated**: it has presented a token for an account over a connection, which is not empty and
which Redis held for the account when it was read for this login. -/
def Authenticated (history : List Fact) (login : Login) (connection : ℕ) (account : List UInt8) : Prop :=
  ∃ token : List UInt8, token ≠ [] ∧ Fact.presented login connection account token ∈ history ∧
    Fact.stored login account token ∈ history

theorem Authenticated.mono {history history' : List Fact} {login : Login} {connection : ℕ}
    {account : List UInt8} (h : Authenticated history login connection account)
    (hhistory : ∀ f ∈ history, f ∈ history') :
    Authenticated history' login connection account := by
  obtain ⟨token, hne, hpresented, hstored⟩ := h
  exact ⟨token, hne, hhistory _ hpresented, hhistory _ hstored⟩

/-- **Whoever was served is authenticated.** -/
def GameProcess.LoginsAuthenticated {Db : Type} (s : GameProcess Db) : Prop :=
  ∀ (login : Login) (connection : ℕ) (account : List UInt8),
    Fact.served login connection account ∈ s.history →
      Authenticated s.history login connection account

/-- The comparison takes one token for another: the presented one is empty, or the stored one only
begins with it, or both have the same bytes up to a zero. -/
def TokenSlip (presented stored : List UInt8) : Prop :=
  presented = [] ∨ presented ≠ stored ∧
    (presented <+: stored ∨ 0 ∈ presented ∧ cStr presented = cStr stored)

/-- A prefix that contains a zero has the same bytes up to there. -/
theorem cStr_eq_of_prefix {a b : List UInt8} (h : a <+: b) (hzero : 0 ∈ a) : cStr a = cStr b := by
  obtain ⟨c, rfl⟩ := h
  unfold cStr
  induction a with
  | nil => cases hzero
  | cons x a ih =>
    by_cases hx : x = 0
    · simp [hx]
    · have htail : 0 ∈ a := by
        rcases List.mem_cons.1 hzero with hhead | htail
        · exact absurd hhead.symm hx
        · exact htail
      rw [List.cons_append, List.takeWhile_cons_of_pos (by simpa using hx),
        List.takeWhile_cons_of_pos (by simpa using hx), ih htail]

/-- **The comparison slips** exactly if it accepts a token that is empty or wrong. -/
theorem tokenSlip_iff (presented stored : List UInt8) :
    TokenSlip presented stored ↔
      isTokenValid presented stored = true ∧ ¬ (presented ≠ [] ∧ presented = stored) := by
  rw [isTokenValid_iff]
  unfold TokenSlip
  constructor
  · rintro (rfl | ⟨hne, hprefix | ⟨hzero, heq⟩⟩)
    · simp
    · refine ⟨?_, fun h => hne h.2⟩
      by_cases hzero : 0 ∈ presented
      · rw [if_pos hzero]
        exact cStr_eq_of_prefix hprefix hzero
      · rw [if_neg hzero]
        exact hprefix
    · rw [if_pos hzero]
      exact ⟨heq, fun h => hne h.2⟩
  · rintro ⟨hvalid, hbad⟩
    by_cases hempty : presented = []
    · exact Or.inl hempty
    · refine Or.inr ⟨fun heq => hbad ⟨hempty, heq⟩, ?_⟩
      by_cases hzero : 0 ∈ presented
      · rw [if_pos hzero] at hvalid
        exact Or.inr ⟨hzero, hvalid⟩
      · rw [if_neg hzero] at hvalid
        exact Or.inl hvalid

/-- **The token of an account is read**: hiredis finds the key of the account in the command, and the value has the
same token up to its first zero, where it is cut off. -/
def ReadsToken {Db : Type} (redis : OnlineRedis Db) (parser : TokenParser) (db : Db) (account : List UInt8) : Prop :=
  formatCommand (format (RedisCommand.get (tokenKey account)).text).cStr =
      some (RedisCommand.get (tokenKey (cStr account))).argv ∧
    ∀ value ∈ redis.lookup db (tokenKey (cStr account)),
      (parser.parse (cStr value)).token = (parser.parse value).token

/-- Then the token that is read is the one that is there. -/
theorem ReadsToken.takeToken {Db : Type} {redis : OnlineRedis Db} {parser : TokenParser} {db : Db}
    {account : List UInt8} (h : ReadsToken redis parser db account) {taken : TokenInfo × Db}
    (htaken : MmoServer.takeToken redis.link parser db account = some taken) :
    taken.1.token = [] ∨
      ∃ value, redis.lookup db (tokenKey (cStr account)) = some value ∧ taken.1.token = (parser.parse value).token := by
  obtain ⟨hget, hvalue⟩ := h
  obtain ⟨read, hread, htaken⟩ := Option.bind_eq_some_iff.1 htaken
  obtain ⟨db', -, rfl⟩ := Option.map_eq_some_iff.1 htaken
  rw [getString, redisCommand, hget, Option.bind_some] at hread
  cases hlookup : redis.lookup db (tokenKey (cStr account)) with
  | none =>
    have hreply : redis.link db (RedisCommand.get (tokenKey (cStr account))).argv = some (.nil, db) :=
      congrArg some (redis.command_get_none db _ hlookup)
    rw [hreply, Option.map_some] at hread
    obtain rfl := Option.some.inj hread
    exact .inl (by rw [parser.parse_nil])
  | some value =>
    have hreply : redis.link db (RedisCommand.get (tokenKey (cStr account))).argv = some (.string value, db) :=
      congrArg some (redis.command_get db _ value hlookup)
    rw [hreply, Option.map_some] at hread
    obtain rfl := Option.some.inj hread
    exact .inr ⟨value, rfl, hvalue value hlookup⟩

namespace GameProcess

variable {Db : Type}

/-- When the lobby may handle a packet: a reply about a token that is accepted comes from Redis,
was asked for by the login of that player, and the comparison does not slip; a reply with data that
reaches a player comes from the database, was asked for by the login of that player, and is not
empty. -/
def RegularPacket (s : GameProcess Db) (l : Lobby) (letter : Letter) : Prop :=
  match letter.packet with
  | .gameTokenToRedisRs account tokenInfo =>
    ∀ player ∈ l.accepts account tokenInfo,
      letter.origin = .redis (some (s.loginOf player)) ∧
        ∀ token ∈ player.token, ¬ TokenSlip token tokenInfo.token
  | .queryPlayerRs rs =>
    ∀ player ∈ (l.players.getPlayerByAccount rs.account).1,
      letter.origin = .database (s.loginOf player) ∧ rs.player.sn ≠ 0
  | _ => True

/-- When a step may be taken: a socket gets a new connection when the lobby has no player of it,
and no login of an earlier connection is under way; and for a login, Redis reads the token of its
account. -/
def Regular (redis : OnlineRedis Db) (parser : TokenParser) (s : GameProcess Db) : GameEvent Db → Prop
  | .connect socket =>
    (∀ l ∈ s.lobby, l.players.getPlayerBySocket socket = none) ∧
      ∀ letter ∈ s.inbox, letter.packet.isLogin = true →
        letter.identify.socketKey.socket ≠ socket
  | .redisReads i =>
    ∀ request ∈ s.requests[i]?, request.2.isSome = true → ReadsToken redis parser s.db request.1
  | .lobbyHandles i _ => ∀ l ∈ s.lobby, ∀ letter ∈ s.inbox[i]?, s.RegularPacket l letter
  | _ => True

instance (presented stored : List UInt8) : Decidable (TokenSlip presented stored) :=
  inferInstanceAs (Decidable (presented = [] ∨ presented ≠ stored ∧
    (presented <+: stored ∨ 0 ∈ presented ∧ cStr presented = cStr stored)))

instance (redis : OnlineRedis Db) (parser : TokenParser) (db : Db) (account : List UInt8) :
    Decidable (ReadsToken redis parser db account) :=
  inferInstanceAs (Decidable (formatCommand (format (RedisCommand.get (tokenKey account)).text).cStr =
      some (RedisCommand.get (tokenKey (cStr account))).argv ∧
    ∀ value ∈ redis.lookup db (tokenKey (cStr account)),
      (parser.parse (cStr value)).token = (parser.parse value).token))

instance (s : GameProcess Db) (l : Lobby) : ∀ letter : Letter, Decidable (s.RegularPacket l letter)
  | ⟨_, .gameTokenToRedisRs account tokenInfo, origin⟩ =>
    inferInstanceAs (Decidable (∀ player ∈ l.accepts account tokenInfo,
      origin = .redis (some (s.loginOf player)) ∧ ∀ token ∈ player.token, ¬ TokenSlip token tokenInfo.token))
  | ⟨_, .queryPlayerRs rs, origin⟩ =>
    inferInstanceAs (Decidable (∀ player ∈ (l.players.getPlayerByAccount rs.account).1,
      origin = .database (s.loginOf player) ∧ rs.player.sn ≠ 0))
  | ⟨_, .networkDisconnect, _⟩ => isTrue trivial
  | ⟨_, .loginByToken _ _, _⟩ => isTrue trivial
  | ⟨_, .queryWorldRs _ _, _⟩ => isTrue trivial
  | ⟨_, .broadcastCreateWorldProxy _ _, _⟩ => isTrue trivial
  | ⟨_, .teleportAfter, _⟩ => isTrue trivial

instance (redis : OnlineRedis Db) (parser : TokenParser) (s : GameProcess Db) :
    ∀ e : GameEvent Db, Decidable (s.Regular redis parser e)
  | .connect socket =>
    inferInstanceAs (Decidable ((∀ l ∈ s.lobby, (l.players.players[socket]?) = none) ∧
      ∀ letter ∈ s.inbox, letter.packet.isLogin = true → letter.identify.socketKey.socket ≠ socket))
  | .redisReads i =>
    inferInstanceAs (Decidable (∀ request ∈ s.requests[i]?, request.2.isSome = true →
      ReadsToken redis parser s.db request.1))
  | .lobbyHandles i _ =>
    inferInstanceAs (Decidable (∀ l ∈ s.lobby, ∀ letter ∈ s.inbox[i]?, s.RegularPacket l letter))
  | .receive _ _ => isTrue trivial
  | .receiveRequest _ => isTrue trivial
  | .redisChanges _ => isTrue trivial
  | .dbReplies _ _ _ => isTrue trivial
  | .serverSends _ _ => isTrue trivial

/-! ### The invariant -/

/-- What is known of a player of the lobby: its login has presented its token over the connection of
its socket; if the login is confirmed, Redis held that token when it was read for it; and it has no
serial number before. -/
def Vouched (s : GameProcess Db) (player : Player) : Prop :=
  ∃ token : List UInt8, player.token = some token ∧
    Fact.presented (s.loginOf player) (s.connection player.socketKey.socket) player.account
      token ∈ s.history ∧
    (s.loginOf player ∈ s.checked →
      token ≠ [] ∧ Fact.stored (s.loginOf player) player.account token ∈ s.history) ∧
    (player.playerSn ≠ 0 → s.loginOf player ∈ s.checked)

/-- The login of a player is authenticated for its account. -/
def PlayerAuthenticated (s : GameProcess Db) (player : Player) : Prop :=
  Authenticated s.history (s.loginOf player) (s.connection player.socketKey.socket) player.account

/-- What holds between the steps. -/
structure Invariant (s : GameProcess Db) : Prop where
  lobby : ∀ l : Lobby, s.lobby = some l → l.Sound s.Vouched
  presented : ∀ letter ∈ s.inbox, letter.packet.isLogin = true →
    letter.origin = .client letter.identify.socketKey.socket (s.connection letter.identify.socketKey.socket)
  stored : ∀ letter ∈ s.inbox, ∀ login : Login, letter.origin = .redis (some login) →
    ∀ (account : List UInt8) (tokenInfo : TokenInfo),
      letter.packet = .gameTokenToRedisRs account tokenInfo →
        tokenInfo.token = [] ∨ Fact.stored login account tokenInfo.token ∈ s.history
  cause : ∀ letter ∈ s.inbox, ∀ cause : Login, letter.origin = .database cause → cause ∈ s.checked
  queries : ∀ query ∈ s.queries, query.2 ∈ s.checked
  checked : ∀ login ∈ s.checked, login.number ≤ s.logins login.socket
  served : s.LoginsAuthenticated

section

variable {redis : OnlineRedis Db} {parser : TokenParser} {s t : GameProcess Db} {worlds : ResourceWorldMgr}

/-- A player that is vouched for, and whose login is confirmed, is authenticated. -/
theorem Vouched.authenticated {player : Player} (h : s.Vouched player)
    (hchecked : s.loginOf player ∈ s.checked) : s.PlayerAuthenticated player := by
  obtain ⟨token, -, hpresented, hconfirmed, -⟩ := h
  obtain ⟨hne, hstored⟩ := hconfirmed hchecked
  exact ⟨token, hne, hpresented, hstored⟩

/-- A player stays vouched for while its connection and its login are the same. -/
theorem Vouched.mono {player : Player} (h : s.Vouched player)
    (hconnection : t.connection player.socketKey.socket = s.connection player.socketKey.socket)
    (hlogin : t.loginOf player = s.loginOf player) (hhistory : ∀ f ∈ s.history, f ∈ t.history)
    (hchecked : s.loginOf player ∈ t.checked ↔ s.loginOf player ∈ s.checked) :
    t.Vouched player := by
  obtain ⟨token, htoken, hpresented, hconfirmed, hsn⟩ := h
  refine ⟨token, htoken, ?_, fun hc => ?_, fun hne => ?_⟩
  · rw [hconnection, hlogin]
    exact hhistory _ hpresented
  · rw [hlogin] at hc ⊢
    obtain ⟨hne, hstored⟩ := hconfirmed (hchecked.1 hc)
    exact ⟨hne, hhistory _ hstored⟩
  · rw [hlogin]
    exact hchecked.2 (hsn hne)

/-- The invariant holds at the start. -/
theorem invariant_start (sn : UInt64) (db : Db) : (start sn db).Invariant where
  lobby := by
    intro l hl
    rw [← Option.some.inj hl]
    exact Lobby.sound_awake sn
  presented := by
    intro letter hletter
    cases hletter
  stored := by
    intro letter hletter
    cases hletter
  cause := by
    intro letter hletter
    cases hletter
  queries := by
    intro query hquery
    cases hquery
  checked := by
    intro login hlogin
    cases hlogin
  served := by
    intro login connection account h
    cases h

/-! ### Packets that arrive -/

/-- A step that keeps the lobby, the connections and the logins: packets arrive, and what happens
serves no one. -/
theorem Invariant.withLetters (h : s.Invariant) {facts : List Fact} {letters : List Letter}
    {requests : List (List UInt8 × Option Login)} {db : Db} {queries : List (UInt64 × Login)}
    (hfacts : ∀ login connection account, Fact.served login connection account ∉ facts)
    (hpresented : ∀ letter ∈ letters, letter.packet.isLogin = true →
      letter.origin = .client letter.identify.socketKey.socket (s.connection letter.identify.socketKey.socket))
    (hstored : ∀ letter ∈ letters, ∀ login : Login, letter.origin = .redis (some login) →
      ∀ (account : List UInt8) (tokenInfo : TokenInfo),
        letter.packet = .gameTokenToRedisRs account tokenInfo →
          tokenInfo.token = [] ∨ Fact.stored login account tokenInfo.token ∈ facts)
    (hcause : ∀ letter ∈ letters, ∀ cause : Login, letter.origin = .database cause →
      cause ∈ s.checked)
    (hqueries : ∀ query ∈ queries, query ∈ s.queries) :
    ({ s with
        inbox := s.inbox ++ letters
        requests := requests
        db := db
        queries := queries
        history := s.history ++ facts } : GameProcess Db).Invariant where
  lobby := fun l hl => (h.lobby l hl).mono fun socket player _ hplayer =>
    hplayer.mono rfl rfl (fun f hf => List.mem_append_left _ hf) Iff.rfl
  presented := by
    intro letter hletter hlogin
    rcases List.mem_append.1 hletter with hold | hnew
    · exact h.presented letter hold hlogin
    · exact hpresented letter hnew hlogin
  stored := by
    intro letter hletter login horigin account tokenInfo hpacket
    rcases List.mem_append.1 hletter with hold | hnew
    · exact (h.stored letter hold login horigin account tokenInfo hpacket).imp_right
        fun hf => List.mem_append_left _ hf
    · exact (hstored letter hnew login horigin account tokenInfo hpacket).imp_right
        fun hf => List.mem_append_right _ hf
  cause := by
    intro letter hletter cause horigin
    rcases List.mem_append.1 hletter with hold | hnew
    · exact h.cause letter hold cause horigin
    · exact hcause letter hnew cause horigin
  queries := fun query hquery => h.queries query (hqueries query hquery)
  checked := h.checked
  served := by
    intro login connection account hserved
    rcases List.mem_append.1 hserved with hold | hnew
    · exact (h.served login connection account hold).mono fun f hf => List.mem_append_left _ hf
    · exact absurd hnew (hfacts login connection account)

/-- A packet that arrives, without facts, and is no reply of Redis. -/
theorem Invariant.withLetter (h : s.Invariant) {letter : Letter}
    (hpresented : letter.packet.isLogin = true →
      letter.origin = .client letter.identify.socketKey.socket (s.connection letter.identify.socketKey.socket))
    (hredis : ∀ cause : Option Login, letter.origin ≠ .redis cause)
    (hcause : ∀ cause : Login, letter.origin = .database cause → cause ∈ s.checked)
    {queries : List (UInt64 × Login)} (hqueries : ∀ query ∈ queries, query ∈ s.queries) :
    ({ s with inbox := s.inbox ++ [letter], queries := queries } : GameProcess Db).Invariant := by
  suffices hnone : ({ s with
      inbox := s.inbox ++ [letter]
      requests := s.requests
      db := s.db
      queries := queries
      history := s.history ++ [] } : GameProcess Db).Invariant by
    rw [List.append_nil] at hnone
    exact hnone
  refine h.withLetters (fun login connection account hmem => by cases hmem) ?_ ?_ ?_ hqueries
  · intro a ha
    rw [List.mem_singleton.1 ha]
    exact hpresented
  · intro a ha login horigin
    rw [List.mem_singleton.1 ha] at horigin
    exact absurd horigin (hredis (some login))
  · intro a ha
    rw [List.mem_singleton.1 ha]
    exact hcause

/-- A socket gets a new connection. -/
theorem Invariant.connect (h : s.Invariant) {socket : ℤ} (hregular : s.Regular redis parser (.connect socket))
    (hstep : s.step redis parser worlds (.connect socket) = some t) : t.Invariant := by
  obtain ⟨hfree, hnone⟩ := hregular
  obtain rfl := Option.some.inj hstep
  refine ⟨fun l hl => (h.lobby l hl).mono fun k player hplayer hvouched => ?_,
    fun letter hletter hlogin => ?_, h.stored, h.cause, h.queries, h.checked, h.served⟩
  · refine hvouched.mono ?_ rfl (fun f hf => hf) Iff.rfl
    rw [PlayerCollector.getPlayerBySocket_socket hplayer]
    refine Function.update_of_ne ?_ _ _
    rintro rfl
    rw [hfree l hl] at hplayer
    cases hplayer
  · simp only [Function.update_of_ne (hnone letter hletter hlogin)]
    exact h.presented letter hletter hlogin

/-- A client sends a packet. -/
theorem Invariant.receive (h : s.Invariant) {identify : NetIdentify} {packet : LobbyPacket}
    (hstep : s.step redis parser worlds (.receive identify packet) = some t) : t.Invariant := by
  obtain rfl := Option.some.inj hstep
  exact h.withLetter (fun _ => rfl) (fun cause horigin => by cases horigin)
    (fun cause horigin => by cases horigin) fun query hquery => hquery

/-- A step that changes only what is in Redis, or asked of it. -/
theorem Invariant.withRedis (h : s.Invariant) (requests : List (List UInt8 × Option Login)) (db : Db) :
    ({ s with requests := requests, db := db } : GameProcess Db).Invariant :=
  ⟨h.lobby, h.presented, h.stored, h.cause, h.queries, h.checked, h.served⟩

/-- Redis reads a token, and forgets it. -/
theorem Invariant.redisReads (h : s.Invariant) {i : ℕ} (hregular : s.Regular redis parser (.redisReads i))
    (hstep : s.step redis parser worlds (.redisReads i) = some t) : t.Invariant := by
  obtain ⟨⟨account, cause⟩, hrequest, hstep⟩ := Option.bind_eq_some_iff.1 hstep
  obtain ⟨taken, htaken, rfl⟩ := Option.map_eq_some_iff.1 hstep
  refine h.withLetters (fun login connection a hmem => ?_) ?_ ?_ ?_ fun query hquery => hquery
  · cases cause with
    | none => cases hmem
    | some cause =>
      obtain ⟨value, -, hvalue⟩ := Option.map_eq_some_iff.1 (Option.mem_toList.1 hmem)
      cases hvalue
  · intro letter hletter hlogin
    obtain rfl := List.mem_singleton.1 hletter
    cases hlogin
  · intro letter hletter login horigin key tokenInfo hpacket
    obtain rfl := List.mem_singleton.1 hletter
    obtain ⟨rfl, rfl⟩ := LobbyPacket.gameTokenToRedisRs.inj hpacket
    obtain rfl : cause = some login := PacketOrigin.redis.inj horigin
    rcases (hregular _ hrequest rfl).takeToken htaken with hempty | ⟨value, hlookup, htoken⟩
    · exact .inl hempty
    · refine .inr ?_
      rw [htoken, storedFor, hlookup]
      exact List.mem_singleton_self _
  · intro letter hletter cause' horigin
    obtain rfl := List.mem_singleton.1 hletter
    cases horigin

/-- The database answers a query. -/
theorem Invariant.dbReplies (h : s.Invariant) {i : ℕ} {identify : NetIdentify} {rs : QueryPlayerRs}
    (hstep : s.step redis parser worlds (.dbReplies i identify rs) = some t) : t.Invariant := by
  obtain ⟨query, hquery, rfl⟩ := Option.map_eq_some_iff.1 hstep
  refine h.withLetter (fun hlogin => by cases hlogin) (fun cause horigin => by cases horigin)
    (fun cause horigin => ?_) fun q hq => List.mem_of_mem_eraseIdx hq
  cases horigin
  exact h.queries query (List.mem_of_getElem? hquery)

/-- A server sends another packet. -/
theorem Invariant.serverSends (h : s.Invariant) {identify : NetIdentify} {packet : LobbyPacket}
    (hstep : s.step redis parser worlds (.serverSends identify packet) = some t) : t.Invariant := by
  unfold step at hstep
  simp only at hstep
  split at hstep
  · rename_i hservers
    obtain rfl := Option.some.inj hstep
    refine h.withLetter (fun hlogin => ?_) (fun cause horigin => by cases horigin)
      (fun cause horigin => by cases horigin) fun q hq => hq
    cases packet <;> simp_all [LobbyPacket.isServers, LobbyPacket.isLogin]
  · cases hstep

/-! ### Packets that the lobby handles -/

/-- The login that a packet makes is the next one of its socket. -/
theorem loginBy_eq_some {l : Lobby} {identify : NetIdentify} {packet : LobbyPacket} {login : Login}
    (h : s.loginBy l identify packet = some login) : login.number = s.logins login.socket + 1 := by
  unfold loginBy at h
  split at h
  · split at h
    · obtain rfl := Option.some.inj h
      rfl
    · cases h
  · cases h

/-- A socket has no fewer logins, when the lobby has handled a packet. -/
theorem le_loginsAfter (s : GameProcess Db) (l : Lobby) (identify : NetIdentify)
    (packet : LobbyPacket) (socket : ℤ) :
    s.logins socket ≤ s.loginsAfter l identify packet socket := by
  unfold loginsAfter
  cases hlogin : s.loginBy l identify packet with
  | some login =>
    simp only
    by_cases hsocket : socket = login.socket
    · rw [hsocket, Function.update_self, loginBy_eq_some hlogin]
      exact Nat.le_succ _
    · rw [Function.update_of_ne hsocket]
  | none => exact Nat.le_refl _

/-- A login that a packet confirms is the last one of its socket. -/
theorem number_confirmed {l : Lobby} {packet : LobbyPacket} {login : Login}
    (h : s.confirmed l packet = some login) : login.number = s.logins login.socket := by
  unfold confirmed at h
  split at h
  · obtain ⟨player, -, rfl⟩ := Option.map_eq_some_iff.1 h
    rfl
  · cases h

/-- What has happened stays in the history. -/
theorem mem_history_handled {l : Lobby} {letter : Letter} {i : ℕ} {o : Outcome Lobby LobbyMsg} {f : Fact}
    (h : f ∈ s.history) : f ∈ (s.handled l letter i o).history :=
  List.mem_append_left _ (List.mem_append_left _ h)

/-- Nothing is served by what is presented. -/
theorem served_notMem_presentedBy (s : GameProcess Db) (l : Lobby) (letter : Letter) (login : Login) (connection : ℕ)
    (account : List UInt8) : Fact.served login connection account ∉ s.presentedBy l letter := by
  intro hmem
  unfold presentedBy at hmem
  split at hmem
  · obtain ⟨login', -, heq⟩ := Option.map_eq_some_iff.1 (Option.mem_toList.1 hmem)
    cases heq
  · cases hmem

/-- What the handling of a packet must do to the lobby, and whom it may serve. -/
theorem Invariant.handled (h : s.Invariant) {l : Lobby} {letter : Letter} {i : ℕ}
    {o : Outcome Lobby LobbyMsg}
    (hmeets : o.Meets (Lobby.Serves s.PlayerAuthenticated)
      (Lobby.Sound (s.handled l letter i o).Vouched)) : (s.handled l letter i o).Invariant where
  lobby := hmeets.2
  presented := fun a ha hlogin => h.presented a (List.mem_of_mem_eraseIdx ha) hlogin
  stored := fun a ha login horigin account tokenInfo hpacket =>
    (h.stored a (List.mem_of_mem_eraseIdx ha) login horigin account tokenInfo hpacket).imp_right
      mem_history_handled
  cause := fun a ha cause horigin => List.mem_append_left _
    (h.cause a (List.mem_of_mem_eraseIdx ha) cause horigin)
  queries := by
    intro query hquery
    rcases List.mem_append.1 hquery with hold | hnew
    · exact List.mem_append_left _ (h.queries query hold)
    · obtain ⟨cause, hcause, hmem⟩ := List.mem_flatMap.1 hnew
      obtain ⟨m, -, hm⟩ := List.mem_filterMap.1 hmem
      refine List.mem_append_right _ ?_
      unfold queryOf at hm
      split at hm
      · rw [← Option.some.inj hm]
        exact hcause
      · cases hm
  checked := by
    intro login hlogin
    refine Nat.le_trans ?_ (s.le_loginsAfter l letter.identify letter.packet login.socket)
    rcases List.mem_append.1 hlogin with hold | hnew
    · exact h.checked login hold
    · exact Nat.le_of_eq (number_confirmed (Option.mem_toList.1 hnew))
  served := by
    intro login connection account hserved
    rcases List.mem_append.1 hserved with hold | hnew
    · rcases List.mem_append.1 hold with hold | hpresented
      · exact (h.served login connection account hold).mono fun f => mem_history_handled
      · exact absurd hpresented (s.served_notMem_presentedBy l letter login connection account)
    · obtain ⟨m, hm, hfact⟩ := List.mem_filterMap.1 hnew
      obtain ⟨player, hplayer, heq⟩ := Option.map_eq_some_iff.1 hfact
      cases heq
      exact Authenticated.mono (hmeets.1 m hm player hplayer) fun f => mem_history_handled

/-- A player stays vouched for when the lobby has handled a packet that confirms no login. -/
theorem Vouched.handled {l : Lobby} {letter : Letter} {i : ℕ} {o : Outcome Lobby LobbyMsg}
    {player : Player} (h : s.Vouched player) (hconfirmed : s.confirmed l letter.packet = none)
    (hlogins : s.loginsAfter l letter.identify letter.packet player.socketKey.socket =
      s.logins player.socketKey.socket) : (s.handled l letter i o).Vouched player := by
  refine h.mono rfl (congrArg (Login.mk player.socketKey.socket) hlogins) (fun f => mem_history_handled) ?_
  have hchecked : (s.handled l letter i o).checked = s.checked := by
    unfold GameProcess.handled
    rw [hconfirmed]
    exact List.append_nil _
  rw [hchecked]

/-- The handling of a packet that neither makes nor confirms a login. -/
theorem Invariant.handled_plain (h : s.Invariant) {l : Lobby} {letter : Letter} {i : ℕ}
    {o : Outcome Lobby LobbyMsg} (hconfirmed : s.confirmed l letter.packet = none)
    (hlogins : s.loginBy l letter.identify letter.packet = none)
    (hmeets : o.Meets (Lobby.Serves s.PlayerAuthenticated) (Lobby.Sound s.Vouched)) :
    (s.handled l letter i o).Invariant :=
  h.handled <| hmeets.mono (fun _ hm => hm) fun _ hsound =>
    hsound.mono fun _ _ _ hplayer => hplayer.handled hconfirmed (by rw [loginsAfter, hlogins])

/-- A player with a serial number that is vouched for is authenticated. -/
theorem authenticated_of_known {player : Player} (h : Lobby.Known s.Vouched player) :
    s.PlayerAuthenticated player := by
  obtain ⟨hvouched, hne⟩ := h
  obtain ⟨-, -, -, -, hsn⟩ := id hvouched
  exact hvouched.authenticated (hsn hne)

theorem serves_known {m : LobbyMsg} (h : Lobby.Serves (Lobby.Known s.Vouched) m) :
    Lobby.Serves s.PlayerAuthenticated m :=
  fun player hplayer => authenticated_of_known (h player hplayer)

theorem serves_false {m : LobbyMsg} (h : Lobby.Serves (fun _ => False) m) :
    Lobby.Serves s.PlayerAuthenticated m :=
  fun player hplayer => (h player hplayer).elim

/-- The lobby handles `C2G_LoginByToken`. -/
theorem Invariant.loginByToken (h : s.Invariant) {l : Lobby} (hl : s.lobby = some l) {i : ℕ}
    {identify : NetIdentify} {account token : List UInt8} {origin : PacketOrigin}
    (hletter : s.inbox[i]? = some ⟨identify, .loginByToken account token, origin⟩) :
    (s.handled l ⟨identify, .loginByToken account token, origin⟩ i
      (l.handleLoginByToken identify account token)).Invariant := by
  have hsound := h.lobby l hl
  cases hadd : l.players.addPlayer identify account with
  | none =>
    refine h.handled_plain rfl (by simp [loginBy, hadd]) ?_
    unfold Lobby.handleLoginByToken
    rw [hadd]
    refine Outcome.meets_send (fun m hm => ?_) hsound
    obtain rfl := List.mem_singleton.1 hm
    exact Lobby.Serves.of_none rfl
  | some added =>
    obtain ⟨players, player⟩ := added
    obtain ⟨-, hfree, -⟩ := PlayerCollector.getPlayerBySocket_addPlayer hadd
    have hlogin : s.loginBy l identify (.loginByToken account token) =
        some ⟨identify.socketKey.socket, s.logins identify.socketKey.socket + 1⟩ := by
      simp [loginBy, hadd]
    have hlogins : s.loginsAfter l identify (.loginByToken account token) =
        Function.update s.logins identify.socketKey.socket
          (s.logins identify.socketKey.socket + 1) := by
      rw [loginsAfter, hlogin]
    have horigin := h.presented _ (List.mem_of_getElem? hletter) rfl
    simp only at horigin
    refine h.handled ?_
    -- the players that were there are at other sockets
    refine (Lobby.handleLoginByToken_meets (hsound.mono fun socket q hq hvouched =>
      hvouched.handled rfl ?_) ?_).mono (fun m hm => serves_false hm) fun t ht => ht
    · rw [hlogins]
      refine Function.update_of_ne ?_ _ _
      rintro heq
      rw [PlayerCollector.getPlayerBySocket_socket hq] at heq
      rw [← heq, hq] at hfree
      cases hfree
    -- the new one has a login that is not confirmed yet
    · have hnew : (s.handled l ⟨identify, .loginByToken account token, origin⟩ i
          (l.handleLoginByToken identify account token)).loginOf
            { Player.awake identify account with token := some token } =
          ⟨identify.socketKey.socket, s.logins identify.socketKey.socket + 1⟩ := by
        have hupdate := congrFun hlogins identify.socketKey.socket
        rw [Function.update_self] at hupdate
        exact congrArg (Login.mk identify.socketKey.socket) hupdate
      refine ⟨token, rfl, List.mem_append_left _ (List.mem_append_right _ ?_), fun hchecked => ?_,
        fun hne => absurd rfl hne⟩
      · rw [hnew]
        simp only [presentedBy, horigin, hlogin, Option.map_some, Option.toList_some]
        exact List.mem_singleton_self _
      · exfalso
        rw [hnew] at hchecked
        have hnumber := h.checked _ (by simpa [GameProcess.handled, confirmed] using hchecked)
        exact absurd hnumber (Nat.not_succ_le_self _)

/-- The lobby handles `MI_GameTokenToRedisRs`. -/
theorem Invariant.gameTokenToRedisRs (h : s.Invariant) {l : Lobby} (hl : s.lobby = some l) {i : ℕ}
    {identify : NetIdentify} {account : List UInt8} {tokenInfo : TokenInfo} {origin : PacketOrigin}
    (hletter : s.inbox[i]? = some ⟨identify, .gameTokenToRedisRs account tokenInfo, origin⟩)
    (hregular : s.RegularPacket l ⟨identify, .gameTokenToRedisRs account tokenInfo, origin⟩) :
    (s.handled l ⟨identify, .gameTokenToRedisRs account tokenInfo, origin⟩ i
      (l.handleGameTokenToRedisRs account tokenInfo)).Invariant := by
  have hsound := h.lobby l hl
  cases haccepts : l.accepts account tokenInfo with
  | none =>
    refine h.handled_plain (by simp [confirmed, haccepts]) rfl
      ((Lobby.handleGameTokenToRedisRs_meets hsound account tokenInfo).mono
        (fun m hm player hplayer => ?_) fun t ht => ht)
    have hserved := hm.1 player hplayer
    rw [haccepts] at hserved
    cases hserved
  | some player =>
    obtain ⟨-, hplayer, haccount, -⟩ := hsound.accepts haccepts
    obtain ⟨horigin, hslip⟩ := hregular player haccepts
    -- the token that was presented is the one that Redis held
    have hgood : ∀ token : List UInt8, player.token = some token →
        token ≠ [] ∧ Fact.stored (s.loginOf player) player.account token ∈ s.history := by
      intro token htoken
      obtain ⟨-, -, -, token', htoken', hvalid⟩ := hsound.accepts haccepts
      obtain rfl : token = token' := Option.some.inj (htoken.symm.trans htoken')
      have hequal : token ≠ [] ∧ token = tokenInfo.token := by
        by_contra hbad
        exact hslip token htoken ((tokenSlip_iff _ _).2 ⟨hvalid, hbad⟩)
      refine ⟨hequal.1, ?_⟩
      rcases h.stored _ (List.mem_of_getElem? hletter) _ horigin account tokenInfo rfl with
        hempty | hstored
      · exact absurd (hequal.2.trans hempty) hequal.1
      · rw [haccount, hequal.2]
        exact hstored
    have hplaced : l.Sound fun q => s.Vouched q ∧
        l.players.getPlayerBySocket q.socketKey.socket = some q := hsound.mono
      fun socket q hq hvouched =>
        ⟨hvouched, by rw [PlayerCollector.getPlayerBySocket_socket hq]; exact hq⟩
    refine h.handled ((Lobby.handleGameTokenToRedisRs_meets hplaced account tokenInfo).mono
      (fun m hm q hq => ?_) fun t ht => ht.mono fun socket q _ hq => ?_)
    · have hserved := hm.1 q hq
      rw [haccepts] at hserved
      obtain rfl := Option.some.inj hserved
      obtain ⟨token, htoken, hpresented, -, -⟩ := hsound.players _ player hplayer
      obtain ⟨hne, hstored⟩ := hgood token htoken
      exact ⟨token, hne, hpresented, hstored⟩
    · obtain ⟨⟨token, htoken, hpresented, hconfirmed, hsn⟩, hqplayer⟩ := hq
      refine ⟨token, htoken, mem_history_handled hpresented, fun hchecked => ?_,
        fun hne => List.mem_append_left _ (hsn hne)⟩
      have hstored : token ≠ [] ∧ Fact.stored (s.loginOf q) q.account token ∈ s.history := by
        rcases List.mem_append.1 hchecked with hold | hnew
        · exact hconfirmed hold
        · simp only [confirmed, haccepts, Option.map_some, Option.toList_some,
            List.mem_singleton] at hnew
          have hsocket : q.socketKey.socket = player.socketKey.socket :=
            congrArg Login.socket hnew
          rw [hsocket, hplayer] at hqplayer
          obtain rfl := Option.some.inj hqplayer
          exact hgood token htoken
      exact ⟨hstored.1, mem_history_handled hstored.2⟩

/-- The lobby handles `G2DB_QueryPlayerRs`. -/
theorem Invariant.queryPlayerRs (h : s.Invariant) {l : Lobby} (hl : s.lobby = some l) {i : ℕ}
    {identify : NetIdentify} {rs : QueryPlayerRs} {origin : PacketOrigin}
    (hletter : s.inbox[i]? = some ⟨identify, .queryPlayerRs rs, origin⟩)
    (hregular : s.RegularPacket l ⟨identify, .queryPlayerRs rs, origin⟩)
    (locator : WorldProxyLocator) :
    (s.handled l ⟨identify, .queryPlayerRs rs, origin⟩ i
      (l.handleQueryPlayerRs worlds locator rs)).Invariant := by
  have hsound := h.lobby l hl
  have hfound : ∀ player : Player, (l.players.getPlayerByAccount rs.account).1 = some player →
      s.Vouched player ∧ s.loginOf player ∈ s.checked ∧ rs.player.sn ≠ 0 := by
    intro player hplayer
    obtain ⟨horigin, hsn⟩ := hregular player hplayer
    refine ⟨?_, h.cause _ (List.mem_of_getElem? hletter) _ horigin, hsn⟩
    cases hsearch : l.players.getPlayerByAccount rs.account with
    | mk found players =>
      rw [hsearch] at hplayer
      simp only at hplayer
      subst hplayer
      exact hsound.players _ player (PlayerCollector.getPlayerByAccount_some hsearch).2.2
  refine h.handled_plain rfl rfl ((Lobby.handleQueryPlayerRs_meets hsound worlds locator
    fun player hplayer => ?_).mono (fun m hm p hp => ?_) fun t ht => ht)
  · obtain ⟨⟨token, htoken, hpresented, hconfirmed, -⟩, hchecked, hsn⟩ := hfound player hplayer
    exact ⟨⟨token, htoken, hpresented, hconfirmed, fun _ => hchecked⟩, hsn⟩
  · obtain ⟨player, hplayer, hp'⟩ := hm p hp
    obtain ⟨hvouched, hchecked, -⟩ := hfound player hplayer
    have hauth := hvouched.authenticated hchecked
    rcases hp' with rfl | rfl
    · exact hauth
    · exact hauth

/-- The lobby handles a packet. -/
theorem Invariant.lobbyHandles (h : s.Invariant) {i : ℕ} {locator : WorldProxyLocator}
    (hregular : s.Regular redis parser (.lobbyHandles i locator))
    (hstep : s.step redis parser worlds (.lobbyHandles i locator) = some t) : t.Invariant := by
  unfold step at hstep
  simp only at hstep
  split at hstep
  · rename_i l letter hl hletter
    obtain rfl := Option.some.inj hstep
    have hsound := h.lobby l hl
    have hpacket := hregular l hl letter hletter
    obtain ⟨identify, packet, origin⟩ := letter
    cases packet with
    | loginByToken account token => exact h.loginByToken hl hletter
    | gameTokenToRedisRs account tokenInfo => exact h.gameTokenToRedisRs hl hletter hpacket
    | queryPlayerRs rs => exact h.queryPlayerRs hl hletter hpacket locator
    | networkDisconnect =>
      exact h.handled_plain rfl rfl ((Lobby.handleNetworkDisconnect_meets hsound identify).mono
        (fun m hm => serves_false hm) fun t ht => ht)
    | queryWorldRs worldSn ok =>
      exact h.handled_plain rfl rfl ((Lobby.handleQueryWorldRs_meets hsound locator worldSn ok).mono
        (fun m hm => serves_known hm) fun t ht => ht)
    | broadcastCreateWorldProxy worldId worldSn =>
      exact h.handled_plain rfl rfl ((Lobby.handleBroadcastCreateWorldProxy_meets hsound worlds
        worldId worldSn).mono (fun m hm => serves_known hm) fun t ht => ht)
    | teleportAfter =>
      exact h.handled_plain rfl rfl ((Lobby.handleTeleportAfter_meets hsound identify).mono
        (fun m hm => serves_false hm) fun t ht => ht)
  · cases hstep

/-- **A regular step keeps the invariant.** -/
theorem Invariant.step (h : s.Invariant) {e : GameEvent Db} (hregular : s.Regular redis parser e)
    (hstep : s.step redis parser worlds e = some t) : t.Invariant := by
  cases e with
  | connect socket => exact h.connect hregular hstep
  | receive identify packet => exact h.receive hstep
  | receiveRequest account => exact Option.some.inj hstep ▸ h.withRedis _ _
  | redisChanges db => exact Option.some.inj hstep ▸ h.withRedis _ _
  | redisReads i => exact h.redisReads hregular hstep
  | dbReplies i identify rs => exact h.dbReplies hstep
  | serverSends identify packet => exact h.serverSends hstep
  | lobbyHandles i locator => exact h.lobbyHandles hregular hstep

end

end GameProcess

/-- **In a run whose steps are all regular, whoever is served is authenticated.** -/
theorem loginsAuthenticated_of_regular {Db : Type} {redis : OnlineRedis Db} {parser : TokenParser}
    {worlds : ResourceWorldMgr} {es : List (GameEvent Db)} {s : GameProcess Db}
    (hrun : ((GameProcess.system redis parser worlds).restrict (GameProcess.Regular redis parser)).Run es s) :
    s.LoginsAuthenticated := by
  have hinv : s.Invariant := by
    refine hrun.restrict_invariant (fun s₀ hinit => ?_) fun s₁ e s₂ h₁ hregular hstep => ?_
    · obtain ⟨sn, db, rfl⟩ := hinit
      exact GameProcess.invariant_start sn db
    · exact h₁.step hregular hstep
  exact hinv.served

/-! ### Two logins -/

/-- The only world is a public one. -/
def ResourceWorldMgr.single : ResourceWorldMgr where
  getResource id := if id = 3 then some .publicWorld else none
  initMap := 3

/-- A field of a `TokenInfo`. -/
def tokenInfoField (tag : ℕ) (m : TokenInfo) (bytes : List UInt8) : TokenInfo × Option (List UInt8) :=
  if tag = 10 then
    let read := Wire.readString m.token bytes
    ({ m with token := read.1 }, read.2)
  else if tag = 16 then Wire.readField m (fun playerSn => { m with playerSn := playerSn }) bytes
  else (m, none)

/-- A `TokenInfo` without unknown fields. -/
def tokenInfoParser : TokenParser where
  parse bytes := (Wire.merge tokenInfoField ⟨[], 0⟩ bytes).1
  parse_nil := rfl

/-- Redis holds a token for the account `a`. -/
def tokenOfA (stored : List UInt8) : List UInt8 → Option (List UInt8) := fun key =>
  if key = tokenKey [97] then some (tokenInfo stored 7) else none

/-- A client on the socket 5 presents a token for the account `a`; Redis holds one, and is asked;
and the lobby handles the reply. -/
def loginEvents (presented stored : List UInt8) : List (GameEvent (List UInt8 → Option (List UInt8))) :=
  [.receive ⟨⟨5, .tcpListen⟩, TagKey.clear⟩ (.loginByToken [97] presented),
    .redisChanges (tokenOfA stored), .lobbyHandles 0 ⟨fun _ => none, fun _ => false⟩,
    .redisReads 0, .lobbyHandles 0 ⟨fun _ => none, fun _ => false⟩]

/-- The database answers, and the lobby handles the reply when there is a proxy of the world. -/
def enterEvents : List (GameEvent (List UInt8 → Option (List UInt8))) :=
  [.dbReplies 0 ⟨SocketKey.none, TagKey.clear⟩ ⟨[97], ⟨7, [98], ⟨3, 0⟩, ⟨0, 0⟩⟩⟩,
    .lobbyHandles 0 ⟨fun _ => some 9, fun _ => false⟩]

/-- A client with the right token is served three times: by the answer, by its data, and by the
teleport. -/
theorem loginsAuthenticated_right : ∃ s : GameProcess (List UInt8 → Option (List UInt8)),
    s.history = [.presented ⟨5, 1⟩ 0 [97] [116], .stored ⟨5, 1⟩ [97] [116], .served ⟨5, 1⟩ 0 [97],
      .served ⟨5, 1⟩ 0 [97], .served ⟨5, 1⟩ 0 [97]] ∧ s.LoginsAuthenticated := by
  have hhistory : (Transition.System.execute
      (GameProcess.step functionRedis tokenInfoParser ResourceWorldMgr.single)
      (GameProcess.Regular functionRedis tokenInfoParser) (GameProcess.start 1 fun _ => none)
      (loginEvents [116] [116] ++ enterEvents)).map
        GameProcess.history = some [.presented ⟨5, 1⟩ 0 [97] [116], .stored ⟨5, 1⟩ [97] [116],
          .served ⟨5, 1⟩ 0 [97], .served ⟨5, 1⟩ 0 [97], .served ⟨5, 1⟩ 0 [97]] := by
    decide +kernel
  obtain ⟨s, hs, hfacts⟩ := Option.map_eq_some_iff.1 hhistory
  exact ⟨s, hfacts,
    loginsAuthenticated_of_regular (Transition.System.run_of_execute ⟨1, _, rfl⟩ hs)⟩

/-- **A client with an empty token** is served. -/
theorem not_loginsAuthenticated_empty :
    ¬ ∀ (Db : Type) (redis : OnlineRedis Db) (parser : TokenParser) (worlds : ResourceWorldMgr)
      (es : List (GameEvent Db)) (s : GameProcess Db),
      (GameProcess.system redis parser worlds).Run es s → s.LoginsAuthenticated := by
  intro hall
  have hhistory : (Transition.System.execute
      (GameProcess.step functionRedis tokenInfoParser ResourceWorldMgr.single)
      (fun _ _ => True) (GameProcess.start 1 fun _ => none) (loginEvents [] [116])).map
        GameProcess.history = some [.presented ⟨5, 1⟩ 0 [97] [], .stored ⟨5, 1⟩ [97] [116],
          .served ⟨5, 1⟩ 0 [97]] := by
    decide +kernel
  obtain ⟨s, hs, hfacts⟩ := Option.map_eq_some_iff.1 hhistory
  have hrun : (GameProcess.system functionRedis tokenInfoParser ResourceWorldMgr.single).Run
      (loginEvents [] [116]) s := Transition.System.run_of_execute_true ⟨1, _, rfl⟩ hs
  obtain ⟨token, hne, hpresented, -⟩ := hall _ _ _ _ _ s hrun ⟨5, 1⟩ 0 [97] (by rw [hfacts]; decide)
  rw [hfacts] at hpresented
  simp only [List.mem_cons, Fact.presented.injEq, true_and, reduceCtorEq, List.not_mem_nil,
    or_false] at hpresented
  exact hne hpresented

end MmoServer
