/-
**The accounts of the login process.**

A client that connects to the login process sends an account and a password.  The manager of the
accounts asks Redis whether the account is in use, opens a connection to an HTTP server, and asks
that server to check the password; then it asks the database for the characters of the account.
The client may create a character, and selects one; then Redis is asked for a token, with which the
client goes to the game process.  A player has no state that says how far it has come: a handler
looks at the components that the player has.

Main definitions:

* `MmoServer.AccountCheckReturnCode`, `MmoServer.processMsg` — the answer of the HTTP server;
* `MmoServer.AccountMgr` and its handlers, which send `MmoServer.AccountMsg`s;
* `MmoServer.ClientPacket`, `MmoServer.AccountMgr.processPacket` — the packets of clients;
* `MmoServer.AccountMgr.Holds` — every player has a given property, and an account leads to its
  player.

Main results:

* `MmoServer.AccountMgr.handleAccountCheck_meets`,
  `MmoServer.AccountMgr.handleAccountQueryOnlineToRedisRs_meets`,
  `MmoServer.AccountMgr.handleNetworkConnected_meets`,
  `MmoServer.AccountMgr.handleHttpOuterResponse_meets`,
  `MmoServer.AccountMgr.handleQueryPlayerListRs_meets`,
  `MmoServer.AccountMgr.handleCreatePlayer_meets`,
  `MmoServer.AccountMgr.handleSelectPlayer_meets`,
  `MmoServer.AccountMgr.handleNetworkDisconnect_meets` — **what each handler keeps of the players**,
  and about which player each of its messages is.
-/

import Mathlib.Data.Rat.Floor
import MmoServer.Outcome
import MmoServer.PlayerCollector

set_option relaxedAutoImplicit false
set_option autoImplicit false

namespace MmoServer

open Handler

/-! ### The answer of the HTTP server -/

/-- `AccountCheckReturnCode`. -/
inductive AccountCheckReturnCode
  | ok | unkonwn | notFoundAccount | passwordWrong | logging | timeout | online
  deriving DecidableEq, Repr

/-- The value of a member of a JSON object, as far as `asInt` tells them apart. -/
inductive JsonMember
  | null
  | bool (b : Bool)
  | int (n : ℤ)
  | real (q : ℚ)
  /-- A string, an array or an object. -/
  | other
  deriving DecidableEq

/-- A JSON text: an object has a member `returncode`, or none. -/
inductive JsonValue
  | null
  | object (returncode : Option JsonMember)
  /-- Neither an object nor null. -/
  | other
  deriving DecidableEq

/-- The range of `int`. -/
def intMin : ℤ := -2 ^ 31

/-- The range of `int`. -/
def intMax : ℤ := 2 ^ 31 - 1

/-- `Json::Value::asInt`; an exception if the value is no number, or too large. -/
def JsonMember.asInt : JsonMember → Option ℤ
  | .null => some 0
  | .bool b => some (if b then 1 else 0)
  | .int n => if intMin ≤ n ∧ n ≤ intMax then some n else none
  | .real q => if intMin ≤ q ∧ q ≤ intMax then some (q.num.tdiv q.den) else none
  | .other => none

/-- `value["returncode"]`: null if there is no such member, an exception if there are no members. -/
def JsonValue.returncode : JsonValue → Option JsonMember
  | .null => some .null
  | .object member => some (member.getD .null)
  | .other => none

/-- `ProcessMsg`; nothing if there is an exception. -/
def processMsg (value : JsonValue) : Option AccountCheckReturnCode :=
  (value.returncode.bind JsonMember.asInt).map fun httpcode =>
    if httpcode = 0 then .ok
    else if httpcode = 2 then .notFoundAccount
    else if httpcode = 3 then .passwordWrong
    else .unkonwn

/-- An HTTP response: its status, and its body if that is JSON. -/
structure HttpResponse where
  statusCode : ℤ
  body : Option JsonValue
  deriving DecidableEq

/-- What `HandleHttpOuterResponse` makes of a response. -/
def HttpResponse.rsCode (response : HttpResponse) : Option AccountCheckReturnCode :=
  if response.statusCode = 200 then
    match response.body with
    | none => some .timeout
    | some value => processMsg value
  else some .timeout

/-- **The response has the code 0**: it was successful, and its body says so. -/
def HttpResponse.ReturnsZero (response : HttpResponse) : Prop :=
  response.statusCode = 200 ∧
    (response.body = some (.object (some (.int 0))) ∨
      response.body = some (.object (some (.real 0))))

instance (response : HttpResponse) : Decidable response.ReturnsZero :=
  inferInstanceAs (Decidable (_ ∧ _))

/-- A response with the code 0 is taken as such. -/
theorem HttpResponse.ReturnsZero.rsCode {response : HttpResponse} (h : response.ReturnsZero) :
    response.rsCode = some .ok := by
  obtain ⟨hstatus, hbody | hbody⟩ := h
  · simp [HttpResponse.rsCode, hstatus, hbody, processMsg, JsonValue.returncode, JsonMember.asInt,
      intMin, intMax]
  · have hmin : (-2 ^ 31 : ℚ) ≤ 0 := by norm_num
    have hmax : (0 : ℚ) ≤ 2 ^ 31 - 1 := by norm_num
    simp [HttpResponse.rsCode, hstatus, hbody, processMsg, JsonValue.returncode, JsonMember.asInt,
      intMin, intMax]

/-! ### The manager and its handlers -/

/-- What the manager of the accounts sends. -/
inductive AccountMsg
  /-- `C2L_AccountCheckRs`. -/
  | accountCheckRs (identify : NetIdentify) (code : AccountCheckReturnCode)
  /-- `MI_NetworkRequestDisconnect`. -/
  | networkRequestDisconnect (identify : NetIdentify)
  /-- `MI_AccountQueryOnlineToRedis`. -/
  | accountQueryOnlineToRedis (account : List UInt8)
  /-- `MI_NetworkConnect` to the HTTP server, with the account as the tag of the connection. -/
  | createConnect (account : List UInt8)
  /-- `MI_HttpOuterRequest` for a player, over the connection of a packet. -/
  | httpRequest (player : Player) (socketKey : SocketKey) (account password : List UInt8)
  /-- `L2DB_QueryPlayerList` for a player. -/
  | queryPlayerList (player : Player) (account : List UInt8)
  /-- `L2C_PlayerList` to the client of a player. -/
  | playerList (player : Player) (players : List UInt64)
  /-- `L2DB_CreatePlayer` for a player. -/
  | createPlayer (player : Player) (account : List UInt8) (sn : UInt64) (name : List UInt8)
      (gender : ℤ)
  /-- `C2L_CreatePlayerRs` to the client of a player. -/
  | createPlayerRs (player : Player) (returnCode : ℤ)
  /-- `C2L_SelectPlayerRs` to the client of a player: `SPRC_NotFound`. -/
  | selectPlayerRs (player : Player)
  /-- `MI_LoginTokenToRedis` for a player. -/
  | loginTokenToRedis (player : Player) (account : List UInt8) (playerSn : UInt64)
  /-- `L2C_GameToken` to the client of a player: `GameToken_NO_GAME`, or a game process and the
  token. -/
  | gameToken (player : Player) (app : Option (List UInt8 × ℤ × List UInt8))

/-- `AccountMgr`, with its collector of players. -/
structure AccountMgr where
  players : PlayerCollector

namespace AccountMgr

/-- A new manager. -/
def awake : AccountMgr := ⟨PlayerCollector.empty⟩

/-- `SocketDisconnect`. -/
def socketDisconnect (identify : NetIdentify) : List AccountMsg :=
  [.accountCheckRs identify .logging, .networkRequestDisconnect identify]

/-- `HandleAccountCheck`. -/
def handleAccountCheck (m : AccountMgr) (identify : NetIdentify) (account password : List UInt8) :
    Outcome AccountMgr AccountMsg :=
  match m.players.getPlayerByAccount account with
  | (some _, _) => .send (socketDisconnect identify) m
  | (none, players) =>
    match players.addPlayer identify account with
    | none => .send (socketDisconnect identify) ⟨players⟩
    | some (players, player) =>
      .send [.accountQueryOnlineToRedis (cStr player.account)]
        ⟨players.insert { player with accountInfo := some ⟨password, 0⟩ }⟩

/-- `HandleAccountQueryOnlineToRedisRs`. -/
def handleAccountQueryOnlineToRedisRs (m : AccountMgr) (account : List UInt8) (offline : Bool) :
    Outcome AccountMgr AccountMsg :=
  match m.players.getPlayerByAccount account with
  | (none, players) => .pure ⟨players⟩
  | (some player, _) =>
    if offline then .send [.createConnect (cStr player.account)] m
    else .send [.accountCheckRs player.toNetIdentify .online] m

/-- `HandleNetworkConnected`.  A player without its account component is a null pointer. -/
def handleNetworkConnected (m : AccountMgr) (identify : NetIdentify) :
    Outcome AccountMgr AccountMsg :=
  match identify.tagKey.getTagValue .account with
  | none => .pure m
  | some value =>
    if identify.socketKey.netType ≠ .httpConnector then .pure m
    else
      match m.players.getPlayerByAccount value.keyStr with
      | (none, players) => .pure ⟨players⟩
      | (some player, _) =>
        match player.accountInfo with
        | none => .crash []
        | some info =>
          .send [.httpRequest player identify.socketKey player.account info.password] m

/-- `HandleHttpOuterResponse`. -/
def handleHttpOuterResponse (m : AccountMgr) (identify : NetIdentify) (response : HttpResponse) :
    Outcome AccountMgr AccountMsg :=
  match identify.tagKey.getTagValue .account with
  | none => .pure m
  | some value =>
    match m.players.getPlayerByAccount value.keyStr with
    | (none, players) => .pure ⟨players⟩
    | (some player, _) =>
      match response.rsCode with
      | none => .crash []
      | some .ok =>
        .send
          [.networkRequestDisconnect identify, .queryPlayerList player (cStr player.account)] m
      | some rsCode =>
        .send [.networkRequestDisconnect identify, .accountCheckRs player.toNetIdentify rsCode] m

/-- `HandleQueryPlayerListRs`; the component with the characters is made when there are any. -/
def handleQueryPlayerListRs (m : AccountMgr) (account : List UInt8) (players : List UInt64) :
    Outcome AccountMgr AccountMsg :=
  match m.players.getPlayerByAccount account with
  | (none, collector) => .pure ⟨collector⟩
  | (some player, _) =>
    .send [.playerList player players]
      (if players.isEmpty then m
        else
          ⟨m.players.insert { player with protoList := some (player.protoList.getD [] ++ players) }⟩)

/-- `HandleCreatePlayer`: with a new serial number. -/
def handleCreatePlayer (m : AccountMgr) (identify : NetIdentify) (sn : UInt64) (name : List UInt8)
    (gender : ℤ) : Outcome AccountMgr AccountMsg :=
  match m.players.getPlayerBySocket identify.socketKey.socket with
  | none => .pure m
  | some player => .send [.createPlayer player (cStr player.account) sn name gender] m

/-- `HandleCreatePlayerRs`. -/
def handleCreatePlayerRs (m : AccountMgr) (identify : NetIdentify) (returnCode : ℤ) :
    Outcome AccountMgr AccountMsg :=
  match m.players.getPlayerBySocket identify.socketKey.socket with
  | none => .pure m
  | some player => .send [.createPlayerRs player returnCode] m

/-- `RequestToken`. -/
def requestToken (player : Player) (info : PlayerComponentAccount) : AccountMsg :=
  .loginTokenToRedis player (cStr player.account) info.selectPlayerSn

/-- `HandleSelectPlayer`.  A player without its account component is a null pointer. -/
def handleSelectPlayer (m : AccountMgr) (identify : NetIdentify) (playerSn : UInt64) :
    Outcome AccountMgr AccountMsg :=
  match m.players.getPlayerBySocket identify.socketKey.socket with
  | none => .pure m
  | some old =>
    match old.accountInfo with
    | none => .crash []
    | some oldInfo =>
      let info := { oldInfo with selectPlayerSn := playerSn }
      let player := { old with accountInfo := some info }
      if playerSn ∈ player.protoList.getD [] then
        let player := { player with playerSn := playerSn }
        .send [requestToken player info] ⟨m.players.insert player⟩
      else .send [.selectPlayerRs player] ⟨m.players.insert player⟩

/-- `HandleTokenToRedisRs`, with the game process that `GetOneApp` has found. -/
def handleTokenToRedisRs (m : AccountMgr) (account token : List UInt8)
    (app : Option (List UInt8 × ℤ)) : Outcome AccountMgr AccountMsg :=
  match m.players.getPlayerByAccount account with
  | (none, players) => .pure ⟨players⟩
  | (some player, _) =>
    .send [.gameToken player (app.map fun info => (cStr info.1, info.2, token))] m

/-- `HandleNetworkDisconnect`. -/
def handleNetworkDisconnect (m : AccountMgr) (identify : NetIdentify) :
    Outcome AccountMgr AccountMsg :=
  if identify.socketKey.netType ≠ .tcpListen then .pure m
  else .pure ⟨m.players.removePlayerBySocket identify.socketKey.socket⟩

end AccountMgr

/-! ### Packets of clients -/

/-- The packets of a client that the manager has registered for. -/
inductive ClientPacket
  | accountCheck (account password : List UInt8)
  | createPlayer (name : List UInt8) (gender : ℤ)
  | selectPlayer (playerSn : UInt64)
  deriving DecidableEq

/-- `ProcessPacket`: the handler of a packet, with the next serial number. -/
def AccountMgr.processPacket (m : AccountMgr) (identify : NetIdentify) (sn : UInt64) :
    ClientPacket → Outcome AccountMgr AccountMsg
  | .accountCheck account password => m.handleAccountCheck identify account password
  | .createPlayer name gender => m.handleCreatePlayer identify sn name gender
  | .selectPlayer playerSn => m.handleSelectPlayer identify playerSn

/-! ### What the handlers keep -/

/-- Every player has a property, and an account leads to its player. -/
structure AccountMgr.Holds (R : Player → Prop) (m : AccountMgr) : Prop where
  players : ∀ (socket : ℤ) (player : Player),
    m.players.getPlayerBySocket socket = some player → R player
  consistent : m.players.Consistent

namespace AccountMgr

variable {R R' : Player → Prop} {Q : AccountMsg → Prop} {m : AccountMgr}

theorem holds_awake : awake.Holds R where
  players := by
    intro socket player h
    cases h
  consistent := PlayerCollector.consistent_empty

/-- The property may be weakened for the players that are there. -/
theorem Holds.mono (hm : m.Holds R)
    (h : ∀ (socket : ℤ) (player : Player), m.players.getPlayerBySocket socket = some player →
      R player → R' player) : m.Holds R' where
  players := fun socket player hplayer => h socket player hplayer (hm.players socket player hplayer)
  consistent := hm.consistent

/-- The player that is found by its account is one of the players, and has the account. -/
theorem Holds.getPlayerByAccount (hm : m.Holds R) {account : List UInt8} {player : Player}
    {players : PlayerCollector}
    (h : m.players.getPlayerByAccount account = (some player, players)) :
    m.players.getPlayerBySocket player.socketKey.socket = some player ∧ R player ∧
      player.account = account := by
  obtain ⟨-, -, hplayer⟩ := PlayerCollector.getPlayerByAccount_some h
  exact ⟨hplayer, hm.players _ player hplayer, hm.consistent.account_eq h⟩

/-- A search for an account that finds nothing. -/
theorem Holds.forget (hm : m.Holds R) {account : List UInt8} {players : PlayerCollector}
    (h : m.players.getPlayerByAccount account = (none, players)) :
    (⟨players⟩ : AccountMgr).Holds R := by
  obtain ⟨hconsistent, hframe⟩ := hm.consistent.getPlayerByAccount_none h
  refine ⟨fun socket player hplayer => ?_, hconsistent⟩
  rw [hframe] at hplayer
  exact hm.players socket player hplayer

/-- A player that is changed, but not in its socket and its account. -/
theorem Holds.insert (hm : m.Holds R) {old player : Player}
    (hold : m.players.getPlayerBySocket player.socketKey.socket = some old)
    (haccount : player.account = old.account) (hplayer : R player) :
    (⟨m.players.insert player⟩ : AccountMgr).Holds R := by
  refine ⟨fun socket q hq => ?_, hm.consistent.insert hold haccount⟩
  rw [PlayerCollector.getPlayerBySocket_insert] at hq
  by_cases hsocket : player.socketKey.socket = socket
  · rw [if_pos hsocket] at hq
    exact Option.some.inj hq ▸ hplayer
  · rw [if_neg hsocket] at hq
    exact hm.players socket q hq

/-- A player that is removed. -/
theorem Holds.removePlayerBySocket (hm : m.Holds R) (s : ℤ) :
    (⟨m.players.removePlayerBySocket s⟩ : AccountMgr).Holds
      fun player => R player ∧ player.socketKey.socket ≠ s := by
  refine ⟨fun socket player hplayer => ?_, hm.consistent.removePlayerBySocket s⟩
  have hsocket := PlayerCollector.getPlayerBySocket_socket hplayer
  rw [PlayerCollector.getPlayerBySocket_removePlayerBySocket] at hplayer
  by_cases hs : s = socket
  · rw [if_pos hs] at hplayer
    cases hplayer
  · rw [if_neg hs] at hplayer
    exact ⟨hm.players socket player hplayer, fun heq => hs (heq.symm.trans hsocket)⟩

/-- **A check of an account** makes a player with its password, at a free socket, and asks Redis. -/
theorem handleAccountCheck_meets (hm : m.Holds R) {identify : NetIdentify}
    {account password : List UInt8}
    (hnew : R { Player.awake identify account with accountInfo := some ⟨password, 0⟩ })
    (hrefuse : ∀ msg ∈ socketDisconnect identify, Q msg)
    (hquery : Q (.accountQueryOnlineToRedis (cStr account))) :
    (m.handleAccountCheck identify account password).Meets Q (Holds R) := by
  unfold handleAccountCheck
  cases hsearch : m.players.getPlayerByAccount account with
  | mk found players =>
    cases found with
    | some player => exact Outcome.meets_send hrefuse hm
    | none =>
      have hforget := hm.forget hsearch
      cases hadd : players.addPlayer identify account with
      | none =>
        simp only [hadd]
        exact Outcome.meets_send hrefuse hforget
      | some added =>
        obtain ⟨collector, player⟩ := added
        obtain ⟨rfl, -, hframe⟩ := PlayerCollector.getPlayerBySocket_addPlayer hadd
        have hown : collector.getPlayerBySocket (Player.awake identify account).socketKey.socket =
            some (Player.awake identify account) := by
          rw [hframe]
          exact if_pos rfl
        simp only [hadd]
        refine Outcome.meets_send (fun msg hmsg => ?_) ⟨fun socket q hq => ?_, ?_⟩
        · obtain rfl := List.mem_singleton.1 hmsg
          exact hquery
        · rw [PlayerCollector.getPlayerBySocket_insert] at hq
          by_cases hsocket : identify.socketKey.socket = socket
          · rw [if_pos (show (Player.awake identify account).socketKey.socket = socket
              from hsocket)] at hq
            exact Option.some.inj hq ▸ hnew
          · rw [if_neg (show ¬ (Player.awake identify account).socketKey.socket = socket
              from hsocket), hframe, if_neg hsocket] at hq
            exact hforget.players socket q hq
        · exact (hforget.consistent.addPlayer hadd).insert hown rfl

/-- **A reply from Redis** opens a connection for the player of the account, or refuses it. -/
theorem handleAccountQueryOnlineToRedisRs_meets (hm : m.Holds R) {account : List UInt8}
    (offline : Bool) (honline : ∀ player : Player, Q (.accountCheckRs player.toNetIdentify .online))
    (hconnect : Q (.createConnect (cStr account))) :
    (m.handleAccountQueryOnlineToRedisRs account offline).Meets Q (Holds R) := by
  unfold handleAccountQueryOnlineToRedisRs
  cases hsearch : m.players.getPlayerByAccount account with
  | mk found players =>
    cases found with
    | none => exact Outcome.meets_pure (hm.forget hsearch)
    | some player =>
      obtain ⟨-, -, rfl⟩ := hm.getPlayerByAccount hsearch
      cases offline with
      | true =>
        refine Outcome.meets_send (fun msg hmsg => ?_) hm
        obtain rfl := List.mem_singleton.1 hmsg
        exact hconnect
      | false =>
        refine Outcome.meets_send (fun msg hmsg => ?_) hm
        obtain rfl := List.mem_singleton.1 hmsg
        exact honline player

/-- **A connection to the HTTP server** sends the request for the player of its account, with that
account. -/
theorem handleNetworkConnected_meets (hm : m.Holds R) {identify : NetIdentify}
    (hrequest : ∀ (value : TagValue) (player : Player) (password : List UInt8),
      identify.tagKey.getTagValue .account = some value → player.account = value.keyStr →
        Q (.httpRequest player identify.socketKey value.keyStr password)) :
    (m.handleNetworkConnected identify).Meets Q (Holds R) := by
  unfold handleNetworkConnected
  cases htag : identify.tagKey.getTagValue .account with
  | none => exact Outcome.meets_pure hm
  | some value =>
    simp only
    split
    · exact Outcome.meets_pure hm
    · cases hsearch : m.players.getPlayerByAccount value.keyStr with
      | mk found players =>
        cases found with
        | none => exact Outcome.meets_pure (hm.forget hsearch)
        | some player =>
          obtain ⟨-, -, haccount⟩ := hm.getPlayerByAccount hsearch
          cases hinfo : player.accountInfo with
          | none =>
            simp only [hinfo]
            refine Outcome.meets_crash fun msg hmsg => ?_
            cases hmsg
          | some info =>
            simp only [hinfo]
            refine Outcome.meets_send (fun msg hmsg => ?_) hm
            obtain rfl := List.mem_singleton.1 hmsg
            rw [haccount]
            exact hrequest value player info.password htag haccount

/-- **An HTTP response** closes its connection; if it is a good one, the database is asked for the
characters of the player of the account. -/
theorem handleHttpOuterResponse_meets (hm : m.Holds R) {identify : NetIdentify}
    {response : HttpResponse}
    (hclose : Q (.networkRequestDisconnect identify))
    (hfail : ∀ (player : Player) (rsCode : AccountCheckReturnCode),
      Q (.accountCheckRs player.toNetIdentify rsCode))
    (hquery : ∀ (value : TagValue) (player : Player),
      identify.tagKey.getTagValue .account = some value →
      (m.players.getPlayerByAccount value.keyStr).1 = some player →
      player.account = value.keyStr → response.rsCode = some .ok →
        Q (.queryPlayerList player (cStr value.keyStr))) :
    (m.handleHttpOuterResponse identify response).Meets Q (Holds R) := by
  unfold handleHttpOuterResponse
  cases htag : identify.tagKey.getTagValue .account with
  | none => exact Outcome.meets_pure hm
  | some value =>
    simp only
    cases hsearch : m.players.getPlayerByAccount value.keyStr with
    | mk found players =>
      cases found with
      | none => exact Outcome.meets_pure (hm.forget hsearch)
      | some player =>
        obtain ⟨-, -, haccount⟩ := hm.getPlayerByAccount hsearch
        have hfailed : ∀ rsCode, ∀ msg ∈ [AccountMsg.networkRequestDisconnect identify,
            .accountCheckRs player.toNetIdentify rsCode], Q msg := by
          intro rsCode msg hmsg
          simp only [List.mem_cons, List.not_mem_nil, or_false] at hmsg
          rcases hmsg with rfl | rfl
          · exact hclose
          · exact hfail player rsCode
        cases hcode : response.rsCode with
        | none =>
          simp only
          refine Outcome.meets_crash fun msg hmsg => ?_
          cases hmsg
        | some rsCode =>
          simp only
          cases rsCode with
          | ok =>
            refine Outcome.meets_send (fun msg hmsg => ?_) hm
            simp only [List.mem_cons, List.not_mem_nil, or_false] at hmsg
            rcases hmsg with rfl | rfl
            · exact hclose
            · rw [haccount]
              exact hquery value player htag (by rw [hsearch]) haccount hcode
          | _ => exact Outcome.meets_send (hfailed _) hm

/-- **A list of characters** is passed on to the player of the account, which keeps it if it is not
empty. -/
theorem handleQueryPlayerListRs_meets (hm : m.Holds R) {account : List UInt8}
    {players : List UInt64} (hlist : ∀ player : Player, Q (.playerList player players))
    (hkeep : ∀ player : Player, (m.players.getPlayerByAccount account).1 = some player →
      player.account = account → R player → players ≠ [] →
        R { player with protoList := some (player.protoList.getD [] ++ players) }) :
    (m.handleQueryPlayerListRs account players).Meets Q (Holds R) := by
  unfold handleQueryPlayerListRs
  cases hsearch : m.players.getPlayerByAccount account with
  | mk found collector =>
    cases found with
    | none => exact Outcome.meets_pure (hm.forget hsearch)
    | some player =>
      obtain ⟨hplayer, hR, haccount⟩ := hm.getPlayerByAccount hsearch
      refine Outcome.meets_send (fun msg hmsg => ?_) ?_
      · obtain rfl := List.mem_singleton.1 hmsg
        exact hlist player
      · cases hplayers : players with
        | nil => exact hm
        | cons sn rest =>
          rw [← hplayers]
          have hnew := hkeep player (by rw [hsearch]) haccount hR (by simp [hplayers])
          have hinsert : (⟨m.players.insert { player with
              protoList := some (player.protoList.getD [] ++ players) }⟩ : AccountMgr).Holds R :=
            hm.insert hplayer rfl hnew
          simp only [hplayers, List.isEmpty_cons, Bool.false_eq_true, if_false]
          rw [← hplayers]
          exact hinsert

/-- **A request for a new character** is passed on to the database, for the player of the socket. -/
theorem handleCreatePlayer_meets (hm : m.Holds R) {identify : NetIdentify} {sn : UInt64}
    {name : List UInt8} {gender : ℤ}
    (hcreate : ∀ player : Player,
      m.players.getPlayerBySocket identify.socketKey.socket = some player →
        Q (.createPlayer player (cStr player.account) sn name gender)) :
    (m.handleCreatePlayer identify sn name gender).Meets Q (Holds R) := by
  unfold handleCreatePlayer
  cases hplayer : m.players.getPlayerBySocket identify.socketKey.socket with
  | none => exact Outcome.meets_pure hm
  | some player =>
    refine Outcome.meets_send (fun msg hmsg => ?_) hm
    obtain rfl := List.mem_singleton.1 hmsg
    exact hcreate player hplayer

/-- **A character that was not created**: its client is told. -/
theorem handleCreatePlayerRs_meets (hm : m.Holds R) {identify : NetIdentify} {returnCode : ℤ}
    (htell : ∀ player : Player, Q (.createPlayerRs player returnCode)) :
    (m.handleCreatePlayerRs identify returnCode).Meets Q (Holds R) := by
  unfold handleCreatePlayerRs
  cases m.players.getPlayerBySocket identify.socketKey.socket with
  | none => exact Outcome.meets_pure hm
  | some player =>
    refine Outcome.meets_send (fun msg hmsg => ?_) hm
    obtain rfl := List.mem_singleton.1 hmsg
    exact htell player

/-- **A selection** asks Redis for a token if the player of the socket has the character. -/
theorem handleSelectPlayer_meets (hm : m.Holds R) {identify : NetIdentify} {playerSn : UInt64}
    (hkeep : ∀ (player : Player) (info : PlayerComponentAccount) (sn : UInt64), R player →
      R { player with accountInfo := some info, playerSn := sn })
    (hfail : ∀ player : Player, Q (.selectPlayerRs player))
    (htoken : ∀ player : Player, R player → playerSn ∈ player.protoList.getD [] →
      Q (.loginTokenToRedis player (cStr player.account) playerSn)) :
    (m.handleSelectPlayer identify playerSn).Meets Q (Holds R) := by
  unfold handleSelectPlayer
  cases hold : m.players.getPlayerBySocket identify.socketKey.socket with
  | none => exact Outcome.meets_pure hm
  | some old =>
    have hR := hm.players _ old hold
    have hplace : m.players.getPlayerBySocket old.socketKey.socket = some old := by
      rw [PlayerCollector.getPlayerBySocket_socket hold]
      exact hold
    cases hinfo : old.accountInfo with
    | none =>
      simp only [hinfo]
      refine Outcome.meets_crash fun msg hmsg => ?_
      cases hmsg
    | some oldInfo =>
      simp only [hinfo]
      by_cases hmem : playerSn ∈ old.protoList.getD []
      · rw [if_pos hmem]
        have hnew := hkeep old { oldInfo with selectPlayerSn := playerSn } playerSn hR
        refine Outcome.meets_send (fun msg hmsg => ?_) (hm.insert hplace rfl hnew)
        obtain rfl := List.mem_singleton.1 hmsg
        exact htoken _ hnew hmem
      · rw [if_neg hmem]
        have hnew := hkeep old { oldInfo with selectPlayerSn := playerSn } old.playerSn hR
        refine Outcome.meets_send (fun msg hmsg => ?_) (hm.insert hplace rfl hnew)
        obtain rfl := List.mem_singleton.1 hmsg
        exact hfail _

/-- **A token** is told to the player of the account. -/
theorem handleTokenToRedisRs_meets (hm : m.Holds R) {account token : List UInt8}
    {app : Option (List UInt8 × ℤ)}
    (htell : ∀ (player : Player) (info : Option (List UInt8 × ℤ × List UInt8)),
      Q (.gameToken player info)) :
    (m.handleTokenToRedisRs account token app).Meets Q (Holds R) := by
  unfold handleTokenToRedisRs
  cases hsearch : m.players.getPlayerByAccount account with
  | mk found players =>
    cases found with
    | none => exact Outcome.meets_pure (hm.forget hsearch)
    | some player =>
      refine Outcome.meets_send (fun msg hmsg => ?_) hm
      obtain rfl := List.mem_singleton.1 hmsg
      exact htell player _

/-- **A client's connection that is closed** takes its player with it. -/
theorem handleNetworkDisconnect_meets (hm : m.Holds R) (identify : NetIdentify) :
    (m.handleNetworkDisconnect identify).Meets Q (Holds fun player => R player ∧
      (identify.socketKey.netType = .tcpListen →
        player.socketKey.socket ≠ identify.socketKey.socket)) := by
  unfold handleNetworkDisconnect
  by_cases hlisten : identify.socketKey.netType = .tcpListen
  · rw [if_neg (not_not.2 hlisten)]
    exact Outcome.meets_pure ((hm.removePlayerBySocket _).mono
      fun socket player _ hplayer => ⟨hplayer.1, fun _ => hplayer.2⟩)
  · rw [if_pos hlisten]
    exact Outcome.meets_pure (hm.mono
      fun socket player _ hplayer => ⟨hplayer, fun h => absurd h hlisten⟩)

end AccountMgr

end MmoServer
