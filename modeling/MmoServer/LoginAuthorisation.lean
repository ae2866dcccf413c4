/-
**Who gets a token for the game.**

Clients, Redis, the HTTP server and the database exchange packets with the manager of the accounts,
and replies arrive in any order, or not at all.  A client sends any of its packets at any time.
Sockets are reused: a socket gets its next connection when the last one is closed.  Every request
under way is kept with the connection of the player that it was made for, and the state has a
history of the accounts that were checked, of the checks that were verified, and of the tokens
that were requested; no step looks at these.

Main definitions:

* `MmoServer.LoginProcess`, `MmoServer.LoginEvent`, `MmoServer.LoginProcess.step` — the process,
  and what can happen;
* `MmoServer.LoginProcess.TokensVerified` — a token is requested for a connection only if the
  connection has sent a check of that account before, and the check was verified;
* `MmoServer.LoginProcess.Orderly` — a reply that lets a player go on who is not verified was asked for by its
  connection, and it is a response with the code 0, or a list that was queried.

Main results:

* `MmoServer.LoginProcess.Invariant.step` — what one step keeps;
* `MmoServer.tokensVerified_of_orderly` — **in a run whose steps are all orderly, tokens are
  requested for verified accounts only**;
* `MmoServer.not_tokensVerified_create` — **a client with a wrong password that creates a
  character** gets a token.
-/

import MmoServer.AccountMgr
import MmoServer.Transition

set_option relaxedAutoImplicit false
set_option autoImplicit false

namespace MmoServer

open Handler

/-! ### Requests under way, and what has happened -/

/-- A request that the manager of the accounts has made, with the connection of the player that it
was made for. -/
inductive LoginRequest
  /-- `MI_AccountQueryOnlineToRedis`. -/
  | queryOnline (account : List UInt8)
  /-- `MI_NetworkConnect`: the connection will have the tag. -/
  | connect (tag : List UInt8)
  /-- `MI_HttpOuterRequest` over a connection with the tag. -/
  | http (tag : List UInt8) (cause : Login) (account : List UInt8)
  /-- `L2DB_QueryPlayerList`. -/
  | queryPlayerList (cause : Login) (account : List UInt8)
  /-- `L2DB_CreatePlayer`. -/
  | createPlayer (cause : Login) (account : List UInt8)
  /-- `MI_LoginTokenToRedis`. -/
  | token (account : List UInt8)
  deriving DecidableEq

/-- What has happened. -/
inductive LoginFact
  /-- A client has sent a check of an account over a connection. -/
  | accountChecked (connection : Login) (account : List UInt8)
  /-- The HTTP server has returned the code 0 for the check of an account. -/
  | verified (connection : Login) (account : List UInt8)
  /-- A token for an account was requested for a connection. -/
  | tokenRequested (connection : Login) (account : List UInt8)
  deriving DecidableEq

/-- The login process, with the requests that are under way. -/
structure LoginProcess where
  mgr : Option AccountMgr
  requests : List LoginRequest
  /-- How many connections of a socket were closed. -/
  connection : ℤ → ℕ
  history : List LoginFact

/-- What can happen. -/
inductive LoginEvent
  /-- A client sends a packet. -/
  | receive (identify : NetIdentify) (packet : ClientPacket) (sn : UInt64)
  /-- A connection is closed. -/
  | disconnect (identify : NetIdentify)
  /-- `RedisLogin::HandleAccountQueryOnline` answers a query. -/
  | queryOnlineRs (i : ℕ) (offline : Bool)
  /-- A connection to the HTTP server is there. -/
  | connected (i : ℕ) (socketKey : SocketKey)
  /-- The HTTP server answers a request. -/
  | httpRs (i : ℕ) (socketKey : SocketKey) (response : HttpResponse)
  /-- `MysqlConnector::QueryPlayerList`: the database answers a query, or the creation of a
  character. -/
  | queryPlayerListRs (i : ℕ) (players : List UInt64)
  /-- `MysqlConnector::HandleCreatePlayer`: a character was not created. -/
  | createPlayerRs (i : ℕ) (identify : NetIdentify) (returnCode : ℤ)
  /-- `RedisLogin::HandleLoginTokenToRedis` answers a request. -/
  | tokenRs (i : ℕ) (token : List UInt8) (app : Option (List UInt8 × ℤ))

/-- A connection with a tag for its account. -/
def accountIdentify (socketKey : SocketKey) (account : List UInt8) : NetIdentify :=
  ⟨socketKey, TagKey.clear.addTagStr .account account⟩

/-- A packet from inside the process. -/
def innerIdentify : NetIdentify := ⟨SocketKey.none, TagKey.clear⟩

namespace LoginProcess

/-! ### Steps -/

/-- The connection of a player: its socket, and how many connections of it were closed before. -/
def loginOf (s : LoginProcess) (player : Player) : Login :=
  ⟨player.socketKey.socket, s.connection player.socketKey.socket⟩

/-- The request that a message makes, when a packet is handled. -/
def requestOf (s : LoginProcess) (identify : NetIdentify) : AccountMsg → Option LoginRequest
  | .accountQueryOnlineToRedis account => some (.queryOnline account)
  | .createConnect account => some (.connect account)
  | .httpRequest player _ account _ =>
    (identify.tagKey.getTagValue .account).map fun value =>
      .http value.keyStr (s.loginOf player) account
  | .queryPlayerList player account => some (.queryPlayerList (s.loginOf player) account)
  | .createPlayer player account _ _ _ => some (.createPlayer (s.loginOf player) account)
  | .loginTokenToRedis _ account _ => some (.token account)
  | _ => none

/-- The token that a message requests. -/
def tokenOf (s : LoginProcess) : AccountMsg → Option LoginFact
  | .loginTokenToRedis player account _ => some (.tokenRequested (s.loginOf player) account)
  | _ => none

/-- The manager has handled a packet. -/
def handled (s : LoginProcess) (identify : NetIdentify) (o : Outcome AccountMgr AccountMsg) :
    LoginProcess :=
  { s with
    mgr := o.state
    requests := s.requests ++ o.sent.filterMap (s.requestOf identify)
    history := s.history ++ o.sent.filterMap s.tokenOf }

/-- A request is answered, and something has happened. -/
def answered (s : LoginProcess) (i : ℕ) (facts : List LoginFact) : LoginProcess :=
  { s with requests := s.requests.eraseIdx i, history := s.history ++ facts }

/-- What a packet of a client checks. -/
def checkedBy (s : LoginProcess) (identify : NetIdentify) : ClientPacket → List LoginFact
  | .accountCheck account _ =>
    [.accountChecked ⟨identify.socketKey.socket, s.connection identify.socketKey.socket⟩ account]
  | _ => []

/-- What a response verifies. -/
def verifiedBy (cause : Login) (account : List UInt8) (response : HttpResponse) :
    List LoginFact :=
  if response.ReturnsZero then [.verified cause account] else []

/-- A client has sent a packet. -/
def checking (s : LoginProcess) (identify : NetIdentify) (packet : ClientPacket) : LoginProcess :=
  { s with history := s.history ++ s.checkedBy identify packet }

/-- A connection was closed; only those of clients have players. -/
def closed (s : LoginProcess) (identify : NetIdentify) : LoginProcess :=
  { s with
    connection :=
      if identify.socketKey.netType = .tcpListen then
        Function.update s.connection identify.socketKey.socket
          (s.connection identify.socketKey.socket + 1)
      else s.connection }

/-- A request is answered, and the manager handles the reply; nothing if the reply is none to that
request. -/
def reply (s : LoginProcess) (m : AccountMgr) (i : ℕ) (request : LoginRequest) :
    LoginEvent → Option LoginProcess
  | .queryOnlineRs _ offline =>
    match request with
    | .queryOnline account =>
      some ((s.answered i []).handled innerIdentify
        (m.handleAccountQueryOnlineToRedisRs (cStr account) offline))
    | _ => none
  | .connected _ socketKey =>
    match request with
    | .connect tag =>
      some ((s.answered i []).handled (accountIdentify socketKey tag)
        (m.handleNetworkConnected (accountIdentify socketKey tag)))
    | _ => none
  | .httpRs _ socketKey response =>
    match request with
    | .http tag cause account =>
      some ((s.answered i (verifiedBy cause account response)).handled
        (accountIdentify socketKey tag)
        (m.handleHttpOuterResponse (accountIdentify socketKey tag) response))
    | _ => none
  | .queryPlayerListRs _ players =>
    match request with
    | .queryPlayerList _ account | .createPlayer _ account =>
      some ((s.answered i []).handled innerIdentify
        (m.handleQueryPlayerListRs (cStr account) players))
    | _ => none
  | .createPlayerRs _ identify returnCode =>
    match request with
    | .createPlayer _ _ =>
      some ((s.answered i []).handled identify (m.handleCreatePlayerRs identify returnCode))
    | _ => none
  | .tokenRs _ token app =>
    match request with
    | .token account =>
      some ((s.answered i []).handled innerIdentify
        (m.handleTokenToRedisRs (cStr account) (cStr token) app))
    | _ => none
  | _ => none

/-- The request that an event answers. -/
def index : LoginEvent → Option ℕ
  | .queryOnlineRs i _ | .connected i _ | .httpRs i _ _ | .queryPlayerListRs i _
  | .createPlayerRs i _ _ | .tokenRs i _ _ => some i
  | _ => none

/-- One step; nothing if it is not possible. -/
def step (s : LoginProcess) (e : LoginEvent) : Option LoginProcess :=
  s.mgr.bind fun m =>
    match e with
    | .receive identify packet sn =>
      some ((s.checking identify packet).handled identify (m.processPacket identify sn packet))
    | .disconnect identify =>
      some ((s.closed identify).handled identify (m.handleNetworkDisconnect identify))
    | e => (index e).bind fun i => s.requests[i]?.bind fun request => s.reply m i request e

/-- A process whose manager is new. -/
def start : LoginProcess := ⟨some AccountMgr.awake, [], fun _ => 0, []⟩

/-- The process as a system. -/
def system : Transition.System LoginProcess LoginEvent := .ofFun (fun s => s = start) step

/-! ### Authorisation -/

/-- **A token for an account is requested** for a connection only if that connection has sent a
check of the account before, and the HTTP server has returned the code 0 for it. -/
def TokensVerified (s : LoginProcess) : Prop :=
  ∀ (before after : List LoginFact) (connection : Login) (account : List UInt8),
    s.history = before ++ .tokenRequested connection account :: after →
      .accountChecked connection account ∈ before ∧ .verified connection account ∈ before

/-- A player whose check was verified. -/
def Verified (s : LoginProcess) (player : Player) : Prop :=
  LoginFact.verified (s.loginOf player) player.account ∈ s.history

/-- The account by which a reply finds the player that it lets go on, and for whom it was asked
for: a good response of the HTTP server, or a list of characters that is not empty. -/
def advances : LoginRequest → LoginEvent → Option (List UInt8 × Login)
  | .http tag cause _, .httpRs _ _ response =>
    if response.rsCode = some .ok then some (tag, cause) else none
  | .queryPlayerList cause account, .queryPlayerListRs _ players
  | .createPlayer cause account, .queryPlayerListRs _ players =>
    if players = [] then none else some (cStr account, cause)
  | _, _ => none

/-- A reply verifies whoever has asked for it, or answers what only a verified player asks for: a response of
the HTTP server with the code 0, or a list of characters that was queried. -/
def vouches : LoginRequest → LoginEvent → Bool
  | .http _ _ _, .httpRs _ _ response => response.ReturnsZero
  | .queryPlayerList _ _, .queryPlayerListRs _ _ => true
  | _, _ => false

/-- When a request may be answered so: a reply that lets a player go on reaches one that is verified, or one
whose connection has asked for it, and then it vouches for that. -/
def OrderlyReply (s : LoginProcess) (m : AccountMgr) (request : LoginRequest) (e : LoginEvent) :
    Prop :=
  ∀ reply ∈ advances request e, ∀ player ∈ (m.players.getPlayerByAccount reply.1).1,
    s.Verified player ∨ reply.2 = s.loginOf player ∧ vouches request e = true

/-- When a step may be taken: replies are orderly. -/
def Orderly (s : LoginProcess) (e : LoginEvent) : Prop :=
  ∀ m ∈ s.mgr, ∀ i ∈ index e, ∀ request ∈ s.requests[i]?, s.OrderlyReply m request e

instance (s : LoginProcess) (player : Player) : Decidable (s.Verified player) :=
  inferInstanceAs (Decidable (_ ∈ s.history))

instance (s : LoginProcess) (e : LoginEvent) : Decidable (s.Orderly e) :=
  inferInstanceAs (Decidable (∀ m ∈ s.mgr, ∀ i ∈ index e, ∀ request ∈ s.requests[i]?,
    ∀ reply ∈ advances request e, ∀ player ∈ (m.players.getPlayerByAccount reply.1).1,
      s.Verified player ∨ reply.2 = s.loginOf player ∧ vouches request e = true))

/-! ### The invariant -/

/-- What is known of a player: its connection has sent a check of its account, and the check was
verified if the player has characters. -/
def Checked (s : LoginProcess) (player : Player) : Prop :=
  .accountChecked (s.loginOf player) player.account ∈ s.history ∧
    (player.protoList ≠ none → .verified (s.loginOf player) player.account ∈ s.history)

/-- What is known of a request. -/
def Justified (s : LoginProcess) : LoginRequest → Prop
  | .connect tag => cStr tag = tag
  | .http tag _ account => account = tag ∧ cStr tag = tag
  | .queryPlayerList cause account => .verified cause account ∈ s.history
  | _ => True

/-- What is known of the requests, and of what has happened. -/
structure Grounded (s : LoginProcess) : Prop where
  requests : ∀ request ∈ s.requests, s.Justified request
  verified : ∀ (connection : Login) (account : List UInt8),
    .verified connection account ∈ s.history → cStr account = account
  tokens : s.TokensVerified

/-- What holds between the steps. -/
structure Invariant (s : LoginProcess) : Prop extends s.Grounded where
  mgr : ∀ m : AccountMgr, s.mgr = some m → m.Holds s.Checked

/-- A message that the manager may send: its request is justified, and its token is for a verified
account. -/
def Allowed (s : LoginProcess) (identify : NetIdentify) (msg : AccountMsg) : Prop :=
  (∀ request, s.requestOf identify msg = some request → s.Justified request) ∧
    ∀ connection account, s.tokenOf msg = some (.tokenRequested connection account) →
      .accountChecked connection account ∈ s.history ∧ .verified connection account ∈ s.history

section

variable {s t : LoginProcess}

/-- The invariant holds at the start. -/
theorem invariant_start : start.Invariant where
  requests := by
    intro request hrequest
    cases hrequest
  verified := by
    intro connection account h
    cases h
  tokens := by
    intro before after connection account h
    cases before with
    | nil => cases h
    | cons fact before => cases h
  mgr := by
    intro m hm
    rw [← Option.some.inj hm]
    exact AccountMgr.holds_awake

theorem Justified.mono {request : LoginRequest} (h : s.Justified request)
    (hhistory : ∀ fact ∈ s.history, fact ∈ t.history) : t.Justified request := by
  cases request with
  | queryPlayerList cause account => exact hhistory _ h
  | createPlayer cause account => trivial
  | connect tag => exact h
  | http tag cause account => exact h
  | queryOnline account => trivial
  | token account => trivial

/-- What is known of a player stays known while its connection is the same. -/
theorem Checked.mono {player : Player} (h : s.Checked player)
    (hconnection : t.connection player.socketKey.socket = s.connection player.socketKey.socket)
    (hhistory : ∀ fact ∈ s.history, fact ∈ t.history) : t.Checked player := by
  have hlogin : t.loginOf player = s.loginOf player :=
    congrArg (Login.mk player.socketKey.socket) hconnection
  rw [Checked, hlogin]
  exact ⟨hhistory _ h.1, fun hlist => hhistory _ (h.2 hlist)⟩

/-- What happens next is verified before, so all tokens are requested for verified accounts. -/
theorem TokensVerified.append (h : s.TokensVerified) {facts : List LoginFact}
    (hfacts : ∀ connection account, .tokenRequested connection account ∈ facts →
      .accountChecked connection account ∈ s.history ∧ .verified connection account ∈ s.history)
    (hhistory : t.history = s.history ++ facts) : t.TokensVerified := by
  intro before after connection account heq
  rw [hhistory, List.append_eq_append_iff] at heq
  rcases heq with ⟨middle, rfl, hmiddle⟩ | ⟨middle, hold, hafter⟩
  -- the token is one of the new facts
  · obtain ⟨hchecked, hverified⟩ := hfacts connection account (by rw [hmiddle]; simp)
    exact ⟨List.mem_append_left _ hchecked, List.mem_append_left _ hverified⟩
  · cases middle with
    | nil =>
      have hnew : LoginFact.tokenRequested connection account ∈ facts := by
        rw [List.nil_append] at hafter
        rw [← hafter]
        exact List.mem_cons_self ..
      rw [List.append_nil] at hold
      rw [← hold]
      exact hfacts connection account hnew
    | cons fact middle =>
      obtain ⟨rfl, -⟩ := List.cons.inj hafter
      exact h before middle connection account hold

/-- A request is answered, and nothing but verification has happened. -/
theorem Grounded.answered (h : s.Grounded) (i : ℕ) {facts : List LoginFact}
    (htokens : ∀ connection account, .tokenRequested connection account ∉ facts)
    (hverified : ∀ connection account, .verified connection account ∈ facts →
      cStr account = account) : (s.answered i facts).Grounded where
  requests := fun request hrequest =>
    (h.requests request (List.mem_of_mem_eraseIdx hrequest)).mono
      fun fact hfact => List.mem_append_left _ hfact
  verified := by
    intro connection account hmem
    rcases List.mem_append.1 hmem with hold | hnew
    · exact h.verified connection account hold
    · exact hverified connection account hnew
  tokens := h.tokens.append (fun connection account hmem => absurd hmem (htokens _ _)) rfl

theorem Grounded.answered_nil (h : s.Grounded) (i : ℕ) : (s.answered i []).Grounded :=
  h.answered i (fun connection account hmem => by cases hmem)
    fun connection account hmem => by cases hmem

/-- The facts about a packet of a client are about its check. -/
theorem Grounded.checking (h : s.Grounded) (identify : NetIdentify) (packet : ClientPacket) :
    (s.checking identify packet).Grounded := by
  have hfacts : ∀ fact ∈ s.checkedBy identify packet, ∃ connection account,
      fact = .accountChecked connection account := by
    intro fact hfact
    cases packet with
    | accountCheck account password => exact ⟨_, _, List.mem_singleton.1 hfact⟩
    | createPlayer name gender => cases hfact
    | selectPlayer playerSn => cases hfact
  refine ⟨fun request hrequest => (h.requests request hrequest).mono
    fun fact hfact => List.mem_append_left _ hfact, fun connection account hmem => ?_,
    h.tokens.append (fun connection account hmem => ?_) rfl⟩
  · rcases List.mem_append.1 hmem with hold | hnew
    · exact h.verified connection account hold
    · obtain ⟨_, _, heq⟩ := hfacts _ hnew
      cases heq
  · obtain ⟨_, _, heq⟩ := hfacts _ hmem
    cases heq

/-- **The manager has handled a packet**, has sent allowed messages only, and keeps what is known
of its players. -/
theorem Grounded.handled (h : s.Grounded) {identify : NetIdentify}
    {o : Outcome AccountMgr AccountMsg}
    (ho : o.Meets (s.Allowed identify) (AccountMgr.Holds s.Checked)) :
    (s.handled identify o).Invariant where
  requests := by
    intro request hrequest
    have hhistory : ∀ fact ∈ s.history, fact ∈ (s.handled identify o).history :=
      fun fact hfact => List.mem_append_left _ hfact
    rcases List.mem_append.1 hrequest with hold | hnew
    · exact (h.requests request hold).mono hhistory
    · obtain ⟨msg, hmsg, heq⟩ := List.mem_filterMap.1 hnew
      exact ((ho.1 msg hmsg).1 request heq).mono hhistory
  verified := by
    intro connection account hmem
    rcases List.mem_append.1 hmem with hold | hnew
    · exact h.verified connection account hold
    · obtain ⟨msg, -, heq⟩ := List.mem_filterMap.1 hnew
      unfold tokenOf at heq
      split at heq
      · cases heq
      · cases heq
  tokens := by
    refine h.tokens.append (fun connection account hmem => ?_) rfl
    obtain ⟨msg, hmsg, heq⟩ := List.mem_filterMap.1 hmem
    exact (ho.1 msg hmsg).2 connection account heq
  mgr := fun m hm => (ho.2 m hm).mono fun socket player _ hplayer =>
    hplayer.mono rfl fun fact hfact => List.mem_append_left _ hfact

/-- A message that makes no request. -/
theorem Allowed.of_none {identify : NetIdentify} {msg : AccountMsg}
    (hrequest : s.requestOf identify msg = none) (htoken : s.tokenOf msg = none) :
    s.Allowed identify msg := by
  refine ⟨fun request h => ?_, fun connection account h => ?_⟩
  · rw [hrequest] at h
    cases h
  · rw [htoken] at h
    cases h

/-- A message that makes a request, but not for a token. -/
theorem Allowed.of_request {identify : NetIdentify} {msg : AccountMsg} {request : LoginRequest}
    (hrequest : s.requestOf identify msg = some request) (htoken : s.tokenOf msg = none)
    (hjustified : s.Justified request) : s.Allowed identify msg := by
  refine ⟨fun other h => ?_, fun connection account h => ?_⟩
  · rw [hrequest] at h
    exact Option.some.inj h ▸ hjustified
  · rw [htoken] at h
    cases h

/-- The players when something has happened. -/
theorem Invariant.holds (h : s.Invariant) {m : AccountMgr} (hm : s.mgr = some m)
    (hconnection : t.connection = s.connection)
    (hhistory : ∀ fact ∈ s.history, fact ∈ t.history) : m.Holds t.Checked :=
  (h.mgr m hm).mono fun _ player _ hplayer =>
    hplayer.mono (congrFun hconnection player.socketKey.socket) hhistory

/-! ### Packets of clients -/

/-- A client sends a packet. -/
theorem Invariant.receive (h : s.Invariant) {m : AccountMgr} (hm : s.mgr = some m)
    (identify : NetIdentify) (packet : ClientPacket) (sn : UInt64) :
    ((s.checking identify packet).handled identify
      (m.processPacket identify sn packet)).Invariant := by
  have hgrounded := h.toGrounded.checking identify packet
  have hholds : m.Holds (s.checking identify packet).Checked :=
    h.holds hm rfl fun fact hfact => List.mem_append_left _ hfact
  refine hgrounded.handled ?_
  cases packet with
  | accountCheck account password =>
    refine AccountMgr.handleAccountCheck_meets hholds ⟨?_, fun hlist => absurd rfl hlist⟩ ?_ ?_
    · exact List.mem_append_right _ (List.mem_singleton_self _)
    · intro msg hmsg
      simp only [AccountMgr.socketDisconnect, List.mem_cons, List.not_mem_nil, or_false] at hmsg
      rcases hmsg with rfl | rfl
      · exact Allowed.of_none rfl rfl
      · exact Allowed.of_none rfl rfl
    · exact Allowed.of_request rfl rfl trivial
  | createPlayer name gender =>
    exact AccountMgr.handleCreatePlayer_meets hholds fun player hplayer => Allowed.of_request rfl rfl trivial
  | selectPlayer playerSn =>
    refine AccountMgr.handleSelectPlayer_meets hholds (fun player info playerSn hplayer => hplayer)
      (fun player => Allowed.of_none rfl rfl) fun player hplayer hmem => ?_
    have hlist : player.protoList ≠ none := by
      intro hnone
      rw [hnone] at hmem
      cases hmem
    have hverified := hplayer.2 hlist
    refine ⟨fun request hrequest => ?_, fun connection account htoken => ?_⟩
    · rw [← Option.some.inj hrequest]
      trivial
    · have heq := Option.some.inj htoken
      rw [hgrounded.verified _ _ hverified] at heq
      obtain ⟨rfl, rfl⟩ := LoginFact.tokenRequested.inj heq
      exact ⟨hplayer.1, hverified⟩

/-- A connection is closed: its player goes, and the others keep theirs. -/
theorem Invariant.disconnect (h : s.Invariant) {m : AccountMgr} (hm : s.mgr = some m)
    (identify : NetIdentify) :
    ((s.closed identify).handled identify (m.handleNetworkDisconnect identify)).Invariant := by
  have hgrounded : (s.closed identify).Grounded := ⟨h.requests, h.verified, h.tokens⟩
  refine hgrounded.handled ((AccountMgr.handleNetworkDisconnect_meets (h.mgr m hm)
    identify).mono (fun msg hmsg => hmsg) fun m' hm' => hm'.mono fun socket player _ hplayer => ?_)
  obtain ⟨hchecked, hother⟩ := hplayer
  refine hchecked.mono ?_ fun fact hfact => hfact
  unfold closed
  split
  · rename_i hlisten
    exact Function.update_of_ne (hother hlisten) _ _
  · rfl

/-! ### Replies -/

/-- A list of characters that reaches only a player that is verified. -/
theorem Invariant.queryPlayerListRs (h : s.Invariant) {m : AccountMgr} (hm : s.mgr = some m)
    {i : ℕ} {account : List UInt8} {players : List UInt64}
    (hverified : players ≠ [] → ∀ player ∈ (m.players.getPlayerByAccount (cStr account)).1,
      player.account = cStr account → s.Verified player) :
    ((s.answered i []).handled innerIdentify
      (m.handleQueryPlayerListRs (cStr account) players)).Invariant := by
  have hhistory : ∀ fact ∈ s.history, fact ∈ (s.answered i []).history :=
    fun fact hfact => List.mem_append_left _ hfact
  have hgrounded := h.toGrounded.answered_nil i
  have hholds : m.Holds (s.answered i []).Checked := h.holds hm rfl hhistory
  refine hgrounded.handled (AccountMgr.handleQueryPlayerListRs_meets hholds
    (fun player => Allowed.of_none rfl rfl) fun player hplayer haccount hchecked hne => ?_)
  exact ⟨hchecked.1, fun _ => hhistory _ (hverified hne player hplayer haccount)⟩

/-- A response of the HTTP server. -/
theorem Invariant.httpRs (h : s.Invariant) {m : AccountMgr} (hm : s.mgr = some m) {i : ℕ}
    {tag : List UInt8} {cause : Login} {account : List UInt8} {socketKey : SocketKey}
    {response : HttpResponse} (hjustified : s.Justified (.http tag cause account))
    (hmatched : response.rsCode = some .ok → ∀ player ∈ (m.players.getPlayerByAccount tag).1,
      s.Verified player ∨ cause = s.loginOf player ∧ response.ReturnsZero) :
    ((s.answered i (verifiedBy cause account response)).handled (accountIdentify socketKey tag)
      (m.handleHttpOuterResponse (accountIdentify socketKey tag) response)).Invariant := by
  obtain ⟨rfl, hzero⟩ := hjustified
  have hfacts : ∀ fact ∈ verifiedBy cause account response, fact = .verified cause account := by
    intro fact hfact
    unfold verifiedBy at hfact
    split at hfact
    · exact List.mem_singleton.1 hfact
    · cases hfact
  have hgrounded : (s.answered i (verifiedBy cause account response)).Grounded := by
    refine h.toGrounded.answered i (fun connection a hmem => ?_) fun connection a hmem => ?_
    · cases hfacts _ hmem
    · obtain ⟨-, rfl⟩ := LoginFact.verified.inj (hfacts _ hmem)
      exact hzero
  have hholds : m.Holds (s.answered i (verifiedBy cause account response)).Checked :=
    h.holds hm rfl fun fact hfact => List.mem_append_left _ hfact
  refine hgrounded.handled (AccountMgr.handleHttpOuterResponse_meets hholds
    (Allowed.of_none rfl rfl) (fun player rsCode => Allowed.of_none rfl rfl)
    fun value player htag hplayer haccount hok => Allowed.of_request rfl rfl ?_)
  rw [accountIdentify, TagKey.getTagValue_addTagStr_self] at htag
  obtain rfl := Option.some.inj htag
  simp only [hzero]
  change LoginFact.verified (s.loginOf player) account ∈
    s.history ++ verifiedBy cause account response
  rcases hmatched hok player hplayer with hbefore | ⟨hcause, hreturns⟩
  · rw [Verified, haccount] at hbefore
    exact List.mem_append_left _ hbefore
  · rw [← hcause, verifiedBy, if_pos hreturns]
    exact List.mem_append_right _ (List.mem_singleton_self _)

/-- A request is answered. -/
theorem Invariant.reply (h : s.Invariant) {m : AccountMgr} (hm : s.mgr = some m) {i : ℕ}
    {request : LoginRequest} (hrequest : s.requests[i]? = some request) {e : LoginEvent}
    (horderly : s.OrderlyReply m request e) (hreply : s.reply m i request e = some t) :
    t.Invariant := by
  have hjustified := h.requests request (List.mem_of_getElem? hrequest)
  have hgrounded := h.toGrounded.answered_nil i
  have hholds : m.Holds (s.answered i []).Checked :=
    h.holds hm rfl fun fact hfact => List.mem_append_left _ hfact
  unfold LoginProcess.reply at hreply
  cases e with
  | receive identify packet sn => cases hreply
  | disconnect identify => cases hreply
  | queryOnlineRs j offline =>
    cases request with
    | queryOnline account =>
      obtain rfl := Option.some.inj hreply
      refine hgrounded.handled (AccountMgr.handleAccountQueryOnlineToRedisRs_meets hholds offline
        (fun player => Allowed.of_none rfl rfl) (Allowed.of_request rfl rfl ?_))
      exact cStr_cStr _
    | _ => cases hreply
  | connected j socketKey =>
    cases request with
    | connect tag =>
      obtain rfl := Option.some.inj hreply
      refine hgrounded.handled (AccountMgr.handleNetworkConnected_meets hholds
        fun value player password htag haccount => ?_)
      rw [accountIdentify, TagKey.getTagValue_addTagStr_self] at htag
      obtain rfl := Option.some.inj htag
      exact Allowed.of_request rfl rfl ⟨rfl, hjustified⟩
    | _ => cases hreply
  | httpRs j socketKey response =>
    cases request with
    | http tag cause account =>
      obtain rfl := Option.some.inj hreply
      refine h.httpRs hm hjustified fun hok player hplayer => ?_
      refine (horderly (tag, cause) (if_pos hok) player hplayer).imp_right fun hasked => ?_
      exact ⟨hasked.1, of_decide_eq_true hasked.2⟩
    | _ => cases hreply
  | queryPlayerListRs j players =>
    cases request with
    | queryPlayerList cause account =>
      obtain rfl := Option.some.inj hreply
      refine h.queryPlayerListRs hm fun hne player hplayer haccount => ?_
      rcases horderly (cStr account, cause) (if_neg hne) player hplayer with hbefore | ⟨hcause, -⟩
      · exact hbefore
      · rw [Verified, ← hcause, haccount, h.verified _ _ hjustified]
        exact hjustified
    | createPlayer cause account =>
      obtain rfl := Option.some.inj hreply
      refine h.queryPlayerListRs hm fun hne player hplayer _ => ?_
      exact (horderly (cStr account, cause) (if_neg hne) player hplayer).resolve_right
        fun hasked => Bool.false_ne_true hasked.2
    | _ => cases hreply
  | createPlayerRs j identify returnCode =>
    cases request with
    | createPlayer cause account =>
      obtain rfl := Option.some.inj hreply
      exact hgrounded.handled (AccountMgr.handleCreatePlayerRs_meets hholds
        fun player => Allowed.of_none rfl rfl)
    | _ => cases hreply
  | tokenRs j token app =>
    cases request with
    | token account =>
      obtain rfl := Option.some.inj hreply
      exact hgrounded.handled (AccountMgr.handleTokenToRedisRs_meets hholds
        fun player info => Allowed.of_none rfl rfl)
    | _ => cases hreply

/-- **An orderly step keeps the invariant.** -/
theorem Invariant.step (h : s.Invariant) {e : LoginEvent} (horderly : s.Orderly e)
    (hstep : s.step e = some t) : t.Invariant := by
  obtain ⟨m, hm, hstep⟩ := Option.bind_eq_some_iff.1 hstep
  have hreplies := horderly m hm
  have hreply : ∀ j, (s.requests[j]?.bind fun request => s.reply m j request e) = some t →
      (∀ request ∈ s.requests[j]?, s.OrderlyReply m request e) → t.Invariant := by
    intro j hj hall
    obtain ⟨request, hrequest, hthen⟩ := Option.bind_eq_some_iff.1 hj
    exact h.reply hm hrequest (hall request hrequest) hthen
  cases e with
  | receive identify packet sn => exact Option.some.inj hstep ▸ h.receive hm identify packet sn
  | disconnect identify => exact Option.some.inj hstep ▸ h.disconnect hm identify
  | queryOnlineRs j offline => exact hreply j hstep (hreplies j rfl)
  | connected j socketKey => exact hreply j hstep (hreplies j rfl)
  | httpRs j socketKey response => exact hreply j hstep (hreplies j rfl)
  | queryPlayerListRs j players => exact hreply j hstep (hreplies j rfl)
  | createPlayerRs j identify returnCode => exact hreply j hstep (hreplies j rfl)
  | tokenRs j token app => exact hreply j hstep (hreplies j rfl)

end

end LoginProcess

/-- **In a run whose steps are all orderly, a token for an account is requested** only for a
connection that has sent a check of that account, which the HTTP server has answered with the
code 0. -/
theorem tokensVerified_of_orderly {es : List LoginEvent} {s : LoginProcess}
    (hrun : (LoginProcess.system.restrict LoginProcess.Orderly).Run es s) : s.TokensVerified := by
  have hinv : s.Invariant := by
    refine hrun.restrict_invariant (fun s₀ hinit => ?_) fun s₁ e s₂ h₁ horderly hstep => ?_
    · rw [hinit]
      exact LoginProcess.invariant_start
    · exact h₁.step horderly hstep
  exact hinv.tokens

/-! ### Two clients -/

/-- A client on the socket 5 checks the account `a`, and is verified; the account has the character
7, which the client selects. -/
def verifiedEvents : List LoginEvent :=
  [.receive ⟨⟨5, .tcpListen⟩, TagKey.clear⟩ (.accountCheck [97] [98]) 1,
    .queryOnlineRs 0 true, .connected 0 ⟨9, .httpConnector⟩,
    .httpRs 0 ⟨9, .httpConnector⟩ ⟨200, some (.object (some (.int 0)))⟩,
    .queryPlayerListRs 0 [7],
    .receive ⟨⟨5, .tcpListen⟩, TagKey.clear⟩ (.selectPlayer 7) 1]

/-- A client on the socket 5 checks the account `a`, and does not wait for the reply: it creates a
character, and selects it. -/
def createEvents : List LoginEvent :=
  [.receive ⟨⟨5, .tcpListen⟩, TagKey.clear⟩ (.accountCheck [97] []) 1,
    .receive ⟨⟨5, .tcpListen⟩, TagKey.clear⟩ (.createPlayer [98] 0) 7,
    .queryPlayerListRs 1 [7],
    .receive ⟨⟨5, .tcpListen⟩, TagKey.clear⟩ (.selectPlayer 7) 8]

/-- A verified client gets its token. -/
theorem tokensVerified_verified : ∃ s : LoginProcess,
    s.history = [.accountChecked ⟨5, 0⟩ [97], .verified ⟨5, 0⟩ [97],
      .tokenRequested ⟨5, 0⟩ [97]] ∧ s.TokensVerified := by
  have hhistory : (Transition.System.execute LoginProcess.step LoginProcess.Orderly
      LoginProcess.start verifiedEvents).map LoginProcess.history =
        some [.accountChecked ⟨5, 0⟩ [97], .verified ⟨5, 0⟩ [97],
          .tokenRequested ⟨5, 0⟩ [97]] := by
    decide
  obtain ⟨s, hs, hfacts⟩ := Option.map_eq_some_iff.1 hhistory
  exact ⟨s, hfacts, tokensVerified_of_orderly (Transition.System.run_of_execute rfl hs)⟩

/-- **A client that creates a character** gets a token, and was never verified. -/
theorem not_tokensVerified_create :
    ¬ ∀ (es : List LoginEvent) (s : LoginProcess), LoginProcess.system.Run es s →
      s.TokensVerified := by
  intro hall
  have hhistory : (Transition.System.execute LoginProcess.step (fun _ _ => True)
      LoginProcess.start createEvents).map LoginProcess.history =
        some [.accountChecked ⟨5, 0⟩ [97], .tokenRequested ⟨5, 0⟩ [97]] := by
    decide
  obtain ⟨s, hs, hfacts⟩ := Option.map_eq_some_iff.1 hhistory
  have hrun : LoginProcess.system.Run createEvents s :=
    Transition.System.run_of_execute_true rfl hs
  obtain ⟨-, hverified⟩ := hall _ _ hrun [.accountChecked ⟨5, 0⟩ [97]] []
    ⟨5, 0⟩ [97] hfacts
  simp at hverified

end MmoServer
