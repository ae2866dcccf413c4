/-
**Which client a reply of the database manager is forwarded to.**

The database manager answers a query for the characters of an account, and the creation of a character
that fails.  Both replies carry the account.  The manager of the accounts takes the player of a list
from its account; the player of a failed creation it takes from the socket that is recorded in the
packet.  That socket is not the one of a client: the reply comes over the connection to the database
manager, or was dispatched inside one process and has no socket.

Main definitions:

* `MmoServer.DbReply`, `MmoServer.AccountMgr.handleDbReply` — the two replies, and their handlers;
* `MmoServer.AccountMgr.LoggedIn` — the players that are logged in;
* `MmoServer.AccountMgr.Correlated` — **a reply is forwarded** to the player of its account, and to no one else;
* `MmoServer.DbDeployment` — where the database manager runs.

Main results:

* `MmoServer.PlayerCollector.Complete` and its lemmas — every player is found by its account;
* `MmoServer.LoginProcess.indexed` — so it is after every run;
* `MmoServer.LoginProcess.correlated_iff` — **when a reply is forwarded right**: every list, and a failed creation
  exactly if the socket of its packet is the one of the player;
* `MmoServer.LoginProcess.correlated_deployment_iff` — in both deployments, only if no one is there.
-/

import MmoServer.LoginAuthorisation

set_option relaxedAutoImplicit false
set_option autoImplicit false

namespace MmoServer

open Handler

/-! ### Players that are found by their accounts -/

namespace PlayerCollector

variable {c d : PlayerCollector}

/-- The account of every player leads to its socket. -/
def Complete (c : PlayerCollector) : Prop :=
  ∀ (socket : ℤ) (player : Player), c.getPlayerBySocket socket = some player →
    c.accounts player.account = some socket

theorem complete_empty : empty.Complete := by
  intro socket player h
  cases h

/-- A player that is changed, but not in its socket and its account. -/
theorem Complete.insert (hc : c.Complete) {old player : Player}
    (hold : c.getPlayerBySocket player.socketKey.socket = some old)
    (haccount : player.account = old.account) : (c.insert player).Complete := by
  intro socket q hq
  rw [getPlayerBySocket_insert] at hq
  by_cases hsocket : player.socketKey.socket = socket
  · rw [if_pos hsocket] at hq
    obtain rfl := Option.some.inj hq
    rw [haccount, ← hsocket]
    exact hc _ old hold
  · rw [if_neg hsocket] at hq
    exact hc socket q hq

/-- A search that finds nothing means that no player has the account. -/
theorem Complete.ne_of_none (hc : c.Complete) {account : List UInt8}
    (h : c.getPlayerByAccount account = (none, d)) {socket : ℤ} {player : Player}
    (hplayer : c.getPlayerBySocket socket = some player) : player.account ≠ account := by
  rintro rfl
  have hsocket : c.players[socket]? = some player := hplayer
  unfold PlayerCollector.getPlayerByAccount at h
  simp only [hc socket player hplayer, hsocket] at h
  cases (Prod.mk.inj h).1

/-- A search that finds nothing forgets no player. -/
theorem Complete.getPlayerByAccount_none (hc : c.Complete) (hconsistent : c.Consistent)
    {account : List UInt8} (h : c.getPlayerByAccount account = (none, d)) : d.Complete := by
  intro socket player hplayer
  rw [(hconsistent.getPlayerByAccount_none h).2] at hplayer
  have hne := hc.ne_of_none h hplayer
  have haccount := hc socket player hplayer
  unfold PlayerCollector.getPlayerByAccount at h
  cases hentry : c.accounts account with
  | none =>
    simp only [hentry] at h
    rw [← (Prod.mk.inj h).2]
    exact haccount
  | some s =>
    simp only [hentry] at h
    cases hs : c.players[s]? with
    | some q =>
      rw [hs] at h
      cases (Prod.mk.inj h).1
    | none =>
      rw [hs] at h
      rw [← (Prod.mk.inj h).2]
      simp only [if_neg hne]
      exact haccount

/-- A player is added whose account no other player has. -/
theorem Complete.addPlayer (hc : c.Complete) {identify : NetIdentify} {account : List UInt8}
    {player : Player} (h : c.addPlayer identify account = some (d, player))
    (hnew : ∀ (socket : ℤ) (q : Player), c.getPlayerBySocket socket = some q → q.account ≠ account) :
    d.Complete := by
  obtain ⟨rfl, hfree, hframe⟩ := getPlayerBySocket_addPlayer h
  have haccounts : d.accounts = fun a =>
      if a = account then some identify.socketKey.socket else c.accounts a := by
    unfold PlayerCollector.addPlayer at h
    split at h
    · cases h
    · rw [← (Prod.mk.inj (Option.some.inj h)).1]
  intro socket q hq
  rw [hframe] at hq
  rw [haccounts]
  by_cases hsocket : identify.socketKey.socket = socket
  · rw [if_pos hsocket] at hq
    obtain rfl := Option.some.inj hq
    rw [← hsocket]
    exact if_pos rfl
  · rw [if_neg hsocket] at hq
    simp only [if_neg (hnew socket q hq)]
    exact hc socket q hq

/-- A player that is removed takes no other account with it. -/
theorem Complete.removePlayerBySocket (hc : c.Complete) (s : ℤ) : (c.removePlayerBySocket s).Complete := by
  intro socket player hplayer
  rw [getPlayerBySocket_removePlayerBySocket] at hplayer
  by_cases hs : s = socket
  · rw [if_pos hs] at hplayer
    cases hplayer
  · rw [if_neg hs] at hplayer
    have haccount := hc socket player hplayer
    unfold PlayerCollector.removePlayerBySocket
    cases hremoved : c.players[s]? with
    | none => exact haccount
    | some q =>
      have hq := hc s q hremoved
      unfold removePlayer
      -- two players with one account would have one socket
      have hne : player.account ≠ q.account := by
        intro heq
        rw [heq, hq] at haccount
        exact hs (Option.some.inj haccount)
      simp only [if_neg hne]
      exact haccount

end PlayerCollector

/-! ### The two replies -/

/-- The replies of the database manager. -/
inductive DbReply
  /-- `L2DB_QueryPlayerListRs`. -/
  | queryPlayerListRs (account : List UInt8) (players : List UInt64)
  /-- `L2DB_CreatePlayerRs`. -/
  | createPlayerRs (account : List UInt8) (returnCode : ℤ)

namespace DbReply

/-- The account that a reply carries. -/
def account : DbReply → List UInt8
  | queryPlayerListRs account _ => account
  | createPlayerRs account _ => account

/-- What a player is told. -/
def forPlayer (player : Player) : DbReply → AccountMsg
  | queryPlayerListRs _ players => .playerList player players
  | createPlayerRs _ returnCode => .createPlayerRs player returnCode

end DbReply

namespace AccountMgr

variable {m : AccountMgr} {R : Player → Prop}

/-- A reply is handled; `identify` is what the packet was received with. -/
def handleDbReply (m : AccountMgr) (identify : NetIdentify) : DbReply → Outcome AccountMgr AccountMsg
  | .queryPlayerListRs account players => m.handleQueryPlayerListRs account players
  | .createPlayerRs _ returnCode => m.handleCreatePlayerRs identify returnCode

/-- A player that is logged in, with its connection. -/
def LoggedIn (m : AccountMgr) (player : Player) : Prop :=
  m.players.getPlayerBySocket player.socketKey.socket = some player

/-- **A reply is forwarded** to the player that is logged in with its account, if there is one, and to no
one else. -/
def Correlated (m : AccountMgr) (reply : DbReply) (o : Outcome AccountMgr AccountMsg) : Prop :=
  (∀ player, m.LoggedIn player → player.account = reply.account → o.sent = [reply.forPlayer player]) ∧
    ((∀ player, m.LoggedIn player → player.account ≠ reply.account) → o.sent = [])

/-- Players and accounts belong together. -/
structure Indexed (m : AccountMgr) : Prop where
  consistent : m.players.Consistent
  complete : m.players.Complete

theorem indexed_awake : awake.Indexed := ⟨PlayerCollector.consistent_empty, PlayerCollector.complete_empty⟩

/-! ### Which player a search finds -/

/-- The player that is found by an account is the one that is logged in with it. -/
theorem Indexed.getPlayerByAccount_some (hm : m.Indexed) {account : List UInt8} {player : Player}
    {players : PlayerCollector} (h : m.players.getPlayerByAccount account = (some player, players)) :
    m.LoggedIn player ∧ player.account = account ∧
      ∀ q, m.LoggedIn q → q.account = account → q = player := by
  obtain ⟨-, haccount, hplayer⟩ := PlayerCollector.getPlayerByAccount_some h
  refine ⟨hplayer, hm.consistent.account_eq h, fun q hq heq => ?_⟩
  have hentry := hm.complete _ q hq
  rw [heq, haccount] at hentry
  have hsame : some q = some player := by
    rw [← hq, ← Option.some.inj hentry]
    exact hplayer
  exact Option.some.inj hsame

/-- **A list is forwarded** to the player of its account. -/
theorem Indexed.correlated_list (hm : m.Indexed) (account : List UInt8) (players : List UInt64) :
    m.Correlated (.queryPlayerListRs account players) (m.handleQueryPlayerListRs account players) := by
  unfold handleQueryPlayerListRs
  cases hsearch : m.players.getPlayerByAccount account with
  | mk found collector =>
    cases found with
    | none =>
      refine ⟨fun player hplayer haccount => ?_, fun _ => rfl⟩
      exact absurd haccount (hm.complete.ne_of_none hsearch hplayer)
    | some player =>
      obtain ⟨hlogged, haccount, hunique⟩ := hm.getPlayerByAccount_some hsearch
      refine ⟨fun q hq hqaccount => ?_, fun hnone => absurd haccount (hnone player hlogged)⟩
      rw [hunique q hq hqaccount]
      rfl

/-- **A failed creation is forwarded right** exactly if the socket of its packet is the one of the player of the
account, and no one's if there is no such player. -/
theorem correlated_create_iff (identify : NetIdentify) (account : List UInt8) (returnCode : ℤ) :
    m.Correlated (.createPlayerRs account returnCode) (m.handleCreatePlayerRs identify returnCode) ↔
      ∀ player, m.LoggedIn player →
        (player.socketKey.socket = identify.socketKey.socket ↔ player.account = account) := by
  have hsocket : ∀ player, m.LoggedIn player →
      (player.socketKey.socket = identify.socketKey.socket ↔
        m.players.getPlayerBySocket identify.socketKey.socket = some player) := by
    intro player hplayer
    constructor
    · intro heq
      rw [← heq]
      exact hplayer
    · exact PlayerCollector.getPlayerBySocket_socket
  unfold handleCreatePlayerRs
  cases hfound : m.players.getPlayerBySocket identify.socketKey.socket with
  | none =>
    constructor
    · rintro ⟨htold, -⟩ player hplayer
      rw [hsocket player hplayer, hfound]
      refine iff_of_false (fun h => by cases h) fun haccount => ?_
      cases htold player hplayer haccount
    · intro hmatch
      refine ⟨fun player hplayer haccount => ?_, fun _ => rfl⟩
      have hsome := (hsocket player hplayer).1 ((hmatch player hplayer).2 haccount)
      rw [hfound] at hsome
      cases hsome
  | some found =>
    have hlogged : m.LoggedIn found := by
      unfold LoggedIn
      rw [PlayerCollector.getPlayerBySocket_socket hfound]
      exact hfound
    constructor
    · rintro ⟨htold, hnot⟩ player hplayer
      rw [hsocket player hplayer, hfound]
      constructor
      · intro heq
        obtain rfl := Option.some.inj heq
        by_contra hne
        -- the player is told about an account that is not its own
        by_cases hother : ∃ q, m.LoggedIn q ∧ q.account = account
        · obtain ⟨q, hq, hqaccount⟩ := hother
          have hsent := (List.cons.inj (htold q hq hqaccount)).1
          rw [(AccountMsg.createPlayerRs.inj hsent).1] at hne
          exact hne hqaccount
        · cases hnot fun q hq hqaccount => hother ⟨q, hq, hqaccount⟩
      · intro haccount
        have hsent := (List.cons.inj (htold player hplayer haccount)).1
        rw [(AccountMsg.createPlayerRs.inj hsent).1]
    · intro hmatch
      refine ⟨fun player hplayer haccount => ?_, fun hnone => ?_⟩
      · have hsome := (hsocket player hplayer).1 ((hmatch player hplayer).2 haccount)
        rw [hfound] at hsome
        rw [Option.some.inj hsome]
        rfl
      · exact absurd ((hmatch found hlogged).1 ((hsocket found hlogged).2 hfound)) (hnone found hlogged)

/-! ### What the handlers keep -/

theorem Indexed.insert (hm : m.Indexed) {old player : Player}
    (hold : m.players.getPlayerBySocket player.socketKey.socket = some old)
    (haccount : player.account = old.account) : (⟨m.players.insert player⟩ : AccountMgr).Indexed :=
  ⟨hm.consistent.insert hold haccount, hm.complete.insert hold haccount⟩

theorem Indexed.forget (hm : m.Indexed) {account : List UInt8} {players : PlayerCollector}
    (h : m.players.getPlayerByAccount account = (none, players)) : (⟨players⟩ : AccountMgr).Indexed :=
  ⟨(hm.consistent.getPlayerByAccount_none h).1, hm.complete.getPlayerByAccount_none hm.consistent h⟩

/-- A check of an account makes a player only if no player has the account. -/
theorem Indexed.handleAccountCheck (hm : m.Indexed) (identify : NetIdentify) (account password : List UInt8) :
    (m.handleAccountCheck identify account password).Meets (fun _ => True) Indexed := by
  unfold AccountMgr.handleAccountCheck
  cases hsearch : m.players.getPlayerByAccount account with
  | mk found players =>
    cases found with
    | some player => exact Outcome.meets_send (fun _ _ => trivial) hm
    | none =>
      have hforget := hm.forget hsearch
      cases hadd : players.addPlayer identify account with
      | none =>
        simp only [hadd]
        exact Outcome.meets_send (fun _ _ => trivial) hforget
      | some added =>
        obtain ⟨collector, player⟩ := added
        have hframe := (hm.consistent.getPlayerByAccount_none hsearch).2
        have hadded : (⟨collector⟩ : AccountMgr).Indexed := by
          refine ⟨hforget.consistent.addPlayer hadd, hforget.complete.addPlayer hadd fun socket q hq => ?_⟩
          rw [hframe] at hq
          exact hm.complete.ne_of_none hsearch hq
        obtain ⟨rfl, -, hplayers⟩ := PlayerCollector.getPlayerBySocket_addPlayer hadd
        have hplace : collector.getPlayerBySocket identify.socketKey.socket =
            some (Player.awake identify account) := by
          rw [hplayers]
          exact if_pos rfl
        simp only [hadd]
        exact Outcome.meets_send (fun _ _ => trivial) (hadded.insert hplace rfl)

/-- A search for an account finds a player that is logged in, or forgets nothing that is needed. -/
theorem Indexed.search (hm : m.Indexed) (account : List UInt8) :
    (∃ players, m.players.getPlayerByAccount account = (none, players) ∧
        (⟨players⟩ : AccountMgr).Indexed) ∨
      ∃ player players, m.players.getPlayerByAccount account = (some player, players) ∧ m.LoggedIn player := by
  cases hsearch : m.players.getPlayerByAccount account with
  | mk found players =>
    cases found with
    | none => exact .inl ⟨players, rfl, hm.forget hsearch⟩
    | some player => exact .inr ⟨player, players, rfl, (hm.getPlayerByAccount_some hsearch).1⟩

/-- A selection changes neither the socket nor the account of a player. -/
theorem Indexed.handleSelectPlayer (hm : m.Indexed) (identify : NetIdentify) (playerSn : UInt64) :
    (m.handleSelectPlayer identify playerSn).Meets (fun _ => True) Indexed := by
  unfold AccountMgr.handleSelectPlayer
  cases hold : m.players.getPlayerBySocket identify.socketKey.socket with
  | none => exact Outcome.meets_pure hm
  | some old =>
    have hplace : m.players.getPlayerBySocket old.socketKey.socket = some old := by
      rw [PlayerCollector.getPlayerBySocket_socket hold]
      exact hold
    cases hinfo : old.accountInfo with
    | none =>
      simp only [hinfo]
      exact Outcome.meets_crash fun _ _ => trivial
    | some info =>
      simp only [hinfo]
      split
      · exact Outcome.meets_send (fun _ _ => trivial) (hm.insert hplace rfl)
      · exact Outcome.meets_send (fun _ _ => trivial) (hm.insert hplace rfl)

/-- **A packet of a client.** -/
theorem Indexed.processPacket (hm : m.Indexed) (identify : NetIdentify) (sn : UInt64) (packet : ClientPacket) :
    (m.processPacket identify sn packet).Meets (fun _ => True) Indexed := by
  cases packet with
  | accountCheck account password => exact hm.handleAccountCheck identify account password
  | createPlayer name gender =>
    change (m.handleCreatePlayer identify sn name gender).Meets _ _
    unfold AccountMgr.handleCreatePlayer
    split
    · exact Outcome.meets_pure hm
    · exact Outcome.meets_send (fun _ _ => trivial) hm
  | selectPlayer playerSn => exact hm.handleSelectPlayer identify playerSn

theorem Indexed.handleNetworkDisconnect (hm : m.Indexed) (identify : NetIdentify) :
    (m.handleNetworkDisconnect identify).Meets (fun _ => True) Indexed := by
  unfold AccountMgr.handleNetworkDisconnect
  split
  · exact Outcome.meets_pure hm
  · exact Outcome.meets_pure
      ⟨hm.consistent.removePlayerBySocket _, hm.complete.removePlayerBySocket _⟩

/-- A reply from Redis. -/
theorem Indexed.handleAccountQueryOnlineToRedisRs (hm : m.Indexed) (account : List UInt8) (offline : Bool) :
    (m.handleAccountQueryOnlineToRedisRs account offline).Meets (fun _ => True) Indexed := by
  unfold AccountMgr.handleAccountQueryOnlineToRedisRs
  rcases hm.search account with ⟨players, hsearch, hforget⟩ | ⟨player, players, hsearch, -⟩
  · rw [hsearch]
    exact Outcome.meets_pure hforget
  · rw [hsearch]
    cases offline with
    | true => exact Outcome.meets_send (fun _ _ => trivial) hm
    | false => exact Outcome.meets_send (fun _ _ => trivial) hm

theorem Indexed.handleNetworkConnected (hm : m.Indexed) (identify : NetIdentify) :
    (m.handleNetworkConnected identify).Meets (fun _ => True) Indexed := by
  unfold AccountMgr.handleNetworkConnected
  cases identify.tagKey.getTagValue .account with
  | none => exact Outcome.meets_pure hm
  | some value =>
    dsimp only
    split
    · exact Outcome.meets_pure hm
    · rcases hm.search value.keyStr with ⟨players, hsearch, hforget⟩ | ⟨player, players, hsearch, -⟩
      · rw [hsearch]
        exact Outcome.meets_pure hforget
      · rw [hsearch]
        dsimp only
        split
        · exact Outcome.meets_crash fun _ _ => trivial
        · exact Outcome.meets_send (fun _ _ => trivial) hm

theorem Indexed.handleHttpOuterResponse (hm : m.Indexed) (identify : NetIdentify) (response : HttpResponse) :
    (m.handleHttpOuterResponse identify response).Meets (fun _ => True) Indexed := by
  unfold AccountMgr.handleHttpOuterResponse
  cases identify.tagKey.getTagValue .account with
  | none => exact Outcome.meets_pure hm
  | some value =>
    dsimp only
    rcases hm.search value.keyStr with ⟨players, hsearch, hforget⟩ | ⟨player, players, hsearch, -⟩
    · rw [hsearch]
      exact Outcome.meets_pure hforget
    · rw [hsearch]
      dsimp only
      split
      · exact Outcome.meets_crash fun _ _ => trivial
      · exact Outcome.meets_send (fun _ _ => trivial) hm
      · exact Outcome.meets_send (fun _ _ => trivial) hm

/-- **The replies of the database manager.** -/
theorem Indexed.handleDbReply (hm : m.Indexed) (identify : NetIdentify) (reply : DbReply) :
    (m.handleDbReply identify reply).Meets (fun _ => True) Indexed := by
  cases reply with
  | queryPlayerListRs account players =>
    change (m.handleQueryPlayerListRs account players).Meets _ _
    unfold AccountMgr.handleQueryPlayerListRs
    rcases hm.search account with ⟨collector, hsearch, hforget⟩ | ⟨player, collector, hsearch, hplayer⟩
    · rw [hsearch]
      exact Outcome.meets_pure hforget
    · rw [hsearch]
      refine Outcome.meets_send (fun _ _ => trivial) ?_
      split
      · exact hm
      · exact hm.insert hplayer rfl
  | createPlayerRs account returnCode =>
    change (m.handleCreatePlayerRs identify returnCode).Meets _ _
    unfold AccountMgr.handleCreatePlayerRs
    split
    · exact Outcome.meets_pure hm
    · exact Outcome.meets_send (fun _ _ => trivial) hm

theorem Indexed.handleTokenToRedisRs (hm : m.Indexed) (account token : List UInt8)
    (app : Option (List UInt8 × ℤ)) :
    (m.handleTokenToRedisRs account token app).Meets (fun _ => True) Indexed := by
  unfold AccountMgr.handleTokenToRedisRs
  rcases hm.search account with ⟨players, hsearch, hforget⟩ | ⟨player, players, hsearch, -⟩
  · rw [hsearch]
    exact Outcome.meets_pure hforget
  · rw [hsearch]
    exact Outcome.meets_send (fun _ _ => trivial) hm

end AccountMgr

/-! ### After every run -/

namespace LoginProcess

variable {s t : LoginProcess} {m : AccountMgr}

/-- What the handlers of all replies keep. -/
structure RepliesKeep (P : AccountMgr → Prop) : Prop where
  queryOnlineRs {m : AccountMgr} (hm : P m) (account : List UInt8) (offline : Bool) :
    (m.handleAccountQueryOnlineToRedisRs account offline).Meets (fun _ => True) P
  connected {m : AccountMgr} (hm : P m) (identify : NetIdentify) :
    (m.handleNetworkConnected identify).Meets (fun _ => True) P
  httpRs {m : AccountMgr} (hm : P m) (identify : NetIdentify) (response : HttpResponse) :
    (m.handleHttpOuterResponse identify response).Meets (fun _ => True) P
  dbRs {m : AccountMgr} (hm : P m) (identify : NetIdentify) (reply : DbReply) :
    (m.handleDbReply identify reply).Meets (fun _ => True) P
  tokenRs {m : AccountMgr} (hm : P m) (account token : List UInt8) (app : Option (List UInt8 × ℤ)) :
    (m.handleTokenToRedisRs account token app).Meets (fun _ => True) P

variable {P : AccountMgr → Prop}

/-- What the handlers keep, a reply to a request keeps. -/
theorem RepliesKeep.reply (hP : RepliesKeep P) (hm : P m) {i : ℕ} {request : LoginRequest}
    {e : LoginEvent} (hreply : s.reply m i request e = some t) : ∀ m' ∈ t.mgr, P m' := by
  unfold LoginProcess.reply at hreply
  cases e with
  | receive identify packet sn => cases hreply
  | disconnect identify => cases hreply
  | queryOnlineRs j offline =>
    cases request with
    | queryOnline account =>
      obtain rfl := Option.some.inj hreply
      exact (hP.queryOnlineRs hm _ offline).2
    | _ => cases hreply
  | connected j socketKey =>
    cases request with
    | connect tag =>
      obtain rfl := Option.some.inj hreply
      exact (hP.connected hm _).2
    | _ => cases hreply
  | httpRs j socketKey response =>
    cases request with
    | http tag cause account =>
      obtain rfl := Option.some.inj hreply
      exact (hP.httpRs hm _ response).2
    | _ => cases hreply
  | queryPlayerListRs j players =>
    have hlist := fun account => (hP.dbRs hm innerIdentify (.queryPlayerListRs account players)).2
    cases request with
    | queryPlayerList cause account =>
      obtain rfl := Option.some.inj hreply
      exact hlist (cStr account)
    | createPlayer cause account =>
      obtain rfl := Option.some.inj hreply
      exact hlist (cStr account)
    | _ => cases hreply
  | createPlayerRs j identify returnCode =>
    cases request with
    | createPlayer cause account =>
      obtain rfl := Option.some.inj hreply
      exact (hP.dbRs hm identify (.createPlayerRs account returnCode)).2
    | _ => cases hreply
  | tokenRs j token app =>
    cases request with
    | token account =>
      obtain rfl := Option.some.inj hreply
      exact (hP.tokenRs hm _ _ app).2
    | _ => cases hreply

/-- With what a packet and the end of a connection do, one step keeps it. -/
theorem RepliesKeep.step (hP : RepliesKeep P) {e : LoginEvent} (hs : ∀ m ∈ s.mgr, P m)
    (hreceive : ∀ m identify packet sn, P m → e = .receive identify packet sn →
      ∀ m' ∈ (m.processPacket identify sn packet).state, P m')
    (hdisconnect : ∀ m identify, P m → ∀ m' ∈ (m.handleNetworkDisconnect identify).state, P m')
    (hstep : s.step e = some t) : ∀ m ∈ t.mgr, P m := by
  obtain ⟨m, hmgr, hstep⟩ := Option.bind_eq_some_iff.1 hstep
  have hm := hs m hmgr
  have hreply : ∀ j, (s.requests[j]?.bind fun request => s.reply m j request e) = some t →
      ∀ m ∈ t.mgr, P m := by
    intro j hj
    obtain ⟨request, -, hthen⟩ := Option.bind_eq_some_iff.1 hj
    exact hP.reply hm hthen
  cases e with
  | receive identify packet sn =>
    obtain rfl := Option.some.inj hstep
    exact hreceive m identify packet sn hm rfl
  | disconnect identify =>
    obtain rfl := Option.some.inj hstep
    exact hdisconnect m identify hm
  | queryOnlineRs j offline => exact hreply j hstep
  | connected j socketKey => exact hreply j hstep
  | httpRs j socketKey response => exact hreply j hstep
  | queryPlayerListRs j players => exact hreply j hstep
  | createPlayerRs j identify returnCode => exact hreply j hstep
  | tokenRs j token app => exact hreply j hstep

/-- Replies keep players and accounts together. -/
theorem indexed_replies : RepliesKeep AccountMgr.Indexed where
  queryOnlineRs hm account offline := hm.handleAccountQueryOnlineToRedisRs account offline
  connected hm identify := hm.handleNetworkConnected identify
  httpRs hm identify response := hm.handleHttpOuterResponse identify response
  dbRs hm identify reply := hm.handleDbReply identify reply
  tokenRs hm account token app := hm.handleTokenToRedisRs account token app

/-- One step keeps players and accounts together. -/
theorem indexed_step {e : LoginEvent} (hs : ∀ m ∈ s.mgr, m.Indexed) (hstep : s.step e = some t) :
    ∀ m ∈ t.mgr, m.Indexed :=
  indexed_replies.step hs (fun _ identify packet sn hm _ => (hm.processPacket identify sn packet).2)
    (fun _ identify hm => (hm.handleNetworkDisconnect identify).2) hstep

/-- **After every run**, players and accounts belong together. -/
theorem indexed {es : List LoginEvent} (hrun : system.Run es s) : ∀ m ∈ s.mgr, m.Indexed := by
  refine hrun.invariant (p := fun s => ∀ m ∈ s.mgr, m.Indexed) (fun s₀ hinit m hm => ?_)
    fun s₁ e s₂ h₁ hstep => indexed_step h₁ hstep
  rw [hinit] at hm
  obtain rfl := Option.some.inj hm
  exact AccountMgr.indexed_awake

/-- **When a reply is forwarded right.**  After every run, whichever packets and replies came before, a list
always is; and a failed creation is exactly if the players at the socket of its packet are those with its
account. -/
theorem correlated_iff {es : List LoginEvent} (hrun : system.Run es s) (hmgr : s.mgr = some m)
    (identify : NetIdentify) (reply : DbReply) :
    m.Correlated reply (m.handleDbReply identify reply) ↔
      (∃ account players, reply = .queryPlayerListRs account players) ∨
        ∀ player, m.LoggedIn player →
          (player.socketKey.socket = identify.socketKey.socket ↔ player.account = reply.account) := by
  have hm := indexed hrun m hmgr
  cases reply with
  | queryPlayerListRs account players =>
    exact iff_of_true (hm.correlated_list account players) (.inl ⟨account, players, rfl⟩)
  | createPlayerRs account returnCode =>
    refine (AccountMgr.correlated_create_iff identify account returnCode).trans ⟨.inr, ?_⟩
    rintro (⟨_, _, heq⟩ | hmatch)
    · cases heq
    · exact hmatch

end LoginProcess

/-! ### Where the database manager runs -/

/-- The database manager is a thread of the login process, or a process of its own. -/
inductive DbDeployment
  /-- Packets are dispatched to all threads. -/
  | allInOne
  /-- Packets come over a connection that the login process has opened. -/
  | link (socket : ℤ)

namespace DbDeployment

/-- The socket that is recorded in a reply. -/
def replyKey : DbDeployment → SocketKey
  | allInOne => SocketKey.none
  | link socket => ⟨socket, .tcpConnector⟩

/-- The connections of clients have other sockets. -/
def ClientsElsewhere (d : DbDeployment) (_ : LoginProcess) : LoginEvent → Prop
  | .receive identify _ _ => identify.socketKey.socket ≠ d.replyKey.socket
  | _ => True

/-- A player is at another socket. -/
def Elsewhere (d : DbDeployment) (player : Player) : Prop := player.socketKey.socket ≠ d.replyKey.socket

variable {d : DbDeployment} {s t : LoginProcess} {m : AccountMgr}

/-- A packet of a client that is elsewhere makes only players that are elsewhere. -/
theorem holds_processPacket (hm : m.Holds d.Elsewhere) {identify : NetIdentify} (sn : UInt64)
    (packet : ClientPacket) (hidentify : identify.socketKey.socket ≠ d.replyKey.socket) :
    (m.processPacket identify sn packet).Meets (fun _ => True) (AccountMgr.Holds d.Elsewhere) := by
  cases packet with
  | accountCheck account password =>
    exact AccountMgr.handleAccountCheck_meets hm hidentify (fun _ _ => trivial) trivial
  | createPlayer name gender => exact AccountMgr.handleCreatePlayer_meets hm fun _ _ => trivial
  | selectPlayer playerSn =>
    exact AccountMgr.handleSelectPlayer_meets hm (fun _ _ _ h => h) (fun _ => trivial) fun _ _ _ => trivial

/-- A reply makes no player. -/
theorem holds_replies (d : DbDeployment) : LoginProcess.RepliesKeep (AccountMgr.Holds d.Elsewhere) where
  queryOnlineRs hm account offline :=
    AccountMgr.handleAccountQueryOnlineToRedisRs_meets hm offline (fun _ => trivial) trivial
  connected hm identify := AccountMgr.handleNetworkConnected_meets hm fun _ _ _ _ _ => trivial
  httpRs hm identify response := AccountMgr.handleHttpOuterResponse_meets hm trivial
    (fun _ _ => trivial) fun _ _ _ _ _ _ => trivial
  dbRs hm identify reply := by
    cases reply with
    | queryPlayerListRs account players =>
      exact AccountMgr.handleQueryPlayerListRs_meets hm (fun _ => trivial) fun _ _ _ h _ => h
    | createPlayerRs account returnCode =>
      exact AccountMgr.handleCreatePlayerRs_meets hm fun _ => trivial
  tokenRs hm account token app := AccountMgr.handleTokenToRedisRs_meets hm fun _ _ => trivial

theorem holds_step {e : LoginEvent} (hs : ∀ m ∈ s.mgr, m.Holds d.Elsewhere) (he : d.ClientsElsewhere s e)
    (hstep : s.step e = some t) : ∀ m ∈ t.mgr, m.Holds d.Elsewhere := by
  refine d.holds_replies.step hs ?_ (fun m identify hm m' hm' => ?_) hstep
  · rintro m identify packet sn hm rfl
    exact (holds_processPacket hm sn packet he).2
  · have hmeets := AccountMgr.handleNetworkDisconnect_meets (Q := fun _ => True) hm identify
    exact (hmeets.2 m' hm').mono fun _ _ _ h => h.1

/-- **In both deployments**, a failed creation is forwarded right only if there is no one to forward it to. -/
theorem correlated_deployment_iff {es : List LoginEvent}
    (hrun : (LoginProcess.system.restrict d.ClientsElsewhere).Run es s) (hmgr : s.mgr = some m)
    {identify : NetIdentify} (hidentify : identify.socketKey = d.replyKey) (account : List UInt8)
    (returnCode : ℤ) :
    m.Correlated (.createPlayerRs account returnCode) (m.handleCreatePlayerRs identify returnCode) ↔
      ∀ player, m.LoggedIn player → player.account ≠ account := by
  have hholds : ∀ m ∈ s.mgr, m.Holds d.Elsewhere := by
    refine hrun.restrict_invariant (p := fun s => ∀ m ∈ s.mgr, m.Holds d.Elsewhere)
      (fun s₀ hinit m hm => ?_) fun s₁ e s₂ h₁ he hstep => holds_step h₁ he hstep
    rw [hinit] at hm
    obtain rfl := Option.some.inj hm
    exact AccountMgr.holds_awake
  have helsewhere : ∀ player, m.LoggedIn player →
      player.socketKey.socket ≠ identify.socketKey.socket := by
    intro player hplayer
    rw [hidentify]
    exact (hholds m hmgr).players _ player hplayer
  rw [AccountMgr.correlated_create_iff]
  exact forall₂_congr fun player hplayer => iff_false_left (helsewhere player hplayer)

end DbDeployment

/-! ### A client that creates a character -/

/-- A client on the socket 5 that checks the account `a`. -/
def checkEvents : List LoginEvent :=
  [.receive ⟨⟨5, .tcpListen⟩, TagKey.clear⟩ (.accountCheck [97] []) 1]

/-- After the check, there is a player on the socket. -/
theorem exists_checked : ∃ (s : LoginProcess) (m : AccountMgr) (player : Player),
    LoginProcess.system.Run checkEvents s ∧ s.mgr = some m ∧ m.LoggedIn player ∧
      player.account = [97] ∧ player.socketKey.socket = 5 := by
  have hplayer : ((Transition.System.execute LoginProcess.step (fun _ _ => True) LoginProcess.start
      checkEvents).bind fun s => s.mgr.bind fun m => (m.players.getPlayerBySocket 5).map fun player =>
        (player.account, player.socketKey.socket)) = some ([97], 5) := by
    decide
  obtain ⟨s, hs, hthen⟩ := Option.bind_eq_some_iff.1 hplayer
  obtain ⟨m, hm, hfound⟩ := Option.bind_eq_some_iff.1 hthen
  obtain ⟨player, hlogged, heq⟩ := Option.map_eq_some_iff.1 hfound
  obtain ⟨haccount, hsocket⟩ := Prod.mk.inj heq
  refine ⟨s, m, player, Transition.System.run_of_execute_true rfl hs, hm, ?_, haccount, hsocket⟩
  unfold AccountMgr.LoggedIn
  rw [hsocket]
  exact hlogged

namespace LoginProcess

/-- A list for the account is forwarded. -/
theorem correlated_checked : ∃ (s : LoginProcess) (m : AccountMgr) (player : Player),
    system.Run checkEvents s ∧ s.mgr = some m ∧ m.LoggedIn player ∧
      m.Correlated (.queryPlayerListRs [97] [7])
        (m.handleDbReply innerIdentify (.queryPlayerListRs [97] [7])) := by
  obtain ⟨s, m, player, hrun, hm, hlogged, -, -⟩ := exists_checked
  exact ⟨s, m, player, hrun, hm, hlogged, (correlated_iff hrun hm _ _).2 (.inl ⟨_, _, rfl⟩)⟩

/-- **A creation that fails** is not told to the client that asked for it: the reply comes over the connection to
the database manager, or has no socket. -/
theorem not_correlated_create :
    ¬ ∀ (d : DbDeployment) (es : List LoginEvent) (s : LoginProcess) (m : AccountMgr)
        (identify : NetIdentify) (reply : DbReply), system.Run es s → s.mgr = some m →
      identify.socketKey = d.replyKey → m.Correlated reply (m.handleDbReply identify reply) := by
  intro hall
  obtain ⟨s, m, player, hrun, hm, hlogged, haccount, hsocket⟩ := exists_checked
  have hcorrelated := hall (.link 9) checkEvents s m ⟨⟨9, .tcpConnector⟩, TagKey.clear⟩
    (.createPlayerRs [97] 1) hrun hm rfl
  have hsame := ((AccountMgr.correlated_create_iff _ _ _).1 hcorrelated player hlogged).2 haccount
  rw [hsocket] at hsame
  exact absurd hsame (by decide)

end LoginProcess

end MmoServer
