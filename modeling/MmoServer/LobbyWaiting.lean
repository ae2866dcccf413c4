/-
**Players that wait in the lobby.**

The lobby keeps, for every public world and for every dungeon, the players that wait for it.  Only the
first of them makes the lobby send a request to the app manager; the others rely on its answer.  The app
manager answers a query, or has the world announced, and the announcement becomes a proxy, which tells the
lobby.  A request of a public world for which there is no space app gets no answer.

Messages arrive in any order, since those of one process have different receivers in it.  What is on its
way between two processes may be lost with a connection.

Main definitions:

* `MmoServer.WorldProxyLocator.registerToLocator`, `MmoServer.WorldProxyLocator.remove`,
  `MmoServer.WorldProxyLocator.handleBroadcastCreateWorld`,
  `MmoServer.CreateWorldComponent.handleQueryWorld` — the handlers on the way;
* `MmoServer.WorldNotice`, `MmoServer.Entrance` — what is on its way, and the system;
* `MmoServer.WaitingKey`, `MmoServer.Lobby.Waits`, `MmoServer.WorldNotice.Concerns` — what players wait
  for, and the messages that lead to an end of it;
* `MmoServer.WaitersAwaited` — what should hold: whoever waits has a request or an answer on its way, or
  the world is being created;
* `MmoServer.Entrance.Answered` — the steps that do not break it;
* `MmoServer.Entrance.Invariant` — the invariant of all answered runs.

Main results:

* `MmoServer.Lobby.handleQueryPlayerRs_ends`, `MmoServer.Lobby.handleQueryWorldRs_ends`,
  `MmoServer.Lobby.handleBroadcastCreateWorldProxy_ends` — **who waits behind a handler**, and which
  requests were sent;
* `MmoServer.WorldCluster.step_manager_cases` — what an event of the cluster does to the app manager;
* `MmoServer.waitersAwaited_iff_answered` — the first step that is not answered is the one behind which
  someone waits in vain;
* `MmoServer.waitersAwaited_run` — **no one waits in vain** in every run of answered steps;
* `MmoServer.not_waitersAwaited` — a request that the app manager drops leaves players behind.
-/

import MmoServer.Lobby
import MmoServer.PublicWorlds

set_option relaxedAutoImplicit false
set_option autoImplicit false

namespace MmoServer

open Std Handler

/-! ### What is on its way -/

/-- A message that has to do with a world for which the lobby has asked. -/
inductive WorldNotice
  /-- `G2M_RequestWorld`, to the app manager. -/
  | requestWorld (worldId : ℤ)
  /-- `G2M_QueryWorld`, to the app manager. -/
  | queryWorld (worldSn lastWorldSn : UInt64)
  /-- `G2M_QueryWorldRs`, to the lobby. -/
  | queryWorldRs (worldSn : UInt64) (ok : Bool)
  /-- `MI_BroadcastCreateWorld`, to the locator of the game process. -/
  | broadcastCreateWorld (worldId : ℤ) (worldSn lastWorldSn : UInt64)
  /-- A proxy that another thread creates. -/
  | createWorldProxy (worldId : ℤ) (worldSn lastWorldSn : UInt64)
  /-- `MI_BroadcastCreateWorldProxy`, to the lobby. -/
  | broadcastCreateWorldProxy (worldId : ℤ) (worldSn : UInt64)
  deriving DecidableEq

/-- The message goes from one process to another. -/
def WorldNotice.isRemote : WorldNotice → Bool
  | requestWorld _ | queryWorld _ _ | queryWorldRs _ _ | broadcastCreateWorld _ _ _ => true
  | createWorldProxy _ _ _ | broadcastCreateWorldProxy _ _ => false

/-- What the lobby sends to the app manager. -/
def LobbyMsg.toManager : LobbyMsg → Option WorldNotice
  | requestWorld worldId => some (.requestWorld worldId)
  | queryWorld worldSn lastWorldSn => some (.queryWorld worldSn lastWorldSn)
  | _ => none

/-- What the app manager sends to the game process; in `HandleRequestWorld` the serial number of the
last world is 0. -/
def ManagerMsg.toGame : ManagerMsg → Option WorldNotice
  | createWorld _ _ => none
  | broadcastCreateWorld worldId worldSn => some (.broadcastCreateWorld worldId worldSn 0)

/-! ### The handlers on the way -/

namespace WorldProxyLocator

/-- The locator when the lobby, which is no public world, has registered itself. -/
def withLobby (lobbySn : UInt64) : WorldProxyLocator :=
  ⟨fun _ => none, Function.update (fun _ => false) lobbySn true⟩

/-- `RegisterToLocator`; an unknown world is a null pointer. -/
def registerToLocator (worlds : ResourceWorldMgr) (locator : WorldProxyLocator) (worldId : ℤ)
    (worldSn : UInt64) : Option WorldProxyLocator :=
  (worlds.getResource worldId).map fun worldType =>
    { publics :=
        if worldType = .publicWorld then Function.update locator.publics worldId (some worldSn)
        else locator.publics
      worlds := Function.update locator.worlds worldSn true }

/-- `Remove`. -/
def remove (locator : WorldProxyLocator) (worldId : ℤ) (worldSn : UInt64) : WorldProxyLocator :=
  ⟨Function.update locator.publics worldId none, Function.update locator.worlds worldSn false⟩

/-- `HandleBroadcastCreateWorld`: the proxy that is created. -/
def handleBroadcastCreateWorld (worlds : ResourceWorldMgr) (locator : WorldProxyLocator)
    (worldId : ℤ) (worldSn lastWorldSn : UInt64) : List WorldNotice :=
  match worlds.getResource worldId with
  | none => []
  | some worldType =>
    if worldType = .publicWorld then
      if (locator.publics worldId).isSome then []
      else [.createWorldProxy worldId worldSn lastWorldSn]
    else if locator.worlds lastWorldSn = false then []
    else [.createWorldProxy worldId worldSn lastWorldSn]

end WorldProxyLocator

/-- `HandleQueryWorld`: the answer. -/
def CreateWorldComponent.handleQueryWorld (m : CreateWorldComponent) (worldSn lastWorldSn : UInt64) :
    WorldNotice :=
  match m.dungeons[worldSn]? with
  | none => .queryWorldRs worldSn false
  | some worldId => .broadcastCreateWorld worldId worldSn lastWorldSn

/-! ### The system -/

/-- A game process with its lobby and its locator, the app manager with the apps that are connected to
it, and what is on its way for the game process. -/
structure Entrance where
  lobby : Lobby
  locator : WorldProxyLocator
  cluster : WorldCluster
  inFlight : List WorldNotice

/-- What happens. -/
inductive EntranceEvent
  /-- The lobby handles a packet that has to do with no world. -/
  | packet (identify : NetIdentify) (packet : LobbyPacket)
  /-- A proxy of the game process requests a public world, in `CreateWorldFlag`. -/
  | requestWorld (worldId : ℤ)
  /-- A message on its way is handled. -/
  | handle (m : WorldNotice)
  /-- A message between two processes is lost. -/
  | lose (m : WorldNotice)
  /-- An event of the app manager and the apps that are connected to it. -/
  | cluster (e : ClusterEvent)
  /-- A space app creates a world, and announces it to this game process, too. -/
  | create (socket : ℤ) (timeTick : UInt64) (snTicket : UInt16) (lastWorldSn : UInt64)
  /-- `WorldProxy::HandleNetworkDisconnect`: the space app of a proxy disconnects. -/
  | removeProxy (worldId : ℤ) (worldSn : UInt64)

/-- The two packets that have to do with a world. -/
def LobbyPacket.isAnswer : LobbyPacket → Bool
  | queryWorldRs _ _ | broadcastCreateWorldProxy _ _ => true
  | _ => false

/-- The announcement of a world that a space app creates, for the game process.  A public world is
created for the app manager, and the serial number of the last world is 0. -/
def announcement (worlds : ResourceWorldMgr) (c : AppConnection) (timeTick : UInt64)
    (snTicket : UInt16) (lastWorldSn : UInt64) : Option WorldNotice :=
  c.requests.head?.map fun worldId =>
    .broadcastCreateWorld worldId (generateSn timeTick c.appId snTicket)
      (if worlds.getResource worldId = some .publicWorld then 0 else lastWorldSn)

namespace Entrance

/-- A new lobby, and an app manager without apps. -/
def start (lobbySn : UInt64) : Entrance := ⟨.awake lobbySn, .withLobby lobbySn, .start, []⟩

/-- The lobby has handled a packet.  If it crashed, there is no game process any more. -/
def afterLobby (s : Entrance) (o : Outcome Lobby LobbyMsg) : Option Entrance :=
  o.state.map fun lobby =>
    { s with lobby := lobby, inFlight := s.inFlight ++ o.sent.filterMap LobbyMsg.toManager }

variable (worlds : ResourceWorldMgr) (configured : AppType → UInt64 → Bool)

/-- A message is handled by its receiver.  A proxy registers itself, and tells everyone of it, or only
the one that has asked for it. -/
def receive (s : Entrance) : WorldNotice → Option Entrance
  | .requestWorld worldId =>
    (s.cluster.step worlds.getResource configured (.requestWorld worldId)).map fun cluster =>
      { s with
        cluster := cluster
        inFlight := s.inFlight ++
          (s.cluster.manager.handleRequestWorld worlds.getResource worldId).2.filterMap
            ManagerMsg.toGame }
  | .queryWorld worldSn lastWorldSn =>
    some { s with
      inFlight := s.inFlight ++ [s.cluster.manager.handleQueryWorld worldSn lastWorldSn] }
  | .queryWorldRs worldSn ok => s.afterLobby (s.lobby.handleQueryWorldRs s.locator worldSn ok)
  | .broadcastCreateWorld worldId worldSn lastWorldSn =>
    some { s with
      inFlight := s.inFlight ++
        s.locator.handleBroadcastCreateWorld worlds worldId worldSn lastWorldSn }
  | .createWorldProxy worldId worldSn lastWorldSn =>
    (s.locator.registerToLocator worlds worldId worldSn).map fun locator =>
      { s with
        locator := locator
        inFlight := s.inFlight ++
          if lastWorldSn = 0 ∨ lastWorldSn = s.lobby.sn then
            [.broadcastCreateWorldProxy worldId worldSn]
          else [] }
  | .broadcastCreateWorldProxy worldId worldSn =>
    s.afterLobby (s.lobby.handleBroadcastCreateWorldProxy worlds worldId worldSn)

/-- One event.  The proxies that are removed are those of worlds: the lobby, which has registered itself under
its own number, is none. -/
def step (s : Entrance) : EntranceEvent → Option Entrance
  | .packet identify packet =>
    if packet.isAnswer then none
    else s.afterLobby (s.lobby.processPacket worlds s.locator identify packet)
  | .requestWorld worldId => some { s with inFlight := s.inFlight ++ [.requestWorld worldId] }
  | .handle m =>
    if m ∈ s.inFlight then { s with inFlight := s.inFlight.erase m }.receive worlds configured m
    else none
  | .lose m =>
    if m ∈ s.inFlight ∧ m.isRemote = true then some { s with inFlight := s.inFlight.erase m }
    else none
  | .cluster e =>
    (s.cluster.step worlds.getResource configured e).map fun cluster =>
      { s with cluster := cluster }
  | .create socket timeTick snTicket lastWorldSn =>
    (s.cluster.step worlds.getResource configured (.create socket timeTick snTicket)).map
      fun cluster =>
        { s with
          cluster := cluster
          inFlight := s.inFlight ++
            ((s.cluster.connections[socket]?).bind fun c =>
              announcement worlds c timeTick snTicket lastWorldSn).toList }
  | .removeProxy worldId worldSn =>
    if worldSn = s.lobby.sn then none
    else some { s with locator := s.locator.remove worldId worldSn }

/-- The system. -/
def system : Transition.System Entrance EntranceEvent :=
  Transition.System.ofFun (fun s => ∃ lobbySn, s = .start lobbySn) (step worlds configured)

end Entrance

/-! ### Who waits, and what for -/

/-- What players wait for: a public world by its id, or a dungeon by its serial number. -/
inductive WaitingKey
  | world (worldId : ℤ)
  | dungeon (worldSn : UInt64)
  deriving DecidableEq

/-- The players that wait. -/
def Lobby.waiting (l : Lobby) : WaitingKey → ExtTreeSet UInt64 compare
  | .world worldId => (l.waitingForWorld worldId).getD ∅
  | .dungeon worldSn => (l.waitingForDungeon worldSn).getD ∅

/-- Someone waits. -/
def Lobby.Waits (l : Lobby) (k : WaitingKey) : Prop := (l.waiting k).isEmpty = false

/-- The world is in the creating map of the app manager. -/
def CreateWorldComponent.Creating (m : CreateWorldComponent) : WaitingKey → Prop
  | .world worldId => m.creating[worldId]?.isSome = true
  | .dungeon _ => False

/-- Whom a proxy of a world is for: the lobby looks at the id of a public world, and at the serial
number of any other. -/
def proxyKey (worlds : ResourceWorldMgr) (worldId : ℤ) (worldSn : UInt64) : Option WaitingKey :=
  (worlds.getResource worldId).map fun worldType =>
    if worldType = .publicWorld then .world worldId else .dungeon worldSn

/-- The serial number of the last world with which a message reaches the lobby: a public world is for
everyone. -/
def WaitingKey.lastWorldSn (lobbySn : UInt64) : WaitingKey → UInt64
  | world _ => 0
  | dungeon _ => lobbySn

/-- The message is a request of what a player in the lobby waits for, or leads to the end of its
waiting.  A query that was answered with `QueryWorld_OK` does not. -/
def WorldNotice.Concerns (worlds : ResourceWorldMgr) (lobbySn : UInt64) (k : WaitingKey) :
    WorldNotice → Prop
  | requestWorld worldId => k = .world worldId
  | queryWorld worldSn lastWorldSn => k = .dungeon worldSn ∧ lastWorldSn = lobbySn
  | queryWorldRs worldSn ok => k = .dungeon worldSn ∧ ok = false
  | broadcastCreateWorld worldId worldSn lastWorldSn | createWorldProxy worldId worldSn lastWorldSn =>
    proxyKey worlds worldId worldSn = some k ∧ lastWorldSn = k.lastWorldSn lobbySn
  | broadcastCreateWorldProxy worldId worldSn => proxyKey worlds worldId worldSn = some k

namespace Entrance

variable (worlds : ResourceWorldMgr)

/-- One of some messages is a request of what a player waits for, or leads to the end of its
waiting. -/
def Coming (s : Entrance) (messages : List WorldNotice) (k : WaitingKey) : Prop :=
  ∃ m ∈ messages, m.Concerns worlds s.lobby.sn k

/-- A request or its answer is on its way, or the app manager has the world in its creating map. -/
def Settled (s : Entrance) (k : WaitingKey) : Prop :=
  s.Coming worlds s.inFlight k ∨ s.cluster.manager.Creating k

end Entrance

/-- **What should hold**: for whatever someone waits, a request or its answer is on its way, or the
app manager has the world in its creating map. -/
def WaitersAwaited (worlds : ResourceWorldMgr) (s : Entrance) : Prop :=
  ∀ k : WaitingKey, s.lobby.Waits k → s.Settled worlds k

/-- The app manager can do something about the request of a world: it is being created, or it is a
public one that is there, or for which a space app can be asked. -/
def CreateWorldComponent.Grants (worlds : ResourceWorldMgr) (m : CreateWorldComponent) (worldId : ℤ) :
    Prop :=
  m.creating[worldId]?.isSome = true ∨
    worlds.getResource worldId = some .publicWorld ∧
      (m.created[worldId]?.isSome = true ∨ (CreateWorldComponent.getOneApp m.apps).isSome = true)

/-- **Answered steps.**  Someone may be waiting for a world.  Then the app manager drops a request of
it, a message is lost, and the app manager removes the world from its creating map, because the space
app disconnects or announces it, only if something else is on its way.  No proxy registers under the
number that stands for none. -/
def Entrance.Answered (worlds : ResourceWorldMgr) (s : Entrance) : EntranceEvent → Prop
  | .handle (.requestWorld worldId) =>
    s.lobby.Waits (.world worldId) → s.cluster.manager.Grants worlds worldId ∨
      s.Coming worlds (s.inFlight.erase (.requestWorld worldId)) (.world worldId)
  | .handle (.createWorldProxy _ worldSn _) => worldSn ≠ invalidId
  | .lose m =>
    ∀ k, m.Concerns worlds s.lobby.sn k → s.lobby.Waits k →
      s.Coming worlds (s.inFlight.erase m) k ∨ s.cluster.manager.Creating k
  | .cluster (.disconnect socket) =>
    ∀ c ∈ s.cluster.connections[socket]?, c.socketKey.netType.isTcp = true → ∀ key ∈ c.appKey,
      ∀ worldId : ℤ, s.cluster.manager.creating[worldId]? = some (idFromAppKey key) →
        s.lobby.Waits (.world worldId) → s.Coming worlds s.inFlight (.world worldId)
  | .cluster (.answer socket) =>
    ∀ c ∈ s.cluster.connections[socket]?, ∀ world ∈ c.answers.head?,
      worlds.getResource world.1 = some .publicWorld → s.lobby.Waits (.world world.1) →
        s.Coming worlds s.inFlight (.world world.1)
  | _ => True

/-! ### The conditions can be computed -/

/-- What a message concerns, if anything. -/
def WorldNotice.key (worlds : ResourceWorldMgr) (lobbySn : UInt64) : WorldNotice → Option WaitingKey
  | requestWorld worldId => some (.world worldId)
  | queryWorld worldSn lastWorldSn => if lastWorldSn = lobbySn then some (.dungeon worldSn) else none
  | queryWorldRs worldSn ok => if ok = false then some (.dungeon worldSn) else none
  | broadcastCreateWorld worldId worldSn lastWorldSn | createWorldProxy worldId worldSn lastWorldSn =>
    (proxyKey worlds worldId worldSn).filter fun k => lastWorldSn = k.lastWorldSn lobbySn
  | broadcastCreateWorldProxy worldId worldSn => proxyKey worlds worldId worldSn

theorem WorldNotice.concerns_iff {worlds : ResourceWorldMgr} {lobbySn : UInt64} {k : WaitingKey}
    {m : WorldNotice} : m.Concerns worlds lobbySn k ↔ m.key worlds lobbySn = some k := by
  cases m with
  | requestWorld worldId => simp [Concerns, key, eq_comm]
  | queryWorld worldSn lastWorldSn => simp [Concerns, key, eq_comm, and_comm]
  | queryWorldRs worldSn ok => simp [Concerns, key, eq_comm, and_comm]
  | broadcastCreateWorld worldId worldSn lastWorldSn =>
    simp [Concerns, key, Option.filter_eq_some_iff]
  | createWorldProxy worldId worldSn lastWorldSn => simp [Concerns, key, Option.filter_eq_some_iff]
  | broadcastCreateWorldProxy worldId worldSn => exact Iff.rfl

instance (worlds : ResourceWorldMgr) (lobbySn : UInt64) (k : WaitingKey) (m : WorldNotice) :
    Decidable (m.Concerns worlds lobbySn k) :=
  decidable_of_iff _ WorldNotice.concerns_iff.symm

instance (l : Lobby) (k : WaitingKey) : Decidable (l.Waits k) :=
  inferInstanceAs (Decidable (_ = _))

instance (m : CreateWorldComponent) (k : WaitingKey) : Decidable (m.Creating k) :=
  match k with
  | .world _ => inferInstanceAs (Decidable (_ = _))
  | .dungeon _ => .isFalse fun h => h

instance (worlds : ResourceWorldMgr) (s : Entrance) (messages : List WorldNotice)
    (k : WaitingKey) : Decidable (s.Coming worlds messages k) :=
  inferInstanceAs (Decidable (∃ m ∈ messages, m.Concerns worlds s.lobby.sn k))

instance (worlds : ResourceWorldMgr) (m : CreateWorldComponent) (worldId : ℤ) :
    Decidable (m.Grants worlds worldId) :=
  inferInstanceAs (Decidable (_ ∨ _ ∧ (_ ∨ _)))

theorem Entrance.answered_lose_iff {worlds : ResourceWorldMgr} {s : Entrance} {m : WorldNotice} :
    s.Answered worlds (.lose m) ↔ ∀ k ∈ m.key worlds s.lobby.sn, s.lobby.Waits k →
      s.Coming worlds (s.inFlight.erase m) k ∨ s.cluster.manager.Creating k := by
  simp only [Entrance.Answered, WorldNotice.concerns_iff, Option.mem_def]

theorem Entrance.answered_disconnect_iff {worlds : ResourceWorldMgr} {s : Entrance} {socket : ℤ} :
    s.Answered worlds (.cluster (.disconnect socket)) ↔
      ∀ c ∈ s.cluster.connections[socket]?, c.socketKey.netType.isTcp = true → ∀ key ∈ c.appKey,
        ∀ worldId ∈ s.cluster.manager.creatingOn (idFromAppKey key),
          s.lobby.Waits (.world worldId) → s.Coming worlds s.inFlight (.world worldId) := by
  simp only [Entrance.Answered, CreateWorldComponent.mem_creatingOn]

instance (worlds : ResourceWorldMgr) (s : Entrance) (e : EntranceEvent) :
    Decidable (s.Answered worlds e) :=
  match e with
  | .handle (.requestWorld _) => inferInstanceAs (Decidable (_ → _ ∨ _))
  | .handle (.createWorldProxy _ _ _) => inferInstanceAs (Decidable (_ ≠ _))
  | .lose _ => decidable_of_iff _ Entrance.answered_lose_iff.symm
  | .cluster (.disconnect _) =>
    -- the key is that of the connection; without this every `UInt64` would be tried
    letI (key : Option UInt64) : Decidable (∀ k ∈ key, ∀ worldId ∈
        s.cluster.manager.creatingOn (idFromAppKey k),
          s.lobby.Waits (.world worldId) → s.Coming worlds s.inFlight (.world worldId)) :=
      Option.decidableForallMem key
    decidable_of_iff _ Entrance.answered_disconnect_iff.symm
  | .cluster (.answer socket) =>
    inferInstanceAs (Decidable (∀ c ∈ s.cluster.connections[socket]?, ∀ world ∈ c.answers.head?,
      worlds.getResource world.1 = some .publicWorld → s.lobby.Waits (.world world.1) →
        s.Coming worlds s.inFlight (.world world.1)))
  | .packet _ _ | .requestWorld _ | .create _ _ _ _ | .removeProxy _ _ => .isTrue trivial
  | .handle (.queryWorld _ _) | .handle (.queryWorldRs _ _) => .isTrue trivial
  | .handle (.broadcastCreateWorld _ _ _) => .isTrue trivial
  | .handle (.broadcastCreateWorldProxy _ _) => .isTrue trivial
  | .cluster (.connect _ _ _) | .cluster (.sync _ _) | .cluster (.requestWorld _) => .isTrue trivial
  | .cluster (.requestDungeon _ _) | .cluster (.create _ _ _) => .isTrue trivial
  | .cluster (.close _) => .isTrue trivial

/-! ### Who waits behind a handler of the lobby -/

/-- The request that the first one sends who waits. -/
def WaitingKey.request (lobbySn : UInt64) : WaitingKey → LobbyMsg
  | world worldId => .requestWorld worldId
  | dungeon worldSn => .queryWorld worldSn lobbySn

/-- The locator has no proxy that a player could be sent to. -/
def WorldProxyLocator.Lacks (locator : WorldProxyLocator) : WaitingKey → Prop
  | .world worldId => locator.getWorldSnById worldId = invalidId
  | .dungeon worldSn => locator.isExistDungeon worldSn = false

namespace Lobby

/-- **Whoever waits has waited before, or a request was sent** for what the locator lacks. -/
structure Follows (locator : WorldProxyLocator) (l : Lobby) (sent : List LobbyMsg) (t : Lobby) :
    Prop where
  sn_eq : t.sn = l.sn
  waits : ∀ k, t.Waits k → l.Waits k ∨ locator.Lacks k ∧ k.request l.sn ∈ sent

variable {locator : WorldProxyLocator} {l t : Lobby} {sent : List LobbyMsg}

theorem Follows.of_waits (hsn : t.sn = l.sn) (h : ∀ k, t.Waits k → l.Waits k) :
    Follows locator l sent t :=
  ⟨hsn, fun k hk => Or.inl (h k hk)⟩

theorem Follows.refl : Follows locator l sent l := Follows.of_waits rfl fun _ hk => hk

theorem Follows.trans {u : Lobby} {more : List LobbyMsg} (h : Follows locator l sent t)
    (h' : Follows locator t more u) : Follows locator l (sent ++ more) u where
  sn_eq := h'.sn_eq.trans h.sn_eq
  waits := by
    intro k hk
    rcases h'.waits k hk with hbefore | ⟨hlacks, hsent⟩
    · rcases h.waits k hbefore with hfirst | ⟨hlacks, hsent⟩
      · exact Or.inl hfirst
      · exact Or.inr ⟨hlacks, List.mem_append_left _ hsent⟩
    · rw [h.sn_eq] at hsent
      exact Or.inr ⟨hlacks, List.mem_append_right _ hsent⟩

/-- Other players, with the same who wait. -/
theorem Follows.withPlayers (players : PlayerCollector) :
    Follows locator l sent { l with players := players } :=
  Follows.of_waits rfl fun k hk => by
    cases k with
    | world worldId => exact hk
    | dungeon worldSn => exact hk

/-- The waiting for a public world begins with a request. -/
theorem waitWorld_ends {worldId : ℤ} (hlacks : locator.getWorldSnById worldId = invalidId)
    (playerSn : UInt64) : (l.waitWorld worldId playerSn).Ends (Follows locator l) := by
  refine Outcome.ends_send ⟨rfl, fun k hk => ?_⟩
  by_cases hkey : k = .world worldId
  · subst hkey
    cases hempty : ((l.waitingForWorld worldId).getD ∅).isEmpty with
    | false => exact Or.inl hempty
    | true => exact Or.inr ⟨hlacks, by simp [WaitingKey.request]⟩
  · refine Or.inl ?_
    cases k with
    | world w =>
      have hne : w ≠ worldId := fun h => hkey (congrArg _ h)
      simpa [Waits, waiting, Function.update_of_ne hne] using hk
    | dungeon worldSn => exact hk

/-- The waiting for a dungeon begins with a query. -/
theorem waitDungeon_ends {worldSn : UInt64} (hlacks : locator.isExistDungeon worldSn = false)
    (playerSn : UInt64) : (l.waitDungeon worldSn playerSn).Ends (Follows locator l) := by
  refine Outcome.ends_send ⟨rfl, fun k hk => ?_⟩
  by_cases hkey : k = .dungeon worldSn
  · subst hkey
    cases hempty : ((l.waitingForDungeon worldSn).getD ∅).isEmpty with
    | false => exact Or.inl hempty
    | true => exact Or.inr ⟨hlacks, by simp [WaitingKey.request]⟩
  · refine Or.inl ?_
    cases k with
    | world worldId => exact hk
    | dungeon sn =>
      have hne : sn ≠ worldSn := fun h => hkey (congrArg _ h)
      simpa [Waits, waiting, Function.update_of_ne hne] using hk

theorem enterPublicWorld_ends (player : Player) :
    (enterPublicWorld locator player l).Ends (Follows locator l) := by
  unfold enterPublicWorld
  cases player.lastMap with
  | none => exact Outcome.ends_crash
  | some lastMap =>
    simp only
    split
    · exact Outcome.ends_send Follows.refl
    · rename_i hlacks
      exact waitWorld_ends (not_not.1 hlacks) _

theorem enterLastWorld_ends (player : Player) :
    (enterLastWorld locator player l).Ends (Follows locator l) := by
  unfold enterLastWorld
  cases player.lastMap.bind LastMap.lastDungeon with
  | none => exact enterPublicWorld_ends player
  | some lastDungeon =>
    simp only
    split
    · exact Outcome.ends_send Follows.refl
    · rename_i hlacks
      exact waitDungeon_ends (Bool.not_eq_true _ ▸ hlacks) _

/-- **A reply from the database**: the player waits, and if it is the first one, the world is
requested. -/
theorem handleQueryPlayerRs_ends (worlds : ResourceWorldMgr) (rs : QueryPlayerRs) :
    (l.handleQueryPlayerRs worlds locator rs).Ends (Follows locator l) := by
  unfold handleQueryPlayerRs
  cases l.players.getPlayerByAccount rs.account with
  | mk found players =>
    cases found with
    | none => exact Outcome.ends_pure (Follows.withPlayers players)
    | some player =>
      cases hlast : player.lastMap with
      | some lastMap =>
        simp only [hlast]
        exact Outcome.ends_crash
      | none =>
        simp only [hlast]
        refine Outcome.Ends.andThen (P := Follows locator l)
          (Outcome.ends_send (Follows.withPlayers _)) fun sent t ht => ?_
        exact (enterLastWorld_ends _).mono fun more u hu => ht.trans hu

theorem enterWaiting_ends (playerSn : UInt64) :
    (enterWaiting locator playerSn l).Ends (Follows locator l) := by
  unfold enterWaiting
  cases l.players.getPlayerBySn playerSn with
  | none => exact Outcome.ends_pure Follows.refl
  | some player => exact enterPublicWorld_ends player

theorem teleportWaiting_ends (worldSn playerSn : UInt64) :
    (teleportWaiting worldSn playerSn l).Ends (Follows locator l) := by
  unfold teleportWaiting
  cases l.players.getPlayerBySn playerSn with
  | none => exact Outcome.ends_pure Follows.refl
  | some player => exact Outcome.ends_send Follows.refl

/-- No one waits behind the erasure. -/
theorem eraseDungeon_ends (worldSn : UInt64) :
    (eraseDungeon worldSn l).Ends fun sent t =>
      Follows locator l sent t ∧ ¬ t.Waits (.dungeon worldSn) := by
  refine Outcome.ends_pure ⟨Follows.of_waits rfl fun k hk => ?_, by simp [Waits, waiting]⟩
  cases k with
  | world worldId => exact hk
  | dungeon sn =>
    by_cases hsn : sn = worldSn
    · simp [Waits, waiting, hsn] at hk
    · simpa [Waits, waiting, Function.update_of_ne hsn] using hk

theorem eraseWorld_ends (worldId : ℤ) :
    (eraseWorld worldId l).Ends fun sent t =>
      Follows locator l sent t ∧ ¬ t.Waits (.world worldId) := by
  refine Outcome.ends_pure ⟨Follows.of_waits rfl fun k hk => ?_, by simp [Waits, waiting]⟩
  cases k with
  | dungeon worldSn => exact hk
  | world w =>
    by_cases hw : w = worldId
    · simp [Waits, waiting, hw] at hk
    · simpa [Waits, waiting, Function.update_of_ne hw] using hk

/-- All who wait are handled, and no one waits any more. -/
theorem forEach_ends {f : UInt64 → Lobby → Outcome Lobby LobbyMsg}
    {erase : Lobby → Outcome Lobby LobbyMsg} {k : WaitingKey}
    (hf : ∀ (playerSn : UInt64) (t : Lobby), (f playerSn t).Ends (Follows locator t))
    (herase : ∀ t : Lobby, (erase t).Ends fun sent u => Follows locator t sent u ∧ ¬ u.Waits k)
    (players : List UInt64) :
    ((forEach f players l).andThen erase).Ends fun sent t =>
      Follows locator l sent t ∧ ¬ t.Waits k := by
  have hloop : (forEach f players l).Ends fun more t => Follows locator l ([] ++ more) t := by
    refine ends_forEach (P := Follows locator l) (fun playerSn _ sent t ht => ?_) Follows.refl
    exact (hf playerSn t).mono fun more u hu => ht.trans hu
  refine hloop.andThen fun sent t ht => ?_
  exact (herase t).mono fun more u hu => ⟨ht.trans hu.1, hu.2⟩

/-- **A query that has failed** is the end of the waiting for the dungeon; those who have waited may
wait for a public world. -/
theorem handleQueryWorldRs_ends (worldSn : UInt64) (ok : Bool) :
    (l.handleQueryWorldRs locator worldSn ok).Ends fun sent t =>
      Follows locator l sent t ∧ (ok = false → ¬ t.Waits (.dungeon worldSn)) := by
  unfold handleQueryWorldRs
  cases hwaiting : l.waitingForDungeon worldSn with
  | none => exact Outcome.ends_pure ⟨Follows.refl, by simp [Waits, waiting, hwaiting]⟩
  | some players =>
    cases ok with
    | true => exact Outcome.ends_pure ⟨Follows.refl, fun h => by cases h⟩
    | false =>
      refine (forEach_ends (fun playerSn t => enterWaiting_ends playerSn)
        (fun t => eraseDungeon_ends worldSn) players.toList).mono fun sent t ht => ?_
      exact ⟨ht.1, fun _ => ht.2⟩

/-- **A new proxy** is the end of the waiting for it. -/
theorem handleBroadcastCreateWorldProxy_ends (worlds : ResourceWorldMgr) (worldId : ℤ)
    (worldSn : UInt64) :
    (l.handleBroadcastCreateWorldProxy worlds worldId worldSn).Ends fun sent t =>
      Follows locator l sent t ∧
        ∀ k, proxyKey worlds worldId worldSn = some k → ¬ t.Waits k := by
  unfold handleBroadcastCreateWorldProxy proxyKey
  cases worlds.getResource worldId with
  | none => exact Outcome.ends_pure ⟨Follows.refl, by simp⟩
  | some worldType =>
    cases worldType with
    | publicWorld =>
      cases hwaiting : l.waitingForWorld worldId with
      | none => exact Outcome.ends_pure ⟨Follows.refl, by simp [Waits, waiting, hwaiting]⟩
      | some players =>
        have hends : ((forEach (teleportWaiting worldSn) players.toList l).andThen
            (eraseWorld worldId)).Ends fun sent t =>
              Follows locator l sent t ∧ ¬ t.Waits (.world worldId) :=
          forEach_ends (fun playerSn t => teleportWaiting_ends worldSn playerSn)
            (fun t => eraseWorld_ends worldId) players.toList
        exact hends.mono fun sent t ht => ⟨ht.1, by simpa using ht.2⟩
    | login | roles | dungeon =>
      cases hwaiting : l.waitingForDungeon worldSn with
      | none => exact Outcome.ends_pure ⟨Follows.refl, by simp [Waits, waiting, hwaiting]⟩
      | some players =>
        have hends : ((forEach (teleportWaiting worldSn) players.toList l).andThen
            (eraseDungeon worldSn)).Ends fun sent t =>
              Follows locator l sent t ∧ ¬ t.Waits (.dungeon worldSn) :=
          forEach_ends (fun playerSn t => teleportWaiting_ends worldSn playerSn)
            (fun t => eraseDungeon_ends worldSn) players.toList
        exact hends.mono fun sent t ht => ⟨ht.1, by simpa using ht.2⟩

/-- The other handlers change who is in the lobby, and not who waits. -/
theorem handleNetworkDisconnect_ends (identify : NetIdentify) :
    (l.handleNetworkDisconnect identify).Ends (Follows locator l) := by
  unfold handleNetworkDisconnect
  cases identify.tagKey.getTagValue .account with
  | none => exact Outcome.ends_pure Follows.refl
  | some value => exact Outcome.ends_pure (Follows.withPlayers _)

theorem handleLoginByToken_ends (identify : NetIdentify) (account token : List UInt8) :
    (l.handleLoginByToken identify account token).Ends (Follows locator l) := by
  unfold handleLoginByToken
  cases l.players.addPlayer identify account with
  | none => exact Outcome.ends_send Follows.refl
  | some added => exact Outcome.ends_send (Follows.withPlayers _)

theorem handleGameTokenToRedisRs_ends (account : List UInt8) (tokenInfo : TokenInfo) :
    (l.handleGameTokenToRedisRs account tokenInfo).Ends (Follows locator l) := by
  unfold handleGameTokenToRedisRs
  cases l.players.getPlayerByAccount account with
  | mk found players =>
    cases found with
    | none => exact Outcome.ends_pure (Follows.withPlayers players)
    | some player =>
      cases htoken : player.token with
      | none =>
        simp only [htoken]
        exact Outcome.ends_crash
      | some token =>
        simp only [htoken]
        split
        · exact Outcome.ends_send Follows.refl
        · exact Outcome.ends_send Follows.refl

theorem handleTeleportAfter_ends (identify : NetIdentify) :
    (l.handleTeleportAfter identify).Ends (Follows locator l) := by
  unfold handleTeleportAfter
  cases l.getPlayer identify with
  | none => exact Outcome.ends_pure Follows.refl
  | some player => exact Outcome.ends_pure (Follows.withPlayers _)

/-- **Any packet.** -/
theorem processPacket_ends (worlds : ResourceWorldMgr) (identify : NetIdentify)
    (packet : LobbyPacket) :
    (l.processPacket worlds locator identify packet).Ends (Follows locator l) := by
  cases packet with
  | networkDisconnect => exact handleNetworkDisconnect_ends identify
  | loginByToken account token => exact handleLoginByToken_ends identify account token
  | gameTokenToRedisRs account tokenInfo => exact handleGameTokenToRedisRs_ends account tokenInfo
  | queryPlayerRs rs => exact handleQueryPlayerRs_ends worlds rs
  | queryWorldRs worldSn ok =>
    exact (handleQueryWorldRs_ends worldSn ok).mono fun sent t ht => ht.1
  | broadcastCreateWorldProxy worldId worldSn =>
    exact (handleBroadcastCreateWorldProxy_ends worlds worldId worldSn).mono fun sent t ht => ht.1
  | teleportAfter => exact handleTeleportAfter_ends identify

end Lobby

/-! ### What happens to the app manager -/

namespace CreateWorldComponent

variable {m m' : CreateWorldComponent}

@[simp]
theorem creating_world {worldId : ℤ} :
    m.Creating (.world worldId) ↔ m.creating[worldId]?.isSome = true := Iff.rfl

@[simp]
theorem not_creating_dungeon {worldSn : UInt64} : ¬ m.Creating (.dungeon worldSn) := fun h => h

/-- What the app manager keeps under a serial number is no public world. -/
def DungeonsOnly (worlds : ResourceWorldMgr) (m : CreateWorldComponent) : Prop :=
  ∀ (worldSn : UInt64) (worldId : ℤ), m.dungeons[worldSn]? = some worldId →
    ∃ worldType, worlds.getResource worldId = some worldType ∧ worldType ≠ .publicWorld

/-- A query is answered with a message that leads to the end of the waiting for the dungeon. -/
theorem handleQueryWorld_concerns {worlds : ResourceWorldMgr} (h : m.DungeonsOnly worlds)
    (worldSn lobbySn : UInt64) :
    (m.handleQueryWorld worldSn lobbySn).Concerns worlds lobbySn (.dungeon worldSn) := by
  unfold handleQueryWorld
  cases hfound : m.dungeons[worldSn]? with
  | none => exact ⟨rfl, rfl⟩
  | some worldId =>
    obtain ⟨worldType, htype, hne⟩ := h worldSn worldId hfound
    exact ⟨by simp [proxyKey, htype, hne], rfl⟩

/-- A request takes no world out of the creating map, and leaves the dungeons as they are. -/
theorem handleRequestWorld_keeps (worldType : ℤ → Option ResourceWorldType) (worldId : ℤ) :
    (∀ k, m.Creating k → (m.handleRequestWorld worldType worldId).1.Creating k) ∧
      (m.handleRequestWorld worldType worldId).1.dungeons = m.dungeons := by
  rcases m.handleRequestWorld_cases worldType worldId with
    ⟨hsame, -⟩ | ⟨-, -, -, appId, apps, -, -, hcreate⟩
  · rw [hsame]
    exact ⟨fun k hk => hk, rfl⟩
  · rw [hcreate]
    refine ⟨fun k hk => ?_, rfl⟩
    cases k with
    | dungeon worldSn => cases hk
    | world w =>
      rw [creating_world, OrdMap.getElem?_insert]
      split
      · rfl
      · exact hk

/-- **A request that can be granted** is answered, or the world is being created behind it. -/
theorem Grants.handleRequestWorld {worlds : ResourceWorldMgr} {worldId : ℤ}
    (h : m.Grants worlds worldId) :
    (m.handleRequestWorld worlds.getResource worldId).1.Creating (.world worldId) ∨
      worlds.getResource worldId = some .publicWorld ∧
        ∃ worldSn, .broadcastCreateWorld worldId worldSn ∈
          (m.handleRequestWorld worlds.getResource worldId).2 := by
  rcases h with hbefore | ⟨htype, hgrants⟩
  · exact Or.inl ((m.handleRequestWorld_keeps worlds.getResource worldId).1 _ hbefore)
  · unfold CreateWorldComponent.handleRequestWorld
    simp only [htype, ne_eq, not_true_eq_false, if_false]
    cases hcreating : m.creating[worldId]? with
    | some appId => exact Or.inl (by simp [hcreating])
    | none =>
      cases hcreated : m.created[worldId]? with
      | some worldSn => exact Or.inr ⟨trivial, worldSn, List.mem_singleton_self _⟩
      | none =>
        have hspace : (getOneApp m.apps).isSome = true := by simpa [hcreated] using hgrants
        obtain ⟨⟨appId, apps⟩, hone⟩ := Option.isSome_iff_exists.1 hspace
        refine Or.inl ?_
        simp [reqCreateWorld, hone]

/-- A request that cannot be granted is dropped. -/
theorem handleRequestWorld_of_not_grants {worlds : ResourceWorldMgr} {worldId : ℤ}
    (h : ¬ m.Grants worlds worldId) : m.handleRequestWorld worlds.getResource worldId = (m, []) := by
  unfold Grants at h
  unfold handleRequestWorld
  cases htype : worlds.getResource worldId with
  | none => rfl
  | some worldType =>
    by_cases hpublic : worldType = .publicWorld
    · subst hpublic
      simp only [htype, true_and, not_or, Option.not_isSome_iff_eq_none] at h
      obtain ⟨hcreating, hcreated, hspace⟩ := h
      simp [hcreating, hcreated, reqCreateWorld, hspace]
    · simp [hpublic]

/-- An announcement takes at most the public world that is announced out of the creating map. -/
theorem handleBroadcastCreateWorld_keeps {worlds : ResourceWorldMgr} {worldId : ℤ}
    {worldSn : UInt64}
    (h : m.handleBroadcastCreateWorld worlds.getResource worldId worldSn = some m') :
    (∀ k, m.Creating k → m'.Creating k ∨
        k = .world worldId ∧ worlds.getResource worldId = some .publicWorld) ∧
      (m.DungeonsOnly worlds → m'.DungeonsOnly worlds) := by
  have hknown : ∃ worldType, worlds.getResource worldId = some worldType := by
    cases htype : worlds.getResource worldId with
    | none => simp [handleBroadcastCreateWorld, htype] at h
    | some worldType => exact ⟨worldType, rfl⟩
  rcases handleBroadcastCreateWorld_cases h with ⟨hpublic, rfl⟩ | ⟨hother, rfl⟩
  · refine ⟨fun k hk => ?_, fun hm => hm⟩
    cases k with
    | dungeon sn => cases hk
    | world w =>
      by_cases hw : worldId = w
      · exact Or.inr ⟨by rw [hw], hpublic⟩
      · rw [creating_world, OrdMap.getElem?_erase, if_neg hw]
        exact Or.inl hk
  · refine ⟨fun k hk => Or.inl ?_, fun hm sn w hsn => ?_⟩
    · cases k with
      | dungeon sn => cases hk
      | world w => exact hk
    · rw [OrdMap.getElem?_insert] at hsn
      split at hsn
      · obtain rfl := Option.some.inj hsn
        obtain ⟨worldType, htype⟩ := hknown
        exact ⟨worldType, htype, fun hpublic => hother (hpublic ▸ htype)⟩
      · exact hm sn w hsn

/-- A disconnect takes at most the worlds that were being created on the app out of the creating
map. -/
theorem handleNetworkDisconnect_keeps (worlds : ResourceWorldMgr) (socketKey : SocketKey)
    (appKey : Option UInt64) :
    (∀ k, m.Creating k → (m.handleNetworkDisconnect socketKey appKey).1.Creating k ∨
        socketKey.netType.isTcp = true ∧ ∃ worldId, ∃ key ∈ appKey, k = .world worldId ∧
          m.creating[worldId]? = some (idFromAppKey key)) ∧
      (m.DungeonsOnly worlds →
        (m.handleNetworkDisconnect socketKey appKey).1.DungeonsOnly worlds) := by
  have hremove : (m.removeApp socketKey.socket).creating = m.creating ∧
      (m.removeApp socketKey.socket).dungeons = m.dungeons := by
    unfold removeApp
    split <;> exact ⟨rfl, rfl⟩
  cases htcp : socketKey.netType.isTcp with
  | false =>
    simp only [handleNetworkDisconnect, htcp, if_true]
    exact ⟨fun k hk => Or.inl hk, fun hm => hm⟩
  | true =>
    cases appKey with
    | none =>
      simp only [handleNetworkDisconnect, htcp, Bool.true_eq_false, if_false]
      refine ⟨fun k hk => Or.inl ?_, fun hm sn w hsn => ?_⟩
      · cases k with
        | dungeon sn => cases hk
        | world w =>
          rw [creating_world, hremove.1]
          exact hk
      · rw [hremove.2] at hsn
        exact hm sn w hsn
    | some key =>
      obtain ⟨hcreating, -, hdungeons, -⟩ := m.handleNetworkDisconnect_spec htcp key
      refine ⟨fun k hk => ?_, fun hm sn w hsn => ?_⟩
      · cases k with
        | dungeon sn => cases hk
        | world w =>
          obtain ⟨appId, happ⟩ := Option.isSome_iff_exists.1 hk
          by_cases hid : appId = idFromAppKey key
          · exact Or.inr ⟨rfl, w, key, rfl, rfl, hid ▸ happ⟩
          · refine Or.inl ?_
            rw [creating_world, hcreating, happ]
            simp [hid]
      · rw [hdungeons, Option.filter_eq_some_iff] at hsn
        exact hm sn w hsn.1

end CreateWorldComponent

namespace WorldCluster

variable {worldType : ℤ → Option ResourceWorldType} {configured : AppType → UInt64 → Bool}

/-- What the app manager sends changes only the connections. -/
theorem foldl_deliver_manager (sent : List ManagerMsg) (s : WorldCluster) :
    (sent.foldl deliver s).manager = s.manager := by
  induction sent generalizing s with
  | nil => rfl
  | cons msg rest ih =>
    rw [List.foldl_cons, ih]
    unfold deliver
    split
    · rfl
    · split
      · rfl
      · split
        · rfl
        · split <;> rfl

/-- **What an event does to the app manager**: nothing that has to do with worlds, or it handles a
request, an announcement, or a disconnect. -/
theorem step_manager_cases {s t : WorldCluster} {e : ClusterEvent}
    (h : s.step worldType configured e = some t) :
    (t.manager.creating = s.manager.creating ∧ t.manager.dungeons = s.manager.dungeons) ∨
      (∃ worldId, e = .requestWorld worldId ∧
        t.manager = (s.manager.handleRequestWorld worldType worldId).1) ∨
      (∃ socket c worldId worldSn, e = .answer socket ∧ s.connections[socket]? = some c ∧
        c.answers.head? = some (worldId, worldSn) ∧
          s.manager.handleBroadcastCreateWorld worldType worldId worldSn = some t.manager) ∨
      ∃ socket c, e = .disconnect socket ∧ s.connections[socket]? = some c ∧
        t.manager = (s.manager.handleNetworkDisconnect c.socketKey c.appKey).1 := by
  cases e with
  | connect socketKey appType appId =>
    simp only [step, Option.ite_none_right_eq_some] at h
    obtain ⟨-, hs⟩ := h
    refine Or.inl ?_
    rw [← Option.some.inj hs]
    unfold register
    split <;> exact ⟨rfl, rfl⟩
  | sync socket online =>
    simp only [step] at h
    split at h
    · cases h
    · split at h
      · refine Or.inl ?_
        rw [← Option.some.inj h]
        simp only [CreateWorldComponent.parse]
        split
        · split <;> exact ⟨rfl, rfl⟩
        · exact ⟨rfl, rfl⟩
      · cases h
  | requestWorld worldId =>
    refine Or.inr (Or.inl ⟨worldId, rfl, ?_⟩)
    rw [← Option.some.inj h, foldl_deliver_manager]
  | requestDungeon socket worldId =>
    simp only [step] at h
    split at h
    · cases h
    · split at h
      · rw [← Option.some.inj h]
        exact Or.inl ⟨rfl, rfl⟩
      · cases h
  | create socket timeTick snTicket =>
    simp only [step] at h
    split at h
    · cases h
    · obtain ⟨c, -, rfl⟩ := Option.map_eq_some_iff.1 h
      exact Or.inl ⟨rfl, rfl⟩
  | answer socket =>
    simp only [step] at h
    split at h
    · cases h
    · rename_i c hc
      split at h
      · cases h
      · rename_i worldId worldSn rest hanswers
        obtain ⟨m, hm, rfl⟩ := Option.map_eq_some_iff.1 h
        exact Or.inr (Or.inr (Or.inl ⟨socket, c, worldId, worldSn, rfl, hc, by simp [hanswers], hm⟩))
  | close socket =>
    simp only [step] at h
    split at h
    · cases h
    · rw [← Option.some.inj h]
      exact Or.inl ⟨rfl, rfl⟩
  | disconnect socket =>
    simp only [step] at h
    split at h
    · cases h
    · rename_i c hc
      split at h
      · cases h
      · refine Or.inr (Or.inr (Or.inr ⟨socket, c, rfl, hc, ?_⟩))
        rw [← Option.some.inj h, foldl_deliver_manager]

end WorldCluster

/-! ### The invariant -/

namespace Entrance

variable {worlds : ResourceWorldMgr} {configured : AppType → UInt64 → Bool} {s t : Entrance}

/-- **The invariant of all answered runs.**  Besides what should hold, a public world that the locator
has and that someone waits for is announced to the lobby, the locator has the lobby, public worlds are
announced to everyone, and the app manager keeps them apart from the others. -/
structure Invariant (worlds : ResourceWorldMgr) (s : Entrance) : Prop where
  awaited : WaitersAwaited worlds s
  announced : ∀ (worldId : ℤ) (worldSn : UInt64), s.locator.publics worldId = some worldSn →
    s.lobby.Waits (.world worldId) →
      ∃ sn, WorldNotice.broadcastCreateWorldProxy worldId sn ∈ s.inFlight
  publics : ∀ (worldId : ℤ) (worldSn : UInt64), s.locator.publics worldId = some worldSn →
    worlds.getResource worldId = some .publicWorld ∧ worldSn ≠ invalidId
  lobby_mem : s.locator.worlds s.lobby.sn = true
  directed : ∀ (worldId : ℤ) (worldSn lastWorldSn : UInt64),
    worlds.getResource worldId = some .publicWorld →
      WorldNotice.broadcastCreateWorld worldId worldSn lastWorldSn ∈ s.inFlight ∨
        WorldNotice.createWorldProxy worldId worldSn lastWorldSn ∈ s.inFlight → lastWorldSn = 0
  dungeons : s.cluster.manager.DungeonsOnly worlds

theorem invariant_start (lobbySn : UInt64) : (start lobbySn).Invariant worlds where
  awaited := by
    intro k hk
    cases k <;> simp [start, Lobby.awake, Lobby.Waits, Lobby.waiting] at hk
  announced := by
    intro worldId worldSn h
    cases h
  publics := by
    intro worldId worldSn h
    cases h
  lobby_mem := by simp [start, Lobby.awake, WorldProxyLocator.withLobby]
  directed := by
    intro worldId worldSn lastWorldSn _ h
    simp [start] at h
  dungeons := by
    intro worldSn worldId h
    simp [start, WorldCluster.start, CreateWorldComponent.empty] at h

/-- A public world is for everyone. -/
theorem proxyKey_publicWorld {worldId : ℤ} (h : worlds.getResource worldId = some .publicWorld)
    (worldSn : UInt64) : proxyKey worlds worldId worldSn = some (.world worldId) := by
  simp [proxyKey, h]

/-- Only public worlds are waited for by their ids. -/
theorem proxyKey_eq_world {worldId w : ℤ} {worldSn : UInt64}
    (h : proxyKey worlds worldId worldSn = some (.world w)) :
    worldId = w ∧ worlds.getResource worldId = some .publicWorld := by
  obtain ⟨worldType, htype, hkey⟩ := Option.map_eq_some_iff.1 h
  by_cases hpublic : worldType = .publicWorld
  · rw [if_pos hpublic] at hkey
    cases hkey
    exact ⟨rfl, hpublic ▸ htype⟩
  · rw [if_neg hpublic] at hkey
    cases hkey

/-- All others are waited for by their serial numbers. -/
theorem proxyKey_eq_dungeon {worldId : ℤ} {worldSn sn : UInt64}
    (h : proxyKey worlds worldId worldSn = some (.dungeon sn)) :
    worldSn = sn ∧ ∃ worldType, worlds.getResource worldId = some worldType ∧
      worldType ≠ .publicWorld := by
  obtain ⟨worldType, htype, hkey⟩ := Option.map_eq_some_iff.1 h
  by_cases hpublic : worldType = .publicWorld
  · rw [if_pos hpublic] at hkey
    cases hkey
  · rw [if_neg hpublic] at hkey
    cases hkey
    exact ⟨rfl, worldType, htype, hpublic⟩

/-- The request that the first one sends concerns the others. -/
theorem concerns_request {lobbySn : UInt64} {k : WaitingKey} {m : WorldNotice}
    (h : (k.request lobbySn).toManager = some m) : m.Concerns worlds lobbySn k := by
  cases k with
  | world worldId =>
    obtain rfl := Option.some.inj h
    exact rfl
  | dungeon worldSn =>
    obtain rfl := Option.some.inj h
    exact ⟨rfl, rfl⟩

theorem Coming.mono {messages messages' : List WorldNotice} {k : WaitingKey}
    (h : s.Coming worlds messages k) (hsn : t.lobby.sn = s.lobby.sn)
    (hsub : ∀ m ∈ messages, m ∈ messages') : t.Coming worlds messages' k := by
  obtain ⟨m, hm, hconcerns⟩ := h
  exact ⟨m, hsub m hm, hsn ▸ hconcerns⟩

/-- Without a message that does not concern what someone waits for, the others still do. -/
theorem Coming.erase {m : WorldNotice} {k : WaitingKey} (h : s.Coming worlds s.inFlight k)
    (hm : ¬ m.Concerns worlds s.lobby.sn k) : s.Coming worlds (s.inFlight.erase m) k := by
  obtain ⟨q, hq, hconcerns⟩ := h
  have hne : q ≠ m := by
    rintro rfl
    exact hm hconcerns
  exact ⟨q, (List.mem_erase_of_ne hne).2 hq, hconcerns⟩

/-- **When a message is not there any more**, what it does not concern is as it was. -/
theorem Invariant.settled_erase (h : s.Invariant worlds) {m : WorldNotice} {k : WaitingKey}
    (hk : s.lobby.Waits k)
    (hm : m.Concerns worlds s.lobby.sn k →
      s.Coming worlds (s.inFlight.erase m) k ∨ s.cluster.manager.Creating k) :
    s.Coming worlds (s.inFlight.erase m) k ∨ s.cluster.manager.Creating k := by
  by_cases hconcerns : m.Concerns worlds s.lobby.sn k
  · exact hm hconcerns
  · rcases h.awaited k hk with hcoming | hcreating
    · exact Or.inl (hcoming.erase hconcerns)
    · exact Or.inr hcreating

/-! ### Steps of the lobby -/

/-- **The lobby has handled a packet**, which ends the waiting for what is no longer under way. -/
theorem Invariant.afterLobby (h : s.Invariant worlds) {b : List WorldNotice}
    {o : Outcome Lobby LobbyMsg} {E : WaitingKey → Prop} (hsub : ∀ m ∈ b, m ∈ s.inFlight)
    (hcoming : ∀ k, s.lobby.Waits k → ¬ E k →
      s.Coming worlds b k ∨ s.cluster.manager.Creating k)
    (hannounced : ∀ (worldId : ℤ) (worldSn : UInt64),
      worlds.getResource worldId = some .publicWorld → ¬ E (.world worldId) →
        .broadcastCreateWorldProxy worldId worldSn ∈ s.inFlight →
          .broadcastCreateWorldProxy worldId worldSn ∈ b)
    (ho : o.Ends fun sent l => Lobby.Follows s.locator s.lobby sent l ∧ ∀ k, E k → ¬ l.Waits k)
    (ht : ({ s with inFlight := b } : Entrance).afterLobby o = some t) : t.Invariant worlds := by
  obtain ⟨l, hl, rfl⟩ := Option.map_eq_some_iff.1 ht
  obtain ⟨⟨hsn, hwaits⟩, hended⟩ := ho l hl
  exact
    { awaited := by
        intro k hk
        rcases hwaits k hk with hbefore | ⟨-, hsent⟩
        · rcases hcoming k hbefore fun he => hended k he hk with hrest | hcreating
          · exact Or.inl (hrest.mono hsn fun m hm => List.mem_append_left _ hm)
          · exact Or.inr hcreating
        · -- the first one has sent a request
          cases hrequest : (k.request s.lobby.sn).toManager with
          | none => cases k <;> cases hrequest
          | some m =>
            refine Or.inl ⟨m, List.mem_append_right _ ?_, ?_⟩
            · exact List.mem_filterMap.2 ⟨_, hsent, hrequest⟩
            · rw [show l.sn = s.lobby.sn from hsn]
              exact concerns_request hrequest
      announced := by
        intro worldId worldSn hpublics hk
        change s.locator.publics worldId = some worldSn at hpublics
        obtain ⟨hpublic, hvalid⟩ := h.publics worldId worldSn hpublics
        rcases hwaits _ hk with hbefore | ⟨hlacks, -⟩
        · obtain ⟨sn, hmem⟩ := h.announced worldId worldSn hpublics hbefore
          have hbase := hannounced worldId sn hpublic (fun he => hended _ he hk) hmem
          exact ⟨sn, List.mem_append_left _ hbase⟩
        · -- the locator has no such world
          have hget : s.locator.getWorldSnById worldId = worldSn := by
            simp [WorldProxyLocator.getWorldSnById, hpublics]
          exact absurd (hget.symm.trans hlacks) hvalid
      publics := h.publics
      lobby_mem := by
        rw [show l.sn = s.lobby.sn from hsn]
        exact h.lobby_mem
      directed := by
        intro worldId worldSn lastWorldSn hpublic hmem
        have hno : ∀ m : WorldNotice, m ∈ o.sent.filterMap LobbyMsg.toManager →
            (∃ w, m = .requestWorld w) ∨ ∃ sn last, m = .queryWorld sn last := by
          intro m hm
          obtain ⟨msg, -, hmsg⟩ := List.mem_filterMap.1 hm
          cases msg <;> simp [LobbyMsg.toManager] at hmsg <;> simp [← hmsg]
        refine h.directed worldId worldSn lastWorldSn hpublic ?_
        rcases hmem with hmem | hmem
        · rcases List.mem_append.1 hmem with hold | hnew
          · exact Or.inl (hsub _ hold)
          · simpa using hno _ hnew
        · rcases List.mem_append.1 hmem with hold | hnew
          · exact Or.inr (hsub _ hold)
          · simpa using hno _ hnew
      dungeons := h.dungeons }

/-- A packet that has to do with no world. -/
theorem Invariant.packet (h : s.Invariant worlds) (identify : NetIdentify) (packet : LobbyPacket)
    (ht : s.afterLobby (s.lobby.processPacket worlds s.locator identify packet) = some t) :
    t.Invariant worlds := by
  refine h.afterLobby (b := s.inFlight) (E := fun _ => False) (fun m hm => hm)
    (fun k hk _ => h.awaited k hk) (fun worldId worldSn _ _ hm => hm) ?_ ht
  exact (Lobby.processPacket_ends worlds identify packet).mono fun sent l hl =>
    ⟨hl, fun k hk => hk.elim⟩

/-- A query was answered. -/
theorem Invariant.queryWorldRs (h : s.Invariant worlds) {worldSn : UInt64} {ok : Bool}
    (ht : ({ s with inFlight := s.inFlight.erase (.queryWorldRs worldSn ok) } : Entrance).afterLobby
      (s.lobby.handleQueryWorldRs s.locator worldSn ok) = some t) : t.Invariant worlds := by
  refine h.afterLobby (E := fun k => k = .dungeon worldSn ∧ ok = false)
    (fun m hm => List.mem_of_mem_erase hm) (fun k hk hended => ?_)
    (fun worldId sn _ _ hm => ?_) ?_ ht
  · exact h.settled_erase hk fun hconcerns => absurd hconcerns hended
  · exact (List.mem_erase_of_ne (by simp)).2 hm
  · refine (Lobby.handleQueryWorldRs_ends worldSn ok).mono fun sent l hl => ⟨hl.1, ?_⟩
    rintro k ⟨rfl, hok⟩
    exact hl.2 hok

/-- The lobby learns of a proxy. -/
theorem Invariant.broadcastCreateWorldProxy (h : s.Invariant worlds) {worldId : ℤ}
    {worldSn : UInt64}
    (ht : ({ s with
      inFlight := s.inFlight.erase (.broadcastCreateWorldProxy worldId worldSn) } :
        Entrance).afterLobby (s.lobby.handleBroadcastCreateWorldProxy worlds worldId worldSn) =
          some t) : t.Invariant worlds := by
  refine h.afterLobby (E := fun k => proxyKey worlds worldId worldSn = some k)
    (fun m hm => List.mem_of_mem_erase hm) (fun k hk hended => ?_)
    (fun w sn hpublic hended hm => ?_)
    (Lobby.handleBroadcastCreateWorldProxy_ends worlds worldId worldSn) ht
  · exact h.settled_erase hk fun hconcerns => absurd hconcerns hended
  · refine (List.mem_erase_of_ne ?_).2 hm
    intro heq
    injection heq with hw hsn
    subst hw
    exact hended (proxyKey_publicWorld hpublic worldSn)

/-! ### Steps on the way -/

/-- **The lobby and the locator stay as they are**, and so do the announcements to the lobby. -/
theorem Invariant.transfer (h : s.Invariant worlds) (hlobby : t.lobby = s.lobby)
    (hlocator : t.locator = s.locator)
    (hawaited : ∀ k, s.lobby.Waits k → t.Settled worlds k)
    (hannounced : ∀ (worldId : ℤ) (worldSn : UInt64),
      WorldNotice.broadcastCreateWorldProxy worldId worldSn ∈ s.inFlight →
        WorldNotice.broadcastCreateWorldProxy worldId worldSn ∈ t.inFlight)
    (hdirected : ∀ (worldId : ℤ) (worldSn lastWorldSn : UInt64),
      worlds.getResource worldId = some .publicWorld →
        WorldNotice.broadcastCreateWorld worldId worldSn lastWorldSn ∈ t.inFlight ∨
          WorldNotice.createWorldProxy worldId worldSn lastWorldSn ∈ t.inFlight → lastWorldSn = 0)
    (hdungeons : t.cluster.manager.DungeonsOnly worlds) : t.Invariant worlds where
  awaited := by
    intro k hk
    rw [hlobby] at hk
    exact hawaited k hk
  announced := by
    intro worldId worldSn hpublics hk
    rw [hlocator] at hpublics
    rw [hlobby] at hk
    obtain ⟨sn, hmem⟩ := h.announced worldId worldSn hpublics hk
    exact ⟨sn, hannounced worldId sn hmem⟩
  publics := by
    intro worldId worldSn hpublics
    rw [hlocator] at hpublics
    exact h.publics worldId worldSn hpublics
  lobby_mem := by
    rw [hlocator, hlobby]
    exact h.lobby_mem
  directed := hdirected
  dungeons := hdungeons

/-- What is new is directed as it should be. -/
theorem Invariant.directed_append (h : s.Invariant worlds) {base new : List WorldNotice}
    (hsub : ∀ m ∈ base, m ∈ s.inFlight)
    (hnew : ∀ (worldId : ℤ) (worldSn lastWorldSn : UInt64),
      worlds.getResource worldId = some .publicWorld →
        WorldNotice.broadcastCreateWorld worldId worldSn lastWorldSn ∈ new ∨
          WorldNotice.createWorldProxy worldId worldSn lastWorldSn ∈ new → lastWorldSn = 0)
    (worldId : ℤ) (worldSn lastWorldSn : UInt64)
    (hpublic : worlds.getResource worldId = some .publicWorld)
    (hmem : WorldNotice.broadcastCreateWorld worldId worldSn lastWorldSn ∈ base ++ new ∨
      WorldNotice.createWorldProxy worldId worldSn lastWorldSn ∈ base ++ new) : lastWorldSn = 0 := by
  rw [List.mem_append, List.mem_append] at hmem
  rcases hmem with (hold | hadded) | hold | hadded
  · exact h.directed worldId worldSn lastWorldSn hpublic (Or.inl (hsub _ hold))
  · exact hnew worldId worldSn lastWorldSn hpublic (Or.inl hadded)
  · exact h.directed worldId worldSn lastWorldSn hpublic (Or.inr (hsub _ hold))
  · exact hnew worldId worldSn lastWorldSn hpublic (Or.inr hadded)

/-- A proxy requests a public world. -/
theorem Invariant.requestWorld (h : s.Invariant worlds) (worldId : ℤ) :
    ({ s with inFlight := s.inFlight ++ [WorldNotice.requestWorld worldId] } :
      Entrance).Invariant worlds := by
  refine h.transfer rfl rfl (fun k hk => ?_) (fun w sn hm => List.mem_append_left _ hm)
    (h.directed_append (fun m hm => hm) fun w sn last _ hm => ?_) h.dungeons
  · rcases h.awaited k hk with hcoming | hcreating
    · exact Or.inl (hcoming.mono rfl fun m hm => List.mem_append_left _ hm)
    · exact Or.inr hcreating
  · simp at hm

/-- A message is lost. -/
theorem Invariant.lose (h : s.Invariant worlds) {m : WorldNotice} (hremote : m.isRemote = true)
    (hanswered : s.Answered worlds (.lose m)) :
    ({ s with inFlight := s.inFlight.erase m } : Entrance).Invariant worlds := by
  refine h.transfer rfl rfl (fun k hk => h.settled_erase hk fun hconcerns =>
    hanswered k hconcerns hk) (fun worldId worldSn hm => ?_)
    (fun worldId worldSn lastWorldSn hpublic hm => ?_) h.dungeons
  · refine (List.mem_erase_of_ne ?_).2 hm
    rintro rfl
    cases hremote
  · exact h.directed worldId worldSn lastWorldSn hpublic
      (hm.imp List.mem_of_mem_erase List.mem_of_mem_erase)

/-- **The app manager handles a request** that it can grant, or that is not the only one. -/
theorem Invariant.handleRequestWorld (h : s.Invariant worlds) {worldId : ℤ}
    (hanswered : s.Answered worlds (.handle (.requestWorld worldId))) {cluster : WorldCluster}
    (hcluster : s.cluster.step worlds.getResource configured (.requestWorld worldId) =
      some cluster) :
    ({ s with
      cluster := cluster
      inFlight := s.inFlight.erase (.requestWorld worldId) ++
        (s.cluster.manager.handleRequestWorld worlds.getResource worldId).2.filterMap
          ManagerMsg.toGame } : Entrance).Invariant worlds := by
  have hmanager : cluster.manager =
      (s.cluster.manager.handleRequestWorld worlds.getResource worldId).1 := by
    rw [← Option.some.inj hcluster, WorldCluster.foldl_deliver_manager]
  obtain ⟨hcreating, hdungeons⟩ :=
    s.cluster.manager.handleRequestWorld_keeps worlds.getResource worldId
  refine h.transfer rfl rfl (fun k hk => ?_) (fun w sn hm => ?_)
    (h.directed_append (fun m hm => List.mem_of_mem_erase hm) fun w sn last _ hm => ?_) ?_
  · have hrest : s.Coming worlds (s.inFlight.erase (.requestWorld worldId)) k ∨
        s.cluster.manager.Creating k ∨ k = .world worldId ∧ s.cluster.manager.Grants worlds worldId := by
      by_cases hkey : k = .world worldId
      · subst hkey
        rcases hanswered hk with hgrants | hcoming
        · exact Or.inr (Or.inr ⟨rfl, hgrants⟩)
        · exact Or.inl hcoming
      · rcases h.settled_erase (m := .requestWorld worldId) hk fun hconcerns =>
          absurd hconcerns hkey with hcoming | hcreate
        · exact Or.inl hcoming
        · exact Or.inr (Or.inl hcreate)
    rcases hrest with hcoming | hcreate | ⟨rfl, hgrants⟩
    · exact Or.inl (hcoming.mono rfl fun m hm => List.mem_append_left _ hm)
    · exact Or.inr (hmanager ▸ hcreating k hcreate)
    · rcases hgrants.handleRequestWorld with hcreate | ⟨hpublic, worldSn, hsent⟩
      · exact Or.inr (hmanager ▸ hcreate)
      · refine Or.inl ⟨.broadcastCreateWorld worldId worldSn 0, ?_,
          proxyKey_publicWorld hpublic worldSn, rfl⟩
        exact List.mem_append_right _ (List.mem_filterMap.2 ⟨_, hsent, rfl⟩)
  · exact List.mem_append_left _ ((List.mem_erase_of_ne (by simp)).2 hm)
  · -- the answers of the app manager are for everyone
    have hno : ∀ m ∈ (s.cluster.manager.handleRequestWorld worlds.getResource worldId).2.filterMap
        ManagerMsg.toGame, ∃ w sn, m = .broadcastCreateWorld w sn 0 := by
      intro m hmem
      obtain ⟨msg, -, hmsg⟩ := List.mem_filterMap.1 hmem
      cases msg with
      | createWorld appId w => cases hmsg
      | broadcastCreateWorld w sn => exact ⟨w, sn, (Option.some.inj hmsg).symm⟩
    rcases hm with hm | hm
    · obtain ⟨w', sn', heq⟩ := hno _ hm
      cases heq
      rfl
    · obtain ⟨w', sn', heq⟩ := hno _ hm
      cases heq
  · intro sn w hsn
    change cluster.manager.dungeons[sn]? = some w at hsn
    rw [hmanager, hdungeons] at hsn
    exact h.dungeons sn w hsn

/-- The app manager handles a query. -/
theorem Invariant.handleQueryWorld (h : s.Invariant worlds) (worldSn lastWorldSn : UInt64) :
    ({ s with inFlight := s.inFlight.erase (.queryWorld worldSn lastWorldSn) ++
      [s.cluster.manager.handleQueryWorld worldSn lastWorldSn] } : Entrance).Invariant worlds := by
  refine h.transfer rfl rfl (fun k hk => ?_) (fun w sn hm => ?_)
    (h.directed_append (fun m hm => List.mem_of_mem_erase hm) fun w sn last hpublic hm => ?_)
    h.dungeons
  · by_cases hconcerns : (WorldNotice.queryWorld worldSn lastWorldSn).Concerns worlds s.lobby.sn k
    · obtain ⟨rfl, rfl⟩ := hconcerns
      exact Or.inl ⟨_, List.mem_append_right _ (List.mem_singleton_self _),
        CreateWorldComponent.handleQueryWorld_concerns h.dungeons worldSn s.lobby.sn⟩
    · rcases h.settled_erase hk fun hc => absurd hc hconcerns with hcoming | hcreating
      · exact Or.inl (hcoming.mono rfl fun m hm => List.mem_append_left _ hm)
      · exact Or.inr hcreating
  · exact List.mem_append_left _ ((List.mem_erase_of_ne (by simp)).2 hm)
  · -- what is found under a serial number is no public world
    unfold CreateWorldComponent.handleQueryWorld at hm
    cases hfound : s.cluster.manager.dungeons[worldSn]? with
    | none => simp [hfound] at hm
    | some worldId =>
      obtain ⟨worldType, htype, hne⟩ := h.dungeons worldSn worldId hfound
      simp only [hfound, List.mem_singleton, reduceCtorEq, or_false] at hm
      injection hm with hw
      rw [hw, htype] at hpublic
      exact absurd (Option.some.inj hpublic) hne

/-- **The locator handles an announcement.**  If it has the public world already, the lobby learns of
it anyway. -/
theorem Invariant.handleBroadcastCreateWorld (h : s.Invariant worlds) (worldId : ℤ)
    (worldSn lastWorldSn : UInt64)
    (hmem : .broadcastCreateWorld worldId worldSn lastWorldSn ∈ s.inFlight) :
    ({ s with inFlight := s.inFlight.erase (.broadcastCreateWorld worldId worldSn lastWorldSn) ++
      s.locator.handleBroadcastCreateWorld worlds worldId worldSn lastWorldSn } :
        Entrance).Invariant worlds := by
  have hcreated : ∀ m ∈ s.locator.handleBroadcastCreateWorld worlds worldId worldSn lastWorldSn,
      m = .createWorldProxy worldId worldSn lastWorldSn := by
    intro m hm
    unfold WorldProxyLocator.handleBroadcastCreateWorld at hm
    split at hm
    · cases hm
    · split at hm
      · split at hm
        · cases hm
        · exact List.mem_singleton.1 hm
      · split at hm
        · cases hm
        · exact List.mem_singleton.1 hm
  refine h.transfer rfl rfl (fun k hk => ?_) (fun w sn hm => ?_)
    (h.directed_append (fun m hm => List.mem_of_mem_erase hm) fun w sn last hpublic hm => ?_)
    h.dungeons
  · have hold : ∀ m ∈ s.inFlight.erase (.broadcastCreateWorld worldId worldSn lastWorldSn),
        m ∈ s.inFlight.erase (.broadcastCreateWorld worldId worldSn lastWorldSn) ++
          s.locator.handleBroadcastCreateWorld worlds worldId worldSn lastWorldSn :=
      fun m hm => List.mem_append_left _ hm
    by_cases hconcerns : (WorldNotice.broadcastCreateWorld worldId worldSn lastWorldSn).Concerns
        worlds s.lobby.sn k
    · obtain ⟨hkey, hlast⟩ := hconcerns
      have hproxy : WorldNotice.createWorldProxy worldId worldSn lastWorldSn ∈
          s.locator.handleBroadcastCreateWorld worlds worldId worldSn lastWorldSn →
            ({ s with inFlight :=
              s.inFlight.erase (.broadcastCreateWorld worldId worldSn lastWorldSn) ++
                s.locator.handleBroadcastCreateWorld worlds worldId worldSn lastWorldSn } :
                  Entrance).Settled worlds k :=
        fun hm => Or.inl ⟨_, List.mem_append_right _ hm, hkey, hlast⟩
      cases k with
      | world w =>
        obtain ⟨rfl, hpublic⟩ := proxyKey_eq_world hkey
        cases hpublics : s.locator.publics worldId with
        | none =>
          refine hproxy ?_
          simp [WorldProxyLocator.handleBroadcastCreateWorld, hpublic, hpublics]
        | some sn' =>
          obtain ⟨sn, hannounced⟩ := h.announced worldId sn' hpublics hk
          refine Or.inl ⟨_, hold _ ((List.mem_erase_of_ne (by simp)).2 hannounced), ?_⟩
          exact proxyKey_publicWorld hpublic sn
      | dungeon sn =>
        obtain ⟨-, worldType, htype, hne⟩ := proxyKey_eq_dungeon hkey
        have hlobby : s.locator.worlds lastWorldSn = true := by
          rw [hlast]
          exact h.lobby_mem
        refine hproxy ?_
        simp [WorldProxyLocator.handleBroadcastCreateWorld, htype, hne, hlobby]
    · rcases h.settled_erase hk fun hc => absurd hc hconcerns with hcoming | hcreating
      · exact Or.inl (hcoming.mono rfl hold)
      · exact Or.inr hcreating
  · exact List.mem_append_left _ ((List.mem_erase_of_ne (by simp)).2 hm)
  · rcases hm with hm | hm
    · cases hcreated _ hm
    · cases hcreated _ hm
      exact h.directed worldId worldSn lastWorldSn hpublic (Or.inl hmem)

/-- **A proxy registers itself**, and the lobby learns of it if it has asked for it. -/
theorem Invariant.createWorldProxy (h : s.Invariant worlds) {worldId : ℤ}
    {worldSn lastWorldSn : UInt64} {locator : WorldProxyLocator}
    (hmem : .createWorldProxy worldId worldSn lastWorldSn ∈ s.inFlight)
    (hvalid : worldSn ≠ invalidId)
    (hlocator : s.locator.registerToLocator worlds worldId worldSn = some locator) :
    ({ s with
      locator := locator
      inFlight := s.inFlight.erase (.createWorldProxy worldId worldSn lastWorldSn) ++
        if lastWorldSn = 0 ∨ lastWorldSn = s.lobby.sn then
          [.broadcastCreateWorldProxy worldId worldSn]
        else [] } : Entrance).Invariant worlds := by
  obtain ⟨worldType, htype, rfl⟩ := Option.map_eq_some_iff.1 hlocator
  have hkept : ∀ m ∈ s.inFlight, m ≠ .createWorldProxy worldId worldSn lastWorldSn →
      m ∈ s.inFlight.erase (.createWorldProxy worldId worldSn lastWorldSn) ++
        if lastWorldSn = 0 ∨ lastWorldSn = s.lobby.sn then
          [WorldNotice.broadcastCreateWorldProxy worldId worldSn]
        else [] :=
    fun m hm hne => List.mem_append_left _ ((List.mem_erase_of_ne hne).2 hm)
  have hsent : lastWorldSn = 0 ∨ lastWorldSn = s.lobby.sn →
      WorldNotice.broadcastCreateWorldProxy worldId worldSn ∈
        s.inFlight.erase (.createWorldProxy worldId worldSn lastWorldSn) ++
          if lastWorldSn = 0 ∨ lastWorldSn = s.lobby.sn then
            [WorldNotice.broadcastCreateWorldProxy worldId worldSn]
          else [] := by
    intro hreaches
    rw [if_pos hreaches]
    exact List.mem_append_right _ (List.mem_singleton_self _)
  exact
    { awaited := by
        intro k hk
        change s.lobby.Waits k at hk
        by_cases hconcerns : (WorldNotice.createWorldProxy worldId worldSn lastWorldSn).Concerns
            worlds s.lobby.sn k
        · obtain ⟨hkey, hlast⟩ := hconcerns
          refine Or.inl ⟨_, hsent ?_, hkey⟩
          cases k with
          | world w => exact Or.inl hlast
          | dungeon sn => exact Or.inr hlast
        · rcases h.settled_erase hk fun hc => absurd hc hconcerns with hcoming | hcreating
          · exact Or.inl (hcoming.mono rfl fun m hm => List.mem_append_left _ hm)
          · exact Or.inr hcreating
      announced := by
        intro w sn hpublics hk
        by_cases hw : worldType = .publicWorld ∧ w = worldId
        · -- a public world is for everyone
          obtain ⟨rfl, rfl⟩ := hw
          exact ⟨worldSn, hsent (Or.inl (h.directed w worldSn lastWorldSn htype (Or.inr hmem)))⟩
        · have hbefore : s.locator.publics w = some sn := by
            by_cases hpublic : worldType = .publicWorld
            · have hne : w ≠ worldId := fun heq => hw ⟨hpublic, heq⟩
              simpa [hpublic, Function.update_of_ne hne] using hpublics
            · simpa [hpublic] using hpublics
          obtain ⟨sn', hm⟩ := h.announced w sn hbefore hk
          exact ⟨sn', hkept _ hm (by simp)⟩
      publics := by
        intro w sn hpublics
        by_cases hpublic : worldType = .publicWorld
        · simp only [if_pos hpublic] at hpublics
          by_cases hw : w = worldId
          · subst hw
            rw [Function.update_self] at hpublics
            obtain rfl := Option.some.inj hpublics
            exact ⟨hpublic ▸ htype, hvalid⟩
          · rw [Function.update_of_ne hw] at hpublics
            exact h.publics w sn hpublics
        · simp only [if_neg hpublic] at hpublics
          exact h.publics w sn hpublics
      lobby_mem := by
        by_cases hsn : s.lobby.sn = worldSn
        · simp [hsn]
        · simpa [Function.update_of_ne hsn] using h.lobby_mem
      directed := by
        refine h.directed_append (fun m hm => List.mem_of_mem_erase hm) fun w sn last _ hm => ?_
        by_cases hreaches : lastWorldSn = 0 ∨ lastWorldSn = s.lobby.sn
        · simp [if_pos hreaches] at hm
        · simp [if_neg hreaches] at hm
      dungeons := h.dungeons }

/-- **A proxy is removed**: no one waits for what it has been, and the lobby stays. -/
theorem Invariant.removeProxy (h : s.Invariant worlds) (worldId : ℤ) {worldSn : UInt64}
    (hne : worldSn ≠ s.lobby.sn) :
    ({ s with locator := s.locator.remove worldId worldSn } : Entrance).Invariant worlds := by
  have hbefore : ∀ (w : ℤ) (sn : UInt64),
      (s.locator.remove worldId worldSn).publics w = some sn → s.locator.publics w = some sn := by
    intro w sn hsn
    by_cases hw : w = worldId
    · simp [WorldProxyLocator.remove, hw] at hsn
    · simpa [WorldProxyLocator.remove, Function.update_of_ne hw] using hsn
  exact
    { awaited := h.awaited
      announced := fun w sn hpublics => h.announced w sn (hbefore w sn hpublics)
      publics := fun w sn hpublics => h.publics w sn (hbefore w sn hpublics)
      lobby_mem := by
        simpa [WorldProxyLocator.remove, Function.update_of_ne hne.symm] using h.lobby_mem
      directed := h.directed
      dungeons := h.dungeons }

/-! ### Steps of the app manager -/

/-- **An event of the cluster** takes a world out of the creating map only if it may. -/
theorem Invariant.cluster (h : s.Invariant worlds) {e : ClusterEvent}
    (hanswered : s.Answered worlds (.cluster e)) {cluster : WorldCluster}
    (hcluster : s.cluster.step worlds.getResource configured e = some cluster) :
    ({ s with cluster := cluster } : Entrance).Invariant worlds := by
  -- what remains to be shown, when some worlds are taken out of the creating map
  have hkeeps : (∀ k, s.lobby.Waits k → s.cluster.manager.Creating k →
        cluster.manager.Creating k ∨ s.Coming worlds s.inFlight k) →
      cluster.manager.DungeonsOnly worlds →
        ({ s with cluster := cluster } : Entrance).Invariant worlds := by
    intro hcreating hdungeons
    refine h.transfer rfl rfl (fun k hk => ?_) (fun w sn hm => hm) h.directed hdungeons
    rcases h.awaited k hk with hcoming | hbefore
    · exact Or.inl hcoming
    · exact (hcreating k hk hbefore).symm
  rcases WorldCluster.step_manager_cases hcluster with ⟨hcreating, hdungeons⟩ |
    ⟨worldId, rfl, hmanager⟩ | ⟨socket, c, worldId, worldSn, rfl, hc, hhead, hmanager⟩ |
      ⟨socket, c, rfl, hc, hmanager⟩
  · refine hkeeps (fun k _ hk => Or.inl ?_) fun sn w hsn => h.dungeons sn w (hdungeons ▸ hsn)
    cases k with
    | world w =>
      rw [CreateWorldComponent.creating_world, hcreating]
      exact hk
    | dungeon sn => exact absurd hk CreateWorldComponent.not_creating_dungeon
  · obtain ⟨hcreating, hdungeons⟩ :=
      s.cluster.manager.handleRequestWorld_keeps worlds.getResource worldId
    refine hkeeps (fun k _ hk => Or.inl (hmanager ▸ hcreating k hk)) fun sn w hsn => ?_
    rw [hmanager, hdungeons] at hsn
    exact h.dungeons sn w hsn
  · obtain ⟨hcreating, hdungeons⟩ :=
      CreateWorldComponent.handleBroadcastCreateWorld_keeps hmanager
    refine hkeeps (fun k hk hbefore => ?_) (hdungeons h.dungeons)
    rcases hcreating k hbefore with hafter | ⟨rfl, hpublic⟩
    · exact Or.inl hafter
    · exact Or.inr (hanswered c hc (worldId, worldSn) hhead hpublic hk)
  · obtain ⟨hcreating, hdungeons⟩ :=
      s.cluster.manager.handleNetworkDisconnect_keeps worlds c.socketKey c.appKey
    refine hkeeps (fun k hk hbefore => ?_) (hmanager ▸ hdungeons h.dungeons)
    rcases hcreating k hbefore with hafter | ⟨htcp, worldId, key, hkey, rfl, happ⟩
    · exact Or.inl (hmanager ▸ hafter)
    · exact Or.inr (hanswered c hc htcp key hkey worldId happ hk)

/-- A space app creates a world, and announces it to this game process. -/
theorem Invariant.create (h : s.Invariant worlds) {socket : ℤ} {timeTick : UInt64}
    {snTicket : UInt16} (lastWorldSn : UInt64) {cluster : WorldCluster}
    (hcluster : s.cluster.step worlds.getResource configured (.create socket timeTick snTicket) =
      some cluster) :
    ({ s with
      cluster := cluster
      inFlight := s.inFlight ++
        ((s.cluster.connections[socket]?).bind fun c =>
          announcement worlds c timeTick snTicket lastWorldSn).toList } :
        Entrance).Invariant worlds := by
  have hok : s.Answered worlds (.cluster (.create socket timeTick snTicket)) := trivial
  have hafter : ({ s with cluster := cluster } : Entrance).Invariant worlds :=
    h.cluster hok hcluster
  refine hafter.transfer rfl rfl (fun k hk => ?_) (fun w sn hm => List.mem_append_left _ hm)
    (h.directed_append (fun m hm => hm) fun w sn last hpublic hm => ?_) hafter.dungeons
  · rcases hafter.awaited k hk with hcoming | hcreating
    · exact Or.inl (hcoming.mono rfl fun m hm => List.mem_append_left _ hm)
    · exact Or.inr hcreating
  · simp only [Option.mem_toList, Option.bind_eq_some_iff, announcement,
      Option.map_eq_some_iff] at hm
    rcases hm with ⟨c, -, worldId, -, heq⟩ | ⟨c, -, worldId, -, heq⟩
    · injection heq with hw hsn hlast
      rw [hw, if_pos hpublic] at hlast
      exact hlast.symm
    · cases heq

/-! ### Runs -/

/-- **What one answered step keeps.** -/
theorem Invariant.step (h : s.Invariant worlds) {e : EntranceEvent}
    (hanswered : s.Answered worlds e) (hstep : s.step worlds configured e = some t) :
    t.Invariant worlds := by
  cases e with
  | packet identify packet =>
    simp only [Entrance.step] at hstep
    split at hstep
    · cases hstep
    · exact h.packet identify packet hstep
  | requestWorld worldId =>
    obtain rfl := Option.some.inj hstep
    exact h.requestWorld worldId
  | handle m =>
    simp only [Entrance.step] at hstep
    split at hstep
    · rename_i hmem
      cases m with
      | requestWorld worldId =>
        simp only [Entrance.receive] at hstep
        obtain ⟨cluster, hcluster, rfl⟩ := Option.map_eq_some_iff.1 hstep
        exact h.handleRequestWorld hanswered hcluster
      | queryWorld worldSn lastWorldSn =>
        obtain rfl := Option.some.inj hstep
        exact h.handleQueryWorld worldSn lastWorldSn
      | queryWorldRs worldSn ok => exact h.queryWorldRs hstep
      | broadcastCreateWorld worldId worldSn lastWorldSn =>
        obtain rfl := Option.some.inj hstep
        exact h.handleBroadcastCreateWorld worldId worldSn lastWorldSn hmem
      | createWorldProxy worldId worldSn lastWorldSn =>
        obtain ⟨locator, hlocator, rfl⟩ := Option.map_eq_some_iff.1 hstep
        exact h.createWorldProxy hmem hanswered hlocator
      | broadcastCreateWorldProxy worldId worldSn => exact h.broadcastCreateWorldProxy hstep
    · cases hstep
  | lose m =>
    simp only [Entrance.step] at hstep
    split at hstep
    · rename_i hm
      obtain rfl := Option.some.inj hstep
      exact h.lose hm.2 hanswered
    · cases hstep
  | cluster e =>
    obtain ⟨cluster, hcluster, rfl⟩ := Option.map_eq_some_iff.1 hstep
    exact h.cluster hanswered hcluster
  | create socket timeTick snTicket lastWorldSn =>
    obtain ⟨cluster, hcluster, rfl⟩ := Option.map_eq_some_iff.1 hstep
    exact h.create lastWorldSn hcluster
  | removeProxy worldId worldSn =>
    simp only [Entrance.step] at hstep
    split at hstep
    · cases hstep
    · rename_i hne
      obtain rfl := Option.some.inj hstep
      exact h.removeProxy worldId hne

end Entrance

/-! ### The other steps break it -/

namespace Entrance

variable {worlds : ResourceWorldMgr} {configured : AppType → UInt64 → Bool} {s t : Entrance}

/-- If the app manager has not the world in its creating map any more, something must be coming. -/
theorem coming_of_awaited (h : WaitersAwaited worlds t) {worldId : ℤ}
    (hk : t.lobby.Waits (.world worldId)) (hcreating : t.cluster.manager.creating[worldId]? = none) :
    t.Coming worlds t.inFlight (.world worldId) := by
  rcases h _ hk with hcoming | hcreate
  · exact hcoming
  · rw [CreateWorldComponent.creating_world, hcreating] at hcreate
    cases hcreate

/-- **A step behind which everyone is awaited is answered**, unless it registers a proxy under the
number that stands for none. -/
theorem answered_of_step {e : EntranceEvent} (hstep : s.step worlds configured e = some t)
    (hvalid : ∀ (worldId : ℤ) (lastWorldSn : UInt64),
      e ≠ .handle (.createWorldProxy worldId invalidId lastWorldSn))
    (h : WaitersAwaited worlds t) : s.Answered worlds e := by
  cases e with
  | packet identify packet => exact trivial
  | requestWorld worldId => exact trivial
  | create socket timeTick snTicket lastWorldSn => exact trivial
  | removeProxy worldId worldSn => exact trivial
  | handle m =>
    cases m with
    | requestWorld worldId =>
      intro hk
      by_cases hgrants : s.cluster.manager.Grants worlds worldId
      · exact Or.inl hgrants
      · -- the request is dropped
        simp only [Entrance.step] at hstep
        split at hstep
        · simp only [Entrance.receive] at hstep
          obtain ⟨cluster, hcluster, rfl⟩ := Option.map_eq_some_iff.1 hstep
          have hdropped := CreateWorldComponent.handleRequestWorld_of_not_grants hgrants
          have hmanager : cluster.manager = s.cluster.manager := by
            rw [← Option.some.inj hcluster, WorldCluster.foldl_deliver_manager, hdropped]
          have hnone : cluster.manager.creating[worldId]? = none := by
            rw [hmanager]
            exact Option.not_isSome_iff_eq_none.1 fun hsome => hgrants (Or.inl hsome)
          have hcoming := coming_of_awaited h hk hnone
          simp only [hdropped, List.filterMap_nil, List.append_nil] at hcoming
          exact Or.inr hcoming
        · cases hstep
    | queryWorld worldSn lastWorldSn => exact trivial
    | queryWorldRs worldSn ok => exact trivial
    | broadcastCreateWorld worldId worldSn lastWorldSn => exact trivial
    | createWorldProxy worldId worldSn lastWorldSn =>
      rintro rfl
      exact hvalid worldId lastWorldSn rfl
    | broadcastCreateWorldProxy worldId worldSn => exact trivial
  | lose m =>
    intro k _ hk
    simp only [Entrance.step] at hstep
    split at hstep
    · obtain rfl := Option.some.inj hstep
      exact h k hk
    · cases hstep
  | cluster e =>
    obtain ⟨cluster, hcluster, rfl⟩ := Option.map_eq_some_iff.1 hstep
    cases e with
    | connect socketKey appType appId => exact trivial
    | sync socket online => exact trivial
    | requestWorld worldId => exact trivial
    | requestDungeon socket worldId => exact trivial
    | create socket timeTick snTicket => exact trivial
    | close socket => exact trivial
    | answer socket =>
      intro c hc world hhead hpublic hk
      refine coming_of_awaited h hk ?_
      simp only [WorldCluster.step, show s.cluster.connections[socket]? = some c from hc]
        at hcluster
      cases hanswers : c.answers with
      | nil =>
        rw [hanswers] at hhead
        cases hhead
      | cons first rest =>
        rw [hanswers] at hhead
        obtain rfl := Option.some.inj hhead
        simp only [hanswers] at hcluster
        obtain ⟨m, hm, rfl⟩ := Option.map_eq_some_iff.1 hcluster
        rcases CreateWorldComponent.handleBroadcastCreateWorld_cases hm with ⟨-, rfl⟩ | ⟨hother, -⟩
        · exact (OrdMap.getElem?_erase ..).trans (if_pos rfl)
        · exact absurd hpublic hother
    | disconnect socket =>
      intro c hc htcp key hkey worldId hcreating hk
      refine coming_of_awaited h hk ?_
      simp only [WorldCluster.step, show s.cluster.connections[socket]? = some c from hc,
        show c.appKey = some key from hkey] at hcluster
      split at hcluster
      · cases hcluster
      · obtain ⟨hfilter, -⟩ := s.cluster.manager.handleNetworkDisconnect_spec htcp key
        rw [← Option.some.inj hcluster, WorldCluster.foldl_deliver_manager]
        simp only [hfilter, hcreating, Option.filter_some, decide_true, Bool.not_true,
          Bool.false_eq_true, if_false]

end Entrance

/-- **The invariant holds** after every run of answered steps. -/
theorem Entrance.invariant_run {worlds : ResourceWorldMgr} {configured : AppType → UInt64 → Bool}
    {es : List EntranceEvent} {s : Entrance}
    (hrun : ((Entrance.system worlds configured).restrict (Entrance.Answered worlds)).Run es s) :
    s.Invariant worlds := by
  refine hrun.restrict_invariant ?_ ?_
  · rintro s ⟨lobbySn, rfl⟩
    exact Entrance.invariant_start lobbySn
  · intro s e t hs hanswered hstep
    exact hs.step hanswered hstep

/-- **The first step that is not answered** is the one behind which someone waits in vain. -/
theorem waitersAwaited_iff_answered {worlds : ResourceWorldMgr}
    {configured : AppType → UInt64 → Bool} {es : List EntranceEvent} {s t : Entrance}
    {e : EntranceEvent}
    (hrun : ((Entrance.system worlds configured).restrict (Entrance.Answered worlds)).Run es s)
    (hstep : s.step worlds configured e = some t)
    (hvalid : ∀ (worldId : ℤ) (lastWorldSn : UInt64),
      e ≠ .handle (.createWorldProxy worldId invalidId lastWorldSn)) :
    WaitersAwaited worlds t ↔ s.Answered worlds e :=
  ⟨fun h => Entrance.answered_of_step hstep hvalid h,
    fun h => ((Entrance.invariant_run hrun).step h hstep).awaited⟩

/-- **No one waits in vain** in every run of answered steps. -/
theorem waitersAwaited_run {worlds : ResourceWorldMgr} {configured : AppType → UInt64 → Bool}
    {es : List EntranceEvent} {s : Entrance}
    (hrun : ((Entrance.system worlds configured).restrict (Entrance.Answered worlds)).Run es s) :
    WaitersAwaited worlds s :=
  (Entrance.invariant_run hrun).awaited

/-! ### Players who enter, and players who wait in vain -/

/-- There is one world, a public one. -/
def oneWorld : ResourceWorldMgr where
  getResource worldId := if worldId = 1 then some .publicWorld else none
  initMap := 1

/-- A client logs in, and the database answers that its player was in the public world. -/
def enters (socket : ℤ) (account : List UInt8) (playerSn : UInt64) : List EntranceEvent :=
  [.packet ⟨⟨socket, .tcpListen⟩, TagKey.clear⟩ (.loginByToken account [116]),
    .packet ⟨SocketKey.none, TagKey.clear⟩
      (.queryPlayerRs ⟨account, ⟨playerSn, account, ⟨1, 0⟩, ⟨0, 0⟩⟩⟩)]

/-- A space app connects, and the app manager learns of it. -/
def spaceConnects : List EntranceEvent :=
  [.cluster (.connect ⟨6, .tcpListen⟩ .space 302), .cluster (.sync 6 0)]

/-- The app manager handles the request, the space app creates the world, and the lobby learns of its
proxy. -/
def worldIsCreated : List EntranceEvent :=
  [.handle (.requestWorld 1), .create 6 0 1 0, .cluster (.answer 6),
    .handle (.broadcastCreateWorld 1 19791873 0), .handle (.createWorldProxy 1 19791873 0),
    .handle (.broadcastCreateWorldProxy 1 19791873)]

/-- With a space app, the world is created, and the player leaves the lobby for it. -/
theorem waitersAwaited_created : ∃ s : Entrance, WaitersAwaited oneWorld s ∧
    s.locator.publics 1 = some 19791873 ∧ ¬ s.lobby.Waits (.world 1) := by
  have hrun : (Transition.System.execute (Entrance.step oneWorld fun _ _ => true)
      (Entrance.Answered oneWorld) (.start 65536)
        (spaceConnects ++ enters 5 [97] 7 ++ worldIsCreated)).map
          (fun s => (s.locator.publics 1, decide (s.lobby.Waits (.world 1)))) =
            some (some 19791873, false) := by
    decide
  obtain ⟨s, hs, hfacts⟩ := Option.map_eq_some_iff.1 hrun
  obtain ⟨hpublics, hwaits⟩ := Prod.mk.inj hfacts
  exact ⟨s, waitersAwaited_run (Transition.System.run_of_execute ⟨65536, rfl⟩ hs), hpublics,
    of_decide_eq_false hwaits⟩

/-- **Without a space app**, the request of the first player is dropped; the second one waits without
a new one. -/
theorem not_waitersAwaited :
    ¬ ∀ (worlds : ResourceWorldMgr) (configured : AppType → UInt64 → Bool)
      (es : List EntranceEvent) (s : Entrance),
        (Entrance.system worlds configured).Run es s → WaitersAwaited worlds s := by
  intro hall
  have hrun : (Transition.System.execute (Entrance.step oneWorld fun _ _ => true)
      (fun _ _ => True) (.start 65536)
        (enters 5 [97] 7 ++ [EntranceEvent.handle (.requestWorld 1)] ++ enters 8 [98] 9)).map
          (fun s => (decide (s.lobby.Waits (.world 1)), s.inFlight,
            decide (s.cluster.manager.Creating (.world 1)))) = some (true, [], false) := by
    decide
  obtain ⟨s, hs, hfacts⟩ := Option.map_eq_some_iff.1 hrun
  obtain ⟨hwaits, hrest⟩ := Prod.mk.inj hfacts
  obtain ⟨hflight, hcreating⟩ := Prod.mk.inj hrest
  have hreach : (Entrance.system oneWorld fun _ _ => true).Run
      (enters 5 [97] 7 ++ [EntranceEvent.handle (.requestWorld 1)] ++ enters 8 [98] 9) s :=
    Transition.System.run_of_execute_true ⟨65536, rfl⟩ hs
  rcases hall _ _ _ s hreach (.world 1) (of_decide_eq_true hwaits) with
    ⟨m, hm, -⟩ | hcreate
  · rw [hflight] at hm
    cases hm
  · exact of_decide_eq_false hcreating hcreate

end MmoServer
