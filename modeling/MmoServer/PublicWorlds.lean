/-
**Public worlds are created once.**

The app manager, the apps that are connected to it, and the messages between them.  A space app
creates the worlds that it is asked for, one after the other, and announces each of them.  A
connection may close at any time, and what was on its way is lost; the app manager handles the
disconnect later, and until then the app is live for it.

Main definitions:

* `MmoServer.AppConnection`, `MmoServer.WorldCluster` — a connected app, and all of them with the
  app manager;
* `MmoServer.ClusterEvent`, `MmoServer.WorldCluster.step`, `MmoServer.worldCluster` — the system;
* `MmoServer.UniquePublicWorlds` — what the app manager should guarantee;
* `MmoServer.WorldCluster.Orderly` — the steps that do not break it;
* `MmoServer.Registered`, `MmoServer.Placed` — the invariant of all orderly runs.

Main results:

* `MmoServer.Placed.request`, `MmoServer.Placed.update`, `MmoServer.Placed.erase` — what requests,
  the work of an app and a disconnect do to the places of the worlds;
* `MmoServer.uniquePublicWorlds_of_orderly` — **public worlds are unique** in every run of orderly
  steps;
* `MmoServer.not_uniquePublicWorlds_recreate` — a world that is requested again after a disconnect
  may be created twice.
-/

import MmoServer.CreateWorld

set_option relaxedAutoImplicit false
set_option autoImplicit false

namespace MmoServer

open Std

/-! ### The cluster -/

/-- A connected app.  A space app has creations that it was asked for, and worlds; the
announcements of the last of them are on their way to the app manager. -/
structure AppConnection where
  socketKey : SocketKey
  appType : AppType
  appId : UInt64
  /-- The tag of the connection, if it has one. -/
  appKey : Option UInt64
  isOpen : Bool
  requests : List ℤ
  answers : List (ℤ × UInt64)
  worlds : List (ℤ × UInt64)

/-- What is left of a connection that closes. -/
def AppConnection.closed (c : AppConnection) : AppConnection :=
  { c with isOpen := false, requests := [], answers := [], worlds := [] }

/-- The connections under their sockets. -/
abbrev Connections := ExtTreeMap ℤ AppConnection compare

/-- The app manager, the connections under their sockets, and the sockets of the apps by their
keys. -/
structure WorldCluster where
  manager : CreateWorldComponent
  connections : Connections
  locator : ExtTreeMap UInt64 ℤ compare

/-- What happens in the cluster. -/
inductive ClusterEvent
  /-- An app connects, and registers. -/
  | connect (socketKey : SocketKey) (appType : AppType) (appId : UInt64)
  /-- The app manager handles `MI_AppInfoSync` of an app. -/
  | sync (socket : ℤ) (online : ℤ)
  /-- The app manager handles `G2M_RequestWorld`. -/
  | requestWorld (worldId : ℤ)
  /-- A game app asks a space app for a dungeon. -/
  | requestDungeon (socket : ℤ) (worldId : ℤ)
  /-- A space app handles `G2S_CreateWorld`, with a time and a ticket for the serial number. -/
  | create (socket : ℤ) (timeTick : UInt64) (snTicket : UInt16)
  /-- The app manager handles `MI_BroadcastCreateWorld`. -/
  | answer (socket : ℤ)
  /-- A connection closes. -/
  | close (socket : ℤ)
  /-- The app manager handles `MI_NetworkDisconnect`. -/
  | disconnect (socket : ℤ)

namespace WorldCluster

/-- The state at the start. -/
def start : WorldCluster := ⟨.empty, ∅, ∅⟩

/-- `NetworkLocator::HandleAppRegister`: the first connection of an app gets its key as a tag. -/
def register (s : WorldCluster) (socketKey : SocketKey) (appType : AppType) (appId : UInt64) :
    WorldCluster :=
  let c : AppConnection :=
    { socketKey := socketKey
      appType := appType
      appId := appId
      appKey := none
      isOpen := true
      requests := []
      answers := []
      worlds := [] }
  match s.locator[getAppKey appType appId]? with
  | some _ => { s with connections := s.connections.insert socketKey.socket c }
  | none =>
    { s with
      connections := s.connections.insert socketKey.socket
        { c with appKey := some (getAppKey appType appId) }
      locator := s.locator.insert (getAppKey appType appId) socketKey.socket }

/-- `MessageSystemHelp::SendPacket` of what the app manager sends.  A message for a connection that
has closed is lost. -/
def deliver (s : WorldCluster) : ManagerMsg → WorldCluster
  | .broadcastCreateWorld _ _ => s
  | .createWorld appId worldId =>
    match s.locator[getAppKey .space appId]? with
    | none => s
    | some socket =>
      match s.connections[socket]? with
      | none => s
      | some c =>
        if c.isOpen then
          { s with connections :=
              s.connections.insert socket { c with requests := c.requests ++ [worldId] } }
        else s

/-- `WorldOperatorComponent::HandleCreateWorld` of a space app, for its first request. -/
def createWorld (c : AppConnection) (timeTick : UInt64) (snTicket : UInt16) :
    Option AppConnection :=
  match c.requests with
  | [] => none
  | worldId :: rest =>
    let world := (worldId, generateSn timeTick c.appId snTicket)
    some { c with
      requests := rest
      answers := c.answers ++ [world]
      worlds := c.worlds ++ [world] }

/-- One event.  Apps are connected by TCP, and one that has all others in it has no connections. -/
def step (worldType : ℤ → Option ResourceWorldType) (configured : AppType → UInt64 → Bool)
    (s : WorldCluster) : ClusterEvent → Option WorldCluster
  | .connect socketKey appType appId =>
    if s.connections[socketKey.socket]? = none ∧ socketKey.netType.isTcp = true ∧
        appType ≠ .allInOne then
      some (s.register socketKey appType appId)
    else none
  | .sync socket online =>
    match s.connections[socket]? with
    | none => none
    | some c =>
      if c.isOpen then
        some { s with manager :=
            s.manager.parse (configured c.appType c.appId) c.appId c.appType online socket }
      else none
  | .requestWorld worldId =>
    let r := s.manager.handleRequestWorld worldType worldId
    some (r.2.foldl deliver { s with manager := r.1 })
  | .requestDungeon socket worldId =>
    match s.connections[socket]? with
    | none => none
    | some c =>
      if c.isOpen ∧ c.appType = .space ∧ worldType worldId = some .dungeon then
        some { s with connections :=
            s.connections.insert socket { c with requests := c.requests ++ [worldId] } }
      else none
  | .create socket timeTick snTicket =>
    match s.connections[socket]? with
    | none => none
    | some c =>
      (createWorld c timeTick snTicket).map fun c =>
        { s with connections := s.connections.insert socket c }
  | .answer socket =>
    match s.connections[socket]? with
    | none => none
    | some c =>
      match c.answers with
      | [] => none
      | (worldId, worldSn) :: rest =>
        (s.manager.handleBroadcastCreateWorld worldType worldId worldSn).map fun m =>
          { s with
            manager := m
            connections := s.connections.insert socket { c with answers := rest } }
  | .close socket =>
    match s.connections[socket]? with
    | none => none
    | some c =>
      some { s with connections := s.connections.insert socket c.closed }
  | .disconnect socket =>
    match s.connections[socket]? with
    | none => none
    | some c =>
      if c.isOpen then none
      else
        let r := s.manager.handleNetworkDisconnect c.socketKey c.appKey
        let locator :=
          match c.appKey with
          | none => s.locator
          | some key => s.locator.erase key
        some (r.2.foldl deliver ⟨r.1, s.connections.erase socket, locator⟩)

end WorldCluster

/-- The system. -/
def worldCluster (worldType : ℤ → Option ResourceWorldType) (configured : AppType → UInt64 → Bool) :
    Transition.System WorldCluster ClusterEvent :=
  Transition.System.ofFun (fun s => s = .start) (WorldCluster.step worldType configured)

/-! ### Unique public worlds -/

/-- The creations of a world that an app was asked for, and that the app manager has no answer
of. -/
def AppConnection.outstanding (c : AppConnection) (worldId : ℤ) : ℕ :=
  c.requests.count worldId + (c.answers.map Prod.fst).count worldId

/-- A space app with an id is live: it is connected, or its disconnect was not handled yet. -/
def Connections.Live (connections : Connections) (appId : UInt64) : Prop :=
  ∃ (socket : ℤ) (c : AppConnection), connections[socket]? = some c ∧ c.appType = .space ∧
    c.appId = appId

/-- **What the app manager should guarantee**: at most one creation of a public world is
outstanding, what it remembers is on live space apps, it remembers every world that was announced,
and no public world is there twice. -/
structure UniquePublicWorlds (worldType : ℤ → Option ResourceWorldType) (s : WorldCluster) :
    Prop where
  outstanding_le : ∀ worldId, worldType worldId = some .publicWorld →
    ∀ (socket : ℤ) (c : AppConnection), s.connections[socket]? = some c →
      c.outstanding worldId ≤ 1
  outstanding_unique : ∀ worldId, worldType worldId = some .publicWorld →
    ∀ (socket socket' : ℤ) (c c' : AppConnection), s.connections[socket]? = some c →
      s.connections[socket']? = some c' → 0 < c.outstanding worldId → 0 < c'.outstanding worldId →
        socket = socket'
  creating_live : ∀ (worldId : ℤ) (appId : UInt64), s.manager.creating[worldId]? = some appId →
    s.connections.Live appId
  created_live : ∀ (worldId : ℤ) (worldSn : UInt64), s.manager.created[worldId]? = some worldSn →
    s.connections.Live (appIdFromSn worldSn)
  records : ∀ (socket : ℤ) (c : AppConnection), s.connections[socket]? = some c →
    ∀ world ∈ c.worlds, world ∈ c.answers ∨ s.manager.Records worldType world.1 world.2
  hosted_unique : ∀ worldId, worldType worldId = some .publicWorld →
    ∀ (socket socket' : ℤ) (c c' : AppConnection) (worldSn worldSn' : UInt64),
      s.connections[socket]? = some c → s.connections[socket']? = some c' →
        (worldId, worldSn) ∈ c.worlds → (worldId, worldSn') ∈ c'.worlds →
          socket = socket' ∧ worldSn = worldSn'

/-- **Orderly steps.**  No connected app has the id of a connected space app, and the ids fit into
serial numbers; a public world is not requested while a creation of it is outstanding that was
requested after a disconnect; and an app does not generate a serial number twice. -/
def WorldCluster.Orderly (s : WorldCluster) : ClusterEvent → Prop
  | .connect _ appType appId =>
    appId < maxAppId ∧ ∀ (socket : ℤ) (c : AppConnection), s.connections[socket]? = some c →
      appType = .space ∨ c.appType = .space → c.appId ≠ appId
  | .requestWorld worldId =>
    s.manager.creating[worldId]? = none → s.manager.created[worldId]? = none →
      ∀ (socket : ℤ) (c : AppConnection), s.connections[socket]? = some c →
        c.outstanding worldId = 0
  | .create socket timeTick snTicket =>
    ∀ c ∈ s.connections[socket]?,
      generateSn timeTick c.appId snTicket ∉ c.worlds.map Prod.snd
  | _ => True

/-! ### The invariant -/

namespace AppConnection

/-- What a connection is, as long as it is there. -/
def identity (c : AppConnection) : SocketKey × AppType × UInt64 × Option UInt64 :=
  (c.socketKey, c.appType, c.appId, c.appKey)

/-- The creations of a world that the app was asked for, and those it has carried out. -/
def claims (c : AppConnection) (worldId : ℤ) : ℕ :=
  c.requests.count worldId + (c.worlds.map Prod.fst).count worldId

theorem identity_socketKey {c c' : AppConnection} (h : c.identity = c'.identity) :
    c.socketKey = c'.socketKey := congrArg Prod.fst h

theorem identity_appType {c c' : AppConnection} (h : c.identity = c'.identity) :
    c.appType = c'.appType := congrArg (fun i => i.2.1) h

theorem identity_appId {c c' : AppConnection} (h : c.identity = c'.identity) :
    c.appId = c'.appId := congrArg (fun i => i.2.2.1) h

theorem identity_appKey {c c' : AppConnection} (h : c.identity = c'.identity) :
    c.appKey = c'.appKey := congrArg (fun i => i.2.2.2) h

/-- What is hosted is claimed. -/
theorem claims_pos_of_mem {c : AppConnection} {world : ℤ × UInt64} (h : world ∈ c.worlds) :
    0 < c.claims world.1 :=
  Nat.add_pos_right _ (List.count_pos_iff.2 (List.mem_map_of_mem h))

/-- What is outstanding is claimed. -/
theorem outstanding_le_claims {c : AppConnection} (h : c.answers.Sublist c.worlds) (worldId : ℤ) :
    c.outstanding worldId ≤ c.claims worldId :=
  Nat.add_le_add_left ((h.map Prod.fst).count_le worldId) _

/-- A world that is claimed once is hosted once. -/
theorem eq_of_claims_le {c : AppConnection} {worldId : ℤ} (h : c.claims worldId ≤ 1)
    {worldSn worldSn' : UInt64} (hsn : (worldId, worldSn) ∈ c.worlds)
    (hsn' : (worldId, worldSn') ∈ c.worlds) : worldSn = worldSn' := by
  have hcount : (c.worlds.map Prod.fst).count worldId ≤ 1 :=
    Nat.le_trans (Nat.le_add_left _ _) h
  rw [List.count_eq_countP, List.countP_map, List.countP_eq_length_filter] at hcount
  have hfilter : ∀ sn, (worldId, sn) ∈ c.worlds →
      (worldId, sn) ∈ c.worlds.filter ((fun x => x == worldId) ∘ Prod.fst) := by
    intro sn hmem
    exact List.mem_filter.2 ⟨hmem, by simp⟩
  have hone := hfilter _ hsn
  have htwo := hfilter _ hsn'
  match hlist : c.worlds.filter ((fun x => x == worldId) ∘ Prod.fst) with
  | [] =>
    rw [hlist] at hone
    cases hone
  | [world] =>
    rw [hlist, List.mem_singleton] at hone htwo
    exact congrArg Prod.snd (hone.trans htwo.symm)
  | _ :: _ :: _ =>
    rw [hlist] at hcount
    simp at hcount

end AppConnection

/-- **The apps are registered**: their ids are short, and no other one has that of a space app; the
space apps have their keys, the locator finds apps with their keys only, and the app manager knows
no others. -/
structure Registered (connections : Connections) (locator : ExtTreeMap UInt64 ℤ compare)
    (apps : ExtTreeMap UInt64 AppInfo compare) : Prop where
  id_lt : ∀ (socket : ℤ) (c : AppConnection), connections[socket]? = some c → c.appId < maxAppId
  id_inj : ∀ (socket socket' : ℤ) (c c' : AppConnection), connections[socket]? = some c →
    connections[socket']? = some c' → c.appType = .space → c.appId = c'.appId → socket = socket'
  socketKey : ∀ (socket : ℤ) (c : AppConnection), connections[socket]? = some c →
    c.socketKey.socket = socket ∧ c.socketKey.netType.isTcp = true
  appType : ∀ (socket : ℤ) (c : AppConnection), connections[socket]? = some c →
    c.appType ≠ .allInOne
  /-- An app that registers behind another one of its key gets none. -/
  appKey : ∀ (socket : ℤ) (c : AppConnection), connections[socket]? = some c →
    c.appKey = some (getAppKey c.appType c.appId) ∨ c.appKey = none ∧ c.appType ≠ .space
  locator_some : ∀ (key : UInt64) (socket : ℤ), locator[key]? = some socket →
    ∃ c : AppConnection, connections[socket]? = some c ∧ c.appKey = some key
  apps_some : ∀ (appId : UInt64) (info : AppInfo), apps[appId]? = some info →
    ∃ c : AppConnection, connections[info.socket]? = some c ∧ c.appId = appId ∧
      (info.appType.hasSpace = true → c.appType = .space)

/-- **The worlds are in their places**: a public world is claimed once, on the app that the app
manager remembers, and what was announced is remembered. -/
structure Placed (worldType : ℤ → Option ResourceWorldType) (m : CreateWorldComponent)
    (connections : Connections) : Prop where
  space : ∀ (socket : ℤ) (c : AppConnection), connections[socket]? = some c →
    ∀ w, 0 < c.claims w → c.appType = .space
  claims_le : ∀ w, worldType w = some .publicWorld → ∀ (socket : ℤ) (c : AppConnection),
    connections[socket]? = some c → c.claims w ≤ 1
  claims_unique : ∀ w, worldType w = some .publicWorld →
    ∀ (socket socket' : ℤ) (c c' : AppConnection), connections[socket]? = some c →
      connections[socket']? = some c' → 0 < c.claims w → 0 < c'.claims w → socket = socket'
  answers : ∀ (socket : ℤ) (c : AppConnection), connections[socket]? = some c →
    c.answers.Sublist c.worlds
  sn : ∀ (socket : ℤ) (c : AppConnection), connections[socket]? = some c →
    (∀ world ∈ c.worlds, appIdFromSn world.2 = c.appId) ∧ (c.worlds.map Prod.snd).Nodup
  records : ∀ (socket : ℤ) (c : AppConnection), connections[socket]? = some c →
    ∀ world ∈ c.worlds, world ∈ c.answers ∨ m.Records worldType world.1 world.2
  creating : ∀ (w : ℤ) (appId : UInt64), m.creating[w]? = some appId →
    worldType w = some .publicWorld ∧ m.created[w]? = none ∧ connections.Live appId ∧
      ∀ (socket : ℤ) (c : AppConnection), connections[socket]? = some c → 0 < c.claims w →
        c.appId = appId
  created : ∀ (w : ℤ) (worldSn : UInt64), m.created[w]? = some worldSn →
    worldType w = some .publicWorld ∧ connections.Live (appIdFromSn worldSn) ∧
      ∀ (socket : ℤ) (c : AppConnection), connections[socket]? = some c → 0 < c.claims w →
        c.appId = appIdFromSn worldSn

/-- **The invariant of all orderly runs.** -/
structure WorldCluster.Invariant (worldType : ℤ → Option ResourceWorldType) (s : WorldCluster) :
    Prop where
  registered : Registered s.connections s.locator s.manager.apps
  placed : Placed worldType s.manager s.connections

/-- **The invariant is enough.** -/
theorem WorldCluster.Invariant.uniquePublicWorlds {worldType : ℤ → Option ResourceWorldType}
    {s : WorldCluster} (h : s.Invariant worldType) : UniquePublicWorlds worldType s where
  outstanding_le := by
    intro w hw socket c hc
    exact Nat.le_trans (AppConnection.outstanding_le_claims (h.placed.answers socket c hc) w)
      (h.placed.claims_le w hw socket c hc)
  outstanding_unique := by
    intro w hw socket socket' c c' hc hc' hpos hpos'
    refine h.placed.claims_unique w hw socket socket' c c' hc hc' ?_ ?_
    · exact Nat.lt_of_lt_of_le hpos
        (AppConnection.outstanding_le_claims (h.placed.answers socket c hc) w)
    · exact Nat.lt_of_lt_of_le hpos'
        (AppConnection.outstanding_le_claims (h.placed.answers socket' c' hc') w)
  creating_live := by
    intro w appId hw
    exact (h.placed.creating w appId hw).2.2.1
  created_live := by
    intro w worldSn hw
    exact (h.placed.created w worldSn hw).2.1
  records := h.placed.records
  hosted_unique := by
    intro w hw socket socket' c c' worldSn worldSn' hc hc' hmem hmem'
    have hpos : 0 < c.claims w := AppConnection.claims_pos_of_mem hmem
    have hpos' : 0 < c'.claims w := AppConnection.claims_pos_of_mem hmem'
    obtain rfl := h.placed.claims_unique w hw socket socket' c c' hc hc' hpos hpos'
    obtain rfl := Option.some.inj (hc.symm.trans hc')
    exact ⟨rfl, AppConnection.eq_of_claims_le (h.placed.claims_le w hw socket c hc) hmem hmem'⟩

/-! ### Connections that change -/

/-- The connections of two states are those of the same apps. -/
def SameApps (connections connections' : Connections) : Prop :=
  ∀ socket : ℤ, connections'[socket]?.map AppConnection.identity =
    connections[socket]?.map AppConnection.identity

theorem sameApps_refl (connections : Connections) : SameApps connections connections :=
  fun _ => rfl

theorem SameApps.trans {connections connections' connections'' : Connections}
    (h : SameApps connections connections') (h' : SameApps connections' connections'') :
    SameApps connections connections'' :=
  fun socket => (h' socket).trans (h socket)

theorem SameApps.symm {connections connections' : Connections}
    (h : SameApps connections connections') : SameApps connections' connections :=
  fun socket => (h socket).symm

theorem SameApps.exists {connections connections' : Connections}
    (h : SameApps connections connections') {socket : ℤ} {c' : AppConnection}
    (hc : connections'[socket]? = some c') :
    ∃ c, connections[socket]? = some c ∧ c.identity = c'.identity := by
  have hsame := h socket
  rw [hc, Option.map_some] at hsame
  exact Option.map_eq_some_iff.1 hsame.symm

theorem sameApps_insert {connections : Connections} {socket : ℤ} {c c' : AppConnection}
    (hc : connections[socket]? = some c) (hsame : c'.identity = c.identity) :
    SameApps connections (connections.insert socket c') := by
  intro socket'
  rw [OrdMap.getElem?_insert]
  by_cases hs : socket = socket'
  · rw [if_pos hs, ← hs, hc, Option.map_some, Option.map_some, hsame]
  · rw [if_neg hs]

theorem SameApps.live {connections connections' : Connections}
    (h : SameApps connections connections') {appId : UInt64} (hlive : connections.Live appId) :
    connections'.Live appId := by
  obtain ⟨socket, c, hc, hspace, hid⟩ := hlive
  obtain ⟨c', hc', hsame⟩ := h.symm.exists hc
  exact ⟨socket, c', hc', (AppConnection.identity_appType hsame).trans hspace,
    (AppConnection.identity_appId hsame).trans hid⟩

/-- The registration depends on the apps only. -/
theorem Registered.of_same {connections connections' : Connections}
    {locator : ExtTreeMap UInt64 ℤ compare} {apps apps' : ExtTreeMap UInt64 AppInfo compare}
    (h : Registered connections locator apps) (hsame : SameApps connections connections')
    (hplaces : CreateWorldComponent.SamePlaces apps apps') :
    Registered connections' locator apps' where
  id_lt := by
    intro socket c' hc'
    obtain ⟨c, hc, heq⟩ := hsame.exists hc'
    exact AppConnection.identity_appId heq ▸ h.id_lt socket c hc
  id_inj := by
    intro socket socket' c₁ c₂ hc₁ hc₂ hspace hid
    obtain ⟨c, hc, heq⟩ := hsame.exists hc₁
    obtain ⟨c', hc', heq'⟩ := hsame.exists hc₂
    refine h.id_inj socket socket' c c' hc hc' ((AppConnection.identity_appType heq).trans hspace) ?_
    rw [AppConnection.identity_appId heq, AppConnection.identity_appId heq', hid]
  socketKey := by
    intro socket c' hc'
    obtain ⟨c, hc, heq⟩ := hsame.exists hc'
    exact AppConnection.identity_socketKey heq ▸ h.socketKey socket c hc
  appType := by
    intro socket c' hc'
    obtain ⟨c, hc, heq⟩ := hsame.exists hc'
    exact AppConnection.identity_appType heq ▸ h.appType socket c hc
  appKey := by
    intro socket c' hc'
    obtain ⟨c, hc, heq⟩ := hsame.exists hc'
    rw [← AppConnection.identity_appType heq, ← AppConnection.identity_appId heq,
      ← AppConnection.identity_appKey heq]
    exact h.appKey socket c hc
  locator_some := by
    intro key socket hkey
    obtain ⟨c, hc, hk⟩ := h.locator_some key socket hkey
    obtain ⟨c', hc', heq⟩ := hsame.symm.exists hc
    exact ⟨c', hc', (AppConnection.identity_appKey heq).trans hk⟩
  apps_some := by
    intro appId info' hinfo'
    obtain ⟨info, hinfo, hplace⟩ := hplaces.exists hinfo'
    obtain ⟨c, hc, hid, htype⟩ := h.apps_some appId info hinfo
    have hsocket : info.socket = info'.socket := congrArg Prod.snd hplace
    have happ : info.appType = info'.appType := congrArg Prod.fst hplace
    rw [hsocket] at hc
    obtain ⟨c', hc', heq⟩ := hsame.symm.exists hc
    refine ⟨c', hc', (AppConnection.identity_appId heq).trans hid, fun hspace => ?_⟩
    rw [← happ] at hspace
    exact (AppConnection.identity_appType heq).trans (htype hspace)

/-! ### Apps that come and go -/

/-- Keys of different apps are different. -/
theorem getAppKey_inj {appType appType' : AppType} {appId appId' : UInt64} (h : appId < maxAppId)
    (h' : appId' < maxAppId) (hkey : getAppKey appType appId = getAppKey appType' appId') :
    appType = appType' ∧ appId = appId' := by
  have hid : appId = appId' := by
    rw [← idFromAppKey_getAppKey appType h, hkey, idFromAppKey_getAppKey appType' h']
  subst hid
  have hvalue : appType.value <<< 32 = appType'.value <<< 32 := by
    unfold getAppKey at hkey
    exact (UInt64.add_left_inj _).1 hkey
  refine ⟨?_, rfl⟩
  revert hvalue
  cases appType <;> cases appType' <;> decide

namespace Registered

variable {connections : Connections} {locator : ExtTreeMap UInt64 ℤ compare}
  {apps : ExtTreeMap UInt64 AppInfo compare}

theorem empty : Registered ∅ ∅ ∅ where
  id_lt := by simp
  id_inj := by simp
  socketKey := by simp
  appType := by simp
  appKey := by simp
  locator_some := by simp
  apps_some := by simp

/-- A space app in the table is live. -/
theorem live (h : Registered connections locator apps) {appId : UInt64}
    (happ : CreateWorldComponent.HasSpaceApp apps appId) :
    connections.Live appId ∧ appId < maxAppId := by
  obtain ⟨info, hinfo, hspace⟩ := happ
  obtain ⟨c, hc, rfl, htype⟩ := h.apps_some appId info hinfo
  exact ⟨⟨info.socket, c, hc, htype hspace, rfl⟩, h.id_lt _ c hc⟩

/-- A key is that of its app. -/
theorem eq_appKey (h : Registered connections locator apps) {socket : ℤ} {c : AppConnection}
    (hc : connections[socket]? = some c) {key : UInt64} (hkey : c.appKey = some key) :
    key = getAppKey c.appType c.appId := by
  rcases h.appKey socket c hc with hsome | ⟨hnone, -⟩
  · exact Option.some.inj (hkey.symm.trans hsome)
  · rw [hnone] at hkey
    cases hkey

/-- The locator finds a space app under its key. -/
theorem of_locator (h : Registered connections locator apps) {appId : UInt64}
    (hid : appId < maxAppId) {socket : ℤ} (hkey : locator[getAppKey .space appId]? = some socket) :
    ∃ c, connections[socket]? = some c ∧ c.appType = .space ∧ c.appId = appId := by
  obtain ⟨c, hc, heq⟩ := h.locator_some _ socket hkey
  obtain ⟨htype, happ⟩ := getAppKey_inj hid (h.id_lt socket c hc) (h.eq_appKey hc heq)
  exact ⟨c, hc, htype.symm, happ.symm⟩

/-- **An app registers** under an id that no connected space app has; a space app, under one that no
connected app has. -/
theorem insert (h : Registered connections locator apps) {c : AppConnection}
    {locator' : ExtTreeMap UInt64 ℤ compare}
    (hfresh : connections[c.socketKey.socket]? = none) (htcp : c.socketKey.netType.isTcp = true)
    (htype : c.appType ≠ .allInOne) (hlt : c.appId < maxAppId)
    (hid : ∀ (socket : ℤ) (c' : AppConnection), connections[socket]? = some c' →
      c.appType = .space ∨ c'.appType = .space → c'.appId ≠ c.appId)
    (hkey : c.appKey = some (getAppKey c.appType c.appId) ∨ c.appKey = none ∧ c.appType ≠ .space)
    (hlocator : ∀ (key : UInt64) (socket : ℤ), locator'[key]? = some socket →
      locator[key]? = some socket ∨ socket = c.socketKey.socket ∧ c.appKey = some key) :
    Registered (connections.insert c.socketKey.socket c) locator' apps := by
  have hcases : ∀ (socket : ℤ) (c' : AppConnection),
      (connections.insert c.socketKey.socket c)[socket]? = some c' →
        (c.socketKey.socket = socket ∧ c = c') ∨
          (c.socketKey.socket ≠ socket ∧ connections[socket]? = some c') :=
    fun _ _ => OrdMap.of_getElem?_insert
  have hkept : ∀ (socket : ℤ) (c' : AppConnection), connections[socket]? = some c' →
      (connections.insert c.socketKey.socket c)[socket]? = some c' := by
    intro socket c' hc'
    have hne : c.socketKey.socket ≠ socket := by
      rintro rfl
      rw [hfresh] at hc'
      cases hc'
    rw [OrdMap.getElem?_insert, if_neg hne]
    exact hc'
  exact
    { id_lt := by
        intro socket c' hc'
        rcases hcases socket c' hc' with ⟨-, rfl⟩ | ⟨-, hold⟩
        · exact hlt
        · exact h.id_lt socket c' hold
      id_inj := by
        intro socket socket' c₁ c₂ hc₁ hc₂ hspace heq
        rcases hcases socket c₁ hc₁ with ⟨hs, rfl⟩ | ⟨-, hold⟩
        · rcases hcases socket' c₂ hc₂ with ⟨hs', -⟩ | ⟨-, hold'⟩
          · exact hs.symm.trans hs'
          · exact absurd heq.symm (hid socket' c₂ hold' (Or.inl hspace))
        · rcases hcases socket' c₂ hc₂ with ⟨-, rfl⟩ | ⟨-, hold'⟩
          · exact absurd heq (hid socket c₁ hold (Or.inr hspace))
          · exact h.id_inj socket socket' c₁ c₂ hold hold' hspace heq
      socketKey := by
        intro socket c' hc'
        rcases hcases socket c' hc' with ⟨hs, rfl⟩ | ⟨-, hold⟩
        · exact ⟨hs, htcp⟩
        · exact h.socketKey socket c' hold
      appType := by
        intro socket c' hc'
        rcases hcases socket c' hc' with ⟨-, rfl⟩ | ⟨-, hold⟩
        · exact htype
        · exact h.appType socket c' hold
      appKey := by
        intro socket c' hc'
        rcases hcases socket c' hc' with ⟨-, rfl⟩ | ⟨-, hold⟩
        · exact hkey
        · exact h.appKey socket c' hold
      locator_some := by
        intro key socket hsome
        rcases hlocator key socket hsome with hold | ⟨rfl, hnew⟩
        · obtain ⟨c', hc', heq⟩ := h.locator_some key socket hold
          exact ⟨c', hkept socket c' hc', heq⟩
        · exact ⟨c, by rw [OrdMap.getElem?_insert, if_pos rfl], hnew⟩
      apps_some := by
        intro appId info hinfo
        obtain ⟨c', hc', heq⟩ := h.apps_some appId info hinfo
        exact ⟨c', hkept _ c' hc', heq⟩ }

/-- **The app manager learns of an app** that is connected. -/
theorem parse (m : CreateWorldComponent) (h : Registered connections locator m.apps) {socket : ℤ}
    {c : AppConnection} (hc : connections[socket]? = some c) (configured : Bool) (online : ℤ) :
    Registered connections locator
      (m.parse configured c.appId c.appType online socket).apps := by
  have happs : ∀ info : AppInfo, info.socket = socket →
      (info.appType.hasSpace = true → c.appType = .space) →
        Registered connections locator (m.apps.insert c.appId info) := by
    intro info hsocket htype
    refine { h with apps_some := ?_ }
    intro appId info' hinfo'
    rw [OrdMap.getElem?_insert] at hinfo'
    by_cases hid : c.appId = appId
    · rw [if_pos hid] at hinfo'
      obtain rfl := Option.some.inj hinfo'
      exact ⟨c, hsocket ▸ hc, hid, htype⟩
    · rw [if_neg hid] at hinfo'
      exact h.apps_some appId info' hinfo'
  unfold CreateWorldComponent.parse
  cases hinfo : m.apps[c.appId]? with
  | none =>
    simp only
    split
    · refine happs _ rfl fun hspace => ?_
      unfold AppType.hasSpace at hspace
      exact (of_decide_eq_true hspace).resolve_right (h.appType socket c hc)
    · exact h
  | some info =>
    obtain ⟨c', hc', hid, htype⟩ := h.apps_some c.appId info hinfo
    refine happs _ rfl fun hspace => ?_
    -- a space app shares its entry with no other app
    obtain hs := h.id_inj _ _ c' c hc' hc (htype hspace) hid
    rw [hs] at hc'
    obtain rfl := Option.some.inj (hc.symm.trans hc')
    exact htype hspace

/-- **An app is gone** when its disconnect is handled. -/
theorem erase (m : CreateWorldComponent) (h : Registered connections locator m.apps) {socket : ℤ}
    {c : AppConnection} (hc : connections[socket]? = some c)
    {locator' : ExtTreeMap UInt64 ℤ compare}
    (hlocator : ∀ (key : UInt64) (socket' : ℤ), locator'[key]? = some socket' →
      locator[key]? = some socket' ∧ c.appKey ≠ some key) :
    Registered (connections.erase socket) locator' (m.removeApp socket).apps := by
  have hcases : ∀ (socket' : ℤ) (c' : AppConnection),
      (connections.erase socket)[socket']? = some c' →
        socket ≠ socket' ∧ connections[socket']? = some c' :=
    fun _ _ => OrdMap.of_getElem?_erase
  have hkept : ∀ (socket' : ℤ) (c' : AppConnection), connections[socket']? = some c' →
      socket ≠ socket' → (connections.erase socket)[socket']? = some c' := by
    intro socket' c' hc' hne
    rw [OrdMap.getElem?_erase, if_neg hne]
    exact hc'
  exact
    { id_lt := fun socket' c' hc' => h.id_lt socket' c' (hcases socket' c' hc').2
      id_inj := fun s₁ s₂ c₁ c₂ hc₁ hc₂ => h.id_inj s₁ s₂ c₁ c₂ (hcases s₁ c₁ hc₁).2 (hcases s₂ c₂ hc₂).2
      socketKey := fun socket' c' hc' => h.socketKey socket' c' (hcases socket' c' hc').2
      appType := fun socket' c' hc' => h.appType socket' c' (hcases socket' c' hc').2
      appKey := fun socket' c' hc' => h.appKey socket' c' (hcases socket' c' hc').2
      locator_some := by
        intro key socket' hsome
        obtain ⟨hold, hother⟩ := hlocator key socket' hsome
        obtain ⟨c', hc', heq⟩ := h.locator_some key socket' hold
        refine ⟨c', hkept socket' c' hc' ?_, heq⟩
        rintro rfl
        obtain rfl := Option.some.inj (hc.symm.trans hc')
        exact hother heq
      apps_some := by
        intro appId info hinfo
        -- the entry of the app was removed, and it has no other one
        have hold : m.apps[appId]? = some info ∧ info.socket ≠ socket := by
          unfold CreateWorldComponent.removeApp at hinfo
          cases hfind : OrdMap.findIf m.apps fun _ info => info.socket = socket with
          | none =>
            rw [hfind] at hinfo
            exact ⟨hinfo, of_decide_eq_false (OrdMap.findIf_eq_none.1 hfind appId info hinfo)⟩
          | some e =>
            obtain ⟨foundId, found⟩ := e
            obtain ⟨hfound, hsocket⟩ := OrdMap.findIf_some hfind
            rw [hfind] at hinfo
            simp only at hinfo
            rw [OrdMap.getElem?_erase] at hinfo
            by_cases hid : foundId = appId
            · rw [if_pos hid] at hinfo
              cases hinfo
            · rw [if_neg hid] at hinfo
              refine ⟨hinfo, fun hs => hid ?_⟩
              obtain ⟨c₁, hc₁, rfl, -⟩ := h.apps_some foundId found hfound
              obtain ⟨c₂, hc₂, rfl, -⟩ := h.apps_some appId info hinfo
              rw [of_decide_eq_true hsocket] at hc₁
              rw [hs] at hc₂
              rw [Option.some.inj (hc₁.symm.trans hc₂)]
        obtain ⟨c', hc', heq⟩ := h.apps_some appId info hold.1
        exact ⟨c', hkept _ c' hc' hold.2.symm, heq⟩ }

end Registered

/-! ### Worlds that are requested and created -/

/-- A request is one more claim on its world. -/
theorem AppConnection.claims_request (c : AppConnection) (worldId w : ℤ) :
    ({ c with requests := c.requests ++ [worldId] } : AppConnection).claims w =
      c.claims w + if worldId = w then 1 else 0 := by
  unfold AppConnection.claims
  simp only [List.count_append, List.count_singleton, beq_iff_eq]
  omega

/-- Nobody claims a world. -/
def Connections.Free (connections : Connections) (worldId : ℤ) : Prop :=
  ∀ (socket : ℤ) (c : AppConnection), connections[socket]? = some c → c.claims worldId = 0

namespace Placed

variable {worldType : ℤ → Option ResourceWorldType} {m m' : CreateWorldComponent}
  {connections : Connections}

theorem empty : Placed worldType .empty ∅ where
  space := by simp
  claims_le := by simp
  claims_unique := by simp
  answers := by simp
  sn := by simp
  records := by simp
  creating := by simp [CreateWorldComponent.empty]
  created := by simp [CreateWorldComponent.empty]

/-- The apps of the app manager do not matter. -/
theorem of_same (h : Placed worldType m connections) (hcreating : m'.creating = m.creating)
    (hcreated : m'.created = m.created) (hdungeons : m'.dungeons = m.dungeons) :
    Placed worldType m' connections where
  space := h.space
  claims_le := h.claims_le
  claims_unique := h.claims_unique
  answers := h.answers
  sn := h.sn
  records := by
    intro socket c hc world hworld
    have hold := h.records socket c hc world hworld
    unfold CreateWorldComponent.Records at hold ⊢
    rw [hcreated, hdungeons]
    exact hold
  creating := by
    rw [hcreating, hcreated]
    exact h.creating
  created := by
    rw [hcreated]
    exact h.created

/-- A new app has no worlds. -/
theorem insert_new (h : Placed worldType m connections) {socket : ℤ} {c : AppConnection}
    (hfresh : connections[socket]? = none) (hrequests : c.requests = []) (hanswers : c.answers = [])
    (hworlds : c.worlds = []) : Placed worldType m (connections.insert socket c) := by
  have hclaims : ∀ w, c.claims w = 0 := by
    intro w
    unfold AppConnection.claims
    rw [hrequests, hworlds]
    rfl
  have hlive : ∀ appId, connections.Live appId →
      Connections.Live (connections.insert socket c) appId := by
    rintro appId ⟨socket', c', hc', hspec⟩
    refine ⟨socket', c', ?_, hspec⟩
    rw [OrdMap.getElem?_insert, if_neg]
    · exact hc'
    · rintro rfl
      rw [hfresh] at hc'
      cases hc'
  exact
    { space := by
        intro socket' c' hc' w hpos
        rcases OrdMap.of_getElem?_insert hc' with ⟨-, rfl⟩ | ⟨-, hold⟩
        · exact absurd (hclaims w) (Nat.pos_iff_ne_zero.1 hpos)
        · exact h.space socket' c' hold w hpos
      claims_le := by
        intro w hw socket' c' hc'
        rcases OrdMap.of_getElem?_insert hc' with ⟨-, rfl⟩ | ⟨-, hold⟩
        · rw [hclaims]
          exact Nat.zero_le _
        · exact h.claims_le w hw socket' c' hold
      claims_unique := by
        intro w hw s₁ s₂ c₁ c₂ hc₁ hc₂ hpos₁ hpos₂
        rcases OrdMap.of_getElem?_insert hc₁ with ⟨-, rfl⟩ | ⟨-, hold₁⟩
        · exact absurd (hclaims w) (Nat.pos_iff_ne_zero.1 hpos₁)
        · rcases OrdMap.of_getElem?_insert hc₂ with ⟨-, rfl⟩ | ⟨-, hold₂⟩
          · exact absurd (hclaims w) (Nat.pos_iff_ne_zero.1 hpos₂)
          · exact h.claims_unique w hw s₁ s₂ c₁ c₂ hold₁ hold₂ hpos₁ hpos₂
      answers := by
        intro socket' c' hc'
        rcases OrdMap.of_getElem?_insert hc' with ⟨-, rfl⟩ | ⟨-, hold⟩
        · rw [hanswers]
          exact List.nil_sublist _
        · exact h.answers socket' c' hold
      sn := by
        intro socket' c' hc'
        rcases OrdMap.of_getElem?_insert hc' with ⟨-, rfl⟩ | ⟨-, hold⟩
        · rw [hworlds]
          exact ⟨fun world hworld => (List.not_mem_nil hworld).elim, List.nodup_nil⟩
        · exact h.sn socket' c' hold
      records := by
        intro socket' c' hc' world hworld
        rcases OrdMap.of_getElem?_insert hc' with ⟨-, rfl⟩ | ⟨-, hold⟩
        · rw [hworlds] at hworld
          cases hworld
        · exact h.records socket' c' hold world hworld
      creating := by
        intro w appId hw
        obtain ⟨hpublic, hcreated, hl, happ⟩ := h.creating w appId hw
        refine ⟨hpublic, hcreated, hlive _ hl, fun socket' c' hc' hpos => ?_⟩
        rcases OrdMap.of_getElem?_insert hc' with ⟨-, rfl⟩ | ⟨-, hold⟩
        · exact absurd (hclaims w) (Nat.pos_iff_ne_zero.1 hpos)
        · exact happ socket' c' hold hpos
      created := by
        intro w worldSn hw
        obtain ⟨hpublic, hl, happ⟩ := h.created w worldSn hw
        refine ⟨hpublic, hlive _ hl, fun socket' c' hc' hpos => ?_⟩
        rcases OrdMap.of_getElem?_insert hc' with ⟨-, rfl⟩ | ⟨-, hold⟩
        · exact absurd (hclaims w) (Nat.pos_iff_ne_zero.1 hpos)
        · exact happ socket' c' hold hpos }

/-- **A space app is asked** for a world: a dungeon, or a public world that nobody claims and the
app manager does not remember elsewhere. -/
theorem request (h : Placed worldType m connections) {socket : ℤ} {c : AppConnection}
    (hc : connections[socket]? = some c) (hspace : c.appType = .space) {worldId : ℤ}
    (hfree : worldType worldId = some .publicWorld → connections.Free worldId)
    (hcreating : ∀ appId, m.creating[worldId]? = some appId → c.appId = appId)
    (hcreated : worldType worldId = some .publicWorld → m.created[worldId]? = none) :
    Placed worldType m
      (connections.insert socket { c with requests := c.requests ++ [worldId] }) := by
  have hsame : SameApps connections
      (connections.insert socket { c with requests := c.requests ++ [worldId] }) :=
    sameApps_insert hc rfl
  -- a claim that is not the new one is an old one
  have hold : ∀ (socket' : ℤ) (c' : AppConnection),
      (connections.insert socket { c with requests := c.requests ++ [worldId] })[socket']? =
          some c' →
        ∀ w, 0 < c'.claims w → (w = worldId ∧ socket' = socket ∧ c'.appId = c.appId) ∨
          ∃ c₀, connections[socket']? = some c₀ ∧ 0 < c₀.claims w ∧ c'.claims w = c₀.claims w ∧
            c₀.identity = c'.identity := by
    intro socket' c' hc' w hpos
    rcases OrdMap.of_getElem?_insert hc' with ⟨rfl, rfl⟩ | ⟨-, hkept⟩
    · by_cases hw : worldId = w
      · exact .inl ⟨hw.symm, rfl, rfl⟩
      · refine .inr ⟨c, hc, ?_, ?_, rfl⟩
        · rw [AppConnection.claims_request, if_neg hw] at hpos
          exact hpos
        · rw [AppConnection.claims_request, if_neg hw]
          rfl
    · exact .inr ⟨c', hkept, hpos, rfl, rfl⟩
  exact
    { space := by
        intro socket' c' hc' w hpos
        rcases OrdMap.of_getElem?_insert hc' with ⟨-, rfl⟩ | ⟨-, hkept⟩
        · exact hspace
        · exact h.space socket' c' hkept w hpos
      claims_le := by
        intro w hw socket' c' hc'
        rcases OrdMap.of_getElem?_insert hc' with ⟨rfl, rfl⟩ | ⟨-, hkept⟩
        · rw [AppConnection.claims_request]
          by_cases hworld : worldId = w
          · subst hworld
            rw [hfree hw socket c hc, if_pos rfl]
          · rw [if_neg hworld]
            exact h.claims_le w hw socket c hc
        · exact h.claims_le w hw socket' c' hkept
      claims_unique := by
        intro w hw s₁ s₂ c₁ c₂ hc₁ hc₂ hpos₁ hpos₂
        rcases hold s₁ c₁ hc₁ w hpos₁ with ⟨rfl, hs₁, -⟩ | ⟨d₁, hd₁, hp₁, -, -⟩
        · rcases hold s₂ c₂ hc₂ w hpos₂ with ⟨-, hs₂, -⟩ | ⟨d₂, hd₂, hp₂, -, -⟩
          · exact hs₁.trans hs₂.symm
          · exact absurd (hfree hw s₂ d₂ hd₂) (Nat.pos_iff_ne_zero.1 hp₂)
        · rcases hold s₂ c₂ hc₂ w hpos₂ with ⟨rfl, -, -⟩ | ⟨d₂, hd₂, hp₂, -, -⟩
          · exact absurd (hfree hw s₁ d₁ hd₁) (Nat.pos_iff_ne_zero.1 hp₁)
          · exact h.claims_unique w hw s₁ s₂ d₁ d₂ hd₁ hd₂ hp₁ hp₂
      answers := by
        intro socket' c' hc'
        rcases OrdMap.of_getElem?_insert hc' with ⟨-, rfl⟩ | ⟨-, hkept⟩
        · exact h.answers socket c hc
        · exact h.answers socket' c' hkept
      sn := by
        intro socket' c' hc'
        rcases OrdMap.of_getElem?_insert hc' with ⟨-, rfl⟩ | ⟨-, hkept⟩
        · exact h.sn socket c hc
        · exact h.sn socket' c' hkept
      records := by
        intro socket' c' hc' world hworld
        rcases OrdMap.of_getElem?_insert hc' with ⟨-, rfl⟩ | ⟨-, hkept⟩
        · exact h.records socket c hc world hworld
        · exact h.records socket' c' hkept world hworld
      creating := by
        intro w appId hw
        obtain ⟨hpublic, hnone, hl, happ⟩ := h.creating w appId hw
        refine ⟨hpublic, hnone, hsame.live hl, fun socket' c' hc' hpos => ?_⟩
        rcases hold socket' c' hc' w hpos with ⟨rfl, -, hid⟩ | ⟨c₀, hc₀, hpos₀, -, heq⟩
        · exact hid.trans (hcreating appId hw)
        · exact (AppConnection.identity_appId heq).symm.trans (happ socket' c₀ hc₀ hpos₀)
      created := by
        intro w worldSn hw
        obtain ⟨hpublic, hl, happ⟩ := h.created w worldSn hw
        refine ⟨hpublic, hsame.live hl, fun socket' c' hc' hpos => ?_⟩
        rcases hold socket' c' hc' w hpos with ⟨rfl, -, -⟩ | ⟨c₀, hc₀, hpos₀, -, heq⟩
        · rw [hcreated hpublic] at hw
          cases hw
        · exact (AppConnection.identity_appId heq).symm.trans (happ socket' c₀ hc₀ hpos₀) }

/-- **An app changes without new claims**, and the app manager with it. -/
theorem update (h : Placed worldType m connections) {socket : ℤ} {c c' : AppConnection}
    (hc : connections[socket]? = some c) (hidentity : c'.identity = c.identity)
    (hclaims : ∀ w, c'.claims w ≤ c.claims w) (hanswers : c'.answers.Sublist c'.worlds)
    (hsn : (∀ world ∈ c'.worlds, appIdFromSn world.2 = c'.appId) ∧
      (c'.worlds.map Prod.snd).Nodup)
    (hrecords : ∀ world ∈ c'.worlds, world ∈ c'.answers ∨ m'.Records worldType world.1 world.2)
    (hothers : ∀ (socket' : ℤ) (c₀ : AppConnection), socket ≠ socket' →
      connections[socket']? = some c₀ → ∀ world ∈ c₀.worlds,
        m.Records worldType world.1 world.2 → m'.Records worldType world.1 world.2)
    (hcreating : ∀ (w : ℤ) (appId : UInt64), m'.creating[w]? = some appId →
      m.creating[w]? = some appId ∧ m'.created[w]? = none)
    (hcreated : ∀ (w : ℤ) (worldSn : UInt64), m'.created[w]? = some worldSn →
      m.created[w]? = some worldSn ∨
      (worldType w = some .publicWorld ∧ (w, worldSn) ∈ c.worlds)) :
    Placed worldType m' (connections.insert socket c') := by
  have hsame := sameApps_insert hc hidentity
  have hold : ∀ (socket' : ℤ) (d : AppConnection),
      (connections.insert socket c')[socket']? = some d → ∃ d₀, connections[socket']? = some d₀ ∧
        d₀.identity = d.identity ∧ ∀ w, d.claims w ≤ d₀.claims w := by
    intro socket' d hd
    rcases OrdMap.of_getElem?_insert hd with ⟨rfl, rfl⟩ | ⟨-, hkept⟩
    · exact ⟨c, hc, hidentity.symm, hclaims⟩
    · exact ⟨d, hkept, rfl, fun w => Nat.le_refl _⟩
  exact
    { space := by
        intro socket' d hd w hpos
        obtain ⟨d₀, hd₀, heq, hle⟩ := hold socket' d hd
        rw [← AppConnection.identity_appType heq]
        exact h.space socket' d₀ hd₀ w (Nat.lt_of_lt_of_le hpos (hle w))
      claims_le := by
        intro w hw socket' d hd
        obtain ⟨d₀, hd₀, -, hle⟩ := hold socket' d hd
        exact Nat.le_trans (hle w) (h.claims_le w hw socket' d₀ hd₀)
      claims_unique := by
        intro w hw s₁ s₂ d₁ d₂ hd₁ hd₂ hpos₁ hpos₂
        obtain ⟨e₁, he₁, -, hle₁⟩ := hold s₁ d₁ hd₁
        obtain ⟨e₂, he₂, -, hle₂⟩ := hold s₂ d₂ hd₂
        exact h.claims_unique w hw s₁ s₂ e₁ e₂ he₁ he₂ (Nat.lt_of_lt_of_le hpos₁ (hle₁ w))
          (Nat.lt_of_lt_of_le hpos₂ (hle₂ w))
      answers := by
        intro socket' d hd
        rcases OrdMap.of_getElem?_insert hd with ⟨-, rfl⟩ | ⟨-, hkept⟩
        · exact hanswers
        · exact h.answers socket' d hkept
      sn := by
        intro socket' d hd
        rcases OrdMap.of_getElem?_insert hd with ⟨-, rfl⟩ | ⟨-, hkept⟩
        · exact hsn
        · exact h.sn socket' d hkept
      records := by
        intro socket' d hd world hworld
        rcases OrdMap.of_getElem?_insert hd with ⟨-, rfl⟩ | ⟨hne, hkept⟩
        · exact hrecords world hworld
        · exact (h.records socket' d hkept world hworld).imp_right
            (hothers socket' d hne hkept world hworld)
      creating := by
        intro w appId hw
        obtain ⟨hmem, hnone⟩ := hcreating w appId hw
        obtain ⟨hpublic, -, hl, happ⟩ := h.creating w appId hmem
        refine ⟨hpublic, hnone, hsame.live hl, fun socket' d hd hpos => ?_⟩
        obtain ⟨d₀, hd₀, heq, hle⟩ := hold socket' d hd
        rw [← AppConnection.identity_appId heq]
        exact happ socket' d₀ hd₀ (Nat.lt_of_lt_of_le hpos (hle w))
      created := by
        intro w worldSn hw
        rcases hcreated w worldSn hw with hmem | ⟨hpublic, hmem⟩
        · obtain ⟨hpublic, hl, happ⟩ := h.created w worldSn hmem
          refine ⟨hpublic, hsame.live hl, fun socket' d hd hpos => ?_⟩
          obtain ⟨d₀, hd₀, heq, hle⟩ := hold socket' d hd
          rw [← AppConnection.identity_appId heq]
          exact happ socket' d₀ hd₀ (Nat.lt_of_lt_of_le hpos (hle w))
        · -- the app itself has the world, and nobody else claims it
          have hpos₀ : 0 < c.claims w := AppConnection.claims_pos_of_mem hmem
          have hid : appIdFromSn worldSn = c.appId := (h.sn socket c hc).1 (w, worldSn) hmem
          rw [hid]
          refine ⟨hpublic, hsame.live ⟨socket, c, hc, h.space socket c hc w hpos₀, rfl⟩,
            fun socket' d hd hpos => ?_⟩
          obtain ⟨d₀, hd₀, heq, hle⟩ := hold socket' d hd
          obtain rfl := h.claims_unique w hpublic socket' socket d₀ c hd₀ hc
            (Nat.lt_of_lt_of_le hpos (hle w)) hpos₀
          obtain rfl := Option.some.inj (hc.symm.trans hd₀)
          exact (AppConnection.identity_appId heq).symm }

/-- A space app stays live when another app is gone. -/
theorem live_erase {appId : UInt64} (hlive : connections.Live appId) {socket : ℤ} {c : AppConnection}
    (hc : connections[socket]? = some c) (hother : c.appType = .space → c.appId ≠ appId) :
    Connections.Live (connections.erase socket) appId := by
  obtain ⟨socket', c', hc', hspace, hid⟩ := hlive
  refine ⟨socket', c', ?_, hspace, hid⟩
  rw [OrdMap.getElem?_erase, if_neg]
  · exact hc'
  · rintro rfl
    obtain rfl := Option.some.inj (hc.symm.trans hc')
    exact hother hspace hid

/-- **An app is gone**, and the app manager has forgotten what was on it. -/
theorem erase (h : Placed worldType m connections)
    (hinj : ∀ (socket socket' : ℤ) (c c' : AppConnection), connections[socket]? = some c →
      connections[socket']? = some c' → c.appType = .space → c.appId = c'.appId → socket = socket')
    {socket : ℤ} {c : AppConnection} (hc : connections[socket]? = some c)
    (hcreating : ∀ w : ℤ, m'.creating[w]? = m.creating[w]?.filter fun a => !decide (a = c.appId))
    (hcreated : ∀ w : ℤ, m'.created[w]? =
      m.created[w]?.filter fun sn => !decide (appIdFromSn sn = c.appId))
    (hdungeons : ∀ sn : UInt64, m'.dungeons[sn]? =
      m.dungeons[sn]?.filter fun _ => !decide (appIdFromSn sn = c.appId)) :
    Placed worldType m' (connections.erase socket) := by
  have hlive : ∀ appId, appId ≠ c.appId → connections.Live appId →
      Connections.Live (connections.erase socket) appId :=
    fun appId hne hl => live_erase hl hc fun _ => hne.symm
  have hcreatingOf : ∀ (w : ℤ) (appId : UInt64), m'.creating[w]? = some appId →
      m.creating[w]? = some appId ∧ appId ≠ c.appId := by
    intro w appId hw
    rw [hcreating, Option.filter_eq_some_iff] at hw
    exact ⟨hw.1, by simpa using hw.2⟩
  have hcreatedOf : ∀ (w : ℤ) (sn : UInt64), m'.created[w]? = some sn →
      m.created[w]? = some sn ∧ appIdFromSn sn ≠ c.appId := by
    intro w sn hw
    rw [hcreated, Option.filter_eq_some_iff] at hw
    exact ⟨hw.1, by simpa using hw.2⟩
  exact
    { space := fun socket' d hd => h.space socket' d (OrdMap.of_getElem?_erase hd).2
      claims_le := fun w hw socket' d hd => h.claims_le w hw socket' d (OrdMap.of_getElem?_erase hd).2
      claims_unique := fun w hw s₁ s₂ d₁ d₂ hd₁ hd₂ =>
        h.claims_unique w hw s₁ s₂ d₁ d₂ (OrdMap.of_getElem?_erase hd₁).2
          (OrdMap.of_getElem?_erase hd₂).2
      answers := fun socket' d hd => h.answers socket' d (OrdMap.of_getElem?_erase hd).2
      sn := fun socket' d hd => h.sn socket' d (OrdMap.of_getElem?_erase hd).2
      records := by
        intro socket' d hd world hworld
        obtain ⟨hne, hold⟩ := OrdMap.of_getElem?_erase hd
        refine (h.records socket' d hold world hworld).imp_right fun hrec => ?_
        -- the serial number is one of another app
        have hid : appIdFromSn world.2 ≠ c.appId := by
          rw [(h.sn socket' d hold).1 world hworld]
          have hspace := h.space socket' d hold world.1 (AppConnection.claims_pos_of_mem hworld)
          exact fun heq => hne (hinj socket' socket d c hold hc hspace heq).symm
        unfold CreateWorldComponent.Records at hrec ⊢
        split
        · rename_i hpublic
          rw [if_pos hpublic] at hrec
          rw [hcreated, hrec, Option.filter_some, decide_eq_false hid]
          rfl
        · rename_i hpublic
          rw [if_neg hpublic] at hrec
          rw [hdungeons, hrec, Option.filter_some, decide_eq_false hid]
          rfl
      creating := by
        intro w appId hw
        obtain ⟨hold, hne⟩ := hcreatingOf w appId hw
        obtain ⟨hpublic, hnone, hl, happ⟩ := h.creating w appId hold
        refine ⟨hpublic, ?_, hlive appId hne hl, fun socket' d hd =>
          happ socket' d (OrdMap.of_getElem?_erase hd).2⟩
        rw [hcreated, hnone]
        rfl
      created := by
        intro w sn hw
        obtain ⟨hold, hne⟩ := hcreatedOf w sn hw
        obtain ⟨hpublic, hl, happ⟩ := h.created w sn hold
        exact ⟨hpublic, hlive _ hne hl, fun socket' d hd =>
          happ socket' d (OrdMap.of_getElem?_erase hd).2⟩ }

/-- Nobody claims a world any more that was being created on an app that is gone. -/
theorem free_erase (h : Placed worldType m connections)
    (hinj : ∀ (socket socket' : ℤ) (c c' : AppConnection), connections[socket]? = some c →
      connections[socket']? = some c' → c.appType = .space → c.appId = c'.appId → socket = socket')
    {socket : ℤ} {c : AppConnection} (hc : connections[socket]? = some c) {w : ℤ}
    (hw : m.creating[w]? = some c.appId) : Connections.Free (connections.erase socket) w := by
  intro socket' d hd
  obtain ⟨hne, hold⟩ := OrdMap.of_getElem?_erase hd
  by_contra hclaims
  have hpos := Nat.pos_of_ne_zero hclaims
  have hid := (h.creating w c.appId hw).2.2.2 socket' d hold hpos
  exact hne (hinj socket' socket d c hold hc (h.space socket' d hold w hpos) hid).symm

/-- An app that is no space app is gone, and had no worlds. -/
theorem erase_other (h : Placed worldType m connections) {socket : ℤ} {c : AppConnection}
    (hc : connections[socket]? = some c) (hother : c.appType ≠ .space) :
    Placed worldType m (connections.erase socket) := by
  have hlive : ∀ appId, connections.Live appId →
      Connections.Live (connections.erase socket) appId :=
    fun appId hl => live_erase hl hc fun hspace => absurd hspace hother
  exact
    { space := fun socket' d hd => h.space socket' d (OrdMap.of_getElem?_erase hd).2
      claims_le := fun w hw socket' d hd => h.claims_le w hw socket' d (OrdMap.of_getElem?_erase hd).2
      claims_unique := fun w hw s₁ s₂ d₁ d₂ hd₁ hd₂ =>
        h.claims_unique w hw s₁ s₂ d₁ d₂ (OrdMap.of_getElem?_erase hd₁).2
          (OrdMap.of_getElem?_erase hd₂).2
      answers := fun socket' d hd => h.answers socket' d (OrdMap.of_getElem?_erase hd).2
      sn := fun socket' d hd => h.sn socket' d (OrdMap.of_getElem?_erase hd).2
      records := fun socket' d hd => h.records socket' d (OrdMap.of_getElem?_erase hd).2
      creating := by
        intro w appId hw
        obtain ⟨hpublic, hnone, hl, happ⟩ := h.creating w appId hw
        exact ⟨hpublic, hnone, hlive appId hl, fun socket' d hd =>
          happ socket' d (OrdMap.of_getElem?_erase hd).2⟩
      created := by
        intro w sn hw
        obtain ⟨hpublic, hl, happ⟩ := h.created w sn hw
        exact ⟨hpublic, hlive _ hl, fun socket' d hd =>
          happ socket' d (OrdMap.of_getElem?_erase hd).2⟩ }

end Placed

/-! ### Messages that are delivered -/

namespace WorldCluster

variable {worldType : ℤ → Option ResourceWorldType} {s : WorldCluster}

/-- A request is lost, or it arrives at the app that the locator finds. -/
theorem deliver_createWorld_cases (s : WorldCluster) (appId : UInt64) (worldId : ℤ) :
    s.deliver (.createWorld appId worldId) = s ∨
      ∃ (socket : ℤ) (c : AppConnection), s.locator[getAppKey .space appId]? = some socket ∧
        s.connections[socket]? = some c ∧ s.deliver (.createWorld appId worldId) =
          { s with connections :=
              s.connections.insert socket { c with requests := c.requests ++ [worldId] } } := by
  cases hlocator : s.locator[getAppKey .space appId]? with
  | none => simp [deliver, hlocator]
  | some socket =>
    cases hc : s.connections[socket]? with
    | none => simp [deliver, hlocator, hc]
    | some c =>
      by_cases hopen : c.isOpen = true
      · exact .inr ⟨socket, c, rfl, hc, by simp [deliver, hlocator, hc, hopen]⟩
      · exact .inl (by simp [deliver, hlocator, hc, hopen])

/-- **A request is delivered** without harm if nobody claims the world, and if the app manager does
not remember it elsewhere. -/
theorem Invariant.deliver (h : s.Invariant worldType) {appId : UInt64} {worldId : ℤ}
    (happ : CreateWorldComponent.HasSpaceApp s.manager.apps appId)
    (hfree : s.connections.Free worldId)
    (hcreating : ∀ a, s.manager.creating[worldId]? = some a → a = appId)
    (hcreated : s.manager.created[worldId]? = none) :
    (s.deliver (.createWorld appId worldId)).Invariant worldType ∧
      (s.deliver (.createWorld appId worldId)).manager = s.manager ∧
      ∀ w, w ≠ worldId → s.connections.Free w →
        (s.deliver (.createWorld appId worldId)).connections.Free w := by
  rcases s.deliver_createWorld_cases appId worldId with hlost | ⟨socket, c, hlocator, hc, hdeliver⟩
  · rw [hlost]
    exact ⟨h, rfl, fun w _ hw => hw⟩
  · obtain ⟨-, hlt⟩ := h.registered.live happ
    obtain ⟨c', hc', hspace, hid⟩ := h.registered.of_locator hlt hlocator
    obtain rfl := Option.some.inj (hc.symm.trans hc')
    rw [hdeliver]
    refine ⟨⟨h.registered.of_same (sameApps_insert hc rfl)
      (CreateWorldComponent.samePlaces_refl _), ?_⟩, rfl, fun w hw hwfree => ?_⟩
    · exact h.placed.request hc hspace (fun _ => hfree)
        (fun a ha => hid.trans (hcreating a ha).symm) fun _ => hcreated
    · intro socket' d hd
      rcases OrdMap.of_getElem?_insert hd with ⟨-, rfl⟩ | ⟨-, hold⟩
      · rw [AppConnection.claims_request, if_neg hw.symm, hwfree socket c hc]
      · exact hwfree socket' d hold

/-- **The requests after a disconnect** are delivered without harm. -/
theorem Invariant.foldl_deliver (h : s.Invariant worldType) (targets : List (UInt64 × ℤ))
    (hnodup : (targets.map Prod.snd).Nodup)
    (htargets : ∀ t ∈ targets, CreateWorldComponent.HasSpaceApp s.manager.apps t.1 ∧
      s.connections.Free t.2 ∧ s.manager.creating[t.2]? = none ∧
        s.manager.created[t.2]? = none) :
    ((targets.map fun t => ManagerMsg.createWorld t.1 t.2).foldl WorldCluster.deliver s).Invariant
      worldType := by
  induction targets generalizing s with
  | nil => exact h
  | cons t targets ih =>
    obtain ⟨happ, hfree, hcreating, hcreated⟩ := htargets t (List.mem_cons_self ..)
    obtain ⟨hinv, hmanager, hkept⟩ := h.deliver happ hfree
      (fun a ha => by rw [hcreating] at ha; cases ha) hcreated
    obtain ⟨hnot, hrest⟩ := List.nodup_cons.1 hnodup
    rw [List.map_cons, List.foldl_cons]
    refine ih hinv hrest fun u hu => ?_
    obtain ⟨ha, hf, hcg, hcd⟩ := htargets u (List.mem_cons_of_mem _ hu)
    rw [hmanager]
    refine ⟨ha, hkept u.2 ?_ hf, hcg, hcd⟩
    intro heq
    exact hnot (heq ▸ List.mem_map_of_mem hu)

/-! ### Orderly runs -/

theorem invariant_start : start.Invariant worldType := ⟨.empty, .empty⟩

/-- An app that connects with a new id gets its key; one that shares its id with others of its type
may get none. -/
theorem Invariant.connect (h : s.Invariant worldType) {socketKey : SocketKey} {appType : AppType}
    {appId : UInt64} (hfresh : s.connections[socketKey.socket]? = none)
    (htcp : socketKey.netType.isTcp = true) (htype : appType ≠ .allInOne) (hlt : appId < maxAppId)
    (hid : ∀ (socket : ℤ) (c : AppConnection), s.connections[socket]? = some c →
      appType = .space ∨ c.appType = .space → c.appId ≠ appId) :
    (s.register socketKey appType appId).Invariant worldType := by
  unfold register
  cases hlocator : s.locator[getAppKey appType appId]? with
  | none =>
    simp only
    refine ⟨h.registered.insert (c := ⟨socketKey, appType, appId, some (getAppKey appType appId),
      true, [], [], []⟩) hfresh htcp htype hlt hid (Or.inl rfl) fun key socket hsome => ?_,
      h.placed.insert_new hfresh rfl rfl rfl⟩
    rcases OrdMap.of_getElem?_insert hsome with ⟨rfl, rfl⟩ | ⟨-, hold⟩
    · exact Or.inr ⟨rfl, rfl⟩
    · exact Or.inl hold
  | some socket =>
    simp only
    have hother : appType ≠ .space := by
      obtain ⟨c, hc, hkey⟩ := h.registered.locator_some _ socket hlocator
      have hsame := (getAppKey_inj hlt (h.registered.id_lt socket c hc)
        (h.registered.eq_appKey hc hkey)).2
      exact fun hspace => hid socket c hc (Or.inl hspace) hsame.symm
    exact ⟨h.registered.insert (c := ⟨socketKey, appType, appId, none, true, [], [], []⟩) hfresh htcp
      htype hlt hid (Or.inr ⟨rfl, hother⟩) fun key socket hsome => Or.inl hsome,
      h.placed.insert_new hfresh rfl rfl rfl⟩

/-- A request is the first one for its world, or it changes nothing. -/
theorem Invariant.requestWorld (h : s.Invariant worldType) {worldId : ℤ}
    (horderly : s.Orderly (.requestWorld worldId)) :
    ((s.manager.handleRequestWorld worldType worldId).2.foldl WorldCluster.deliver
      { s with manager := (s.manager.handleRequestWorld worldType worldId).1 }).Invariant
        worldType := by
  rcases s.manager.handleRequestWorld_cases worldType worldId with ⟨hsame, hsent⟩ |
    ⟨hpublic, hcreating, hcreated, appId, apps, happ, hplaces, hrequest⟩
  · rw [hsame]
    -- an answer to a game app changes nothing here
    have hkept : ∀ msgs : List ManagerMsg,
        (∀ msg ∈ msgs, ∃ sn, msg = .broadcastCreateWorld worldId sn) →
          msgs.foldl WorldCluster.deliver s = s := by
      intro msgs hmsgs
      induction msgs with
      | nil => rfl
      | cons msg msgs ih =>
        obtain ⟨sn, rfl⟩ := hmsgs msg (List.mem_cons_self ..)
        rw [List.foldl_cons]
        exact ih fun msg hmsg => hmsgs msg (List.mem_cons_of_mem _ hmsg)
    rw [hkept _ hsent]
    exact h
  · rw [hrequest]
    have hfree : s.connections.Free worldId := by
      intro socket c hc
      have hout := horderly hcreating hcreated socket c hc
      by_contra hclaims
      -- a world that is hosted without an outstanding answer is remembered
      have hrequests : c.requests.count worldId = 0 := by
        unfold AppConnection.outstanding at hout
        omega
      have hworlds : 0 < (c.worlds.map Prod.fst).count worldId := by
        unfold AppConnection.claims at hclaims
        omega
      obtain ⟨world, hworld, hfst⟩ := List.mem_map.1 (List.count_pos_iff.1 hworlds)
      rcases h.placed.records socket c hc world hworld with hanswer | hrec
      · have hpos : 0 < (c.answers.map Prod.fst).count worldId :=
          List.count_pos_iff.2 (hfst ▸ List.mem_map_of_mem hanswer)
        unfold AppConnection.outstanding at hout
        omega
      · unfold CreateWorldComponent.Records at hrec
        rw [hfst, if_pos hpublic, hcreated] at hrec
        cases hrec
    obtain ⟨hlive, -⟩ := h.registered.live happ
    -- the app manager remembers the request, and sends it
    have hinv : WorldCluster.Invariant worldType { s with manager :=
        { s.manager with apps := apps, creating := s.manager.creating.insert worldId appId } } := by
      refine ⟨h.registered.of_same (sameApps_refl _) hplaces, ?_⟩
      have hplaced := h.placed
      exact
        { space := hplaced.space
          claims_le := hplaced.claims_le
          claims_unique := hplaced.claims_unique
          answers := hplaced.answers
          sn := hplaced.sn
          records := hplaced.records
          creating := by
            intro w a hw
            rcases OrdMap.of_getElem?_insert hw with ⟨rfl, rfl⟩ | ⟨-, hold⟩
            · refine ⟨hpublic, hcreated, hlive, fun socket c hc hpos => ?_⟩
              exact absurd (hfree socket c hc) (Nat.pos_iff_ne_zero.1 hpos)
            · exact hplaced.creating w a hold
          created := hplaced.created }
    refine (hinv.deliver ?_ hfree (fun a ha => ?_) hcreated).1
    · exact happ.of_samePlaces fun a => (hplaces a).symm
    · rcases OrdMap.of_getElem?_insert ha with ⟨-, rfl⟩ | ⟨hne, -⟩
      · rfl
      · exact absurd rfl hne

/-- A world that is created was requested. -/
theorem claims_createWorld {c c' : AppConnection} {timeTick : UInt64} {snTicket : UInt16}
    (h : createWorld c timeTick snTicket = some c') :
    ∃ worldId rest, c.requests = worldId :: rest ∧
      c' = { c with
        requests := rest
        answers := c.answers ++ [(worldId, generateSn timeTick c.appId snTicket)]
        worlds := c.worlds ++ [(worldId, generateSn timeTick c.appId snTicket)] } ∧
      ∀ w, c'.claims w = c.claims w := by
  unfold createWorld at h
  cases hrequests : c.requests with
  | nil =>
    rw [hrequests] at h
    cases h
  | cons worldId rest =>
    rw [hrequests] at h
    obtain rfl := Option.some.inj h
    refine ⟨worldId, rest, rfl, rfl, fun w => ?_⟩
    unfold AppConnection.claims
    simp only [hrequests, List.map_append, List.map_cons, List.map_nil, List.count_append,
      List.count_cons, List.count_nil]
    omega

/-- A space app creates a world with a new serial number. -/
theorem Invariant.create (h : s.Invariant worldType) {socket : ℤ} {c c' : AppConnection}
    (hc : s.connections[socket]? = some c) {timeTick : UInt64} {snTicket : UInt16}
    (hcreate : createWorld c timeTick snTicket = some c')
    (hnew : generateSn timeTick c.appId snTicket ∉ c.worlds.map Prod.snd) :
    WorldCluster.Invariant worldType
      { s with connections := s.connections.insert socket c' } := by
  obtain ⟨worldId, rest, -, hc', hclaims⟩ := claims_createWorld hcreate
  have hidentity : c'.identity = c.identity := by
    rw [hc']
    rfl
  refine ⟨h.registered.of_same (sameApps_insert hc hidentity)
    (CreateWorldComponent.samePlaces_refl _), ?_⟩
  obtain ⟨hsn, hnodup⟩ := h.placed.sn socket c hc
  have hid := appIdFromSn_generateSn timeTick snTicket (h.registered.id_lt socket c hc)
  refine h.placed.update hc hidentity (fun w => Nat.le_of_eq (hclaims w)) ?_ ⟨?_, ?_⟩ ?_
    (fun _ _ _ _ _ _ hrec => hrec) (fun w a ha => ⟨ha, (h.placed.creating w a ha).2.1⟩)
    (fun w sn hw => .inl hw)
  · rw [hc']
    exact (h.placed.answers socket c hc).append_right _
  · intro world hworld
    rw [hc'] at hworld ⊢
    rcases List.mem_append.1 hworld with hold | hnewWorld
    · exact hsn world hold
    · rw [List.mem_singleton.1 hnewWorld]
      exact hid
  · rw [hc', List.map_append, List.nodup_append]
    refine ⟨hnodup, List.nodup_singleton _, ?_⟩
    rintro a ha b hb rfl
    obtain rfl : a = generateSn timeTick c.appId snTicket := List.mem_singleton.1 hb
    exact hnew ha
  · intro world hworld
    rw [hc'] at hworld ⊢
    rcases List.mem_append.1 hworld with hold | hnewWorld
    · exact (h.placed.records socket c hc world hold).imp_left (List.mem_append_left _)
    · exact .inl (List.mem_append_right _ hnewWorld)

/-- **An announcement is handled**: the app manager remembers the world. -/
theorem Invariant.answer (h : s.Invariant worldType) {socket : ℤ} {c : AppConnection}
    (hc : s.connections[socket]? = some c) {worldId : ℤ} {worldSn : UInt64}
    {rest : List (ℤ × UInt64)} (hanswers : c.answers = (worldId, worldSn) :: rest)
    {m : CreateWorldComponent}
    (hm : s.manager.handleBroadcastCreateWorld worldType worldId worldSn = some m) :
    WorldCluster.Invariant worldType
      { s with
        manager := m
        connections := s.connections.insert socket { c with answers := rest } } := by
  have hworld : (worldId, worldSn) ∈ c.worlds :=
    (h.placed.answers socket c hc).subset (hanswers ▸ List.mem_cons_self ..)
  have hrest : rest.Sublist c.worlds := by
    have hsub := h.placed.answers socket c hc
    rw [hanswers] at hsub
    exact (List.sublist_cons_self _ _).trans hsub
  obtain ⟨hsn, hnodup⟩ := h.placed.sn socket c hc
  have hsnWorld := hsn _ hworld
  -- what is remembered of a world afterwards
  have hmCases := CreateWorldComponent.handleBroadcastCreateWorld_cases hm
  have hrecords : m.Records worldType worldId worldSn := by
    unfold CreateWorldComponent.Records
    rcases hmCases with ⟨hpublic, rfl⟩ | ⟨hdungeon, rfl⟩
    · rw [if_pos hpublic, OrdMap.getElem?_insert, if_pos rfl]
    · rw [if_neg hdungeon, OrdMap.getElem?_insert, if_pos rfl]
  -- a world that was remembered is still remembered, unless it is another one of the same name
  have hkept : ∀ world : ℤ × UInt64, s.manager.Records worldType world.1 world.2 →
      (world.1 = worldId → worldType worldId = some .publicWorld → False) →
      (world.2 = worldSn → worldType worldId ≠ some .publicWorld → False) →
      m.Records worldType world.1 world.2 := by
    rintro ⟨w, sn⟩ hrec hid hsnNe
    unfold CreateWorldComponent.Records at hrec ⊢
    rcases hmCases with ⟨hpublic, rfl⟩ | ⟨hdungeon, rfl⟩
    · split at hrec
      · rw [if_pos ‹_›, OrdMap.getElem?_insert, if_neg fun heq => hid heq.symm hpublic]
        exact hrec
      · rw [if_neg ‹_›]
        exact hrec
    · split at hrec
      · rw [if_pos ‹_›]
        exact hrec
      · rw [if_neg ‹_›, OrdMap.getElem?_insert, if_neg fun heq => hsnNe heq.symm hdungeon]
        exact hrec
  have happs : m.apps = s.manager.apps := by
    rcases hmCases with ⟨-, rfl⟩ | ⟨-, rfl⟩ <;> rfl
  refine ⟨?_, h.placed.update hc rfl (fun w => Nat.le_refl _) hrest ⟨hsn, hnodup⟩ ?_ ?_ ?_ ?_⟩
  · refine h.registered.of_same (sameApps_insert hc rfl) ?_
    show CreateWorldComponent.SamePlaces s.manager.apps m.apps
    rw [happs]
    exact CreateWorldComponent.samePlaces_refl _
  · intro world hmem
    by_cases heq : world = (worldId, worldSn)
    · rw [heq]
      exact .inr hrecords
    · rcases h.placed.records socket c hc world hmem with hanswer | hrec
      · rw [hanswers] at hanswer
        exact .inl ((List.mem_cons.1 hanswer).resolve_left heq)
      · refine .inr (hkept world hrec (fun hid hpublic => heq ?_) fun hsnEq _ => heq ?_)
        · obtain ⟨w, sn⟩ := world
          obtain rfl : w = worldId := hid
          rw [AppConnection.eq_of_claims_le (h.placed.claims_le w hpublic socket c hc) hmem hworld]
        · exact List.inj_on_of_nodup_map hnodup hmem hworld hsnEq
  · intro socket' d hne hd world hmem hrec
    refine hkept world hrec (fun hid hpublic => hne ?_) fun hsnEq _ => hne ?_
    · have hpos : 0 < d.claims worldId := hid ▸ AppConnection.claims_pos_of_mem hmem
      exact h.placed.claims_unique worldId hpublic socket socket' c d hc hd
        (AppConnection.claims_pos_of_mem hworld) hpos
    · have hid := (h.placed.sn socket' d hd).1 world hmem
      rw [hsnEq] at hid
      have hspace := h.placed.space socket c hc worldId (AppConnection.claims_pos_of_mem hworld)
      exact h.registered.id_inj socket socket' c d hc hd hspace (hsnWorld.symm.trans hid)
  · intro w a ha
    rcases hmCases with ⟨-, rfl⟩ | ⟨-, rfl⟩
    · obtain ⟨hne, hold⟩ := OrdMap.of_getElem?_erase ha
      refine ⟨hold, ?_⟩
      rw [OrdMap.getElem?_insert, if_neg hne]
      exact (h.placed.creating w a hold).2.1
    · exact ⟨ha, (h.placed.creating w a ha).2.1⟩
  · intro w sn hw
    rcases hmCases with ⟨hpublic, rfl⟩ | ⟨-, rfl⟩
    · rcases OrdMap.of_getElem?_insert hw with ⟨rfl, rfl⟩ | ⟨-, hold⟩
      · exact .inr ⟨hpublic, hworld⟩
      · exact .inl hold
    · exact .inl hw

/-- A connection closes, and its worlds are gone. -/
theorem Invariant.close (h : s.Invariant worldType) {socket : ℤ} {c : AppConnection}
    (hc : s.connections[socket]? = some c) :
    WorldCluster.Invariant worldType
      { s with connections := s.connections.insert socket c.closed } := by
  refine ⟨h.registered.of_same (sameApps_insert hc rfl)
    (CreateWorldComponent.samePlaces_refl _), ?_⟩
  exact h.placed.update hc rfl (fun w => Nat.zero_le _) (List.nil_sublist _)
    ⟨fun world hworld => (List.not_mem_nil hworld).elim, List.nodup_nil⟩
    (fun world hworld => (List.not_mem_nil hworld).elim) (fun _ _ _ _ _ _ hrec => hrec)
    (fun w a ha => ⟨ha, (h.placed.creating w a ha).2.1⟩) (fun w sn hw => .inl hw)

/-- **A disconnect is handled**: what was on the app is forgotten, and requested again. -/
theorem Invariant.disconnect (h : s.Invariant worldType) {socket : ℤ} {c : AppConnection}
    (hc : s.connections[socket]? = some c) (hkey : c.appKey = some (getAppKey c.appType c.appId)) :
    ((s.manager.handleNetworkDisconnect c.socketKey (some (getAppKey c.appType c.appId))).2.foldl
      WorldCluster.deliver
        ⟨(s.manager.handleNetworkDisconnect c.socketKey (some (getAppKey c.appType c.appId))).1,
          s.connections.erase socket,
          s.locator.erase (getAppKey c.appType c.appId)⟩).Invariant worldType := by
  obtain ⟨hsocket, htcp⟩ := h.registered.socketKey socket c hc
  obtain ⟨hcreating, hcreated, hdungeons, hplaces, targets, hnodup, htargets, hsent⟩ :=
    s.manager.handleNetworkDisconnect_spec htcp (getAppKey c.appType c.appId)
  have hid := idFromAppKey_getAppKey c.appType (h.registered.id_lt socket c hc)
  rw [hid] at hcreating hcreated hdungeons htargets
  rw [hsocket] at hplaces htargets
  have hregistered : Registered (s.connections.erase socket)
      (s.locator.erase (getAppKey c.appType c.appId)) (s.manager.removeApp socket).apps := by
    refine h.registered.erase s.manager hc fun key socket' hsome => ?_
    obtain ⟨hne, hold⟩ := OrdMap.of_getElem?_erase hsome
    exact ⟨hold, fun heq => hne (Option.some.inj (hkey.symm.trans heq))⟩
  have hplaced := h.placed.erase h.registered.id_inj hc hcreating hcreated hdungeons
  rw [hsent]
  refine Invariant.foldl_deliver ⟨hregistered.of_same (sameApps_refl _) hplaces, hplaced⟩ targets
    hnodup fun t ht => ?_
  obtain ⟨hwas, happ⟩ := htargets t ht
  refine ⟨happ.of_samePlaces fun a => (hplaces a).symm,
    h.placed.free_erase h.registered.id_inj hc hwas, ?_, ?_⟩
  · rw [hcreating, hwas, Option.filter_some, decide_eq_true rfl]
    rfl
  · rw [hcreated, (h.placed.creating t.2 c.appId hwas).2.1]
    rfl

/-- The disconnect of an app without a key changes the apps only. -/
theorem Invariant.disconnect_none (h : s.Invariant worldType) {socket : ℤ} {c : AppConnection}
    (hc : s.connections[socket]? = some c) (hkey : c.appKey = none) (hother : c.appType ≠ .space) :
    ((s.manager.handleNetworkDisconnect c.socketKey none).2.foldl WorldCluster.deliver
      ⟨(s.manager.handleNetworkDisconnect c.socketKey none).1, s.connections.erase socket,
        s.locator⟩).Invariant worldType := by
  obtain ⟨hsocket, htcp⟩ := h.registered.socketKey socket c hc
  have hhandle : s.manager.handleNetworkDisconnect c.socketKey none =
      (s.manager.removeApp socket, []) := by
    unfold CreateWorldComponent.handleNetworkDisconnect
    simp only [htcp, Bool.true_eq_false, if_false, hsocket]
  rw [hhandle]
  refine ⟨h.registered.erase s.manager hc fun key socket' hsome => ⟨hsome, fun heq => ?_⟩,
    (h.placed.erase_other hc hother).of_same ?_ ?_ ?_⟩
  · rw [hkey] at heq
    cases heq
  all_goals
    unfold CreateWorldComponent.removeApp
    split <;> rfl

/-- **One orderly step keeps the invariant.** -/
theorem Invariant.step {configured : AppType → UInt64 → Bool} {t : WorldCluster} {e : ClusterEvent}
    (h : s.Invariant worldType) (horderly : s.Orderly e)
    (hstep : s.step worldType configured e = some t) : t.Invariant worldType := by
  cases e with
  | connect socketKey appType appId =>
    simp only [WorldCluster.step, Option.ite_none_right_eq_some] at hstep
    obtain ⟨⟨hfresh, htcp, htype⟩, ht⟩ := hstep
    obtain rfl := Option.some.inj ht
    exact h.connect hfresh htcp htype horderly.1 horderly.2
  | sync socket online =>
    simp only [WorldCluster.step] at hstep
    split at hstep
    · cases hstep
    · rename_i c hc
      obtain ⟨-, ht⟩ := Option.ite_none_right_eq_some.1 hstep
      obtain rfl := Option.some.inj ht
      refine ⟨h.registered.parse s.manager hc _ online, h.placed.of_same ?_ ?_ ?_⟩
      all_goals
        simp only [CreateWorldComponent.parse]
        split
        · split <;> rfl
        · rfl
  | requestWorld worldId =>
    obtain rfl := Option.some.inj hstep
    exact h.requestWorld horderly
  | requestDungeon socket worldId =>
    simp only [WorldCluster.step] at hstep
    split at hstep
    · cases hstep
    · rename_i c hc
      obtain ⟨⟨-, hspace, hdungeon⟩, ht⟩ := Option.ite_none_right_eq_some.1 hstep
      obtain rfl := Option.some.inj ht
      have hnot : worldType worldId ≠ some .publicWorld := by
        rw [hdungeon]
        decide
      refine ⟨h.registered.of_same (sameApps_insert hc rfl)
        (CreateWorldComponent.samePlaces_refl _), h.placed.request hc hspace
          (fun hpublic => absurd hpublic hnot) (fun a ha => ?_) fun hpublic => absurd hpublic hnot⟩
      exact absurd (h.placed.creating worldId a ha).1 hnot
  | create socket timeTick snTicket =>
    simp only [WorldCluster.step] at hstep
    split at hstep
    · cases hstep
    · rename_i c hc
      obtain ⟨c', hcreate, rfl⟩ := Option.map_eq_some_iff.1 hstep
      exact h.create hc hcreate (horderly c hc)
  | answer socket =>
    simp only [WorldCluster.step] at hstep
    split at hstep
    · cases hstep
    · rename_i c hc
      split at hstep
      · cases hstep
      · rename_i worldId worldSn rest hanswers
        obtain ⟨m, hm, rfl⟩ := Option.map_eq_some_iff.1 hstep
        exact h.answer hc hanswers hm
  | close socket =>
    simp only [WorldCluster.step] at hstep
    split at hstep
    · cases hstep
    · rename_i c hc
      obtain rfl := Option.some.inj hstep
      exact h.close hc
  | disconnect socket =>
    simp only [WorldCluster.step] at hstep
    split at hstep
    · cases hstep
    · rename_i c hc
      split at hstep
      · cases hstep
      · rcases h.registered.appKey socket c hc with hkey | ⟨hkey, hother⟩
        · rw [hkey] at hstep
          obtain rfl := Option.some.inj hstep
          exact h.disconnect hc hkey
        · rw [hkey] at hstep
          obtain rfl := Option.some.inj hstep
          exact h.disconnect_none hc hkey hother

end WorldCluster

variable {worldType : ℤ → Option ResourceWorldType} {configured : AppType → UInt64 → Bool}

/-- **Public worlds are unique** in every run of orderly steps. -/
theorem uniquePublicWorlds_of_orderly {es : List ClusterEvent} {s : WorldCluster}
    (hrun : ((worldCluster worldType configured).restrict WorldCluster.Orderly).Run es s) :
    UniquePublicWorlds worldType s := by
  have hinv : s.Invariant worldType := by
    refine hrun.restrict_invariant ?_ ?_
    · rintro s rfl
      exact WorldCluster.invariant_start
    · intro s e t hs horderly hstep
      exact hs.step horderly hstep
  exact hinv.uniquePublicWorlds

/-! ### A run, and one that is not orderly -/

instance (s : WorldCluster) (e : ClusterEvent) : Decidable (s.Orderly e) :=
  match e with
  | .connect _ _ _ => inferInstanceAs (Decidable (_ ∧ _))
  | .requestWorld _ => inferInstanceAs (Decidable (_ → _ → _))
  | .create socket timeTick snTicket =>
    inferInstanceAs (Decidable (∀ c ∈ s.connections[socket]?,
      generateSn timeTick c.appId snTicket ∉ c.worlds.map Prod.snd))
  | .sync _ _ | .requestDungeon _ _ | .answer _ | .close _ | .disconnect _ => .isTrue trivial

/-- One public world; all others are dungeons. -/
def onePublicWorld (worldId : ℤ) : Option ResourceWorldType :=
  if worldId = 1 then some .publicWorld else some .dungeon

/-- Two space apps, and the first one disconnects while it creates the public world. -/
def recreated : List ClusterEvent :=
  [.connect ⟨5, .tcpListen⟩ .space 301, .connect ⟨6, .tcpListen⟩ .space 302, .sync 5 0, .sync 6 0,
    .requestWorld 1, .close 5, .disconnect 5]

/-- The world is created on the second app, and remembered. -/
theorem uniquePublicWorlds_recreated : ∃ s : WorldCluster,
    UniquePublicWorlds onePublicWorld s ∧ s.manager.created[(1 : ℤ)]? = some 19791873 := by
  have hrun : (Transition.System.execute
      (WorldCluster.step onePublicWorld fun _ _ => true) WorldCluster.Orderly .start
        (recreated ++ [ClusterEvent.create 6 0 1, ClusterEvent.answer 6,
          ClusterEvent.requestWorld 1])).map
          (fun s => s.manager.created[(1 : ℤ)]?) = some (some 19791873) := by
    decide
  obtain ⟨s, hs, hcreated⟩ := Option.map_eq_some_iff.1 hrun
  exact ⟨s, uniquePublicWorlds_of_orderly (Transition.System.run_of_execute rfl hs), hcreated⟩

/-- The world is requested once more before the second app has created it: two creations of it are
outstanding. -/
theorem not_uniquePublicWorlds_recreate :
    ¬ ∀ (es : List ClusterEvent) (s : WorldCluster),
      (worldCluster onePublicWorld fun _ _ => true).Run es s →
        UniquePublicWorlds onePublicWorld s := by
  intro hall
  have hrun : (Transition.System.execute
      (WorldCluster.step onePublicWorld fun _ _ => true) (fun _ _ => True) .start
        (recreated ++ [ClusterEvent.requestWorld 1])).map
          (fun s => s.connections[(6 : ℤ)]?.map fun c => c.outstanding 1) = some (some 2) := by
    decide
  obtain ⟨s, hs, hout⟩ := Option.map_eq_some_iff.1 hrun
  obtain ⟨c, hc, htwo⟩ := Option.map_eq_some_iff.1 hout
  have hevents : (worldCluster onePublicWorld fun _ _ => true).Run
      (recreated ++ [ClusterEvent.requestWorld 1]) s := Transition.System.run_of_execute_true rfl hs
  have hunique := hall _ s hevents
  have hle := hunique.outstanding_le 1 rfl 6 c hc
  rw [htwo] at hle
  exact absurd hle (by decide)

end MmoServer
