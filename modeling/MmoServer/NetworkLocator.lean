/-
**Where an app is.**

`NetworkLocator` has a table that takes the key of an app to the socket of its connection.  An entry
is made when a connection to an app is established, and when an app on the other side of a connection
registers itself; it is removed when a connection is closed.  When an app connects again, its old
connection and its new one exist at the same time for a while, and what is said about them comes in
any order.

Connections are numbered in the order in which they were created.  A message carries the number of
its connection, which the locator does not see.

Main definitions:

* `MmoServer.NetworkLocator` — the table, and its operations;
* `MmoServer.LocatorState`, `MmoServer.LocatorEvent`, `MmoServer.locatorSystem` — the table with the
  connections of the process, and the messages under way;
* `MmoServer.LocatorState.current` — the last registration of an app whose connection has not been
  disconnected;
* `MmoServer.Routed` — the table has its socket;
* `MmoServer.RoutingKept` — a registration does not find another socket in the table, and a
  disconnect carries the key under which its connection is registered, and no other one is.

Main results:

* `MmoServer.LocatorInv.step` — **what one step keeps**;
* `MmoServer.routed_run` — **the table is right** in every run whose steps keep the routing;
* `MmoServer.not_routed_run` — it is not right when an app registers again on a new connection.
-/

import MmoServer.OrdMap
import MmoServer.Packet
import MmoServer.Transition

set_option relaxedAutoImplicit false
set_option autoImplicit false

namespace MmoServer

open Std

/-! ### The table -/

/-- `Proto::AppRegister`: the type of an app, as its bits, and its id. -/
structure AppRegister where
  type : Int32
  id : Int32
  deriving DecidableEq

/-- `GetAppKey`, of any two numbers. -/
def AppRegister.appKey (r : AppRegister) : UInt64 :=
  (r.type.toInt64.toUInt64 <<< 32) + r.id.toInt64.toUInt64

/-- `GetTypeFromAppKey` and `GetIdFromAppKey`. -/
def AppRegister.ofAppKey (appKey : UInt64) : AppRegister where
  type := (appKey >>> 32).toUInt32.toInt32
  id := (appKey &&& 0xFFFF).toUInt32.toInt32

/-- `APP_APPMGR`, `APP_SPACE` and `APP_GAME`: the apps that others register with. -/
def AppRegister.takesRegister (appType : Int32) : Bool :=
  appType &&& 6 != 0 || appType &&& 32 != 0 || appType &&& 16 != 0

/-- The identification of a packet that is made for a connection. -/
def NetIdentify.forPacket (n : NetIdentify) : NetIdentify :=
  ⟨n.socketKey, TagKey.clear.copyFrom n.tagKey⟩

/-- The identification of a packet that is made for none, and of an app that is not known. -/
def NetIdentify.empty : NetIdentify := ⟨.none, .clear⟩

/-- The key in the `App` tag. -/
def NetIdentify.appTag (n : NetIdentify) : Option UInt64 :=
  (n.tagKey.getTagValue .app).map TagValue.keyInt64

/-- `NetworkLocator::_netIdentify`. -/
structure NetworkLocator where
  netIdentify : ExtTreeMap UInt64 NetIdentify compare

namespace NetworkLocator

/-- The entry of a key. -/
def entry (socketKey : SocketKey) (appKey : UInt64) : NetIdentify :=
  ⟨socketKey, TagKey.clear.addTagInt .app appKey⟩

/-- The first half of `AddNetworkIdentify`: an old entry is removed. -/
def addNetworkIdentify (m : NetworkLocator) (socketKey : SocketKey) (appKey : UInt64) :
    NetworkLocator :=
  ⟨(m.netIdentify.erase appKey).insert appKey (entry socketKey appKey)⟩

/-- `GetNetworkIdentify`. -/
def getNetworkIdentify (m : NetworkLocator) (appType appId : Int32) : NetIdentify :=
  match m.netIdentify[AppRegister.appKey ⟨appType, appId⟩]? with
  | none => .empty
  | some n => n

/-- `HandleAppRegister`, with what it sends as `MI_NetworkListenKey`.  For an app that has an entry,
only the tags of the packet are taken. -/
def handleAppRegister (m : NetworkLocator) (identify : NetIdentify) (proto : AppRegister) :
    NetworkLocator × Option NetIdentify :=
  match m.netIdentify[proto.appKey]? with
  | none =>
    (⟨m.netIdentify.insert proto.appKey (entry identify.socketKey proto.appKey)⟩,
      some (entry identify.socketKey proto.appKey))
  | some n =>
    (⟨m.netIdentify.insert proto.appKey { n with tagKey := n.tagKey.copyFrom identify.tagKey }⟩,
      none)

/-- `HandleNetworkDisconnect`, with the app that it asks to connect with again. -/
def handleNetworkDisconnect (m : NetworkLocator) (identify : NetIdentify) :
    NetworkLocator × Option UInt64 :=
  match identify.appTag with
  | none => (m, none)
  | some appKey => (⟨m.netIdentify.erase appKey⟩, some appKey)

/-- The socket of an app, as senders get it. -/
def socketOf (m : NetworkLocator) (appKey : UInt64) : SocketKey :=
  (m.netIdentify[appKey]?.getD .empty).socketKey

theorem socketKey_getNetworkIdentify (m : NetworkLocator) (appType appId : Int32) :
    (m.getNetworkIdentify appType appId).socketKey =
      m.socketOf (AppRegister.appKey ⟨appType, appId⟩) := by
  simp only [getNetworkIdentify, socketOf]
  cases m.netIdentify[AppRegister.appKey ⟨appType, appId⟩]? <;> rfl

/-- **A connection that was established** is the one of its app from then on. -/
theorem socketOf_addNetworkIdentify (m : NetworkLocator) (socketKey : SocketKey)
    (appKey k : UInt64) : (m.addNetworkIdentify socketKey appKey).socketOf k =
      if appKey = k then socketKey else m.socketOf k := by
  by_cases hk : appKey = k
  · simp [addNetworkIdentify, socketOf, entry, hk]
  · simp [addNetworkIdentify, socketOf, OrdMap.getElem?_insert, OrdMap.getElem?_erase, hk]

/-- **A registration** only counts if there is no entry. -/
theorem socketOf_handleAppRegister (m : NetworkLocator) (identify : NetIdentify)
    (proto : AppRegister) (k : UInt64) : (m.handleAppRegister identify proto).1.socketOf k =
      if proto.appKey = k ∧ m.netIdentify[k]? = none then identify.socketKey else m.socketOf k := by
  by_cases hk : proto.appKey = k
  · subst hk
    cases hentry : m.netIdentify[proto.appKey]? with
    | none => simp [handleAppRegister, hentry, socketOf, entry]
    | some n => simp [handleAppRegister, hentry, socketOf]
  · cases hentry : m.netIdentify[proto.appKey]? with
    | none => simp [handleAppRegister, hentry, socketOf, OrdMap.getElem?_insert, hk]
    | some n => simp [handleAppRegister, hentry, socketOf, OrdMap.getElem?_insert, hk]

/-- **A disconnect** removes the entry of its key, whatever socket that has. -/
theorem socketOf_handleNetworkDisconnect (m : NetworkLocator) (identify : NetIdentify)
    (k : UInt64) : (m.handleNetworkDisconnect identify).1.socketOf k =
      if identify.appTag = some k then SocketKey.none else m.socketOf k := by
  cases htag : identify.appTag with
  | none => simp [handleNetworkDisconnect, htag]
  | some appKey =>
      by_cases hk : appKey = k
      · simp [handleNetworkDisconnect, htag, socketOf, hk, NetIdentify.empty]
      · simp [handleNetworkDisconnect, htag, socketOf, OrdMap.getElem?_erase, hk]

end NetworkLocator

/-! ### The connections of a process -/

/-- `ConnectStateType`. -/
inductive ConnectStateType
  | none | connecting | connected
  deriving DecidableEq, Repr

/-- A connection of one of the networks of a process. -/
structure AppSocket extends NetIdentify where
  state : ConnectStateType

/-- A message for the locator, with the number of its connection.  A registration that the process
sends itself has none. -/
inductive LocatorPacket
  /-- `MI_AppRegister`. -/
  | appRegister (sender : Option ℕ) (identify : NetIdentify) (proto : AppRegister)
  /-- `MI_NetworkDisconnect`. -/
  | networkDisconnect (sender : ℕ) (identify : NetIdentify)

/-- The connection of a message. -/
def LocatorPacket.sender : LocatorPacket → Option ℕ
  | appRegister c _ _ => c
  | networkDisconnect c _ => some c

/-- A registration, with the number of the connection and its socket. -/
structure AppRegistration where
  conn : ℕ
  appKey : UInt64
  socketKey : SocketKey

/-- The locator, and what is around it.  The last two fields are the history: the registrations, the
last one first, and the connections whose disconnect was handled. -/
structure LocatorState where
  locator : NetworkLocator
  connects : List AppSocket
  /-- What the main thread is going to handle. -/
  inbox : List LocatorPacket
  /-- `MI_NetworkListenKey`, for the thread of a listening network. -/
  listenKeys : List NetIdentify
  /-- The registrations of this process with others. -/
  sent : List (NetIdentify × AppRegister)
  registrations : List AppRegistration
  disconnected : List ℕ

/-- What happens in the process. -/
inductive LocatorEvent
  /-- `CreateConnectObj`, of a connection that was accepted, or that is to be established. -/
  | createConnectObj (socketKey : SocketKey) (tagType : TagType) (tagValue : TagValue)
      (state : ConnectStateType)
  /-- `ChangeStateToConnected`. -/
  | changeStateToConnected (c : ℕ)
  /-- `MI_AppRegister` is received, and dispatched. -/
  | recvAppRegister (c : ℕ) (proto : AppRegister)
  /-- A connection is closed; `MI_NetworkDisconnect` is dispatched. -/
  | backToPool (c : ℕ)
  /-- `HandleListenKey`. -/
  | handleListenKey
  /-- The main thread handles the next message. -/
  | handle

namespace LocatorState

/-- The process at the start. -/
def start : LocatorState := ⟨⟨∅⟩, [], [], [], [], [], []⟩

/-- There is a connection with this socket number. -/
def inUse (s : LocatorState) (socket : ℤ) : Bool :=
  s.connects.any fun obj => obj.state != .none && obj.socketKey.socket == socket

/-- The second half of `AddNetworkIdentify`: a process that is not the app manager registers with the
app, which may be itself. -/
def sendAppRegister (self : AppRegister) (s : LocatorState) (appKey : UInt64) : LocatorState :=
  let app := AppRegister.ofAppKey appKey
  if self.type &&& 6 = 0 ∧ AppRegister.takesRegister app.type = true then
    if self.type &&& app.type ≠ 0 then
      { s with inbox := s.inbox ++ [.appRegister none .empty self] }
    else if (s.locator.getNetworkIdentify app.type app.id).socketKey.netType = .none then s
    else
      { s with sent := s.sent ++
          [((s.locator.getNetworkIdentify app.type app.id).forPacket, self)] }
  else s

/-- `AddNetworkIdentify`, for a connection. -/
def addNetworkIdentify (self : AppRegister) (s : LocatorState) (c : ℕ) (socketKey : SocketKey)
    (appKey : UInt64) : LocatorState :=
  sendAppRegister self
    { s with
      locator := s.locator.addNetworkIdentify socketKey appKey
      registrations := ⟨c, appKey, socketKey⟩ :: s.registrations } appKey

/-- `ConnectObj::ChangeStateToConnected`. -/
def changeStateToConnected (self : AppRegister) (s : LocatorState) (c : ℕ) (obj : AppSocket) :
    LocatorState :=
  let s := { s with connects := s.connects.set c { obj with state := .connected } }
  match obj.appTag with
  | none => s
  | some appKey => s.addNetworkIdentify self c obj.socketKey appKey

/-- `HandleListenKey`: the tags of the connection that has the socket, if the network listens. -/
def handleListenKey (s : LocatorState) (p : NetIdentify) : LocatorState :=
  if p.socketKey.netType = .tcpListen ∨ p.socketKey.netType = .httpListen then
    { s with connects := s.connects.map fun obj =>
        if obj.state ≠ .none ∧ obj.socketKey = p.socketKey then
          { obj with tagKey := obj.tagKey.copyFrom p.tagKey }
        else obj }
  else s

/-- A message is handled. -/
def handlePacket (s : LocatorState) : LocatorPacket → LocatorState
  | .appRegister c identify proto =>
    let r := s.locator.handleAppRegister identify proto
    { s with
      locator := r.1
      listenKeys := s.listenKeys ++ (r.2.map NetIdentify.forPacket).toList
      registrations :=
        (c.map fun c => ⟨c, proto.appKey, identify.socketKey⟩).toList ++ s.registrations }
  | .networkDisconnect c identify =>
    { s with
      locator := (s.locator.handleNetworkDisconnect identify).1
      disconnected := c :: s.disconnected }

/-- One event.  The operating system gives a socket number to one connection at a time. -/
def step (self : AppRegister) (s : LocatorState) : LocatorEvent → Option LocatorState
  | .createConnectObj socketKey tagType tagValue state =>
    if state = .none ∨ s.inUse socketKey.socket = true then none
    else
      let tagKey := if tagType = .none then .clear else TagKey.clear.addTag tagType tagValue
      some { s with connects := s.connects ++ [⟨⟨socketKey, tagKey⟩, state⟩] }
  | .changeStateToConnected c =>
    match s.connects[c]? with
    | none => none
    | some obj =>
      if obj.state = .connecting then some (s.changeStateToConnected self c obj) else none
  | .recvAppRegister c proto =>
    match s.connects[c]? with
    | none => none
    | some obj =>
      if obj.state = .connected then
        some { s with
          inbox := s.inbox ++ [.appRegister (some c) obj.toNetIdentify.forPacket proto] }
      else none
  | .backToPool c =>
    match s.connects[c]? with
    | none => none
    | some obj =>
      if obj.state = .none then none
      else some { s with
        connects := s.connects.set c { obj with state := .none }
        inbox := s.inbox ++ [.networkDisconnect c obj.toNetIdentify.forPacket] }
  | .handleListenKey =>
    match s.listenKeys with
    | [] => none
    | p :: rest => some ({ s with listenKeys := rest }.handleListenKey p)
  | .handle =>
    match s.inbox with
    | [] => none
    | p :: rest => some ({ s with inbox := rest }.handlePacket p)

/-- **The last registration of an app** whose connection has not been disconnected. -/
def current (s : LocatorState) (appKey : UInt64) : Option AppRegistration :=
  s.registrations.find? fun r => decide (r.appKey = appKey ∧ r.conn ∉ s.disconnected)

/-- Its socket, if there is one. -/
def currentSocket (s : LocatorState) (appKey : UInt64) : SocketKey :=
  ((s.current appKey).map AppRegistration.socketKey).getD .none

end LocatorState

/-- The runs of a process, which is an app itself. -/
def locatorSystem (self : AppRegister) : Transition.System LocatorState LocatorEvent :=
  Transition.System.ofFun (fun s => s = .start) (LocatorState.step self)

/-- **The table is right.** -/
def Routed (s : LocatorState) : Prop :=
  ∀ appType appId : Int32, (s.locator.getNetworkIdentify appType appId).socketKey =
    s.currentSocket (AppRegister.appKey ⟨appType, appId⟩)

/-- **A step keeps the routing.**  A registration finds no entry of its app, or one of the same
socket.  A disconnect carries the key of each app whose last registration is that of its connection,
and no other connection that has not been disconnected is registered for the app whose key it
carries. -/
def RoutingKept (s : LocatorState) : LocatorEvent → Prop
  | .handle =>
    match s.inbox with
    | .appRegister (some _) identify proto :: _ =>
      ∀ n ∈ s.locator.netIdentify[proto.appKey]?, n.socketKey = identify.socketKey
    | .networkDisconnect c identify :: _ =>
      (∀ r ∈ s.registrations, (s.current r.appKey).map AppRegistration.conn = some c →
        identify.appTag = some r.appKey) ∧
      ∀ r ∈ s.registrations, identify.appTag = some r.appKey → r.conn ∉ s.disconnected → r.conn = c
    | _ => True
  | _ => True

instance (s : LocatorState) (e : LocatorEvent) : Decidable (RoutingKept s e) := by
  unfold RoutingKept
  split
  · split <;> infer_instance
  · infer_instance

/-! ### What is current -/

namespace LocatorState

variable {s : LocatorState} {key : UInt64}

theorem current_some {r : AppRegistration} (h : s.current key = some r) :
    r ∈ s.registrations ∧ r.appKey = key ∧ r.conn ∉ s.disconnected := by
  have hr := List.find?_some h
  exact ⟨List.mem_of_find?_eq_some h, of_decide_eq_true hr⟩

theorem current_eq_none :
    s.current key = none ↔ ∀ r ∈ s.registrations, r.appKey = key → r.conn ∈ s.disconnected := by
  simp [current, List.find?_eq_none]

/-- A new registration is the current one of its app. -/
theorem current_cons {v : LocatorState} {r : AppRegistration}
    (hregistrations : v.registrations = r :: s.registrations)
    (hdisconnected : v.disconnected = s.disconnected) (hr : r.conn ∉ s.disconnected) :
    v.current key = if r.appKey = key then some r else s.current key := by
  by_cases hk : r.appKey = key
  · simp [current, hregistrations, hdisconnected, hk, hr]
  · simp [current, hregistrations, hdisconnected, hk]

/-- **A disconnect** of another connection does not change it. -/
theorem current_disconnected {v : LocatorState} {c : ℕ}
    (hregistrations : v.registrations = s.registrations)
    (hdisconnected : v.disconnected = c :: s.disconnected)
    (hc : (s.current key).map AppRegistration.conn ≠ some c) : v.current key = s.current key := by
  unfold current at hc ⊢
  rw [hregistrations, hdisconnected]
  generalize s.registrations = registrations at hc ⊢
  induction registrations with
  | nil => rfl
  | cons r rest ih =>
      simp only [List.find?_cons] at hc ⊢
      by_cases hr : r.appKey = key ∧ r.conn ∉ s.disconnected
      · -- the current one: it is not of the connection
        have hne : r.conn ≠ c := by simpa [hr] using hc
        simp [hr, hne]
      · have hthen : ¬ (r.appKey = key ∧ r.conn ∉ c :: s.disconnected) := fun h =>
          hr ⟨h.1, fun hmem => h.2 (List.mem_cons_of_mem _ hmem)⟩
        simp only [hr, hthen, decide_false] at hc ⊢
        exact ih hc

end LocatorState

/-! ### The invariant -/

/-- A connection was closed. -/
def LocatorState.Closed (s : LocatorState) (c : ℕ) : Prop :=
  ∃ obj, s.connects[c]? = some obj ∧ obj.state = .none

/-- The invariant of a process whose steps keep the routing. -/
structure LocatorInv (s : LocatorState) : Prop where
  routed : ∀ key, s.locator.socketOf key = s.currentSocket key
  gone : ∀ c ∈ s.disconnected, s.Closed c
  /-- The disconnect of a connection is handled behind all its other messages. -/
  queued : ∀ p ∈ s.inbox, ∀ c, p.sender = some c → c ∉ s.disconnected
  closed : ∀ c identify, .networkDisconnect c identify ∈ s.inbox → s.Closed c
  last : s.inbox.Pairwise fun p q =>
    ∀ c identify, p = .networkDisconnect c identify → q.sender ≠ some c
  /-- A registration of the process itself has no socket. -/
  own : ∀ identify proto, .appRegister none identify proto ∈ s.inbox → identify = .empty

theorem Routed.of_socketOf {s : LocatorState}
    (h : ∀ key, s.locator.socketOf key = s.currentSocket key) : Routed s := by
  intro appType appId
  rw [NetworkLocator.socketKey_getNetworkIdentify, h]

namespace LocatorInv

variable {self : AppRegister} {s v : LocatorState}

theorem start : LocatorInv .start where
  routed := by simp [LocatorState.start, NetworkLocator.socketOf, LocatorState.currentSocket,
    LocatorState.current, NetIdentify.empty]
  gone := by simp [LocatorState.start]
  queued := by simp [LocatorState.start]
  closed := by simp [LocatorState.start]
  last := by simp [LocatorState.start]
  own := by simp [LocatorState.start]

/-- The connections change, and none of them is opened again. -/
theorem connects (h : LocatorInv s) (hlocator : v.locator = s.locator) (hinbox : v.inbox = s.inbox)
    (hregistrations : v.registrations = s.registrations)
    (hdisconnected : v.disconnected = s.disconnected)
    (hclosed : ∀ c, s.Closed c → v.Closed c) : LocatorInv v where
  routed := by
    simpa [LocatorState.currentSocket, LocatorState.current, hlocator, hregistrations,
      hdisconnected] using h.routed
  gone := by
    intro c hc
    exact hclosed c (h.gone c (hdisconnected ▸ hc))
  queued := by
    intro p hp
    rw [hinbox] at hp
    rw [hdisconnected]
    exact h.queued p hp
  closed := by
    intro c identify hp
    rw [hinbox] at hp
    exact hclosed c (h.closed c identify hp)
  last := by
    rw [hinbox]
    exact h.last
  own := by
    rw [hinbox]
    exact h.own

/-- A message is dispatched: it has no connection, or one that was not closed before. -/
theorem dispatch (h : LocatorInv s) (p : LocatorPacket) (hp : ∀ c, p.sender = some c → ¬ s.Closed c)
    (hlocator : v.locator = s.locator) (hinbox : v.inbox = s.inbox ++ [p])
    (hregistrations : v.registrations = s.registrations)
    (hdisconnected : v.disconnected = s.disconnected) (hclosed : ∀ c, s.Closed c → v.Closed c)
    (hthen : ∀ c identify, p = .networkDisconnect c identify → v.Closed c)
    (hown : ∀ identify proto, p = .appRegister none identify proto → identify = .empty) :
    LocatorInv v where
  routed := by
    simpa [LocatorState.currentSocket, LocatorState.current, hlocator, hregistrations,
      hdisconnected] using h.routed
  gone := by
    intro c hc
    exact hclosed c (h.gone c (hdisconnected ▸ hc))
  queued := by
    intro q hq c hc
    rw [hinbox, List.mem_append, List.mem_singleton] at hq
    rw [hdisconnected]
    rcases hq with hq | rfl
    · exact h.queued q hq c hc
    · exact fun hgone => hp c hc (h.gone c hgone)
  closed := by
    intro c identify hq
    rw [hinbox, List.mem_append, List.mem_singleton] at hq
    rcases hq with hq | hq
    · exact hclosed c (h.closed c identify hq)
    · exact hthen c identify hq.symm
  last := by
    rw [hinbox, List.pairwise_append]
    refine ⟨h.last, List.pairwise_singleton _ _, ?_⟩
    intro q hq p' hp' c identify hqc hsender
    obtain rfl := List.mem_singleton.1 hp'
    exact hp c hsender (h.closed c identify (hqc ▸ hq))
  own := by
    intro identify proto hq
    rw [hinbox, List.mem_append, List.mem_singleton] at hq
    rcases hq with hq | hq
    · exact h.own identify proto hq
    · exact hown identify proto hq.symm

/-- A registration whose socket is in the table then. -/
theorem register (h : LocatorInv s) {r : AppRegistration} (hr : r.conn ∉ s.disconnected)
    (hlocator : ∀ key, v.locator.socketOf key =
      if r.appKey = key then r.socketKey else s.locator.socketOf key)
    (hinbox : v.inbox = s.inbox) (hconnects : v.connects = s.connects)
    (hregistrations : v.registrations = r :: s.registrations)
    (hdisconnected : v.disconnected = s.disconnected) : LocatorInv v where
  routed := by
    intro key
    rw [hlocator, LocatorState.currentSocket,
      LocatorState.current_cons hregistrations hdisconnected hr]
    by_cases hk : r.appKey = key
    · simp [hk]
    · simpa [hk, LocatorState.currentSocket] using h.routed key
  gone := by simpa [LocatorState.Closed, hdisconnected, hconnects] using h.gone
  queued := by simpa [hinbox, hdisconnected] using h.queued
  closed := by simpa [LocatorState.Closed, hinbox, hconnects] using h.closed
  last := by simpa [hinbox] using h.last
  own := by simpa [hinbox] using h.own

/-- A connection that has a state was not closed. -/
theorem not_closed {c : ℕ} {obj : AppSocket} (hobj : s.connects[c]? = some obj)
    (hstate : obj.state ≠ .none) : ¬ s.Closed c := by
  rintro ⟨obj', hobj', hnone⟩
  obtain rfl : obj = obj' := Option.some.inj (hobj.symm.trans hobj')
  exact hstate hnone

theorem not_mem_disconnected (h : LocatorInv s) {c : ℕ} {obj : AppSocket}
    (hobj : s.connects[c]? = some obj) (hstate : obj.state ≠ .none) : c ∉ s.disconnected :=
  fun hgone => not_closed hobj hstate (h.gone c hgone)

/-- Changing a connection that is open does not open another one. -/
theorem closed_set {c k : ℕ} {obj obj' : AppSocket} (hobj : s.connects[c]? = some obj)
    (hstate : obj.state ≠ .none) (hconnects : v.connects = s.connects.set c obj') (hk : s.Closed k) :
    v.Closed k := by
  have hne : c ≠ k := by
    rintro rfl
    exact not_closed hobj hstate hk
  obtain ⟨old, hold, hnone⟩ := hk
  refine ⟨old, ?_, hnone⟩
  rw [hconnects, List.getElem?_set_ne hne]
  exact hold

theorem sendAppRegister (h : LocatorInv s) (appKey : UInt64) :
    LocatorInv (s.sendAppRegister self appKey) := by
  simp only [LocatorState.sendAppRegister]
  split
  · split
    · exact h.dispatch (.appRegister none .empty self) (by simp [LocatorPacket.sender]) rfl rfl rfl
        rfl (fun _ hc => hc) (by simp) (by simp)
    · split
      · exact h
      · exact h.connects rfl rfl rfl rfl fun _ hc => hc
  · exact h

theorem changeStateToConnected (h : LocatorInv s) {c : ℕ} {obj : AppSocket}
    (hobj : s.connects[c]? = some obj) (hstate : obj.state = .connecting) :
    LocatorInv (s.changeStateToConnected self c obj) := by
  have hopen : obj.state ≠ .none := by simp [hstate]
  have hset : LocatorInv { s with connects := s.connects.set c { obj with state := .connected } } :=
    h.connects rfl rfl rfl rfl fun k hk => closed_set hobj hopen rfl hk
  simp only [LocatorState.changeStateToConnected]
  cases htag : obj.appTag with
  | none => exact hset
  | some appKey =>
      refine LocatorInv.sendAppRegister ?_ appKey
      refine hset.register (r := ⟨c, appKey, obj.socketKey⟩) (h.not_mem_disconnected hobj hopen) ?_ rfl
        rfl rfl rfl
      exact fun key => NetworkLocator.socketOf_addNetworkIdentify ..

theorem handleListenKey (h : LocatorInv s) (p : NetIdentify) :
    LocatorInv (s.handleListenKey p) := by
  unfold LocatorState.handleListenKey
  split
  · refine h.connects rfl rfl rfl rfl ?_
    rintro c ⟨obj, hobj, hnone⟩
    refine ⟨obj, ?_, hnone⟩
    simp [hobj, hnone]
  · exact h

/-- The first message is taken. -/
theorem tail (h : LocatorInv s) {p : LocatorPacket} {rest : List LocatorPacket}
    (hinbox : s.inbox = p :: rest) : LocatorInv { s with inbox := rest } where
  routed := h.routed
  gone := h.gone
  queued := fun q hq => h.queued q (by simp [hinbox, hq])
  closed := fun c identify hq => h.closed c identify (by simp [hinbox, hq])
  last := by
    have hlast := h.last
    rw [hinbox, List.pairwise_cons] at hlast
    exact hlast.2
  own := fun identify proto hq => h.own identify proto (by simp [hinbox, hq])

/-- **A registration** that finds no other socket. -/
theorem handle_appRegister (h : LocatorInv s) {c : Option ℕ} {identify : NetIdentify}
    {proto : AppRegister} (hc : ∀ k, c = some k → k ∉ s.disconnected)
    (hnone : c = none → identify = .empty)
    (hkept : c ≠ none → ∀ n ∈ s.locator.netIdentify[proto.appKey]?,
      n.socketKey = identify.socketKey) :
    LocatorInv (s.handlePacket (.appRegister c identify proto)) := by
  have hsocket : ∀ key, (s.locator.handleAppRegister identify proto).1.socketOf key =
      if proto.appKey = key ∧ s.locator.netIdentify[key]? = none then identify.socketKey
      else s.locator.socketOf key :=
    NetworkLocator.socketOf_handleAppRegister s.locator identify proto
  cases c with
  | none =>
      -- the entry that is made is of no socket
      refine ⟨fun key => ?_, h.gone, h.queued, h.closed, h.last, h.own⟩
      have hrouted : s.locator.socketOf key = s.currentSocket key := h.routed key
      refine (hsocket key).trans ?_
      split
      · rename_i hnew
        refine Eq.trans ?_ hrouted
        simp [hnone rfl, NetworkLocator.socketOf, hnew.2]
      · exact hrouted
  | some c =>
      refine h.register (r := ⟨c, proto.appKey, identify.socketKey⟩) (hc c rfl) ?_ rfl rfl rfl rfl
      intro key
      refine (hsocket key).trans ?_
      by_cases hk : proto.appKey = key
      · subst hk
        cases hentry : s.locator.netIdentify[proto.appKey]? with
        | none => simp
        | some n => simp [NetworkLocator.socketOf, hentry, hkept (by simp) n hentry]
      · simp [hk]

/-- **A disconnect** that carries the keys of its connection, and no others. -/
theorem handle_networkDisconnect (h : LocatorInv s) {c : ℕ} {identify : NetIdentify}
    (hclosed : s.Closed c) (hlast : ∀ p ∈ s.inbox, p.sender ≠ some c)
    (hown : ∀ r ∈ s.registrations, (s.current r.appKey).map AppRegistration.conn = some c →
      identify.appTag = some r.appKey)
    (honly : ∀ r ∈ s.registrations, identify.appTag = some r.appKey → r.conn ∉ s.disconnected →
      r.conn = c) : LocatorInv (s.handlePacket (.networkDisconnect c identify)) where
  routed := by
    intro key
    refine (NetworkLocator.socketOf_handleNetworkDisconnect ..).trans ?_
    split
    · -- nothing else is registered for this app
      rename_i htag
      have hnone : (s.handlePacket (.networkDisconnect c identify)).current key = none := by
        rw [LocatorState.current_eq_none]
        rintro r hr rfl
        by_cases hgone : r.conn ∈ s.disconnected
        · exact List.mem_cons_of_mem _ hgone
        · exact List.mem_cons.2 (.inl (honly r hr htag hgone))
      simp [LocatorState.currentSocket, hnone]
    · -- the connection is not the current one of this app
      rename_i htag
      have hother : (s.current key).map AppRegistration.conn ≠ some c := by
        intro hcurrent
        obtain ⟨r, hr, hrc⟩ := Option.map_eq_some_iff.1 hcurrent
        obtain ⟨hmem, rfl, -⟩ := LocatorState.current_some hr
        exact htag (hown r hmem hcurrent)
      have hsame : (s.handlePacket (.networkDisconnect c identify)).current key = s.current key :=
        LocatorState.current_disconnected rfl rfl hother
      rw [h.routed key, LocatorState.currentSocket, LocatorState.currentSocket, hsame]
  gone := by
    intro k hk
    rcases List.mem_cons.1 hk with rfl | hk
    · exact hclosed
    · exact h.gone k hk
  queued := by
    intro p hp k hk hmem
    rcases List.mem_cons.1 hmem with rfl | hmem
    · exact hlast p hp hk
    · exact h.queued p hp k hk hmem
  closed := h.closed
  last := h.last
  own := h.own

/-- **One step** that keeps the routing. -/
theorem step (h : LocatorInv s) {e : LocatorEvent} (hkept : RoutingKept s e)
    (hv : s.step self e = some v) : LocatorInv v := by
  cases e with
  | createConnectObj socketKey tagType tagValue state =>
      simp only [LocatorState.step] at hv
      split at hv
      · cases hv
      · obtain rfl := Option.some.inj hv
        refine h.connects rfl rfl rfl rfl ?_
        rintro c ⟨obj, hobj, hnone⟩
        refine ⟨obj, ?_, hnone⟩
        exact (List.getElem?_append_left (List.getElem?_eq_some_iff.1 hobj).1).trans hobj
  | changeStateToConnected c =>
      simp only [LocatorState.step] at hv
      cases hobj : s.connects[c]? with
      | none => simp [hobj] at hv
      | some obj =>
          simp only [hobj] at hv
          obtain ⟨hstate, hv⟩ := Option.ite_none_right_eq_some.1 hv
          obtain rfl := Option.some.inj hv
          exact h.changeStateToConnected hobj hstate
  | recvAppRegister c proto =>
      simp only [LocatorState.step] at hv
      cases hobj : s.connects[c]? with
      | none => simp [hobj] at hv
      | some obj =>
          simp only [hobj] at hv
          obtain ⟨hstate, hv⟩ := Option.ite_none_right_eq_some.1 hv
          obtain rfl := Option.some.inj hv
          refine h.dispatch (.appRegister (some c) obj.toNetIdentify.forPacket proto) ?_ rfl rfl rfl
            rfl (fun _ hk => hk) (by simp) (by simp)
          intro k hk
          obtain rfl : c = k := by simpa [LocatorPacket.sender] using hk
          exact not_closed hobj (by simp [hstate])
  | backToPool c =>
      simp only [LocatorState.step] at hv
      cases hobj : s.connects[c]? with
      | none => simp [hobj] at hv
      | some obj =>
          simp only [hobj] at hv
          obtain ⟨hstate, hv⟩ := Option.ite_none_left_eq_some.1 hv
          obtain rfl := Option.some.inj hv
          refine h.dispatch (.networkDisconnect c obj.toNetIdentify.forPacket) ?_ rfl rfl rfl rfl
            (fun k hk => closed_set hobj hstate rfl hk) ?_ (by simp)
          · intro k hk
            obtain rfl : c = k := by simpa [LocatorPacket.sender] using hk
            exact not_closed hobj hstate
          · intro k identify hk
            obtain ⟨rfl, -⟩ : c = k ∧ _ := by simpa using hk
            refine ⟨{ obj with state := .none }, ?_, rfl⟩
            simp [(List.getElem?_eq_some_iff.1 hobj).1]
  | handleListenKey =>
      simp only [LocatorState.step] at hv
      split at hv
      · cases hv
      · obtain rfl := Option.some.inj hv
        have hrest : LocatorInv { s with listenKeys := ‹List NetIdentify› } :=
          h.connects rfl rfl rfl rfl fun _ hk => hk
        exact hrest.handleListenKey _
  | handle =>
      simp only [LocatorState.step] at hv
      split at hv
      · cases hv
      · rename_i p rest hinbox
        obtain rfl := Option.some.inj hv
        have hrest := h.tail hinbox
        have hmem : p ∈ s.inbox := by simp [hinbox]
        cases p with
        | appRegister c identify proto =>
            refine hrest.handle_appRegister (fun k hk => h.queued _ hmem k hk) ?_ ?_
            · rintro rfl
              exact h.own identify proto hmem
            · intro hc
              obtain ⟨k, rfl⟩ := Option.ne_none_iff_exists'.1 hc
              simpa [RoutingKept, hinbox] using hkept
        | networkDisconnect c identify =>
            have hlast := h.last
            rw [hinbox, List.pairwise_cons] at hlast
            simp only [RoutingKept, hinbox] at hkept
            exact hrest.handle_networkDisconnect (h.closed c identify hmem)
              (fun q hq => hlast.1 q hq c identify rfl) hkept.1 hkept.2

/-- **Every run** whose steps keep the routing. -/
theorem run {es : List LocatorEvent}
    (hrun : ((locatorSystem self).restrict RoutingKept).Run es s) : LocatorInv s := by
  induction hrun with
  | init h =>
      obtain rfl : _ = LocatorState.start := h
      exact start
  | step _ h ih => exact ih.step h.1 h.2

end LocatorInv

/-- **The table is right** in every run whose steps keep the routing. -/
theorem routed_run {self : AppRegister} {es : List LocatorEvent} {s : LocatorState}
    (hrun : ((locatorSystem self).restrict RoutingKept).Run es s) : Routed s :=
  .of_socketOf (LocatorInv.run hrun).routed

/-! ### An app that connects again -/

/-- `APP_GAME`, with the id 1. -/
def gameApp : AppRegister := ⟨16, 1⟩

/-- The app manager accepts a connection, and the game app registers on it. -/
def registerOn (c : ℕ) (socket : ℤ) : List LocatorEvent :=
  [.createConnectObj ⟨socket, .tcpListen⟩ .none ⟨[], 0⟩ .connected, .recvAppRegister c gameApp,
    .handle]

/-- The first connection is closed, and its disconnect handled, before the app registers again. -/
def registerAfter : List LocatorEvent :=
  registerOn 0 5 ++ [.handleListenKey, .backToPool 0, .handle] ++ registerOn 1 6

/-- The app manager sends to the second connection then. -/
theorem routed_registerAfter : ∃ s,
    ((locatorSystem ⟨6, 0⟩).restrict RoutingKept).Run registerAfter s ∧
      s.currentSocket gameApp.appKey = ⟨6, .tcpListen⟩ ∧ Routed s := by
  have hrun : (Transition.System.execute (LocatorState.step ⟨6, 0⟩) RoutingKept .start
      registerAfter).map (fun s => s.currentSocket gameApp.appKey) = some ⟨6, .tcpListen⟩ := by
    decide
  obtain ⟨s, hs, hsocket⟩ := Option.map_eq_some_iff.1 hrun
  have hevents : ((locatorSystem ⟨6, 0⟩).restrict RoutingKept).Run registerAfter s :=
    Transition.System.run_of_execute rfl hs
  exact ⟨s, hevents, hsocket, routed_run hevents⟩

/-- The app registers again while the first connection is there; then the disconnect of that one is
handled. -/
def registerBefore : List LocatorEvent :=
  registerOn 0 5 ++ [.handleListenKey] ++ registerOn 1 6 ++ [.backToPool 0, .handle]

/-- **The second registration** does not replace the first one, and the late disconnect leaves the app
without a socket. -/
theorem not_routed_run : ¬ ∀ (self : AppRegister) (es : List LocatorEvent) (s : LocatorState),
    (locatorSystem self).Run es s → Routed s := by
  intro hall
  have hrun : (Transition.System.execute (LocatorState.step ⟨6, 0⟩) (fun _ _ => True) .start
      registerBefore).map (fun s => ((s.locator.getNetworkIdentify 16 1).socketKey,
        s.currentSocket gameApp.appKey)) = some (.none, ⟨6, .tcpListen⟩) := by
    decide
  obtain ⟨s, hs, hsockets⟩ := Option.map_eq_some_iff.1 hrun
  have hevents : (locatorSystem ⟨6, 0⟩).Run registerBefore s :=
    Transition.System.run_of_execute_true rfl hs
  obtain ⟨htable, hcurrent⟩ := Prod.mk.inj hsockets
  have hrouted := hall ⟨6, 0⟩ registerBefore s hevents 16 1
  rw [htable] at hrouted
  exact absurd (hrouted.trans hcurrent) (by decide)

end MmoServer
