/-
**Connections and their socket numbers.**

A network finds a connection by its socket number.  When the connection is closed, the operating
system may give the number to the next one.  Meanwhile there may be packets under way that were
created for the closed connection: requests to disconnect it, updates of its tags, and packets that
are to be sent to it.  The first two are carried out on whatever connection has the number now; the
last ones are not sent if the packet and the connection have tags that tell them apart.

Connections are numbered in the order in which they were created.  Each packet carries the number of
the connection that it was created for, which the network does not see.

Main definitions:

* `MmoServer.ConnectObj`, `MmoServer.QueuedPacket`, `MmoServer.NetworkState` — connections, packets
  under way, and a network;
* `MmoServer.NetworkState.step` — its steps;
* `MmoServer.OwnOnly` — what was carried out was created for the connection that it was carried out
  on;
* `MmoServer.Undisturbed` — a packet is not handled behind a reuse of its socket number, unless the
  number is free, or the packet is one to be sent and its tags are not those of the connection.

Main results:

* `MmoServer.NetworkInv.run` — **a connection** is the last one that got its socket number;
* `MmoServer.step_ownOnly_iff` — **one step** carries out a packet on its own connection exactly if it
  is undisturbed;
* `MmoServer.ownOnly_iff` — **in a run** packets are carried out on their own connections exactly if
  all its steps are undisturbed;
* `MmoServer.not_ownOnly_reused` — a number that is reused too early takes all three kinds of packets
  to the wrong connection.
-/

import Mathlib.Logic.Function.Basic
import MmoServer.Packet
import MmoServer.Transition

set_option relaxedAutoImplicit false
set_option autoImplicit false

namespace MmoServer

/-! ### A network -/

/-- `ConnectObj`: its number, and its tags. -/
structure ConnectObj where
  id : ℕ
  tagKey : TagKey

/-- A packet under way, with the connection that it was created for.  There is none if that is a
connection of another network. -/
structure QueuedPacket extends NetIdentify where
  owner : Option ℕ

/-- What a network is asked to do with a connection. -/
inductive NetworkRequest
  /-- `MI_NetworkRequestDisconnect`. -/
  | disconnect
  /-- `MI_NetworkListenKey`. -/
  | listenKey
  deriving DecidableEq

/-- What is carried out on a connection: a request, or a packet that goes to its buffer. -/
inductive NetworkOp
  | request (r : NetworkRequest)
  | sendPacket
  deriving DecidableEq

/-- A packet was carried out on a connection. -/
structure Applied where
  op : NetworkOp
  owner : Option ℕ
  target : ℕ
  deriving DecidableEq

/-- `Network`.  The last two fields are the history: the socket numbers of all connections, and what
was carried out on them. -/
structure NetworkState where
  /-- `_connects`.  The set `_sockets` has the numbers with a connection. -/
  connects : ℤ → Option ConnectObj
  /-- The requests that the thread of the network is going to handle. -/
  messages : List (NetworkRequest × QueuedPacket)
  /-- `_sendMsgList`: the writer cache, and what is left of the reader cache. -/
  writer : List QueuedPacket
  reader : List QueuedPacket
  history : List ℤ
  applied : List Applied

/-- The steps of a network, and of the threads around it. -/
inductive NetworkEvent
  /-- `CreateConnectObj`, for a socket that the operating system has just opened. -/
  | createConnectObj (socket : ℤ) (checked : Bool) (tagType : TagType) (tagValue : TagValue)
  /-- The connection was closed at the other end, or an error occurred. -/
  | close (socket : ℤ)
  /-- `DispatchPacket`, of a request. -/
  | dispatchPacket (r : NetworkRequest) (p : QueuedPacket)
  /-- The thread of the network handles the next request. -/
  | handleMessage
  /-- `Network::SendPacket`. -/
  | sendPacket (p : QueuedPacket)
  /-- `OnNetworkUpdate` begins. -/
  | swapSend
  /-- It comes to the next packet. -/
  | nextSend

namespace NetworkState

/-- A network without connections. -/
def start : NetworkState where
  connects := fun _ => none
  messages := []
  writer := []
  reader := []
  history := []
  applied := []

/-- What the packet was created for: a connection that there is or was, or another network. -/
def CreatedFor (networkType : NetworkType) (s : NetworkState) (p : QueuedPacket) : Prop :=
  match p.owner with
  | some c => s.history[c]? = some p.socketKey.socket ∧ p.socketKey.netType = networkType
  | none => p.socketKey.netType ≠ networkType

instance (networkType : NetworkType) (s : NetworkState) (p : QueuedPacket) :
    Decidable (s.CreatedFor networkType p) := by
  unfold CreatedFor
  cases p.owner <;> infer_instance

/-- `RemoveConnectObj`. -/
def removeConnectObj (s : NetworkState) (socket : ℤ) : NetworkState :=
  { s with connects := Function.update s.connects socket none }

/-- `CreateConnectObj`, of a socket for which `CheckSocket` has found an error or not.  If there is a
connection with this number, both are given up. -/
def createConnectObj (s : NetworkState) (socket : ℤ) (checked : Bool) (tagType : TagType)
    (tagValue : TagValue) : NetworkState :=
  if !checked then s
  else if (s.connects socket).isSome then s.removeConnectObj socket
  else
    { s with
      connects := Function.update s.connects socket (some
        { id := s.history.length
          tagKey := if tagType = .none then .clear else TagKey.clear.addTag tagType tagValue })
      history := s.history ++ [socket] }

/-- `HandleDisconnect`. -/
def handleDisconnect (networkType : NetworkType) (s : NetworkState) (p : QueuedPacket) :
    NetworkState :=
  if p.socketKey.netType ≠ networkType then s
  else
    match s.connects p.socketKey.socket with
    | none => s
    | some obj =>
      { s.removeConnectObj p.socketKey.socket with
        applied := s.applied ++ [⟨.request .disconnect, p.owner, obj.id⟩] }

/-- `HandleListenKey`. -/
def handleListenKey (networkType : NetworkType) (s : NetworkState) (p : QueuedPacket) :
    NetworkState :=
  if p.socketKey.netType ≠ networkType then s
  else
    match s.connects p.socketKey.socket with
    | none => s
    | some obj =>
      { s with
        connects := Function.update s.connects p.socketKey.socket
          (some { obj with tagKey := obj.tagKey.copyFrom p.tagKey })
        applied := s.applied ++ [⟨.request .listenKey, p.owner, obj.id⟩] }

/-- A request is handled. -/
def handle (networkType : NetworkType) (s : NetworkState) (r : NetworkRequest)
    (p : QueuedPacket) : NetworkState :=
  match r with
  | .disconnect => s.handleDisconnect networkType p
  | .listenKey => s.handleListenKey networkType p

/-- `Network::SendPacket`: a packet for another network is only logged. -/
def sendPacket (networkType : NetworkType) (s : NetworkState) (p : QueuedPacket) : NetworkState :=
  if p.socketKey.netType ≠ networkType then s else { s with writer := s.writer ++ [p] }

/-- `OnNetworkUpdate`, for one packet. -/
def trySend (s : NetworkState) (p : QueuedPacket) : NetworkState :=
  match s.connects p.socketKey.socket with
  | none => s
  | some obj =>
    if !obj.tagKey.compareTags p.tagKey then s
    else { s with applied := s.applied ++ [⟨.sendPacket, p.owner, obj.id⟩] }

/-- One step. -/
def step (networkType : NetworkType) (s : NetworkState) : NetworkEvent → Option NetworkState
  | .createConnectObj socket checked tagType tagValue =>
    some (s.createConnectObj socket checked tagType tagValue)
  | .close socket =>
    if (s.connects socket).isSome then some (s.removeConnectObj socket) else none
  | .dispatchPacket r p =>
    if s.CreatedFor networkType p then some { s with messages := s.messages ++ [(r, p)] } else none
  | .handleMessage =>
    match s.messages with
    | [] => none
    | m :: rest => some ({ s with messages := rest }.handle networkType m.1 m.2)
  | .sendPacket p =>
    if s.CreatedFor networkType p then some (s.sendPacket networkType p) else none
  | .swapSend =>
    if s.reader = [] then some { s with writer := [], reader := s.writer } else none
  | .nextSend =>
    match s.reader with
    | [] => none
    | p :: rest => some ({ s with reader := rest }.trySend p)

/-- The socket number of a connection was given to a later one. -/
def Reused (s : NetworkState) (c : ℕ) (socket : ℤ) : Prop :=
  ∃ c', c < c' ∧ s.history[c']? = some socket

end NetworkState

/-- The runs of a network. -/
def networkSystem (networkType : NetworkType) : Transition.System NetworkState NetworkEvent :=
  Transition.System.ofFun (fun s => s = .start) (NetworkState.step networkType)

/-! ### What should hold -/

/-- **Everything was carried out on the connection that it was created for.** -/
def OwnOnly (s : NetworkState) : Prop := ∀ a ∈ s.applied, a.owner = some a.target

/-- **A step is not disturbed by a reuse.**  If the socket number of the packet that it handles was
given to a later connection, there is none under this number, or the packet is to be sent and a tag
tells it from the connection. -/
def Undisturbed (s : NetworkState) : NetworkEvent → Prop
  | .handleMessage => ∀ m ∈ s.messages.head?, ∀ c ∈ m.2.owner,
      s.Reused c m.2.socketKey.socket → s.connects m.2.socketKey.socket = none
  | .nextSend => ∀ p ∈ s.reader.head?, ∀ c ∈ p.owner, s.Reused c p.socketKey.socket →
      ∀ obj ∈ s.connects p.socketKey.socket, obj.tagKey.Distinguished p.tagKey
  | _ => True

/-! ### The invariant -/

/-- The invariant of a network. -/
structure NetworkInv (networkType : NetworkType) (s : NetworkState) : Prop where
  /-- **A connection** is the last one that got its socket number. -/
  last : ∀ k obj, s.connects k = some obj →
    s.history[obj.id]? = some k ∧ ∀ c, s.history[c]? = some k → c ≤ obj.id
  messages : ∀ m ∈ s.messages, s.CreatedFor networkType m.2
  /-- Only packets of this network are to be sent. -/
  queued : ∀ p ∈ s.reader ++ s.writer,
    s.CreatedFor networkType p ∧ p.socketKey.netType = networkType

namespace NetworkInv

variable {networkType : NetworkType} {s v : NetworkState}

theorem start : NetworkInv networkType .start where
  last := by
    intro k obj h
    cases h
  messages := List.forall_mem_nil _
  queued := List.forall_mem_nil _

/-- What was created for a connection stays so. -/
theorem createdFor_append {p : QueuedPacket} (h : s.CreatedFor networkType p)
    (hhistory : s.history <+: v.history) : v.CreatedFor networkType p := by
  unfold NetworkState.CreatedFor at h ⊢
  cases howner : p.owner with
  | none =>
    rw [howner] at h
    exact h
  | some c =>
    rw [howner] at h
    obtain ⟨rest, hrest⟩ := hhistory
    refine ⟨?_, h.2⟩
    rw [← hrest, List.getElem?_append_left (List.getElem?_eq_some_iff.1 h.1).1]
    exact h.1

theorem removeConnectObj (h : NetworkInv networkType s) (socket : ℤ) :
    NetworkInv networkType (s.removeConnectObj socket) := by
  refine ⟨fun k obj hobj => ?_, h.messages, h.queued⟩
  by_cases hk : k = socket
  · subst hk
    simp [NetworkState.removeConnectObj] at hobj
  · exact h.last k obj ((Function.update_of_ne hk ..).symm.trans hobj)

theorem createConnectObj (h : NetworkInv networkType s) (socket : ℤ) (checked : Bool)
    (tagType : TagType) (tagValue : TagValue) :
    NetworkInv networkType (s.createConnectObj socket checked tagType tagValue) := by
  unfold NetworkState.createConnectObj
  split
  · exact h
  split
  · exact h.removeConnectObj socket
  · have hprefix : s.history <+: s.history ++ [socket] := List.prefix_append _ _
    refine ⟨fun k obj hobj => ?_, fun m hm => createdFor_append (h.messages m hm) hprefix,
      fun p hp => ⟨createdFor_append (h.queued p hp).1 hprefix, (h.queued p hp).2⟩⟩
    by_cases hk : k = socket
    · subst hk
      simp only [Function.update_self, Option.some.injEq] at hobj
      subst hobj
      refine ⟨by simp, fun c hc => ?_⟩
      have hlt := (List.getElem?_eq_some_iff.1 hc).1
      simp only [List.length_append, List.length_singleton] at hlt
      exact Nat.le_of_lt_succ hlt
    · obtain ⟨hid, hlast⟩ := h.last k obj ((Function.update_of_ne hk ..).symm.trans hobj)
      have hlt := (List.getElem?_eq_some_iff.1 hid).1
      refine ⟨(List.getElem?_append_left hlt).trans hid, fun c hc => ?_⟩
      rcases Nat.lt_or_ge c s.history.length with hold | hnew
      · rw [List.getElem?_append_left hold] at hc
        exact hlast c hc
      · -- the new connection has another number
        rw [List.getElem?_append_right hnew] at hc
        obtain ⟨-, rfl⟩ : c - s.history.length = 0 ∧ socket = k := by
          simpa [List.getElem?_singleton] using hc
        exact absurd rfl hk

/-- The tags of a connection are changed. -/
theorem updateTags (h : NetworkInv networkType s) {k : ℤ} {obj : ConnectObj}
    (hobj : s.connects k = some obj) (tagKey : TagKey) : NetworkInv networkType
      { s with connects := Function.update s.connects k (some { obj with tagKey := tagKey }) } := by
  refine ⟨fun k' obj' hobj' => ?_, h.messages, h.queued⟩
  by_cases hk : k' = k
  · subst hk
    simp only [Function.update_self, Option.some.injEq] at hobj'
    subst hobj'
    exact h.last k' obj hobj
  · exact h.last k' obj' ((Function.update_of_ne hk ..).symm.trans hobj')

theorem handle (h : NetworkInv networkType s) (r : NetworkRequest) (p : QueuedPacket) :
    NetworkInv networkType (s.handle networkType r p) := by
  cases r with
  | disconnect =>
    simp only [NetworkState.handle, NetworkState.handleDisconnect]
    split
    · exact h
    · split
      · exact h
      · obtain ⟨hlast, hmessages, hqueued⟩ := h.removeConnectObj p.socketKey.socket
        exact ⟨hlast, hmessages, hqueued⟩
  | listenKey =>
    simp only [NetworkState.handle, NetworkState.handleListenKey]
    split
    · exact h
    · split
      · exact h
      · rename_i obj hobj
        obtain ⟨hlast, hmessages, hqueued⟩ := h.updateTags hobj (obj.tagKey.copyFrom p.tagKey)
        exact ⟨hlast, hmessages, hqueued⟩

theorem trySend (h : NetworkInv networkType s) (p : QueuedPacket) :
    NetworkInv networkType (s.trySend p) := by
  unfold NetworkState.trySend
  split
  · exact h
  · split
    · exact h
    · exact ⟨h.last, h.messages, h.queued⟩

theorem sendPacket (h : NetworkInv networkType s) {p : QueuedPacket}
    (hp : s.CreatedFor networkType p) : NetworkInv networkType (s.sendPacket networkType p) := by
  unfold NetworkState.sendPacket
  split
  · exact h
  · rename_i hnet
    refine ⟨h.last, h.messages, fun q hq => ?_⟩
    rw [← List.append_assoc] at hq
    rcases List.mem_append.1 hq with hold | hnew
    · exact h.queued q hold
    · obtain rfl := List.mem_singleton.1 hnew
      exact ⟨hp, not_not.1 hnet⟩

/-- **One step** keeps the invariant. -/
theorem step (h : NetworkInv networkType s) {e : NetworkEvent} (hv : s.step networkType e = some v) :
    NetworkInv networkType v := by
  cases e with
  | createConnectObj socket checked tagType tagValue =>
    obtain rfl := Option.some.inj hv
    exact h.createConnectObj socket checked tagType tagValue
  | close socket =>
    obtain ⟨-, hv⟩ := Option.ite_none_right_eq_some.1 hv
    obtain rfl := Option.some.inj hv
    exact h.removeConnectObj socket
  | dispatchPacket r p =>
    obtain ⟨hp, hv⟩ := Option.ite_none_right_eq_some.1 hv
    obtain rfl := Option.some.inj hv
    refine ⟨h.last, fun m hm => ?_, h.queued⟩
    rcases List.mem_append.1 hm with hold | hnew
    · exact h.messages m hold
    · rw [List.mem_singleton.1 hnew]
      exact hp
  | handleMessage =>
    simp only [NetworkState.step] at hv
    split at hv
    · cases hv
    · rename_i m rest hmessages
      obtain rfl := Option.some.inj hv
      have hrest : NetworkInv networkType { s with messages := rest } :=
        ⟨h.last, fun m hm => h.messages m (by simp [hmessages, hm]), h.queued⟩
      exact hrest.handle m.1 m.2
  | sendPacket p =>
    obtain ⟨hp, hv⟩ := Option.ite_none_right_eq_some.1 hv
    obtain rfl := Option.some.inj hv
    exact h.sendPacket hp
  | swapSend =>
    obtain ⟨hreader, hv⟩ := Option.ite_none_right_eq_some.1 hv
    obtain rfl := Option.some.inj hv
    exact ⟨h.last, h.messages, fun p hp => h.queued p (by simpa [hreader] using hp)⟩
  | nextSend =>
    simp only [NetworkState.step] at hv
    split at hv
    · cases hv
    · rename_i p rest hreader
      obtain rfl := Option.some.inj hv
      have hrest : NetworkInv networkType { s with reader := rest } :=
        ⟨h.last, h.messages, fun q hq => h.queued q (by simp [hreader] at hq ⊢; exact .inr hq)⟩
      exact hrest.trySend p

/-- **Every run** keeps the invariant. -/
theorem run {es : List NetworkEvent} (hrun : (networkSystem networkType).Run es s) :
    NetworkInv networkType s := by
  refine hrun.invariant (p := NetworkInv networkType) ?_ ?_
  · rintro s rfl
    exact .start
  · exact fun s e v h hstep => h.step hstep

/-- **The connection that a packet finds** is its own exactly if the socket number was not given to a
later one. -/
theorem owner_eq_iff (h : NetworkInv networkType s) {p : QueuedPacket} {obj : ConnectObj}
    (hp : s.CreatedFor networkType p) (hnet : p.socketKey.netType = networkType)
    (hobj : s.connects p.socketKey.socket = some obj) :
    p.owner = some obj.id ↔ ∀ c ∈ p.owner, ¬ s.Reused c p.socketKey.socket := by
  obtain ⟨hid, hlast⟩ := h.last _ _ hobj
  unfold NetworkState.CreatedFor at hp
  cases howner : p.owner with
  | none =>
    rw [howner] at hp
    exact absurd hnet hp
  | some c =>
    rw [howner] at hp
    constructor
    · rintro hc c' hc' ⟨d, hlt, hd⟩
      obtain rfl : obj.id = c' := Option.some.inj (hc.symm.trans hc')
      exact Nat.not_le.2 hlt (hlast d hd)
    · intro hnot
      by_contra hne
      have hlt : c < obj.id := Nat.lt_of_le_of_ne (hlast c hp.1) fun heq => hne (congrArg some heq)
      exact hnot c rfl ⟨obj.id, hlt, hid⟩

/-- A request is carried out on its own connection exactly if it finds no other one. -/
theorem handle_ownOnly_iff (h : NetworkInv networkType s) {r : NetworkRequest} {p : QueuedPacket}
    (hp : s.CreatedFor networkType p) : OwnOnly (s.handle networkType r p) ↔ OwnOnly s ∧
      ∀ c ∈ p.owner, s.Reused c p.socketKey.socket → s.connects p.socketKey.socket = none := by
  by_cases hnet : p.socketKey.netType = networkType
  · cases hobj : s.connects p.socketKey.socket with
    | none =>
      cases r with
      | disconnect => simp [NetworkState.handle, NetworkState.handleDisconnect, hobj]
      | listenKey => simp [NetworkState.handle, NetworkState.handleListenKey, hobj]
    | some obj =>
      have happlied : (s.handle networkType r p).applied =
          s.applied ++ [⟨.request r, p.owner, obj.id⟩] := by
        cases r with
        | disconnect => simp [NetworkState.handle, NetworkState.handleDisconnect, hobj, hnet]
        | listenKey => simp [NetworkState.handle, NetworkState.handleListenKey, hobj, hnet]
      unfold OwnOnly
      rw [happlied, List.forall_mem_append, List.forall_mem_singleton, h.owner_eq_iff hp hnet hobj]
      simp
  · have hforeign : p.owner = none := by
      unfold NetworkState.CreatedFor at hp
      cases howner : p.owner with
      | none => rfl
      | some c =>
        rw [howner] at hp
        exact absurd hp.2 hnet
    cases r with
    | disconnect => simp [NetworkState.handle, NetworkState.handleDisconnect, hnet, hforeign]
    | listenKey => simp [NetworkState.handle, NetworkState.handleListenKey, hnet, hforeign]

/-- A packet is sent to its own connection exactly if a tag tells it from any other one that it
finds. -/
theorem trySend_ownOnly_iff (h : NetworkInv networkType s) {p : QueuedPacket}
    (hp : s.CreatedFor networkType p) (hnet : p.socketKey.netType = networkType) :
    OwnOnly (s.trySend p) ↔ OwnOnly s ∧ ∀ c ∈ p.owner, s.Reused c p.socketKey.socket →
      ∀ obj ∈ s.connects p.socketKey.socket, obj.tagKey.Distinguished p.tagKey := by
  unfold NetworkState.trySend
  cases hobj : s.connects p.socketKey.socket with
  | none => simp
  | some obj =>
    by_cases htags : obj.tagKey.compareTags p.tagKey = true
    · have hsame : ¬ obj.tagKey.Distinguished p.tagKey := by
        rw [← TagKey.compareTags_eq_false_iff, htags]
        simp
      have happlied : OwnOnly { s with applied := s.applied ++ [⟨.sendPacket, p.owner, obj.id⟩] } ↔
          OwnOnly s ∧ ∀ c ∈ p.owner, ¬ s.Reused c p.socketKey.socket := by
        unfold OwnOnly
        rw [List.forall_mem_append, List.forall_mem_singleton, h.owner_eq_iff hp hnet hobj]
      simp [htags, happlied, hsame]
    · rw [Bool.not_eq_true] at htags
      simp [htags, TagKey.compareTags_eq_false_iff.1 htags]

end NetworkInv

/-- **One step** carries out a packet on its own connection exactly if it is undisturbed. -/
theorem step_ownOnly_iff {networkType : NetworkType} {s v : NetworkState}
    (h : NetworkInv networkType s) {e : NetworkEvent} (hv : s.step networkType e = some v) :
    OwnOnly v ↔ OwnOnly s ∧ Undisturbed s e := by
  cases e with
  | createConnectObj socket checked tagType tagValue =>
    obtain rfl := Option.some.inj hv
    have happlied : (s.createConnectObj socket checked tagType tagValue).applied = s.applied := by
      unfold NetworkState.createConnectObj NetworkState.removeConnectObj
      split
      · rfl
      · split <;> rfl
    unfold OwnOnly
    rw [happlied]
    exact (and_iff_left trivial).symm
  | close socket =>
    obtain ⟨-, hv⟩ := Option.ite_none_right_eq_some.1 hv
    obtain rfl := Option.some.inj hv
    exact (and_iff_left trivial).symm
  | dispatchPacket r p =>
    obtain ⟨-, hv⟩ := Option.ite_none_right_eq_some.1 hv
    obtain rfl := Option.some.inj hv
    exact (and_iff_left trivial).symm
  | handleMessage =>
    simp only [NetworkState.step] at hv
    split at hv
    · cases hv
    · rename_i m rest hmessages
      obtain rfl := Option.some.inj hv
      have hrest : NetworkInv networkType { s with messages := rest } :=
        ⟨h.last, fun m hm => h.messages m (by simp [hmessages, hm]), h.queued⟩
      have hm : ({ s with messages := rest } : NetworkState).CreatedFor networkType m.2 :=
        h.messages m (by simp [hmessages])
      rw [hrest.handle_ownOnly_iff hm]
      simp [Undisturbed, hmessages, OwnOnly, NetworkState.Reused]
  | sendPacket p =>
    obtain ⟨-, hv⟩ := Option.ite_none_right_eq_some.1 hv
    obtain rfl := Option.some.inj hv
    have happlied : (s.sendPacket networkType p).applied = s.applied := by
      unfold NetworkState.sendPacket
      split <;> rfl
    unfold OwnOnly
    rw [happlied]
    exact (and_iff_left trivial).symm
  | swapSend =>
    obtain ⟨-, hv⟩ := Option.ite_none_right_eq_some.1 hv
    obtain rfl := Option.some.inj hv
    exact (and_iff_left trivial).symm
  | nextSend =>
    simp only [NetworkState.step] at hv
    split at hv
    · cases hv
    · rename_i p rest hreader
      obtain rfl := Option.some.inj hv
      have hrest : NetworkInv networkType { s with reader := rest } :=
        ⟨h.last, h.messages, fun q hq => h.queued q (by simp [hreader] at hq ⊢; exact .inr hq)⟩
      obtain ⟨hp, hnet⟩ := h.queued p (by simp [hreader])
      rw [hrest.trySend_ownOnly_iff hp hnet]
      simp [Undisturbed, hreader, OwnOnly, NetworkState.Reused]

/-- **In a run** packets are carried out on the connections that they were created for exactly if all
its steps are undisturbed. -/
theorem ownOnly_iff {networkType : NetworkType} {es : List NetworkEvent} {s : NetworkState}
    (hrun : (networkSystem networkType).Run es s) :
    OwnOnly s ↔ ((networkSystem networkType).restrict Undisturbed).Run es s := by
  constructor
  · intro hown
    induction hrun with
    | init h => exact .init h
    | step hbefore hstep ih =>
      obtain ⟨hown, hundisturbed⟩ := (step_ownOnly_iff (.run hbefore) hstep).1 hown
      exact (ih hown).step ⟨hundisturbed, hstep⟩
  · intro hundisturbed
    induction hundisturbed with
    | init h =>
      obtain rfl : _ = NetworkState.start := h
      exact List.forall_mem_nil _
    | step hbefore hstep ih =>
      exact (step_ownOnly_iff (.run hbefore.of_restrict) hstep.2).2 ⟨ih hbefore.of_restrict, hstep.1⟩

/-! ### Two clients with one number -/

/-- A packet that was created for the connection 0 or 1, which have the number 5. -/
def packetFor (c : ℕ) (account : Option (List UInt8)) : QueuedPacket where
  socketKey := ⟨5, .tcpListen⟩
  tagKey :=
    match account with
    | none => .clear
    | some value => TagKey.clear.addTagStr .account value
  owner := some c

/-- A client connects with the number 5, and logs in; then a packet for it is queued. -/
def clientOf (c : ℕ) (account : List UInt8) : List NetworkEvent :=
  [.createConnectObj 5 true .none ⟨[], 0⟩, .dispatchPacket .listenKey (packetFor c account),
    .handleMessage, .sendPacket (packetFor c account)]

/-- The second client has logged in before the packet for the first one is handled. -/
def reusedLate : List NetworkEvent :=
  clientOf 0 [97] ++ [.close 5] ++ clientOf 1 [98] ++ [.swapSend, .nextSend, .nextSend]

/-- The account tells the packets apart, and all steps are undisturbed. -/
theorem ownOnly_late : ∃ s, (networkSystem .tcpListen).Run reusedLate s ∧
    ((networkSystem .tcpListen).restrict Undisturbed).Run reusedLate s ∧
    s.applied = [⟨.request .listenKey, some 0, 0⟩, ⟨.request .listenKey, some 1, 1⟩,
      ⟨.sendPacket, some 1, 1⟩] := by
  have hrun : (Transition.System.execute (NetworkState.step .tcpListen) (fun _ _ => True) .start
      reusedLate).map NetworkState.applied = some [⟨.request .listenKey, some 0, 0⟩,
        ⟨.request .listenKey, some 1, 1⟩, ⟨.sendPacket, some 1, 1⟩] := by
    decide
  obtain ⟨s, hs, happlied⟩ := Option.map_eq_some_iff.1 hrun
  have hevents : (networkSystem .tcpListen).Run reusedLate s :=
    Transition.System.run_of_execute_true rfl hs
  have hown : OwnOnly s := by
    unfold OwnOnly
    rw [happlied]
    decide
  exact ⟨s, hevents, (ownOnly_iff hevents).1 hown, happlied⟩

/-- The second client connects while three packets for the first one are under way: one that is to be
sent, an update of its tags, and a request to disconnect it. -/
def reusedEarly : List NetworkEvent :=
  clientOf 0 [97] ++ [.dispatchPacket .listenKey (packetFor 0 (some [97])),
    .dispatchPacket .disconnect (packetFor 0 none), .close 5,
    .createConnectObj 5 true .none ⟨[], 0⟩, .swapSend, .nextSend, .handleMessage, .handleMessage]

/-- **All three** are carried out on the connection of the second client. -/
theorem not_ownOnly_reused : ¬ ∀ (networkType : NetworkType) (es : List NetworkEvent)
    (s : NetworkState), (networkSystem networkType).Run es s → OwnOnly s := by
  intro hall
  have hrun : (Transition.System.execute (NetworkState.step .tcpListen) (fun _ _ => True) .start
      reusedEarly).map NetworkState.applied = some [⟨.request .listenKey, some 0, 0⟩,
        ⟨.sendPacket, some 0, 1⟩, ⟨.request .listenKey, some 0, 1⟩,
        ⟨.request .disconnect, some 0, 1⟩] := by
    decide
  obtain ⟨s, hs, happlied⟩ := Option.map_eq_some_iff.1 hrun
  have hevents : (networkSystem .tcpListen).Run reusedEarly s :=
    Transition.System.run_of_execute_true rfl hs
  have hown := hall .tcpListen reusedEarly s hevents
  unfold OwnOnly at hown
  rw [happlied] at hown
  revert hown
  decide

end MmoServer
