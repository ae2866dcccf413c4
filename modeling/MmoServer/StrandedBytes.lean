/-
**Bytes that wait to be sent.**

What is to be sent to a connection is put into its send buffer, and `::send` takes some of it whenever
the system says that the connection can be written to.  In the epoll build a connection is asked about
while `EPOLLOUT` is registered for its socket: from its creation, and when a packet is put into its
buffer, until `Send` returns.  In the select build it is asked about while `HasSendData` is true, which
takes at least the bytes of a head.  `Send` returns when `::send` has taken a part of what it was
offered, and it returns without sending when it finds the connection established.

An update of a network is one step.  The events, what `::recv` and `::send` return in them, the new
connections and the packets of the send list are given by the environment.

Main definitions:

* `MmoServer.NetworkBuild`, `MmoServer.SendingConnect`, `MmoServer.SendNetwork` — the builds,
  connections, and a network;
* `MmoServer.SendNetwork.update`, `MmoServer.sendSystem` — an update, and the runs of a network;
* `MmoServer.NoStranded` — who has bytes to be sent is asked about;
* `MmoServer.unsent` — what is left of so many bytes behind the calls of `::send`;
* `MmoServer.SendNetwork.EventOk`, `MmoServer.SendNetwork.PacketOk` — nothing is left without being
  asked about.

Main results:

* `MmoServer.SendingConnect.Kept.handle`, `MmoServer.SendingConnect.Kept.sendPacket` — **what an event
  and a packet keep**;
* `MmoServer.noStranded_run` — **no bytes are stranded** in the runs whose updates meet the condition;
* `MmoServer.not_noStranded` — a `::send` that takes a part strands the rest.
-/

import MmoServer.FrameStream
import MmoServer.NetworkLocator

set_option relaxedAutoImplicit false
set_option autoImplicit false

namespace MmoServer

/-! ### Connections -/

/-- The two builds of a network. -/
inductive NetworkBuild
  | epoll | select
  deriving DecidableEq

/-- `ConnectObj`, as far as it sends. -/
structure SendingConnect where
  state : ConnectStateType
  tagKey : TagKey
  sendBuffer : NetworkBuffer
  /-- `EPOLLOUT` is registered for the socket. -/
  epollOut : Bool

/-- The loop of `ConnectObj::Send`, with what its calls of `::send` return, and whether the connection
can go on.  The system does not take more than it is offered. -/
def NetworkBuffer.sendLoop (b : NetworkBuffer) : List ℤ → Option (Bool × NetworkBuffer)
  | [] => if b.sendGetBuffer.2 ≤ 0 then some (true, b) else none
  | size :: sizes =>
    if b.sendGetBuffer.2 ≤ 0 ∨ b.sendGetBuffer.2 < size then none
    else if size ≤ 0 then
      if sizes.isEmpty then some (false, b) else none
    else if size < b.sendGetBuffer.2 then
      -- the rest is for the next frame
      if sizes.isEmpty then some (true, b.removeData size.toNat) else none
    else (b.removeData size.toNat).sendLoop sizes

/-- An event of a socket, as `epoll_wait` or `::select` reports it. -/
structure ReadyEvent where
  socket : ℤ
  /-- `EPOLLRDHUP`, `EPOLLERR` or `EPOLLHUP`; the socket is in the set of exceptions. -/
  broken : Bool
  /-- It can be read, and what `Recv` returns for an established connection. -/
  input : Option Bool
  /-- It can be written, and what the calls of `::send` return. -/
  output : Option (List ℤ)

namespace SendingConnect

/-- `ConnectObj::HasSendData`. -/
def hasSendData (obj : SendingConnect) : Bool :=
  if obj.state = .connecting then true else obj.sendBuffer.hasData

/-- The system is asked whether the connection can be written to. -/
def scheduled (build : NetworkBuild) (obj : SendingConnect) : Bool :=
  match build with
  | .epoll => obj.epollOut
  | .select => obj.hasSendData

/-- `ModifyEvent`, which there is only in the epoll build. -/
def modifyEvent (build : NetworkBuild) (out : Bool) (obj : SendingConnect) : SendingConnect :=
  match build with
  | .epoll => { obj with epollOut := out }
  | .select => obj

/-- `ConnectObj::Recv`. -/
def recv (obj : SendingConnect) (isRs : Bool) : Bool × SendingConnect :=
  if obj.state = .connecting then (true, { obj with state := .connected }) else (isRs, obj)

/-- `ConnectObj::Send`. -/
def send (obj : SendingConnect) (sizes : List ℤ) : Option (Bool × SendingConnect) :=
  if obj.state = .connecting then
    if sizes.isEmpty then some (true, { obj with state := .connected }) else none
  else (obj.sendBuffer.sendLoop sizes).map fun r => (r.1, { obj with sendBuffer := r.2 })

/-- The part of an event for reading. -/
def handleInput (obj : SendingConnect) : Option Bool → Bool × SendingConnect
  | none => (true, obj)
  | some isRs => obj.recv isRs

/-- `Epoll` and `Select`, for one event: the connection afterwards, unless it is removed.  The system
reports that it can be written to if it was asked. -/
def handle (build : NetworkBuild) (obj : SendingConnect) (e : ReadyEvent) :
    Option (Option SendingConnect) :=
  if e.broken then some none
  else if (obj.handleInput e.input).1 = false then some none
  else
    match e.output with
    | none => some (some (obj.handleInput e.input).2)
    | some sizes =>
      if obj.scheduled build = false then none
      else
        ((obj.handleInput e.input).2.send sizes).map fun r =>
          if r.1 then some (r.2.modifyEvent build false) else none

/-- A packet of the send list goes to a connection: it has the socket, and no tag tells them apart. -/
def Takes (obj : SendingConnect) (socket : ℤ) (p : Packet) : Prop :=
  p.socketKey.socket = socket ∧ obj.tagKey.compareTags p.tagKey = true

/-- `ConnectObj::SendPacket`, and the event that is registered then. -/
def sendPacket (build : NetworkBuild) (obj : SendingConnect) (p : Packet) : Option SendingConnect :=
  (addPacket 1 obj.sendBuffer p).map fun b =>
    { obj with sendBuffer := b }.modifyEvent build true

end SendingConnect

/-! ### A network -/

/-- `Network`, with `_connects`. -/
structure SendNetwork where
  connects : ℤ → Option SendingConnect

/-- A connection that is to be created: its object comes from a pool. -/
structure NewConnect where
  socket : ℤ
  state : ConnectStateType
  tagKey : TagKey
  pooled : NetworkBuffer

/-- What an update finds. -/
structure SendUpdate where
  /-- The connections that a connector makes before it asks for events. -/
  connecting : List NewConnect
  events : List ReadyEvent
  /-- The connections that a listening network accepts afterwards. -/
  accepted : List NewConnect
  /-- The packets of the send list. -/
  packets : List Packet

namespace SendNetwork

/-- A connection is put in the place of another one, or removed. -/
def set (net : SendNetwork) (socket : ℤ) (obj : Option SendingConnect) : SendNetwork :=
  ⟨Function.update net.connects socket obj⟩

/-- `CreateConnectObj`, of a socket without an error. -/
def createConnectObj (net : SendNetwork) (c : NewConnect) : SendNetwork :=
  if (net.connects c.socket).isSome then net.set c.socket none
  else net.set c.socket (some ⟨c.state, c.tagKey, c.pooled.backToPool, true⟩)

/-- One event. -/
def handleEvent (build : NetworkBuild) (net : SendNetwork) (e : ReadyEvent) : Option SendNetwork :=
  match net.connects e.socket with
  | none => some net
  | some obj => (obj.handle build e).map fun r => net.set e.socket r

/-- `OnNetworkUpdate`, for one packet. -/
def sendQueued (build : NetworkBuild) (net : SendNetwork) (p : Packet) : Option SendNetwork :=
  match net.connects p.socketKey.socket with
  | none => some net
  | some obj =>
    if obj.tagKey.compareTags p.tagKey = false then some net
    else (obj.sendPacket build p).map fun obj => net.set p.socketKey.socket (some obj)

/-- `Update`. -/
def update (build : NetworkBuild) (net : SendNetwork) (u : SendUpdate) : Option SendNetwork := do
  let net ← u.events.foldlM (handleEvent build) (u.connecting.foldl createConnectObj net)
  u.packets.foldlM (sendQueued build) (u.accepted.foldl createConnectObj net)

end SendNetwork

/-- The steps of a network. -/
inductive SendEvent
  | update (u : SendUpdate)
  /-- `HandleDisconnect`. -/
  | handleDisconnect (socket : ℤ)
  /-- `HandleListenKey`. -/
  | handleListenKey (socket : ℤ) (tagKey : TagKey)

/-- One step. -/
def SendNetwork.step (build : NetworkBuild) (net : SendNetwork) : SendEvent → Option SendNetwork
  | .update u => net.update build u
  | .handleDisconnect socket => some (net.set socket none)
  | .handleListenKey socket tagKey =>
    some (net.set socket ((net.connects socket).map fun obj =>
      { obj with tagKey := obj.tagKey.copyFrom tagKey }))

/-- The runs of a network. -/
def sendSystem (build : NetworkBuild) : Transition.System SendNetwork SendEvent :=
  Transition.System.ofFun (fun net => net = ⟨fun _ => none⟩) (SendNetwork.step build)

/-- **No bytes are stranded**: a connection with bytes to be sent is asked about. -/
def NoStranded (build : NetworkBuild) (net : SendNetwork) : Prop :=
  ∀ socket obj, net.connects socket = some obj → obj.state = .connected →
    obj.sendBuffer.dataSize ≠ 0 → obj.scheduled build = true

/-! ### The condition -/

/-- What is left of so many bytes, an `unsigned int`, behind the calls of `::send`. -/
def unsent (n : ℕ) (sizes : List ℤ) : ℕ := sizes.foldl (fun n size => sub32 n size.toNat) n

/-- The bytes that `AddPacket` adds. -/
def Packet.frameBytes (p : Packet) : ℕ :=
  if isHttpMsg p.msgId then p.getDataLength else 2 + 2 + p.headSize + p.getDataLength

/-- The connection is not removed in an event. -/
def ReadyEvent.Keeps (e : ReadyEvent) (obj : SendingConnect) : Prop :=
  e.broken = false ∧ (e.input = some false → obj.state = .connecting) ∧
    ∀ size ∈ e.output.getD [], 0 < size

namespace SendNetwork

/-- **Nothing is left behind an event**, or a packet of the send list follows.  In the epoll build all
bytes are sent if it can be written; in the select build one byte must not be left. -/
def EventOk (build : NetworkBuild) (packets : List Packet) (obj : SendingConnect) (e : ReadyEvent) :
    Prop :=
  e.Keeps obj → (∃ p ∈ packets, obj.Takes e.socket p) ∨
    match build with
    | .epoll => ∀ sizes, e.output = some sizes → unsent obj.sendBuffer.dataSize sizes = 0
    | .select => e.input ≠ none ∨ e.output ≠ none →
        unsent obj.sendBuffer.dataSize (e.output.getD []) ≠ 1

/-- **A packet does not make a single byte**, or another one follows. -/
def PacketOk (build : NetworkBuild) (packets : List Packet) (obj : SendingConnect) (p : Packet) :
    Prop :=
  (∃ q ∈ packets, obj.Takes p.socketKey.socket q) ∨
    match build with
    | .epoll => True
    | .select => obj.state = .connected → add32 obj.sendBuffer.dataSize p.frameBytes ≠ 1

/-- The condition for all events of an update. -/
def EventsOk (build : NetworkBuild) (packets : List Packet) :
    SendNetwork → List ReadyEvent → Prop
  | _, [] => True
  | net, e :: es => (∀ obj ∈ net.connects e.socket, EventOk build packets obj e) ∧
      ∀ net' ∈ net.handleEvent build e, EventsOk build packets net' es

/-- The condition for all packets of an update. -/
def PacketsOk (build : NetworkBuild) : SendNetwork → List Packet → Prop
  | _, [] => True
  | net, p :: ps => (∀ obj ∈ net.connects p.socketKey.socket, PacketOk build ps obj p) ∧
      ∀ net' ∈ net.sendQueued build p, PacketsOk build net' ps

/-- The condition for a step. -/
def StepOk (build : NetworkBuild) (net : SendNetwork) : SendEvent → Prop
  | .update u =>
    EventsOk build u.packets (u.connecting.foldl createConnectObj net) u.events ∧
      ∀ net' ∈ u.events.foldlM (handleEvent build) (u.connecting.foldl createConnectObj net),
        PacketsOk build (u.accepted.foldl createConnectObj net') u.packets
  | _ => True

end SendNetwork

/-! ### What `Send` and `AddPacket` leave -/

@[simp] theorem NetworkBuffer.dataSize_removeData (b : NetworkBuffer) (size : ℕ) :
    (b.removeData size).dataSize = sub32 b.dataSize size := by
  simp only [NetworkBuffer.removeData]
  split <;> rfl

/-- **What the loop leaves** if the connection can go on. -/
theorem NetworkBuffer.dataSize_sendLoop {sizes : List ℤ} {b c : NetworkBuffer}
    (h : b.sendLoop sizes = some (true, c)) :
    c.dataSize = unsent b.dataSize sizes ∧ ∀ size ∈ sizes, 0 < size := by
  induction sizes generalizing b with
  | nil =>
      simp only [sendLoop] at h
      split at h
      · obtain ⟨-, rfl⟩ := Prod.mk.inj (Option.some.inj h)
        exact ⟨rfl, List.forall_mem_nil _⟩
      · cases h
  | cons size sizes ih =>
      simp only [sendLoop] at h
      split at h
      · cases h
      split at h
      · split at h
        · simp at h
        · cases h
      rename_i hpos
      split at h
      · split at h
        · rename_i hempty
          obtain ⟨-, rfl⟩ := Prod.mk.inj (Option.some.inj h)
          obtain rfl := List.isEmpty_iff.1 hempty
          exact ⟨by simp [unsent], by simpa using hpos⟩
        · cases h
      · obtain ⟨hsize, hall⟩ := ih h
        rw [dataSize_removeData] at hsize
        exact ⟨hsize, List.forall_mem_cons.2 ⟨by omega, hall⟩⟩

/-- Making room does not change the number of bytes. -/
theorem NetworkBuffer.dataSize_grow {fuel n : ℕ} {b c : NetworkBuffer}
    (h : b.grow fuel n = some c) : c.dataSize = b.dataSize := by
  have hstep : ∀ s t : NetworkBuffer, s.dataSize = b.dataSize → s.reAllocBuffer = some t →
      t.dataSize = b.dataSize := by
    intro s t hs hst
    obtain ⟨d, -, rfl⟩ := Option.map_eq_some_iff.1 hst
    exact hs
  exact Loop.run_invariant hstep rfl h

theorem add32_add32 (a b c : ℕ) : add32 (add32 a b) c = add32 a (b + c) := by
  simp only [add32, Nat.mod_add_mod, Nat.add_assoc]

/-- The lengths and the head. -/
theorem dataSize_addHead {b c : NetworkBuffer} {p : Packet} (h : addHead b p = some c) :
    c.dataSize = add32 b.dataSize (2 + 2 + p.headSize) := by
  obtain ⟨b₁, h₁, h⟩ := Option.bind_eq_some_iff.1 h
  obtain ⟨b₂, h₂, h⟩ := Option.bind_eq_some_iff.1 h
  rw [(NetworkBuffer.memcpyToBuffer_fields h).1, (NetworkBuffer.memcpyToBuffer_fields h₂).1,
    (NetworkBuffer.memcpyToBuffer_fields h₁).1, LittleEndian.length_toBytes,
    LittleEndian.length_toBytes, p.length_head, add32_add32, add32_add32]
  congr 1
  omega

/-- The body. -/
theorem dataSize_addBody {b c : NetworkBuffer} {p : Packet}
    (h : (readAt p.bytes 0 p.getDataLength).bind b.memcpyToBuffer = some c) :
    c.dataSize = add32 b.dataSize p.getDataLength := by
  obtain ⟨body, hbody, h⟩ := Option.bind_eq_some_iff.1 h
  have hlen : body.length = p.getDataLength := by
    simp only [readAt] at hbody
    split at hbody
    · obtain rfl := Option.some.inj hbody
      simp only [List.drop_zero, List.length_take]
      omega
    · cases hbody
  rw [(NetworkBuffer.memcpyToBuffer_fields h).1, hlen]

/-- **What `AddPacket` adds.** -/
theorem dataSize_addPacket {fuel : ℕ} {b c : NetworkBuffer} {p : Packet}
    (h : addPacket fuel b p = some c) : c.dataSize = add32 b.dataSize p.frameBytes := by
  obtain ⟨b₁, hgrow, h⟩ := Option.bind_eq_some_iff.1 h
  have hsize := NetworkBuffer.dataSize_grow hgrow
  cases hhttp : isHttpMsg p.msgId with
  | true =>
      simp only [hhttp, Bool.not_true, Bool.false_eq_true, if_false, Option.bind_eq_bind,
        Option.bind_some] at h
      rw [dataSize_addBody h, hsize]
      simp [Packet.frameBytes, hhttp]
  | false =>
      simp only [hhttp, Bool.not_false, if_true, Option.bind_eq_bind] at h
      obtain ⟨b₂, hhead, h⟩ := Option.bind_eq_some_iff.1 h
      rw [dataSize_addBody h, dataSize_addHead hhead, hsize, add32_add32]
      simp [Packet.frameBytes, hhttp]

/-! ### What an event and a packet keep -/

namespace SendingConnect

variable {build : NetworkBuild} {obj t : SendingConnect} {e : ReadyEvent} {packets : List Packet}
  {socket : ℤ}

/-- **The invariant of a connection**: in the epoll build `EPOLLOUT` is registered if there are bytes;
in the select build there is no single byte. -/
def Kept (build : NetworkBuild) (obj : SendingConnect) : Prop :=
  match build with
  | .epoll => obj.sendBuffer.dataSize ≠ 0 → obj.epollOut = true
  | .select => obj.state = .connected → obj.sendBuffer.dataSize ≠ 1

/-- Inside of an update: the invariant holds, or a packet is going to be added. -/
def Pending (build : NetworkBuild) (packets : List Packet) (socket : ℤ) (obj : SendingConnect) :
    Prop :=
  obj.Kept build ∨ ∃ p ∈ packets, obj.Takes socket p

theorem Kept.scheduled_eq (h : obj.Kept build) (hstate : obj.state = .connected)
    (hdata : obj.sendBuffer.dataSize ≠ 0) : obj.scheduled build = true := by
  cases build with
  | epoll => exact h hdata
  | select =>
      have hone := h hstate
      have htwo : ¬ obj.sendBuffer.dataSize < sizeofPacketHead := by
        simp only [sizeofPacketHead]
        omega
      simp [scheduled, hasSendData, hstate, NetworkBuffer.hasData, hdata, htwo]

/-- A new connection has no bytes. -/
theorem kept_create (state : ConnectStateType) (tagKey : TagKey) (pooled : NetworkBuffer) :
    Kept build ⟨state, tagKey, pooled.backToPool, true⟩ := by
  cases build with
  | epoll =>
      intro _
      rfl
  | select =>
      intro _
      simp [NetworkBuffer.backToPool]

theorem Takes.of_tagKey {p : Packet} (h : obj.Takes socket p) (htag : t.tagKey = obj.tagKey) :
    t.Takes socket p := by
  obtain ⟨hsocket, hcompare⟩ := h
  exact ⟨hsocket, by rw [htag, hcompare]⟩

/-- Reading changes the state only, and says whether the connection can go on. -/
theorem handleInput_fields (obj : SendingConnect) (input : Option Bool) :
    (obj.handleInput input).2.tagKey = obj.tagKey ∧
      (obj.handleInput input).2.sendBuffer = obj.sendBuffer ∧
      (obj.handleInput input).2.epollOut = obj.epollOut ∧
      ((obj.handleInput input).1 = true → input = some false → obj.state = .connecting) := by
  cases input with
  | none => exact ⟨rfl, rfl, rfl, fun _ h => nomatch h⟩
  | some isRs =>
      by_cases hstate : obj.state = .connecting
      · simp [handleInput, recv, hstate]
      · simp [handleInput, recv, hstate]

/-- What `Send` leaves if the connection can go on. -/
theorem send_fields {sizes : List ℤ} (h : obj.send sizes = some (true, t)) :
    t.tagKey = obj.tagKey ∧ t.epollOut = obj.epollOut ∧
      t.sendBuffer.dataSize = unsent obj.sendBuffer.dataSize sizes ∧ ∀ size ∈ sizes, 0 < size := by
  simp only [send] at h
  split at h
  · split at h
    · rename_i hempty
      obtain ⟨-, rfl⟩ := Prod.mk.inj (Option.some.inj h)
      obtain rfl := List.isEmpty_iff.1 hempty
      exact ⟨rfl, rfl, rfl, List.forall_mem_nil _⟩
    · cases h
  · obtain ⟨⟨rs, b⟩, hloop, heq⟩ := Option.map_eq_some_iff.1 h
    obtain ⟨rfl, rfl⟩ := Prod.mk.inj heq
    obtain ⟨hsize, hpos⟩ := NetworkBuffer.dataSize_sendLoop hloop
    exact ⟨rfl, rfl, hsize, hpos⟩

/-- **What an event does** to a connection that it does not remove. -/
theorem of_handle (h : obj.handle build e = some (some t)) :
    e.Keeps obj ∧ t.tagKey = obj.tagKey ∧
      t.sendBuffer.dataSize = unsent obj.sendBuffer.dataSize (e.output.getD []) ∧
      (e.output = none → t.epollOut = obj.epollOut) ∧
      (e.input = none → e.output = none → t = obj) := by
  obtain ⟨htag, hbuffer, hout, hinput⟩ := obj.handleInput_fields e.input
  simp only [handle] at h
  split at h
  · cases h
  rename_i hbroken
  split at h
  · cases h
  rename_i hrecv
  have hread := hinput (by simpa using hrecv)
  cases houtput : e.output with
  | none =>
      simp only [houtput, Option.some.injEq] at h
      refine ⟨⟨by simpa using hbroken, hread, by simp [houtput]⟩, ?_, ?_, ?_, ?_⟩
      · rw [← h, htag]
      · rw [← h, hbuffer]
        rfl
      · intro _
        rw [← h, hout]
      · intro hnone _
        rw [← h, hnone]
        rfl
  | some sizes =>
      simp only [houtput] at h
      split at h
      · cases h
      obtain ⟨⟨rs, u⟩, hsend, hr⟩ := Option.map_eq_some_iff.1 h
      cases rs with
      | false => simp at hr
      | true =>
          simp only [if_true, Option.some.injEq] at hr
          obtain ⟨hutag, -, husize, hpos⟩ := send_fields hsend
          have hmodify : t.tagKey = u.tagKey ∧ t.sendBuffer = u.sendBuffer := by
            rw [← hr]
            cases build with
            | epoll => exact ⟨rfl, rfl⟩
            | select => exact ⟨rfl, rfl⟩
          refine ⟨⟨by simpa using hbroken, hread, by simpa [houtput] using hpos⟩, ?_, ?_,
            (fun hnone => nomatch hnone), (fun _ hnone => nomatch hnone)⟩
          · rw [hmodify.1, hutag, htag]
          · rw [hmodify.2, husize, hbuffer]
            rfl

/-- **What an event keeps.** -/
theorem Pending.handle (hobj : obj.Pending build packets e.socket)
    (hok : SendNetwork.EventOk build packets obj e) (h : obj.handle build e = some (some t)) :
    t.Pending build packets e.socket := by
  obtain ⟨hkeeps, htag, hsize, hout, hsame⟩ := of_handle h
  rcases hobj with hkept | ⟨p, hp, htakes⟩
  · rcases hok hkeeps with ⟨p, hp, htakes⟩ | hleft
    · exact Or.inr ⟨p, hp, htakes.of_tagKey htag⟩
    · refine Or.inl ?_
      cases build with
      | epoll =>
          cases houtput : e.output with
          | none =>
              intro hdata
              rw [hsize, houtput] at hdata
              rw [hout houtput]
              exact hkept hdata
          | some sizes =>
              intro hdata
              refine absurd ?_ hdata
              rw [hsize, houtput]
              exact hleft sizes houtput
      | select =>
          by_cases hevent : e.input ≠ none ∨ e.output ≠ none
          · intro _
            rw [hsize]
            exact hleft hevent
          · obtain ⟨hin, hout⟩ := not_or.1 hevent
            rw [hsame (not_not.1 hin) (not_not.1 hout)]
            exact hkept
  · exact Or.inr ⟨p, hp, htakes.of_tagKey htag⟩

/-- **What a packet keeps.** -/
theorem pending_sendPacket {p : Packet} (hok : SendNetwork.PacketOk build packets obj p)
    (h : obj.sendPacket build p = some t) : t.Pending build packets p.socketKey.socket := by
  obtain ⟨b, hadd, rfl⟩ := Option.map_eq_some_iff.1 h
  have hsize := dataSize_addPacket hadd
  cases build with
  | epoll =>
      refine Or.inl fun _ => ?_
      rfl
  | select =>
      rcases hok with ⟨q, hq, htakes⟩ | hleft
      · exact Or.inr ⟨q, hq, htakes⟩
      · refine Or.inl fun hstate => ?_
        exact hsize ▸ hleft hstate

end SendingConnect

/-! ### What an update keeps -/

namespace SendNetwork

variable {build : NetworkBuild} {net net' : SendNetwork} {packets : List Packet}

theorem connects_set (net : SendNetwork) (socket k : ℤ) (obj : Option SendingConnect) :
    (net.set socket obj).connects k = if k = socket then obj else net.connects k :=
  Function.update_apply _ _ _ _

/-- All connections are as they should be inside of an update. -/
def AllPending (build : NetworkBuild) (packets : List Packet) (net : SendNetwork) : Prop :=
  ∀ socket obj, net.connects socket = some obj → obj.Pending build packets socket

/-- A change at one socket number. -/
theorem AllPending.set (h : net.AllPending build packets) {socket : ℤ}
    {r : Option SendingConnect} (hr : ∀ obj ∈ r, obj.Pending build packets socket) :
    (net.set socket r).AllPending build packets := by
  intro k obj hobj
  rw [connects_set] at hobj
  split at hobj
  · rename_i hk
    rw [hk]
    exact hr obj hobj
  · exact h k obj hobj

theorem AllPending.createConnectObj (h : net.AllPending build packets) (c : NewConnect) :
    (net.createConnectObj c).AllPending build packets := by
  simp only [SendNetwork.createConnectObj]
  split
  · exact h.set fun _ hobj => nomatch hobj
  · refine h.set fun obj hobj => ?_
    obtain rfl := Option.some.inj hobj
    exact Or.inl (SendingConnect.kept_create _ _ _)

theorem AllPending.createAll (h : net.AllPending build packets) (cs : List NewConnect) :
    (cs.foldl SendNetwork.createConnectObj net).AllPending build packets := by
  induction cs generalizing net with
  | nil => exact h
  | cons c cs ih => exact ih (h.createConnectObj c)

theorem AllPending.handleEvent (h : net.AllPending build packets) {e : ReadyEvent}
    (hok : ∀ obj ∈ net.connects e.socket, EventOk build packets obj e)
    (he : net.handleEvent build e = some net') : net'.AllPending build packets := by
  simp only [SendNetwork.handleEvent] at he
  cases hobj : net.connects e.socket with
  | none =>
      simp only [hobj, Option.some.injEq] at he
      exact he ▸ h
  | some obj =>
      simp only [hobj] at he
      obtain ⟨r, hr, rfl⟩ := Option.map_eq_some_iff.1 he
      refine h.set fun t ht => ?_
      rw [ht] at hr
      exact (h e.socket obj hobj).handle (hok obj hobj) hr

/-- **All events of an update.** -/
theorem AllPending.handleEvents (h : net.AllPending build packets) {es : List ReadyEvent}
    (hok : EventsOk build packets net es)
    (hes : es.foldlM (SendNetwork.handleEvent build) net = some net') :
    net'.AllPending build packets := by
  induction es generalizing net with
  | nil =>
      obtain rfl := Option.some.inj hes
      exact h
  | cons e es ih =>
      rw [List.foldlM_cons] at hes
      obtain ⟨u, hu, hes⟩ := Option.bind_eq_some_iff.1 hes
      exact ih (h.handleEvent hok.1 hu) (hok.2 u hu) hes

/-- The packet at the front of the list is not waited for by other connections. -/
theorem AllPending.sendQueued {p : Packet} (h : net.AllPending build (p :: packets))
    (hok : ∀ obj ∈ net.connects p.socketKey.socket, PacketOk build packets obj p)
    (hp : net.sendQueued build p = some net') : net'.AllPending build packets := by
  have hother : ∀ socket obj, net.connects socket = some obj → ¬ obj.Takes socket p →
      obj.Pending build packets socket := by
    intro socket obj hobj hnot
    rcases h socket obj hobj with hkept | ⟨q, hq, htakes⟩
    · exact Or.inl hkept
    · rcases List.mem_cons.1 hq with rfl | hq
      · exact absurd htakes hnot
      · exact Or.inr ⟨q, hq, htakes⟩
  simp only [SendNetwork.sendQueued] at hp
  cases hobj : net.connects p.socketKey.socket with
  | none =>
      simp only [hobj, Option.some.injEq] at hp
      obtain rfl := hp
      intro socket obj hconn
      refine hother socket obj hconn fun htakes => ?_
      rw [← htakes.1, hobj] at hconn
      cases hconn
  | some obj =>
      simp only [hobj] at hp
      split at hp
      · rename_i hdiffer
        obtain rfl := Option.some.inj hp
        intro socket obj' hconn
        refine hother socket obj' hconn fun htakes => ?_
        rw [← htakes.1, hobj] at hconn
        obtain rfl := Option.some.inj hconn
        rw [htakes.2] at hdiffer
        cases hdiffer
      · obtain ⟨t, ht, rfl⟩ := Option.map_eq_some_iff.1 hp
        intro socket obj' hconn
        rw [connects_set] at hconn
        split at hconn
        · rename_i hsocket
          obtain rfl := Option.some.inj hconn
          rw [hsocket]
          exact SendingConnect.pending_sendPacket (hok obj hobj) ht
        · rename_i hsocket
          exact hother socket obj' hconn fun htakes => hsocket htakes.1.symm

/-- **All packets of an update.** -/
theorem AllPending.sendAll (h : net.AllPending build packets) (hok : PacketsOk build net packets)
    (hps : packets.foldlM (SendNetwork.sendQueued build) net = some net') :
    net'.AllPending build [] := by
  induction packets generalizing net with
  | nil =>
      obtain rfl := Option.some.inj hps
      exact h
  | cons p ps ih =>
      rw [List.foldlM_cons] at hps
      obtain ⟨u, hu, hps⟩ := Option.bind_eq_some_iff.1 hps
      exact ih (h.sendQueued hok.1 hu) (hok.2 u hu) hps

theorem AllPending.kept (h : net.AllPending build []) {socket : ℤ} {obj : SendingConnect}
    (hobj : net.connects socket = some obj) : obj.Kept build := by
  rcases h socket obj hobj with hkept | ⟨p, hp, -⟩
  · exact hkept
  · cases hp

/-- **What a step keeps.** -/
theorem AllPending.step (h : net.AllPending build []) {e : SendEvent} (hok : net.StepOk build e)
    (he : net.step build e = some net') : net'.AllPending build [] := by
  cases e with
  | update u =>
      have hstart : net.AllPending build u.packets := fun _ _ hobj => Or.inl (h.kept hobj)
      obtain ⟨net₁, hevents, hpackets⟩ := Option.bind_eq_some_iff.1 he
      have hdone := ((hstart.createAll u.connecting).handleEvents hok.1 hevents).createAll u.accepted
      exact hdone.sendAll (hok.2 net₁ hevents) hpackets
  | handleDisconnect socket =>
      obtain rfl := Option.some.inj he
      exact h.set fun _ hobj => nomatch hobj
  | handleListenKey socket tagKey =>
      obtain rfl := Option.some.inj he
      refine h.set fun t ht => ?_
      obtain ⟨obj, hobj, rfl⟩ := Option.map_eq_some_iff.1 ht
      refine Or.inl ?_
      have hkept := h.kept hobj
      cases build with
      | epoll => exact hkept
      | select => exact hkept

end SendNetwork

/-- **No bytes are stranded** in the runs whose updates meet the condition. -/
theorem noStranded_run {build : NetworkBuild} {es : List SendEvent} {net : SendNetwork}
    (hrun : ((sendSystem build).restrict (SendNetwork.StepOk build)).Run es net) :
    NoStranded build net := by
  have hinv : net.AllPending build [] := by
    refine hrun.restrict_invariant (p := SendNetwork.AllPending build []) ?_ ?_
    · rintro _ rfl socket obj hobj
      cases hobj
    · intro s e t hs hok hstep
      exact hs.step hok hstep
  intro socket obj hobj hstate hdata
  exact (hinv.kept hobj).scheduled_eq hstate hdata

/-! ### Two updates -/

/-- Without growing, adding a packet does not move the begin. -/
theorem beginIndex_addPacket {fuel : ℕ} {b c : NetworkBuffer} {p : Packet}
    (hroom : NetworkBuffer.lacks p.totalSize b = false) (h : addPacket fuel b p = some c) :
    c.beginIndex = b.beginIndex := by
  have hbody : ∀ {a d : NetworkBuffer},
      (readAt p.bytes 0 p.getDataLength).bind a.memcpyToBuffer = some d →
        d.beginIndex = a.beginIndex := by
    intro a d had
    obtain ⟨body, -, had⟩ := Option.bind_eq_some_iff.1 had
    exact (NetworkBuffer.memcpyToBuffer_fields had).2
  obtain ⟨b₁, hgrow, h⟩ := Option.bind_eq_some_iff.1 h
  rw [NetworkBuffer.grow, Loop.run_of_not fuel hroom] at hgrow
  obtain rfl := Option.some.inj hgrow
  cases hhttp : isHttpMsg p.msgId with
  | true =>
      simp only [hhttp, Bool.not_true, Bool.false_eq_true, if_false, Option.bind_eq_bind,
        Option.bind_some] at h
      exact hbody h
  | false =>
      simp only [hhttp, Bool.not_false, if_true, Option.bind_eq_bind] at h
      obtain ⟨b₂, hhead, h⟩ := Option.bind_eq_some_iff.1 h
      obtain ⟨b₃, h₃, hhead⟩ := Option.bind_eq_some_iff.1 hhead
      obtain ⟨b₄, h₄, hhead⟩ := Option.bind_eq_some_iff.1 hhead
      rw [hbody h, (NetworkBuffer.memcpyToBuffer_fields hhead).2,
        (NetworkBuffer.memcpyToBuffer_fields h₄).2, (NetworkBuffer.memcpyToBuffer_fields h₃).2]

/-- A message without a body, for socket 5. -/
def emptyMessage : Packet := Packet.create.awake .miPing (some ⟨⟨5, .tcpListen⟩, .clear⟩)

/-- Socket 5 is accepted, and the message is to be sent to it. -/
def firstUpdate : SendUpdate where
  connecting := []
  events := []
  accepted := [⟨5, .connected, .clear, .create defaultBufferSize⟩]
  packets := [emptyMessage]

/-- Then it can be written to, and `::send` takes so many bytes. -/
def secondUpdate (size : ℤ) : SendUpdate where
  connecting := []
  events := [⟨5, false, none, some [size]⟩]
  accepted := []
  packets := []

/-- The network with one connection. -/
def oneConnect (obj : SendingConnect) : SendNetwork := (⟨fun _ => none⟩ : SendNetwork).set 5 (some obj)

/-- An update in which a connection is accepted, and gets a packet. -/
theorem update_acceptAndSend {build : NetworkBuild} {pooled b : NetworkBuffer} {p : Packet}
    (hadd : addPacket 1 pooled.backToPool p = some b)
    (htags : TagKey.clear.compareTags p.tagKey = true) :
    SendNetwork.update build ⟨fun _ => none⟩
        ⟨[], [], [⟨p.socketKey.socket, .connected, .clear, pooled⟩], [p]⟩ =
      some ((⟨fun _ => none⟩ : SendNetwork).set p.socketKey.socket
        (some ⟨.connected, .clear, b, true⟩)) := by
  have hmodify : ∀ obj : SendingConnect, obj.epollOut = true → obj.modifyEvent build true = obj := by
    intro obj hobj
    cases build with
    | epoll => simp [SendingConnect.modifyEvent, ← hobj]
    | select => rfl
  simp [SendNetwork.update, SendNetwork.createConnectObj, SendNetwork.sendQueued, SendNetwork.set,
    SendingConnect.sendPacket, htags, hadd, hmodify]

theorem sendable_emptyMessage : emptyMessage.Sendable where
  beginIndex_eq := rfl
  endIndex_le := Nat.zero_le _
  not_http := rfl
  size_le := by decide

/-- **The first update** leaves the six bytes of the message to be sent. -/
theorem exists_firstUpdate (build : NetworkBuild) :
    ∃ b : NetworkBuffer, b.dataSize = 6 ∧ b.sendGetBuffer.2 = 6 ∧
      SendNetwork.update build ⟨fun _ => none⟩ firstUpdate =
        some (oneConnect ⟨.connected, .clear, b, true⟩) := by
  have hring := NetworkBuffer.ring_create_default
  have hsize : (NetworkBuffer.create defaultBufferSize).bufferSize = 131072 :=
    NetworkBuffer.bufferSize_create _
  have htotal : emptyMessage.totalSize = 6 := by
    rw [sendable_emptyMessage.totalSize_eq]
    rfl
  have hempty : (NetworkBuffer.create defaultBufferSize).getEmptySize = 131072 := by
    rw [hring.getEmptySize_eq, hsize]
    rfl
  obtain ⟨b, hadd, hbring, -, hdata, hgrown⟩ :=
    addPacket_frame hring sendable_emptyMessage (Or.inl (by omega))
  have hbegin : b.beginIndex = 0 := by
    have hroom : NetworkBuffer.lacks emptyMessage.totalSize (.create defaultBufferSize) = false := by
      simp [NetworkBuffer.lacks, htotal, hempty]
    exact (beginIndex_addPacket hroom hadd).trans rfl
  have hdata : b.dataSize = 6 := by
    rw [hdata, htotal]
    rfl
  have hend : b.endIndex = 6 := by
    have hsum := hbring.sum_mod
    have hle : 131072 ≤ b.bufferSize := hbring.additionalSize_le
    rw [hbegin, hdata, Nat.mod_eq_of_lt (by omega)] at hsum
    exact hsum.symm
  refine ⟨b, hdata, ?_, ?_⟩
  · simp [NetworkBuffer.sendGetBuffer, hdata, hbegin, hend, sub32, toInt32]
  · exact @update_acceptAndSend build (.create defaultBufferSize) b emptyMessage hadd rfl

/-- **The second update**, in which a part is sent. -/
theorem update_secondUpdate {build : NetworkBuild} {b : NetworkBuffer} (hdata : b.dataSize = 6)
    (hbuffer : b.sendGetBuffer.2 = 6) {size : ℕ} (hpos : 0 < size) (hlt : size < 6) :
    SendNetwork.update build (oneConnect ⟨.connected, .clear, b, true⟩) (secondUpdate size) =
      some (oneConnect
        (SendingConnect.modifyEvent build false ⟨.connected, .clear, b.removeData size, true⟩)) := by
  have hscheduled : SendingConnect.scheduled build ⟨.connected, .clear, b, true⟩ = true := by
    cases build with
    | epoll => rfl
    | select => simp [SendingConnect.scheduled, SendingConnect.hasSendData, NetworkBuffer.hasData, hdata,
        sizeofPacketHead]
  have hloop : b.sendLoop [(size : ℤ)] = some (true, b.removeData size) := by
    have hpart : (size : ℤ) < 6 := by omega
    have hle : size ≤ 6 ∧ ¬ size = 0 := by omega
    simpa [NetworkBuffer.sendLoop, hbuffer, hpart] using hle
  simp [SendNetwork.update, secondUpdate, SendNetwork.handleEvent, oneConnect, SendNetwork.set,
    SendingConnect.handle, SendingConnect.handleInput, SendingConnect.send, hscheduled, hloop]

/-- A message that is sent as a whole. -/
theorem noStranded_sent : ∃ b net, ((sendSystem .epoll).restrict (SendNetwork.StepOk .epoll)).Run
    [.update firstUpdate, .update (secondUpdate 6)] net ∧
      net.connects 5 = some ⟨.connected, .clear, b, false⟩ ∧ NoStranded .epoll net := by
  obtain ⟨b, hdata, hbuffer, hfirst⟩ := exists_firstUpdate .epoll
  have hloop : b.sendLoop [6] = some (true, b.removeData 6) := by
    have hzero : (b.removeData 6).dataSize = 0 := by
      rw [NetworkBuffer.dataSize_removeData, hdata]
      rfl
    have hdone : (b.removeData 6).sendGetBuffer.2 = 0 := by
      rw [NetworkBuffer.sendGetBuffer, if_pos hzero]
    simp [NetworkBuffer.sendLoop, hbuffer, hdone]
  have hsecond : SendNetwork.update .epoll (oneConnect ⟨.connected, .clear, b, true⟩)
      (secondUpdate 6) = some (oneConnect ⟨.connected, .clear, b.removeData 6, false⟩) := by
    simp [SendNetwork.update, secondUpdate, SendNetwork.handleEvent, oneConnect, SendNetwork.set,
      SendingConnect.handle, SendingConnect.handleInput, SendingConnect.send,
      SendingConnect.scheduled, SendingConnect.modifyEvent, hloop]
  have hinit : ((sendSystem .epoll).restrict (SendNetwork.StepOk .epoll)).Run [] ⟨fun _ => none⟩ :=
    .init rfl
  have hstep₁ : SendNetwork.StepOk .epoll ⟨fun _ => none⟩ (.update firstUpdate) := by
    refine ⟨trivial, ?_⟩
    intro net' hnet'
    obtain rfl := Option.some.inj hnet'
    exact ⟨fun _ _ => Or.inr trivial, fun _ _ => trivial⟩
  have hstep₂ : SendNetwork.StepOk .epoll (oneConnect ⟨.connected, .clear, b, true⟩)
      (.update (secondUpdate 6)) := by
    refine ⟨⟨?_, fun _ _ => trivial⟩, fun _ _ => trivial⟩
    intro obj hobj _
    obtain rfl : (⟨.connected, .clear, b, true⟩ : SendingConnect) = obj := Option.some.inj hobj
    refine Or.inr ?_
    intro sizes hsizes
    obtain rfl := Option.some.inj hsizes
    simp [unsent, hdata, sub32]
  have hrun := (hinit.step ⟨hstep₁, hfirst⟩).step ⟨hstep₂, hsecond⟩
  exact ⟨b.removeData 6, _, hrun, by simp [oneConnect, SendNetwork.set], noStranded_run hrun⟩

/-- **A part is sent, and the rest is stranded**: four bytes in the epoll build, and a single byte in
the select build. -/
theorem not_noStranded :
    (¬ ∀ es net, (sendSystem .epoll).Run es net → NoStranded .epoll net) ∧
      ¬ ∀ es net, (sendSystem .select).Run es net → NoStranded .select net := by
  have hrun : ∀ (build : NetworkBuild) {size : ℕ}, 0 < size → size < 6 →
      ∃ b : NetworkBuffer, b.dataSize = 6 ∧ (sendSystem build).Run
        [.update firstUpdate, .update (secondUpdate size)] (oneConnect
          (SendingConnect.modifyEvent build false ⟨.connected, .clear, b.removeData size, true⟩)) := by
    intro build size hpos hlt
    obtain ⟨b, hdata, hbuffer, hfirst⟩ := exists_firstUpdate build
    have hinit : (sendSystem build).Run [] ⟨fun _ => none⟩ := .init rfl
    have hstep₁ : (sendSystem build).step ⟨fun _ => none⟩ (.update firstUpdate)
      (oneConnect ⟨.connected, .clear, b, true⟩) := hfirst
    have hstep₂ : (sendSystem build).step (oneConnect ⟨.connected, .clear, b, true⟩)
        (.update (secondUpdate size)) (oneConnect
          (SendingConnect.modifyEvent build false ⟨.connected, .clear, b.removeData size, true⟩)) :=
      update_secondUpdate hdata hbuffer hpos hlt
    exact ⟨b, hdata, (hinit.step hstep₁).step hstep₂⟩
  have hconn : ∀ obj : SendingConnect, (oneConnect obj).connects 5 = some obj := by
    intro obj
    simp [oneConnect, SendNetwork.set]
  constructor
  · intro hall
    obtain ⟨b, hdata, hrun⟩ := hrun .epoll (show 0 < 2 by omega) (by omega)
    have hleft : (b.removeData 2).dataSize = 4 := by
      rw [NetworkBuffer.dataSize_removeData, hdata]
      rfl
    have hscheduled := hall _ _ hrun 5 _ (hconn _) rfl (by
      simp only [SendingConnect.modifyEvent, hleft]
      omega)
    cases hscheduled
  · intro hall
    obtain ⟨b, hdata, hrun⟩ := hrun .select (show 0 < 5 by omega) (by omega)
    have hleft : (b.removeData 5).dataSize = 1 := by
      rw [NetworkBuffer.dataSize_removeData, hdata]
      rfl
    have hscheduled := hall _ _ hrun 5 _ (hconn _) rfl (by
      simp only [SendingConnect.modifyEvent, hleft]
      omega)
    simp [SendingConnect.modifyEvent, SendingConnect.scheduled, SendingConnect.hasSendData,
      NetworkBuffer.hasData, hdata, sub32, sizeofPacketHead] at hscheduled

end MmoServer
