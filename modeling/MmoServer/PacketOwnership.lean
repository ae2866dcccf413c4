/-
**Who has a packet.**

A packet is taken from the pool when something is received or sent, and goes from there to the list
of packets to be dispatched, to that of components to be created, or to the list of a network.  From
the first two it goes to the lists of threads, which count it; from the last one, and on errors, it
is freed.  A function that returns without any of these has lost the packet: the pool never gets it
back.

Packets are numbered in the order in which they are taken from the pool.

Main definitions:

* `MmoServer.PacketStore` — the places of packets, with those that were lost;
* `MmoServer.PacketStore.sendPacket`, `MmoServer.PacketStore.recvPacket`,
  `MmoServer.PacketStore.onNetworkUpdate`, `MmoServer.PacketStore.updateCreatePacket` and others —
  the functions that hand packets on;
* `MmoServer.Transfers` — what a function does with the packets that it has in hand;
* `MmoServer.Owned` — every packet is in exactly one place;
* `MmoServer.OwnershipKept` — a step finds what it needs to hand its packets on.

Main results:

* `MmoServer.PacketStore.transfers_step` — **what one step does**;
* `MmoServer.owned_iff` — **every packet is in exactly one place** exactly in the runs whose steps
  find what they need;
* `MmoServer.not_owned_ping` — a ping is lost.
-/

import MmoServer.NetworkLocator
import MmoServer.PlayerTransit

set_option relaxedAutoImplicit false
set_option autoImplicit false

namespace MmoServer

/-! ### Packets and their places -/

/-- A packet from the pool. -/
structure OwnedPacket extends NetIdentify where
  sn : ℕ
  msgId : MsgId

/-- A packet of `_createPackets`, with what `Proto::CreateComponent` says about threads. -/
structure CreatePacket where
  sn : ℕ
  threadType : ℤ

/-- The places of packets.  The last field is the history: the packets that a function had, and did
not hand on. -/
structure PacketStore where
  created : ℕ
  /-- `ThreadMgr::_packets`. -/
  packets : List OwnedPacket
  /-- `ThreadMgr::_createPackets`. -/
  createPackets : List CreatePacket
  /-- `_sendMsgList` of each network. -/
  sendMsgs : List (NetworkType × OwnedPacket)
  /-- The packets with an open reference count. -/
  counted : List (ℕ × ℤ)
  /-- What was freed since the last update of the pool. -/
  freed : List ℕ
  /-- What is back in the pool. -/
  pooled : List ℕ
  dropped : List ℕ

/-- What is known about networks and apps when a packet is sent. -/
structure SendEnv where
  curAppType : Int32
  locator : NetworkLocator
  /-- The networks that are registered with the locator. -/
  networks : NetworkType → Bool

namespace SendEnv

/-- `NetworkLocator::GetNetwork`; a network is known by its type. -/
def getNetwork (env : SendEnv) (t : NetworkType) : Option NetworkType :=
  if t ≠ .none ∧ env.networks t = true then some t else none

/-- `NetworkLocator::GetAppNetworks`. -/
def getAppNetworks (env : SendEnv) (appType : Int32) : List NetIdentify :=
  (env.locator.netIdentify.toList.filter fun e => (AppRegister.ofAppKey e.1).type = appType).map
    Prod.snd

/-- The app is a part of this process. -/
def inProcess (env : SendEnv) (appType : Int32) : Bool := env.curAppType &&& appType != 0

end SendEnv

namespace PacketStore

/-- No packets. -/
def start : PacketStore := ⟨0, [], [], [], [], [], [], []⟩

/-! ### Single packets -/

/-- `MallocPacket`. -/
def mallocPacket (s : PacketStore) (msgId : MsgId) (identify : Option NetIdentify) :
    OwnedPacket × PacketStore :=
  ({ (identify.map NetIdentify.forPacket).getD .empty with sn := s.created, msgId := msgId },
    { s with created := s.created + 1 })

/-- `ThreadMgr::DispatchPacket`. -/
def dispatchPacket (s : PacketStore) (p : OwnedPacket) : PacketStore :=
  { s with packets := s.packets ++ [p] }

/-- `DynamicPacketPool::FreeObject`. -/
def freeObject (s : PacketStore) (p : OwnedPacket) : PacketStore :=
  { s with freed := s.freed ++ [p.sn] }

/-- The reference count of a packet is opened, when it was added to lists of threads. -/
def openRef (s : PacketStore) (sn : ℕ) (ref : ℤ) : PacketStore :=
  { s with counted := s.counted ++ [(sn, ref)] }

/-- A function returns, and no one has the packet. -/
def drop (s : PacketStore) (sn : ℕ) : PacketStore := { s with dropped := s.dropped ++ [sn] }

/-- `Network::SendPacket`: a packet for another network is only logged. -/
def networkSendPacket (networkType : NetworkType) (s : PacketStore) (p : OwnedPacket) :
    PacketStore :=
  if p.socketKey.netType ≠ networkType then s.drop p.sn
  else { s with sendMsgs := s.sendMsgs ++ [(networkType, p)] }

/-- `MessageSystemHelp::SendPacket`, of a packet. -/
def sendPacket (env : SendEnv) (s : PacketStore) (p : OwnedPacket) : PacketStore :=
  if p.socketKey.socket = invalidSocket ∨ p.socketKey.netType = .none then s.dispatchPacket p
  else
    match env.getNetwork p.socketKey.netType with
    | some t => s.networkSendPacket t p
    | none => s.drop p.sn

/-- `MessageSystemHelp::SendPacket`, of a packet to an app. -/
def sendPacketToApp (env : SendEnv) (s : PacketStore) (p : OwnedPacket) (appType appId : Int32) :
    PacketStore :=
  if env.inProcess appType then s.dispatchPacket p
  else
    let n := env.locator.getNetworkIdentify appType appId
    if n.socketKey.netType = .none then s.drop p.sn
    else s.sendPacket env { p with socketKey := n.socketKey }

/-! ### Functions that take a packet from the pool -/

/-- `MessageSystemHelp::DispatchPacket`. -/
def dispatchNew (s : PacketStore) (msgId : MsgId) (identify : Option NetIdentify) : PacketStore :=
  let r := s.mallocPacket msgId identify
  r.2.dispatchPacket r.1

/-- `MessageSystemHelp::SendPacket`, of a message. -/
def sendNew (env : SendEnv) (s : PacketStore) (msgId : MsgId) (identify : Option NetIdentify) :
    PacketStore :=
  let r := s.mallocPacket msgId identify
  r.2.sendPacket env r.1

/-- `MessageSystemHelp::SendPacket`, of a message to an app, with tags or without. -/
def sendNewToApp (env : SendEnv) (s : PacketStore) (msgId : MsgId) (tagKey : Option TagKey)
    (appType appId : Int32) : PacketStore :=
  if env.inProcess appType then
    s.dispatchNew msgId (tagKey.map fun tags => ⟨.none, TagKey.clear.copyFrom tags⟩)
  else
    let n := env.locator.getNetworkIdentify appType appId
    if n.socketKey.netType = .none then s
    else
      match tagKey with
      | none => s.sendNew env msgId (some n)
      | some tags => s.sendNew env msgId (some ⟨n.socketKey, TagKey.clear.copyFrom tags⟩)

/-- `WorldProxy::CopyPacketToWorld`: a copy is taken from the pool, and sent to an app. -/
def copyToApp (env : SendEnv) (s : PacketStore) (msgId : MsgId) (identify : Option NetIdentify)
    (appType appId : Int32) : PacketStore :=
  let r := s.mallocPacket msgId identify
  r.2.sendPacketToApp env r.1 appType appId

/-- The loop of `SendPacketToAllApp`, for one of the apps. -/
def sendToOne (env : SendEnv) (msgId : MsgId) (s : PacketStore) (one : NetIdentify) : PacketStore :=
  let r := s.mallocPacket msgId (some one)
  match env.getNetwork one.socketKey.netType with
  | some t => r.2.networkSendPacket t r.1
  | none => r.2.drop r.1.sn

/-- `MessageSystemHelp::SendPacketToAllApp`. -/
def sendPacketToAllApp (env : SendEnv) (s : PacketStore) (msgId : MsgId) (appType : Int32) :
    PacketStore :=
  if env.inProcess appType then s.dispatchNew msgId none
  else (env.getAppNetworks appType).foldl (sendToOne env msgId) s

/-- `SendHttpResponseBase`. -/
def sendHttpResponse (env : SendEnv) (s : PacketStore) (identify : NetIdentify) : PacketStore :=
  match env.getNetwork .httpListen with
  | none => s
  | some t =>
    let r := s.mallocPacket .miHttpInnerResponse (some identify)
    r.2.networkSendPacket t r.1

/-- `ThreadMgr::CreateComponent`. -/
def createComponent (s : PacketStore) (threadType : ℤ) : PacketStore :=
  let r := s.mallocPacket .miCreateComponent none
  { r.2 with createPackets := r.2.createPackets ++ [⟨r.1.sn, threadType⟩] }

/-- `ConnectObj::Close`. -/
def closeConnect (s : PacketStore) (identify : NetIdentify) : PacketStore :=
  let r := s.mallocPacket .miNetworkRequestDisconnect (some identify)
  r.2.openRef r.1.sn 1

/-- The loop of `ConnectObj::Recv`, for a packet that `GetPacket` has returned. -/
def recvPacket (env : SendEnv) (networkType : NetworkType) (s : PacketStore)
    (m : MsgId × NetIdentify) : PacketStore :=
  let r := s.mallocPacket m.1 (some m.2)
  if !networkType.isTcp ∧ m.1 = .miHttpRequestBad then
    -- 404
    (r.2.sendHttpResponse env r.1.toNetIdentify).freeObject r.1
  else if networkType.isTcp ∧ m.1 = .miPing then r.2.drop r.1.sn
  else if !networkType.isTcp ∧ (m.1.number ≤ MsgId.miHttpBegin.number ∨
      MsgId.miHttpEnd.number ≤ m.1.number) ∧ m.1 ≠ .miHttpOuterResponse then
    r.2.freeObject r.1
  else r.2.dispatchPacket r.1

/-- The loop of `ConnectObj::Recv`. -/
def recv (env : SendEnv) (networkType : NetworkType) (s : PacketStore)
    (ms : List (MsgId × NetIdentify)) : PacketStore :=
  ms.foldl (recvPacket env networkType) s

/-! ### Functions that work through a list -/

/-- `ConnectObj::SendPacket`: the bytes of the packet are copied, and it is freed. -/
def connectSendPacket (s : PacketStore) (p : OwnedPacket) : PacketStore := s.freeObject p

/-- The loop of `OnNetworkUpdate`, for one packet. -/
def sendOne (connects : ℤ → Option TagKey) (s : PacketStore) (m : NetworkType × OwnedPacket) :
    PacketStore :=
  match connects m.2.socketKey.socket with
  | none => s.freeObject m.2
  | some tagKey =>
    if !tagKey.compareTags m.2.tagKey then s.freeObject m.2 else s.connectSendPacket m.2

/-- `Network::OnNetworkUpdate`. -/
def onNetworkUpdate (networkType : NetworkType) (connects : ℤ → Option TagKey) (s : PacketStore) :
    PacketStore :=
  (s.sendMsgs.filter fun m => m.1 = networkType).foldl (sendOne connects)
    { s with sendMsgs := s.sendMsgs.filter fun m => ¬ m.1 = networkType }

/-- The loop of `UpdateCreatePacket`, for one packet, which is added to some lists of threads. -/
def createOne (threads : List ℤ) (lists : ℕ → ℤ) (s : PacketStore) (p : CreatePacket) :
    PacketStore :=
  if threads ≠ [] then
    if p.threadType ∉ threads then s.drop p.sn else s.openRef p.sn (lists p.sn)
  else s.openRef p.sn 1

/-- `ThreadMgr::UpdateCreatePacket`. -/
def updateCreatePacket (threads : List ℤ) (lists : ℕ → ℤ) (s : PacketStore) : PacketStore :=
  s.createPackets.foldl (createOne threads lists) { s with createPackets := [] }

/-- `ThreadMgr::UpdateDispatchPacket`. -/
def updateDispatchPacket (lists : ℕ → ℤ) (s : PacketStore) : PacketStore :=
  s.packets.foldl (fun s p => s.openRef p.sn (lists p.sn)) { s with packets := [] }

/-- `MessageSystem::Update`: a thread is done with some packets. -/
def messageSystemUpdate (sns : List ℕ) (s : PacketStore) : PacketStore :=
  { s with counted := s.counted.map fun p => (p.1, p.2 - sns.count p.1) }

/-- `DynamicPacketPool::Update`. -/
def poolUpdate (s : PacketStore) : PacketStore :=
  { s with
    pooled := s.pooled ++ s.freed
    freed := (s.counted.filter fun p => p.2 = 0).map Prod.fst
    counted := s.counted.filter fun p => ¬ p.2 = 0 }

end PacketStore

/-! ### Runs -/

/-- The outermost functions. -/
inductive OwnershipEvent
  | dispatch (msgId : MsgId) (identify : Option NetIdentify)
  | send (env : SendEnv) (msgId : MsgId) (identify : Option NetIdentify)
  | sendToApp (env : SendEnv) (msgId : MsgId) (tagKey : Option TagKey) (appType appId : Int32)
  | copyToApp (env : SendEnv) (msgId : MsgId) (identify : Option NetIdentify) (appType appId : Int32)
  | sendToAllApp (env : SendEnv) (msgId : MsgId) (appType : Int32)
  | httpResponse (env : SendEnv) (identify : NetIdentify)
  | createComponent (threadType : ℤ)
  | close (identify : NetIdentify)
  | recv (env : SendEnv) (networkType : NetworkType) (ms : List (MsgId × NetIdentify))
  | networkUpdate (networkType : NetworkType) (connects : ℤ → Option TagKey)
  | updateCreatePacket (threads : List ℤ) (lists : ℕ → ℤ)
  | updateDispatchPacket (lists : ℕ → ℤ)
  | messageSystemUpdate (sns : List ℕ)
  | poolUpdate

/-- One function, up to its return. -/
def PacketStore.step (s : PacketStore) : OwnershipEvent → PacketStore
  | .dispatch msgId identify => s.dispatchNew msgId identify
  | .send env msgId identify => s.sendNew env msgId identify
  | .sendToApp env msgId tagKey appType appId => s.sendNewToApp env msgId tagKey appType appId
  | .copyToApp env msgId identify appType appId => s.copyToApp env msgId identify appType appId
  | .sendToAllApp env msgId appType => s.sendPacketToAllApp env msgId appType
  | .httpResponse env identify => s.sendHttpResponse env identify
  | .createComponent threadType => s.createComponent threadType
  | .close identify => s.closeConnect identify
  | .recv env networkType ms => s.recv env networkType ms
  | .networkUpdate networkType connects => s.onNetworkUpdate networkType connects
  | .updateCreatePacket threads lists => s.updateCreatePacket threads lists
  | .updateDispatchPacket lists => s.updateDispatchPacket lists
  | .messageSystemUpdate sns => s.messageSystemUpdate sns
  | .poolUpdate => s.poolUpdate

/-- The runs of a process. -/
def ownershipSystem : Transition.System PacketStore OwnershipEvent :=
  Transition.System.ofFun (fun s => s = .start) fun s e => some (s.step e)

namespace PacketStore

/-- Where the packets of the lists, those that are counted, and those that are freed are. -/
def inUsePlaces (s : PacketStore) : List ℕ :=
  s.packets.map OwnedPacket.sn ++ s.createPackets.map CreatePacket.sn ++
    s.sendMsgs.map (fun m => m.2.sn) ++ s.counted.map Prod.fst ++ s.freed

/-- The number of packets that the pool has in use. -/
def inUse (s : PacketStore) : ℕ := s.created - s.pooled.length

end PacketStore

/-- **Every packet is in exactly one place**, or back in the pool. -/
structure Owned (s : PacketStore) : Prop where
  once : (s.inUsePlaces ++ s.pooled).Perm (List.range s.created)
  /-- The packets in use are those that are in a list, counted, or freed. -/
  inUse : s.inUse = s.packets.length + s.createPackets.length + s.sendMsgs.length +
    s.counted.length + s.freed.length

/-- A packet with this socket can be sent: to all threads, or to a network that there is. -/
def SendEnv.Sendable (env : SendEnv) (k : SocketKey) : Prop :=
  k.socket = invalidSocket ∨ k.netType = .none ∨ (env.getNetwork k.netType).isSome = true

/-- A response by HTTP can be sent: it is for the listening network, or there is none. -/
def SendEnv.Answerable (env : SendEnv) (n : NetIdentify) : Prop :=
  env.getNetwork .httpListen = none ∨ n.socketKey.netType = .httpListen

/-- **A step finds what it needs.**  Where a packet has a socket, there is a network of its type;
where it is copied for an app, the app is connected; no ping is received over TCP; and the type of a
thread for which a component is created is that of some threads. -/
def OwnershipKept (s : PacketStore) : OwnershipEvent → Prop
  | .send env _ identify => env.Sendable ((identify.map NetIdentify.socketKey).getD .none)
  | .sendToApp env _ _ appType appId =>
    env.inProcess appType = true ∨
      env.Sendable (env.locator.getNetworkIdentify appType appId).socketKey
  | .copyToApp env _ _ appType appId =>
    env.inProcess appType = true ∨
      (env.locator.getNetworkIdentify appType appId).socketKey.netType ≠ .none ∧
        env.Sendable (env.locator.getNetworkIdentify appType appId).socketKey
  | .sendToAllApp env _ appType =>
    env.inProcess appType = true ∨
      ∀ n ∈ env.getAppNetworks appType, (env.getNetwork n.socketKey.netType).isSome = true
  | .httpResponse env identify => env.Answerable identify
  | .recv env networkType ms =>
    ∀ m ∈ ms, if networkType.isTcp then m.1 ≠ .miPing
      else m.1 = .miHttpRequestBad → env.Answerable m.2
  | .updateCreatePacket threads _ => threads = [] ∨ ∀ p ∈ s.createPackets, p.threadType ∈ threads
  | _ => True

instance (env : SendEnv) (k : SocketKey) : Decidable (env.Sendable k) := by
  unfold SendEnv.Sendable
  infer_instance

instance (env : SendEnv) (n : NetIdentify) : Decidable (env.Answerable n) := by
  unfold SendEnv.Answerable
  infer_instance

instance (s : PacketStore) (e : OwnershipEvent) : Decidable (OwnershipKept s e) := by
  cases e <;> simp only [OwnershipKept] <;> infer_instance

/-! ### Packets in hand -/

/-- With the packets in hand, and those that were lost, every packet is in exactly one place. -/
def Holding (s : PacketStore) (hand : List ℕ) : Prop :=
  (hand ++ s.inUsePlaces ++ s.pooled ++ s.dropped).Perm (List.range s.created)

/-- **What a function does with the packets in hand**: it hands some on, takes others from the pool or
a list, and loses none if and only if a condition holds. -/
structure Transfers (s : PacketStore) (hand : List ℕ) (t : PacketStore) (hand' : List ℕ)
    (kept : Prop) : Prop where
  holding : ∀ rest, Holding s (hand ++ rest) → Holding t (hand' ++ rest)
  drops : ∃ lost, t.dropped = s.dropped ++ lost ∧ (lost = [] ↔ kept)

namespace Transfers

variable {s t u : PacketStore} {hand hand' hand'' : List ℕ} {kept kept' : Prop}

theorem refl (s : PacketStore) (hand : List ℕ) : Transfers s hand s hand True where
  holding := fun _ h => h
  drops := ⟨[], by simp⟩

theorem congr (h : Transfers s hand t hand' kept) (hiff : kept ↔ kept') :
    Transfers s hand t hand' kept' where
  holding := h.holding
  drops := by
    obtain ⟨lost, hlost, hkept⟩ := h.drops
    exact ⟨lost, hlost, hkept.trans hiff⟩

/-- One function after the other. -/
theorem trans (h : Transfers s hand t hand' kept) (h' : Transfers t hand' u hand'' kept') :
    Transfers s hand u hand'' (kept ∧ kept') where
  holding := fun rest hrest => h'.holding rest (h.holding rest hrest)
  drops := by
    obtain ⟨lost, hlost, hkept⟩ := h.drops
    obtain ⟨lost', hlost', hkept'⟩ := h'.drops
    refine ⟨lost ++ lost', by rw [hlost', hlost, List.append_assoc], ?_⟩
    rw [List.append_eq_nil_iff, hkept, hkept']

/-- A function that loses no packet keeps the others, if the places are the same together. -/
theorem of_perm (hcreated : t.created = s.created)
    (hplaces : (hand' ++ t.inUsePlaces ++ t.pooled).Perm (hand ++ s.inUsePlaces ++ s.pooled))
    (hdropped : t.dropped = s.dropped) : Transfers s hand t hand' True where
  holding := by
    intro rest h
    unfold Holding at h ⊢
    rw [hcreated]
    refine List.Perm.trans ?_ h
    rw [List.perm_iff_count] at hplaces ⊢
    intro a
    have ha := hplaces a
    simp only [List.count_append, hdropped] at ha ⊢
    omega
  drops := ⟨[], by simp [hdropped]⟩

/-- A loop over a list, with the packets of its elements in hand. -/
theorem foldl {β : Type} {f : PacketStore → β → PacketStore} {sns : β → List ℕ} {ok : β → Prop}
    (h : ∀ s b, Transfers s (sns b) (f s b) [] (ok b)) (l : List β) (s : PacketStore) :
    Transfers s (l.flatMap sns) (l.foldl f s) [] (∀ b ∈ l, ok b) := by
  induction l generalizing s with
  | nil => exact (refl s []).congr (by simp)
  | cons b l ih =>
      have hfirst : Transfers s (sns b ++ l.flatMap sns) (f s b) (l.flatMap sns) (ok b) := by
        refine ⟨fun rest hrest => ?_, (h s b).drops⟩
        rw [List.append_assoc] at hrest
        exact (h s b).holding _ hrest
      exact (hfirst.trans (ih (f s b))).congr (by simp)

/-- A loop with no packets in hand. -/
theorem foldl_nil {β : Type} {f : PacketStore → β → PacketStore} {ok : β → Prop}
    (h : ∀ s b, Transfers s [] (f s b) [] (ok b)) (l : List β) (s : PacketStore) :
    Transfers s [] (l.foldl f s) [] (∀ b ∈ l, ok b) := by
  have hnil : l.flatMap (fun _ => ([] : List ℕ)) = [] := by simp
  have hloop := foldl h l s
  rwa [hnil] at hloop

end Transfers

/-! ### What the functions do -/

namespace PacketStore

variable {env : SendEnv} {s : PacketStore}

/-- A packet is taken from the pool. -/
theorem transfers_mallocPacket (s : PacketStore) (msgId : MsgId) (identify : Option NetIdentify) :
    Transfers s [] (s.mallocPacket msgId identify).2 [(s.mallocPacket msgId identify).1.sn] True where
  holding := by
    intro rest h
    have hnew : (List.range (s.created + 1)).Perm (s.created :: List.range s.created) := by
      rw [List.range_succ]
      exact List.perm_append_singleton _ _
    exact (h.cons s.created).trans hnew.symm
  drops := ⟨[], by simp [mallocPacket]⟩

theorem transfers_dispatchPacket (s : PacketStore) (p : OwnedPacket) :
    Transfers s [p.sn] (s.dispatchPacket p) [] True := by
  refine .of_perm rfl ?_ rfl
  rw [List.perm_iff_count]
  intro a
  simp only [dispatchPacket, inUsePlaces, List.map_append, List.map_cons, List.map_nil,
    List.count_append, List.count_nil]
  omega

theorem transfers_freeObject (s : PacketStore) (p : OwnedPacket) :
    Transfers s [p.sn] (s.freeObject p) [] True := by
  refine .of_perm rfl ?_ rfl
  rw [List.perm_iff_count]
  intro a
  simp only [freeObject, inUsePlaces, List.count_append, List.count_nil]
  omega

theorem transfers_openRef (s : PacketStore) (sn : ℕ) (ref : ℤ) :
    Transfers s [sn] (s.openRef sn ref) [] True := by
  refine .of_perm rfl ?_ rfl
  rw [List.perm_iff_count]
  intro a
  simp only [openRef, inUsePlaces, List.map_append, List.map_cons, List.map_nil,
    List.count_append, List.count_nil]
  omega

/-- **A packet that is dropped** is lost. -/
theorem transfers_drop (s : PacketStore) (sn : ℕ) : Transfers s [sn] (s.drop sn) [] False where
  holding := by
    intro rest h
    refine List.Perm.trans ?_ h
    rw [List.perm_iff_count]
    intro a
    simp only [drop, inUsePlaces, List.count_append, List.count_nil]
    omega
  drops := ⟨[sn], by simp [drop]⟩

theorem transfers_networkSendPacket (networkType : NetworkType) (s : PacketStore)
    (p : OwnedPacket) : Transfers s [p.sn] (s.networkSendPacket networkType p) []
      (p.socketKey.netType = networkType) := by
  unfold networkSendPacket
  split
  · rename_i hne
    exact (s.transfers_drop p.sn).congr (by simp [hne])
  · rename_i heq
    refine Transfers.congr (.of_perm rfl ?_ rfl) (iff_of_true trivial (not_not.1 heq))
    rw [List.perm_iff_count]
    intro a
    simp only [inUsePlaces, List.map_append, List.map_cons, List.map_nil, List.count_append,
      List.count_nil]
    omega

/-- A network that is found has the type that was looked for. -/
theorem getNetwork_some {t u : NetworkType} (h : env.getNetwork t = some u) : u = t := by
  unfold SendEnv.getNetwork at h
  split at h
  · exact (Option.some.inj h).symm
  · cases h

theorem transfers_sendPacket (s : PacketStore) (p : OwnedPacket) :
    Transfers s [p.sn] (s.sendPacket env p) [] (env.Sendable p.socketKey) := by
  unfold sendPacket SendEnv.Sendable
  split
  · rename_i hnone
    refine (s.transfers_dispatchPacket p).congr ?_
    rcases hnone with hnone | hnone
    · simp [hnone]
    · simp [hnone]
  · rename_i hsocket
    obtain ⟨hsocket, htype⟩ := not_or.1 hsocket
    cases hnet : env.getNetwork p.socketKey.netType with
    | some t =>
        refine (s.transfers_networkSendPacket t p).congr ?_
        simp [getNetwork_some hnet]
    | none => exact (s.transfers_drop p.sn).congr (by simp [hsocket, htype])

theorem transfers_sendPacketToApp (s : PacketStore) (p : OwnedPacket) (appType appId : Int32) :
    Transfers s [p.sn] (s.sendPacketToApp env p appType appId) [] (env.inProcess appType = true ∨
      (env.locator.getNetworkIdentify appType appId).socketKey.netType ≠ .none ∧
        env.Sendable (env.locator.getNetworkIdentify appType appId).socketKey) := by
  simp only [sendPacketToApp]
  split
  · rename_i hin
    exact (s.transfers_dispatchPacket p).congr (by simp [hin])
  · rename_i hout
    split
    · rename_i hnone
      exact (s.transfers_drop p.sn).congr (by simp [hout, hnone])
    · rename_i hsome
      have hsend := @transfers_sendPacket env s
        { p with socketKey := (env.locator.getNetworkIdentify appType appId).socketKey }
      exact hsend.congr (by simp [hout, hsome])

theorem transfers_dispatchNew (s : PacketStore) (msgId : MsgId) (identify : Option NetIdentify) :
    Transfers s [] (s.dispatchNew msgId identify) [] True := by
  refine ((s.transfers_mallocPacket msgId identify).trans ?_).congr (and_self_iff)
  exact transfers_dispatchPacket _ _

theorem socketKey_mallocPacket (s : PacketStore) (msgId : MsgId) (identify : Option NetIdentify) :
    (s.mallocPacket msgId identify).1.socketKey =
      (identify.map NetIdentify.socketKey).getD .none := by
  cases identify <;> rfl

theorem transfers_sendNew (s : PacketStore) (msgId : MsgId) (identify : Option NetIdentify) :
    Transfers s [] (s.sendNew env msgId identify) []
      (env.Sendable ((identify.map NetIdentify.socketKey).getD .none)) := by
  refine ((s.transfers_mallocPacket msgId identify).trans (transfers_sendPacket _ _)).congr ?_
  rw [true_and, socketKey_mallocPacket]

theorem transfers_sendNewToApp (s : PacketStore) (msgId : MsgId) (tagKey : Option TagKey)
    (appType appId : Int32) : Transfers s [] (s.sendNewToApp env msgId tagKey appType appId) []
      (env.inProcess appType = true ∨
        env.Sendable (env.locator.getNetworkIdentify appType appId).socketKey) := by
  simp only [sendNewToApp]
  split
  · rename_i hin
    exact (s.transfers_dispatchNew _ _).congr (by simp [hin])
  · rename_i hout
    split
    · rename_i hnone
      exact (Transfers.refl s []).congr (by simp [SendEnv.Sendable, hnone])
    · cases tagKey with
      | none => exact (s.transfers_sendNew msgId _).congr (by simp [hout])
      | some tags => exact (s.transfers_sendNew msgId _).congr (by simp [hout])

theorem transfers_copyToApp (s : PacketStore) (msgId : MsgId) (identify : Option NetIdentify)
    (appType appId : Int32) : Transfers s [] (s.copyToApp env msgId identify appType appId) []
      (env.inProcess appType = true ∨
        (env.locator.getNetworkIdentify appType appId).socketKey.netType ≠ .none ∧
          env.Sendable (env.locator.getNetworkIdentify appType appId).socketKey) := by
  refine ((s.transfers_mallocPacket msgId identify).trans
    (transfers_sendPacketToApp _ _ _ _)).congr ?_
  rw [true_and]

theorem transfers_sendToOne (msgId : MsgId) (s : PacketStore) (one : NetIdentify) :
    Transfers s [] (sendToOne env msgId s one) []
      ((env.getNetwork one.socketKey.netType).isSome = true) := by
  simp only [sendToOne]
  cases hnet : env.getNetwork one.socketKey.netType with
  | none =>
      exact ((s.transfers_mallocPacket msgId (some one)).trans (transfers_drop _ _)).congr (by simp)
  | some t =>
      refine ((s.transfers_mallocPacket msgId (some one)).trans
        (transfers_networkSendPacket t _ _)).congr ?_
      simp [socketKey_mallocPacket, getNetwork_some hnet]

theorem transfers_sendPacketToAllApp (s : PacketStore) (msgId : MsgId) (appType : Int32) :
    Transfers s [] (s.sendPacketToAllApp env msgId appType) [] (env.inProcess appType = true ∨
      ∀ n ∈ env.getAppNetworks appType, (env.getNetwork n.socketKey.netType).isSome = true) := by
  unfold sendPacketToAllApp
  split
  · rename_i hin
    exact (s.transfers_dispatchNew _ _).congr (by simp [hin])
  · rename_i hout
    exact (Transfers.foldl_nil (transfers_sendToOne msgId) (env.getAppNetworks appType) s).congr
      (by simp [hout])

theorem transfers_sendHttpResponse (s : PacketStore) (identify : NetIdentify) :
    Transfers s [] (s.sendHttpResponse env identify) [] (env.Answerable identify) := by
  unfold sendHttpResponse SendEnv.Answerable
  cases hnet : env.getNetwork .httpListen with
  | none => exact (Transfers.refl s []).congr (by simp)
  | some t =>
      obtain rfl := getNetwork_some hnet
      refine ((s.transfers_mallocPacket .miHttpInnerResponse (some identify)).trans
        (transfers_networkSendPacket _ _ _)).congr ?_
      simp [socketKey_mallocPacket]

theorem transfers_createComponent (s : PacketStore) (threadType : ℤ) :
    Transfers s [] (s.createComponent threadType) [] True := by
  have hpush : Transfers (s.mallocPacket .miCreateComponent none).2
      [(s.mallocPacket .miCreateComponent none).1.sn] (s.createComponent threadType) [] True := by
    refine .of_perm rfl ?_ rfl
    rw [List.perm_iff_count]
    intro a
    simp only [createComponent, inUsePlaces, List.map_append, List.map_cons, List.map_nil,
      List.count_append, List.count_nil]
    omega
  exact ((s.transfers_mallocPacket .miCreateComponent none).trans hpush).congr (by simp)

theorem transfers_closeConnect (s : PacketStore) (identify : NetIdentify) :
    Transfers s [] (s.closeConnect identify) [] True :=
  ((s.transfers_mallocPacket .miNetworkRequestDisconnect (some identify)).trans
    (transfers_openRef _ _ _)).congr and_self_iff

/-- **What becomes of a packet that is received.** -/
theorem transfers_recvPacket (networkType : NetworkType) (s : PacketStore)
    (m : MsgId × NetIdentify) : Transfers s [] (recvPacket env networkType s m) []
      (if networkType.isTcp then m.1 ≠ .miPing
        else m.1 = .miHttpRequestBad → env.Answerable m.2) := by
  have hmalloc := s.transfers_mallocPacket m.1 (some m.2)
  have hping : MsgId.miPing ≠ .miHttpRequestBad := by decide
  simp only [recvPacket]
  cases htcp : networkType.isTcp with
  | true =>
      simp only [Bool.not_true, Bool.false_eq_true, false_and, if_false, true_and, if_true]
      split
      · rename_i heq
        exact (hmalloc.trans (transfers_drop _ _)).congr (by simp [heq])
      · rename_i hne
        exact (hmalloc.trans (transfers_dispatchPacket _ _)).congr (by simp [hne])
  | false =>
      simp only [Bool.not_false, true_and, Bool.false_eq_true, false_and, if_false]
      split
      · -- the answer is sent while the packet is in hand
        rename_i hbad
        have hanswer := @transfers_sendHttpResponse env (s.mallocPacket m.1 (some m.2)).2
          (s.mallocPacket m.1 (some m.2)).1.toNetIdentify
        have hhand : Transfers (s.mallocPacket m.1 (some m.2)).2 [(s.mallocPacket m.1 (some m.2)).1.sn]
            ((s.mallocPacket m.1 (some m.2)).2.sendHttpResponse env
              (s.mallocPacket m.1 (some m.2)).1.toNetIdentify)
            [(s.mallocPacket m.1 (some m.2)).1.sn]
            (env.Answerable (s.mallocPacket m.1 (some m.2)).1.toNetIdentify) :=
          ⟨fun rest hrest => hanswer.holding _ hrest, hanswer.drops⟩
        refine ((hmalloc.trans hhand).trans (transfers_freeObject _ _)).congr ?_
        simp [hbad, SendEnv.Answerable, mallocPacket, NetIdentify.forPacket]
      · rename_i hgood
        split
        · exact (hmalloc.trans (transfers_freeObject _ _)).congr (by simp [hgood])
        · exact (hmalloc.trans (transfers_dispatchPacket _ _)).congr (by simp [hgood])

theorem transfers_recv (networkType : NetworkType) (s : PacketStore)
    (ms : List (MsgId × NetIdentify)) : Transfers s [] (s.recv env networkType ms) []
      (∀ m ∈ ms, if networkType.isTcp then m.1 ≠ .miPing
        else m.1 = .miHttpRequestBad → env.Answerable m.2) :=
  Transfers.foldl_nil (transfers_recvPacket networkType) ms s

theorem transfers_sendOne (connects : ℤ → Option TagKey) (s : PacketStore)
    (m : NetworkType × OwnedPacket) :
    Transfers s [m.2.sn] (sendOne connects s m) [] True := by
  unfold sendOne connectSendPacket
  split
  · exact s.transfers_freeObject m.2
  · split
    · exact s.transfers_freeObject m.2
    · exact s.transfers_freeObject m.2

/-- **Every packet that a network sends** is freed. -/
theorem transfers_onNetworkUpdate (networkType : NetworkType) (connects : ℤ → Option TagKey)
    (s : PacketStore) : Transfers s [] (s.onNetworkUpdate networkType connects) [] True := by
  have htake : Transfers s []
      { s with sendMsgs := s.sendMsgs.filter fun m => ¬ m.1 = networkType }
      ((s.sendMsgs.filter fun m => m.1 = networkType).flatMap fun m => [m.2.sn]) True := by
    refine .of_perm rfl ?_ rfl
    have hsplit : (s.sendMsgs.filter (fun m => decide (m.1 = networkType)) ++
        s.sendMsgs.filter (fun m => decide (¬ m.1 = networkType))).Perm s.sendMsgs := by
      simpa using List.filter_append_perm (fun m => decide (m.1 = networkType)) s.sendMsgs
    have hsns := List.perm_iff_count.1 (hsplit.map fun m => m.2.sn)
    rw [List.perm_iff_count]
    intro a
    have ha := hsns a
    simp only [inUsePlaces, List.map_append, List.count_append, List.count_nil,
      ← List.map_eq_flatMap] at ha ⊢
    omega
  have hloop := Transfers.foldl (transfers_sendOne connects)
    (s.sendMsgs.filter fun m => m.1 = networkType)
    { s with sendMsgs := s.sendMsgs.filter fun m => ¬ m.1 = networkType }
  exact (htake.trans hloop).congr (by simp)

theorem transfers_createOne (threads : List ℤ) (lists : ℕ → ℤ) (s : PacketStore)
    (p : CreatePacket) : Transfers s [p.sn] (createOne threads lists s p) []
      (threads = [] ∨ p.threadType ∈ threads) := by
  unfold createOne
  split
  · rename_i hne
    split
    · rename_i hunknown
      exact (s.transfers_drop p.sn).congr (by simp [hne, hunknown])
    · rename_i hknown
      exact (s.transfers_openRef p.sn _).congr (by simp [not_not.1 hknown])
  · rename_i hnil
    exact (s.transfers_openRef p.sn 1).congr (by simp [not_not.1 hnil])

theorem transfers_updateCreatePacket (threads : List ℤ) (lists : ℕ → ℤ) (s : PacketStore) :
    Transfers s [] (s.updateCreatePacket threads lists) []
      (threads = [] ∨ ∀ p ∈ s.createPackets, p.threadType ∈ threads) := by
  have htake : Transfers s [] { s with createPackets := [] }
      (s.createPackets.flatMap fun p => [p.sn]) True := by
    refine .of_perm rfl ?_ rfl
    rw [List.perm_iff_count]
    intro a
    simp only [inUsePlaces, List.map_nil, List.count_append, List.count_nil, ← List.map_eq_flatMap]
    omega
  have hloop := Transfers.foldl (transfers_createOne threads lists) s.createPackets
    { s with createPackets := [] }
  refine (htake.trans hloop).congr ?_
  rw [true_and]
  by_cases hnil : threads = []
  · simp [hnil]
  · simp [hnil]

theorem transfers_updateDispatchPacket (lists : ℕ → ℤ) (s : PacketStore) :
    Transfers s [] (s.updateDispatchPacket lists) [] True := by
  have htake : Transfers s [] { s with packets := [] } (s.packets.flatMap fun p => [p.sn]) True := by
    refine .of_perm rfl ?_ rfl
    rw [List.perm_iff_count]
    intro a
    simp only [inUsePlaces, List.map_nil, List.count_append, List.count_nil, ← List.map_eq_flatMap]
    omega
  have hopen : ∀ (s : PacketStore) (p : OwnedPacket),
      Transfers s [p.sn] (s.openRef p.sn (lists p.sn)) [] True :=
    fun s p => s.transfers_openRef p.sn (lists p.sn)
  have hloop := Transfers.foldl hopen s.packets { s with packets := [] }
  exact (htake.trans hloop).congr (by simp)

theorem transfers_messageSystemUpdate (sns : List ℕ) (s : PacketStore) :
    Transfers s [] (s.messageSystemUpdate sns) [] True := by
  refine .of_perm rfl ?_ rfl
  have hsame : (s.messageSystemUpdate sns).inUsePlaces = s.inUsePlaces := by
    simp [messageSystemUpdate, inUsePlaces]
  rw [hsame]
  exact List.Perm.refl _

/-- **The pool** gets back what was freed, and frees what no thread has any more. -/
theorem transfers_poolUpdate (s : PacketStore) : Transfers s [] s.poolUpdate [] True := by
  refine .of_perm rfl ?_ rfl
  have hsplit : (s.counted.filter (fun p => decide (p.2 = 0)) ++
      s.counted.filter (fun p => decide (¬ p.2 = 0))).Perm s.counted := by
    simpa using List.filter_append_perm (fun p => decide (p.2 = 0)) s.counted
  have hsns := List.perm_iff_count.1 (hsplit.map Prod.fst)
  rw [List.perm_iff_count]
  intro a
  have ha := hsns a
  simp only [poolUpdate, inUsePlaces, List.map_append, List.count_append] at ha ⊢
  omega

/-- **What one step does.** -/
theorem transfers_step (s : PacketStore) (e : OwnershipEvent) :
    Transfers s [] (s.step e) [] (OwnershipKept s e) := by
  cases e with
  | dispatch msgId identify => exact s.transfers_dispatchNew msgId identify
  | send env msgId identify => exact s.transfers_sendNew msgId identify
  | sendToApp env msgId tagKey appType appId =>
      exact s.transfers_sendNewToApp msgId tagKey appType appId
  | copyToApp env msgId identify appType appId =>
      exact s.transfers_copyToApp msgId identify appType appId
  | sendToAllApp env msgId appType => exact s.transfers_sendPacketToAllApp msgId appType
  | httpResponse env identify => exact s.transfers_sendHttpResponse identify
  | createComponent threadType => exact s.transfers_createComponent threadType
  | close identify => exact s.transfers_closeConnect identify
  | recv env networkType ms => exact s.transfers_recv networkType ms
  | networkUpdate networkType connects => exact s.transfers_onNetworkUpdate networkType connects
  | updateCreatePacket threads lists => exact s.transfers_updateCreatePacket threads lists
  | updateDispatchPacket lists => exact s.transfers_updateDispatchPacket lists
  | messageSystemUpdate sns => exact s.transfers_messageSystemUpdate sns
  | poolUpdate => exact s.transfers_poolUpdate

end PacketStore

/-! ### Every packet in its place -/

theorem holding_run {es : List OwnershipEvent} {s : PacketStore} (hrun : ownershipSystem.Run es s) :
    Holding s [] := by
  induction hrun with
  | init h =>
      obtain rfl : _ = PacketStore.start := h
      exact List.Perm.refl []
  | @step _ s _ e _ h ih =>
      obtain rfl := Option.some.inj h
      exact (s.transfers_step e).holding [] ih

/-- No packet is lost in a run exactly if all its steps find what they need. -/
theorem dropped_eq_nil_iff {es : List OwnershipEvent} {s : PacketStore}
    (hrun : ownershipSystem.Run es s) :
    s.dropped = [] ↔ (ownershipSystem.restrict OwnershipKept).Run es s := by
  constructor
  · intro hnone
    induction hrun with
    | init h => exact .init h
    | @step _ s _ e _ h ih =>
        obtain rfl := Option.some.inj h
        obtain ⟨lost, hlost, hkept⟩ := (s.transfers_step e).drops
        obtain ⟨hbefore, rfl⟩ := List.append_eq_nil_iff.1 (hlost ▸ hnone)
        exact (ih hbefore).step ⟨hkept.1 rfl, rfl⟩
  · intro hkept
    induction hkept with
    | init h =>
        obtain rfl : _ = PacketStore.start := h
        rfl
    | @step _ s _ e hbefore h ih =>
        obtain ⟨hkept, h⟩ := h
        obtain rfl := Option.some.inj h
        obtain ⟨lost, hlost, hiff⟩ := (s.transfers_step e).drops
        rw [hlost, ih hbefore.of_restrict, hiff.2 hkept, List.append_nil]

/-- Every packet is in exactly one place exactly if none is lost. -/
theorem Holding.owned_iff_dropped {s : PacketStore} (h : Holding s []) : Owned s ↔ s.dropped = [] := by
  have hlength := h.length_eq
  simp only [PacketStore.inUsePlaces, List.nil_append, List.length_append, List.length_map,
    List.length_range] at hlength
  constructor
  · intro howned
    have hplaces := howned.once.length_eq
    simp only [PacketStore.inUsePlaces, List.length_append, List.length_map,
      List.length_range] at hplaces
    exact List.eq_nil_of_length_eq_zero (by omega)
  · intro hnone
    refine ⟨?_, ?_⟩
    · unfold Holding at h
      simpa [hnone] using h
    · rw [hnone, List.length_nil] at hlength
      rw [PacketStore.inUse]
      omega

/-- **Every packet is in exactly one place** exactly in the runs whose steps find what they need. -/
theorem owned_iff {es : List OwnershipEvent} {s : PacketStore} (hrun : ownershipSystem.Run es s) :
    Owned s ↔ (ownershipSystem.restrict OwnershipKept).Run es s :=
  (holding_run hrun).owned_iff_dropped.trans (dropped_eq_nil_iff hrun)

/-! ### Two packets, and a ping -/

/-- A process with a network for clients. -/
def clientEnv : SendEnv where
  curAppType := 16
  locator := ⟨∅⟩
  networks := fun t => t = .tcpListen

/-- The connection of a client. -/
def client : NetIdentify := ⟨⟨5, .tcpListen⟩, .clear⟩

/-- A packet is received, and handled by two threads; meanwhile another one is sent. -/
def receiveAndSend : List OwnershipEvent :=
  [.recv clientEnv .tcpListen [(.c2gLoginByToken, client)], .updateDispatchPacket fun _ => 2,
    .send clientEnv .c2gLoginByTokenRs (some client), .messageSystemUpdate [0],
    .networkUpdate .tcpListen fun _ => some .clear, .messageSystemUpdate [0], .poolUpdate]

/-- One packet is back in the pool then, and the other one awaits its next update. -/
theorem owned_receiveAndSend : ∃ s, ownershipSystem.Run receiveAndSend s ∧ s.pooled = [1] ∧
    s.freed = [0] ∧ Owned s := by
  have hrun : (Transition.System.execute (fun s e => some (PacketStore.step s e)) OwnershipKept
      .start receiveAndSend).map (fun s => (s.pooled, s.freed)) = some ([1], [0]) := by
    decide
  obtain ⟨s, hs, hplaces⟩ := Option.map_eq_some_iff.1 hrun
  have hevents : (ownershipSystem.restrict OwnershipKept).Run receiveAndSend s :=
    Transition.System.run_of_execute rfl hs
  obtain ⟨hpooled, hfreed⟩ := Prod.mk.inj hplaces
  exact ⟨s, hevents.of_restrict, hpooled, hfreed, (owned_iff hevents.of_restrict).2 hevents⟩

/-- **A ping** is in no place when `Recv` has returned. -/
theorem not_owned_ping : ¬ ∀ (es : List OwnershipEvent) (s : PacketStore),
    ownershipSystem.Run es s → Owned s := by
  intro hall
  have hrun : (Transition.System.execute (fun s e => some (PacketStore.step s e)) (fun _ _ => True)
      .start [.recv clientEnv .tcpListen [(.miPing, client)]]).map (fun s =>
        (s.inUse, s.inUsePlaces)) = some (1, []) := by
    decide
  obtain ⟨s, hs, hplaces⟩ := Option.map_eq_some_iff.1 hrun
  have hevents : ownershipSystem.Run
      [.recv clientEnv .tcpListen [(.miPing, client)]] s := Transition.System.run_of_execute_true rfl hs
  obtain ⟨hinUse, hnone⟩ := Prod.mk.inj hplaces
  have howned := (hall _ s hevents).once.length_eq
  rw [hnone, List.nil_append, List.length_range] at howned
  rw [PacketStore.inUse] at hinUse
  omega

end MmoServer
