/-
**Whose packet is it?**

A client may send frames with the short head or with the long one, and the long one carries two
serial numbers.  They become tags of the packet, next to those that the packet takes from its
connection, and next to the entity that the locator knows for the socket.  This module asks whether
the packet then finds another player than the one of its connection.

Main definitions:

* `MmoServer.ClientTags` — the tags that the connection of a client can have;
* `MmoServer.ClientConnection` — such a connection;
* `MmoServer.readHead`, `MmoServer.ClientConnection.claimedSn` — the head of a frame, and the serial
  number of a player that a packet claims;
* `MmoServer.Isolated` — the packet finds nobody but the player of its connection;
* `MmoServer.ClaimIsOwn` — the claimed serial number is not the one of somebody else.

Main results:

* `MmoServer.getTcpPacket_packet` — the tags of a packet are determined by the connection and the
  head, whatever the rest of the frame is;
* `MmoServer.isolated_iff` — **a packet is isolated exactly if its claim is its own**.
-/

import MmoServer.FrameDecode
import MmoServer.WorldProxy

set_option relaxedAutoImplicit false
set_option autoImplicit false

namespace MmoServer

/-! ### Connections of clients -/

/-- The tags that a packet of a connection takes from it and from its head. -/
def packetTags (tagKey : TagKey) (head : PacketHead) : TagKey :=
  match head.s2s with
  | none => TagKey.clear.copyFrom tagKey
  | some (entitySn, playerSn) =>
    ((TagKey.clear.copyFrom tagKey).addTagInt .entity entitySn).addTagInt .player playerSn

/-- **The tags of a client's connection.**  It starts without any, and `HandleListenKey` copies
those of a packet into it: of the one that announces a player, of the one that announces a process,
and of any packet that the client itself sends under that message id, to which `Recv` may have added
the entity that the locator knows. -/
inductive ClientTags : TagKey → Prop
  | connected : ClientTags TagKey.clear
  | account {k : TagKey} (value : List UInt8) :
      ClientTags k → ClientTags (k.copyFrom (TagKey.clear.addTagStr .account value))
  | app {k : TagKey} (value : UInt64) :
      ClientTags k → ClientTags (k.copyFrom (TagKey.clear.addTagInt .app value))
  | packet {k : TagKey} {old : TagKey} (head : PacketHead) :
      ClientTags k → ClientTags old → ClientTags (k.copyFrom (packetTags old head))
  | entity {k : TagKey} {old : TagKey} (head : PacketHead) (entitySn : UInt64) :
      ClientTags k → ClientTags old →
        ClientTags (k.copyFrom ((packetTags old head).addTagInt .entity entitySn))

/-- The connection of a client. -/
structure ClientConnection where
  identify : NetIdentify
  isInt : IsInt identify.socketKey.socket
  tags : ClientTags identify.tagKey

/-- The socket of a connection. -/
def ClientConnection.socket (c : ClientConnection) : ℤ := c.identify.socketKey.socket

/-- `ConnectObj::Recv`, between the decoder and the dispatch: a packet of a connection with an
account is for the entity that the locator knows. -/
def ClientConnection.tagEntity (c : ClientConnection) (locator : SocketLocator) (p : Packet) :
    Message :=
  match c.identify.tagKey.getTagValue .account with
  | none => p.toMessage
  | some _ =>
    if 0 < locator.getTargetEntitySn p.socketKey.socket then
      { p.toMessage with
        tagKey := p.tagKey.addTagInt .entity (locator.getTargetEntitySn p.socketKey.socket) }
    else p.toMessage

/-! ### What should hold -/

/-- A player of a world is the one of a connection if it has its socket, or the serial number of
the connection's player at the proxy. -/
def OwnInWorld (w : WorldProxy) (socket : ℤ) (r : Player) : Prop :=
  r.socketKey.socket = socket ∨
    ∃ q, w.players.getPlayerBySocket socket = some q ∧ q.playerSn = r.playerSn

/-- **A packet finds nobody but the player of its connection**: in the proxy, in its default
function, in the world if that is in the same process, and in the world that the default function
sends a copy to. -/
structure Isolated (app : AppType) (socket : ℤ) (w : WorldProxy) (world : PlayerManager)
    (m : Message) : Prop where
  atProxy : ∀ q, w.getPlayer m.toNetIdentify = some q →
    w.players.getPlayerBySocket socket = some q
  forwarded : ∀ f, w.handleDefaultFunction app m = some f →
    w.players.getPlayerBySocket socket = some f.player
  inWorld : app.hasSpace = true → ∀ r, World.getPlayer world m.toNetIdentify = some r →
    OwnInWorld w socket r
  copyInWorld : ∀ q copy, w.handleDefaultFunction app m = some (.toWorld q copy) →
    ∀ connection : NetIdentify, connection.tagKey.getTagValue .socket = none →
      ∀ r, World.getPlayer world (app.deliver connection copy) = some r → OwnInWorld w socket r

/-- **The claimed serial number is not the one of somebody else.** -/
def ClaimIsOwn (app : AppType) (socket : ℤ) (w : WorldProxy) (world : PlayerManager)
    (claimed : Option UInt64) : Prop :=
  ∀ sn, claimed = some sn →
    (∀ q, w.players.getPlayerBySn sn = some q → q.socketKey.socket = socket) ∧
      (app.hasSpace = true → ∀ r, world.getPlayerBySn sn = some r → OwnInWorld w socket r)

/-- The serial number of a player that a packet claims: the one in its head if that is long, and
otherwise the one that an earlier packet has left at the connection. -/
def ClientConnection.claimedSn (c : ClientConnection) (head : PacketHead) : Option UInt64 :=
  match head.s2s with
  | some (_, playerSn) => some playerSn
  | none => (c.identify.tagKey.getTagValue .player).map TagValue.keyInt64

/-- The head of the frame that the ring begins with, behind its total length. -/
def readHead : RecvM PacketHead := do
  RecvM.removeData sizeofTotalSizeType
  let headSize ← RecvM.memcpyFromBuffer sizeofTotalSizeType
  RecvM.removeData sizeofTotalSizeType
  getHead (LittleEndian.ofBytes headSize)

/-! ### What the decoder takes from a connection -/

/-- If the head is complete, it is the one that the bytes stand for. -/
theorem readHead_run {s : RecvState} (h : s.buffer.Ring)
    (hn : 4 + headLengthOf s.buffer.contents ≤ s.buffer.dataSize) :
    ∃ t, readHead s = some (headOf s.buffer.contents, t) := by
  generalize hq : s.buffer.contents = q at hn
  have htwo : 2 ≤ s.buffer.dataSize := by omega
  obtain ⟨hring, hcontents, -, hsize⟩ := h.removeData htwo (h.begin_add_lt (by decide))
  rw [hq] at hcontents
  unfold readHead
  rw [RecvM.run_bind_of (RecvM.run_removeData _ _)]
  obtain ⟨c, hcring, hccontents, hcsize, hcrun⟩ :=
    RecvM.run_memcpyFromBuffer_removeData
      (s := ⟨s.buffer.removeData sizeofTotalSizeType, s.accesses ++ [.remove sizeofTotalSizeType]⟩)
      hring (n := sizeofTotalSizeType) (by show 2 ≤ (s.buffer.removeData 2).dataSize; omega)
      (by decide) fun headSize => getHead (LittleEndian.ofBytes headSize)
  have hc : c.contents = q.drop 4 := by
    rw [hccontents]
    show (s.buffer.removeData 2).contents.drop 2 = _
    rw [hcontents, List.drop_drop]
  have hcsize' : c.dataSize = (s.buffer.removeData 2).dataSize - 2 := hcsize
  have hhead : (s.buffer.removeData sizeofTotalSizeType).contents = q.drop 2 := hcontents
  rw [hcrun, hhead]
  obtain ⟨d, -, -, -, hrun⟩ := getHead_run (s := ⟨c, _⟩) hcring hc
    (by show headLengthOf q ≤ c.dataSize; omega)
  exact ⟨_, hrun⟩

theorem RecvM.bind_eq_some {α β : Type} {m : RecvM α} {f : α → RecvM β} {s u : RecvState} {b : β}
    (h : (m >>= f) s = some (b, u)) : ∃ a t, m s = some (a, t) ∧ f a t = some (b, u) := by
  rw [run_bind] at h
  obtain ⟨⟨a, t⟩, ha, hb⟩ := Option.bind_eq_some_iff.1 h
  exact ⟨a, t, ha, hb⟩

theorem RecvM.lift_eq_some {α : Type} {x : Option α} {s t : RecvState} {a : α}
    (h : RecvM.lift x s = some (a, t)) : x = some a ∧ s = t := by
  cases x with
  | none => simp [RecvM.lift] at h
  | some b =>
    obtain ⟨rfl, rfl⟩ : b = a ∧ s = t := by simpa [RecvM.lift] using h
    exact ⟨rfl, rfl⟩

/-- Making room keeps the identification of a packet. -/
theorem Packet.toNetIdentify_grow {fuel size : ℕ} {p q : Packet} (h : p.grow fuel size = some q) :
    q.toNetIdentify = p.toNetIdentify := by
  let inv : Packet → Prop := fun t => t.toNetIdentify = p.toNetIdentify
  have hinv : inv p := rfl
  suffices hstep : ∀ s t, inv s → s.reAllocBuffer = some t → inv t from
    Loop.run_invariant hstep hinv h
  intro s t hs hbody
  unfold Packet.reAllocBuffer at hbody
  obtain ⟨c, -, rfl⟩ := Option.map_eq_some_iff.1 hbody
  exact hs

theorem Packet.toNetIdentify_memcpy {src : List UInt8} {p q : Packet} (h : p.memcpy src = some q) :
    q.toNetIdentify = p.toNetIdentify := by
  unfold Packet.memcpy at h
  obtain ⟨bytes, -, rfl⟩ := Option.map_eq_some_iff.1 h
  rfl

/-- A packet from the part of the decoder behind the head. -/
theorem getBody_packet {fuel total : ℕ} {packet p : Packet} {head : PacketHead} {s t : RecvState}
    (h : getBody fuel packet total head s = some (.packet p, t)) :
    ∃ q : Packet, p = q.addHeadTags head ∧ q.toNetIdentify = packet.toNetIdentify := by
  unfold getBody at h
  obtain ⟨dataLength, s₁, -, h⟩ := RecvM.bind_eq_some h
  obtain ⟨grown, s₂, hgrow, h⟩ := RecvM.bind_eq_some h
  obtain ⟨bytes, s₃, -, h⟩ := RecvM.bind_eq_some h
  obtain ⟨filled, s₄, hmemcpy, h⟩ := RecvM.bind_eq_some h
  obtain ⟨-, s₅, -, h⟩ := RecvM.bind_eq_some h
  rw [RecvM.run_pure] at h
  obtain ⟨hp, -⟩ := Prod.mk.inj (Option.some.inj h)
  refine ⟨filled.fillData dataLength, (RecvOutcome.packet.inj hp).symm, ?_⟩
  have hfilled := Packet.toNetIdentify_memcpy (RecvM.lift_eq_some hmemcpy).1
  exact hfilled.trans (Packet.toNetIdentify_grow (RecvM.lift_eq_some hgrow).1)

/-- **The tags of a packet are determined by the connection and the head**, whatever the rest of
the frame is. -/
theorem getTcpPacket_packet {fuel : ℕ} {identify : NetIdentify} {pooled p : Packet}
    {s t : RecvState} (h : getTcpPacket fuel identify pooled s = some (.packet p, t)) :
    ∃ s₁ head s₂, s₁.buffer = s.buffer ∧ readHead s₁ = some (head, s₂) ∧
      p.socketKey = identify.socketKey ∧ p.tagKey = packetTags identify.tagKey head := by
  unfold getTcpPacket at h
  rw [RecvM.run_bind_of (a := s.buffer.dataSize) rfl] at h
  split at h
  · rw [RecvM.run_pure] at h
    cases h
  obtain ⟨totalSize, s₁, htotal, h⟩ := RecvM.bind_eq_some h
  have hbuffer : s₁.buffer = s.buffer := by
    unfold RecvM.memcpyFromBuffer at htotal
    obtain ⟨out, -, hout⟩ := Option.map_eq_some_iff.1 htotal
    rw [← (Prod.mk.inj hout).2]
  split at h
  · rw [RecvM.run_pure] at h
    cases h
  obtain ⟨u₁, s₂, hremove, h⟩ := RecvM.bind_eq_some h
  unfold getFrame at h
  obtain ⟨headSize, s₃, hheadSize, h⟩ := RecvM.bind_eq_some h
  obtain ⟨u₂, s₄, hremove', h⟩ := RecvM.bind_eq_some h
  obtain ⟨head, s₅, hhead, h⟩ := RecvM.bind_eq_some h
  refine ⟨s₁, head, s₅, hbuffer, ?_, ?_⟩
  · unfold readHead
    rw [RecvM.run_bind_of hremove, RecvM.run_bind_of hheadSize, RecvM.run_bind_of hremove', hhead]
  unfold getMessage at h
  cases hid : MsgId.findValueByNumber head.msgId with
  | none =>
    rw [hid] at h
    cases h
  | some msgId =>
    rw [hid] at h
    obtain ⟨q, rfl, hq⟩ := getBody_packet h
    have hsocket : q.socketKey = (pooled.awake msgId (some identify)).socketKey :=
      congrArg NetIdentify.socketKey hq
    have htags : q.tagKey = (pooled.awake msgId (some identify)).tagKey :=
      congrArg NetIdentify.tagKey hq
    unfold Packet.addHeadTags packetTags
    cases head.s2s with
    | none => exact ⟨hsocket, htags⟩
    | some sns =>
      simp only [htags]
      exact ⟨hsocket, rfl⟩

/-! ### The tags of a packet -/

/-- The head adds the tags of the entity and of the player only. -/
theorem getTagValue_packetTags {k : TagKey} {head : PacketHead} {t : TagType}
    (ht : t ≠ .entity) (hp : t ≠ .player) :
    (packetTags k head).getTagValue t = (k.getTagValue t).map TagKey.normal := by
  unfold packetTags
  cases head.s2s with
  | none => exact TagKey.getTagValue_copyFrom_clear k t
  | some sns =>
    simp only
    rw [TagKey.getTagValue_addTagInt_of_ne _ _ hp, TagKey.getTagValue_addTagInt_of_ne _ _ ht]
    exact TagKey.getTagValue_copyFrom_clear k t

/-- No connection of a client has a socket tag, and so no packet that it sends. -/
theorem ClientTags.socket_eq_none {k : TagKey} (h : ClientTags k) :
    k.getTagValue .socket = none := by
  induction h with
  | connected => rfl
  | account value _ ih => rw [TagKey.getTagValue_copyFrom_of_none _ rfl, ih]
  | app value _ ih => rw [TagKey.getTagValue_copyFrom_of_none _ rfl, ih]
  | packet head _ _ ih ih' =>
    rw [TagKey.getTagValue_copyFrom_of_none _ ?_, ih]
    rw [getTagValue_packetTags (by decide) (by decide), ih']
    rfl
  | entity head entitySn _ _ ih ih' =>
    rw [TagKey.getTagValue_copyFrom_of_none _ ?_, ih]
    rw [TagKey.getTagValue_addTagInt_of_ne _ _ (by decide), getTagValue_packetTags (by decide) (by decide), ih']
    rfl

namespace ClientConnection

variable {c : ClientConnection} {locator : SocketLocator} {p : Packet}

/-- The locator changes the tag of the entity only. -/
theorem getTagValue_tagEntity {t : TagType} (ht : t ≠ .entity) :
    (c.tagEntity locator p).tagKey.getTagValue t = p.tagKey.getTagValue t := by
  unfold tagEntity
  split
  · rfl
  · split
    · exact TagKey.getTagValue_addTagInt_of_ne _ _ ht
    · rfl

theorem socketKey_tagEntity : (c.tagEntity locator p).socketKey = p.socketKey := by
  unfold tagEntity
  split
  · rfl
  · split <;> rfl

/-- The number that the player tag of a packet carries is the claimed one. -/
theorem player_packetTags (head : PacketHead) :
    ((packetTags c.identify.tagKey head).getTagValue .player).map TagValue.keyInt64 =
      c.claimedSn head := by
  unfold packetTags claimedSn
  cases head.s2s with
  | none =>
    simp only
    rw [TagKey.getTagValue_copyFrom_clear]
    cases c.identify.tagKey.getTagValue .player with
    | none => rfl
    | some value =>
      rw [Option.map_some, Option.map_some, Option.map_some]
      unfold TagKey.normal
      by_cases hzero : value.keyInt64 = 0
      · rw [if_neg (not_not.2 hzero), hzero]
      · rw [if_pos hzero]
  | some sns => rfl

end ClientConnection

/-! ### The packet and its player -/

section

variable {app : AppType} {socket : ℤ} {w : WorldProxy} {world : PlayerManager} {m : Message}

/-- A player of the proxy is the one of a socket exactly if it has that socket. -/
theorem WorldProxy.getPlayerBySocket_of_socket {sn : UInt64} {q : Player}
    (hq : w.players.getPlayerBySn sn = some q) (hsocket : q.socketKey.socket = socket) :
    w.players.getPlayerBySocket socket = some q :=
  hsocket ▸ (PlayerCollector.getPlayerBySn_some hq).1

/-- A packet whose claim is its own is isolated. -/
theorem isolated_of_claimIsOwn (hint : IsInt socket) (hsocket : m.socketKey.socket = socket)
    (hnone : m.tagKey.getTagValue .socket = none)
    (hclaim : ClaimIsOwn app socket w world
      ((m.tagKey.getTagValue .player).map TagValue.keyInt64)) : Isolated app socket w world m := by
  -- in the proxy, and in its default function
  have hsn : ∀ value, m.tagKey.getTagValue .player = some value → ∀ q,
      w.players.getPlayerBySn value.keyInt64 = some q →
        w.players.getPlayerBySocket socket = some q := by
    intro value hvalue q hq
    rw [hvalue] at hclaim
    exact WorldProxy.getPlayerBySocket_of_socket hq ((hclaim _ rfl).1 q hq)
  have hforward : ∀ f, w.handleDefaultFunction app m = some f →
      w.players.getPlayerBySocket socket = some f.player := by
    intro f hf
    cases hplayer : m.tagKey.getTagValue .player with
    | none =>
      rw [WorldProxy.forwarded_of_none hplayer, hsocket] at hf
      obtain ⟨q, hq, rfl⟩ := Option.map_eq_some_iff.1 hf
      exact hq
    | some value =>
      rw [WorldProxy.forwarded_of_player hplayer] at hf
      obtain ⟨q, hq, rfl⟩ := Option.map_eq_some_iff.1 hf
      exact hsn value hplayer q hq
  refine ⟨?_, hforward, ?_, ?_⟩
  · intro q hq
    cases haccount : m.tagKey.getTagValue .account with
    | some value => rwa [WorldProxy.getPlayer_of_account haccount, hsocket] at hq
    | none =>
      cases hplayer : m.tagKey.getTagValue .player with
      | none =>
        rw [WorldProxy.getPlayer_of_none haccount hplayer] at hq
        cases hq
      | some value =>
        rw [WorldProxy.getPlayer_of_player haccount hplayer] at hq
        exact hsn value hplayer q hq
  · intro hspace r hr
    rw [World.getPlayer_of_no_socket hnone] at hr
    obtain ⟨value, hvalue, hr⟩ := Option.bind_eq_some_iff.1 hr
    rw [hvalue] at hclaim
    exact (hclaim _ rfl).2 hspace r hr
  · intro q copy hcopy connection hconnection r hr
    obtain ⟨hq, rfl⟩ := WorldProxy.forwarded_toWorld hcopy
    rw [hsocket] at hq
    have hqsocket := PlayerCollector.getPlayerBySocket_socket hq
    have hqint : IsInt q.socketKey.socket := by
      rw [hqsocket]
      exact hint
    rcases World.getPlayer_deliver hconnection hqint hr with hsame | hsame
    · exact Or.inl (hsame.trans hqsocket)
    · exact Or.inr ⟨q, hq, hsame.symm⟩

/-- The claim of an isolated packet is its own. -/
theorem claimIsOwn_of_isolated (hnone : m.tagKey.getTagValue .socket = none)
    (h : Isolated app socket w world m) : ClaimIsOwn app socket w world
      ((m.tagKey.getTagValue .player).map TagValue.keyInt64) := by
  intro sn hsn
  obtain ⟨value, hvalue, rfl⟩ := Option.map_eq_some_iff.1 hsn
  constructor
  · intro q hq
    have hf : w.handleDefaultFunction app m =
        some (.toClient q (m.copyFor (some q.toNetIdentify))) := by
      rw [WorldProxy.forwarded_of_player hvalue, hq]
      rfl
    exact PlayerCollector.getPlayerBySocket_socket (h.forwarded _ hf)
  · intro hspace r hr
    refine h.inWorld hspace r ?_
    rw [World.getPlayer_of_no_socket hnone, hvalue]
    exact hr

end

/-- **A packet of a client is isolated exactly if the serial number that it claims is not the one
of somebody else.** -/
theorem isolated_iff {fuel : ℕ} {c : ClientConnection} {pooled p : Packet} {s t : RecvState}
    (h : getTcpPacket fuel c.identify pooled s = some (.packet p, t)) :
    ∃ s₁ head s₂, s₁.buffer = s.buffer ∧ readHead s₁ = some (head, s₂) ∧
      ∀ (app : AppType) (locator : SocketLocator) (w : WorldProxy) (world : PlayerManager),
        Isolated app c.socket w world (c.tagEntity locator p) ↔
          ClaimIsOwn app c.socket w world (c.claimedSn head) := by
  obtain ⟨s₁, head, s₂, hbuffer, hhead, hsocket, htags⟩ := getTcpPacket_packet h
  refine ⟨s₁, head, s₂, hbuffer, hhead, fun app locator w world => ?_⟩
  have hnone : (c.tagEntity locator p).tagKey.getTagValue .socket = none := by
    rw [ClientConnection.getTagValue_tagEntity (by decide), htags,
      getTagValue_packetTags (by decide) (by decide), c.tags.socket_eq_none]
    rfl
  have hplayer : ((c.tagEntity locator p).tagKey.getTagValue .player).map TagValue.keyInt64 =
      c.claimedSn head := by
    rw [ClientConnection.getTagValue_tagEntity (by decide), htags,
      ClientConnection.player_packetTags]
  rw [← hplayer]
  constructor
  · exact claimIsOwn_of_isolated hnone
  · refine isolated_of_claimIsOwn c.isInt ?_ hnone
    rw [ClientConnection.socketKey_tagEntity, hsocket]
    rfl

/-! ### Two players -/

/-- A client that has logged in. -/
def ClientConnection.loggedIn : ClientConnection where
  identify := ⟨⟨5, .tcpListen⟩, TagKey.clear.copyFrom (TagKey.clear.addTagStr .account [97])⟩
  isInt := ⟨by decide, by decide⟩
  tags := ClientTags.account [97] ClientTags.connected

/-- A proxy with the player of that client, and with another one. -/
def WorldProxy.pair : WorldProxy where
  sn := 1
  players :=
    (PlayerCollector.empty.insert
      { Player.awake ⟨⟨5, .tcpListen⟩, TagKey.clear⟩ [97] with playerSn := 7 }).insert
      { Player.awake ⟨⟨6, .tcpListen⟩, TagKey.clear⟩ [98] with playerSn := 8 }

/-- A frame of `C2S_PlayerMove` with the long head, for the entity 1 and the player 7. -/
def frameOfOwn : List UInt8 :=
  [24, 0, 20, 0, 227, 5, 0, 0, 1, 0, 0, 0, 0, 0, 0, 0, 7, 0, 0, 0, 0, 0, 0, 0]

/-- The same frame for the player 8. -/
def frameOfOther : List UInt8 :=
  [24, 0, 20, 0, 227, 5, 0, 0, 1, 0, 0, 0, 0, 0, 0, 0, 8, 0, 0, 0, 0, 0, 0, 0]

/-- A complete frame with a known message id gives a packet with the tags of its head. -/
theorem exists_packet {b : NetworkBuffer} (h : b.Ring) (identify : NetIdentify)
    (hwait : ¬ Waiting b.contents) (hfits : HeadFits b.contents)
    (hid : (MsgId.findValueByNumber (headOf b.contents).msgId).isSome = true) :
    ∃ p t, getTcpPacket 1 identify Packet.create ⟨b, []⟩ = some (.packet p, t) ∧
      p.socketKey = identify.socketKey ∧
      p.tagKey = packetTags identify.tagKey (headOf b.contents) := by
  obtain ⟨outcome, c, log, hrun, -, -, hout⟩ :=
    getTcpPacket_frame identify Packet.create h Packet.pooled_create hwait hfits
  cases hmsg : MsgId.findValueByNumber (headOf b.contents).msgId with
  | none =>
    rw [hmsg] at hid
    cases hid
  | some msgId =>
    rw [hmsg] at hout
    obtain ⟨p, rfl, -, hframe, -⟩ := hout
    refine ⟨p, _, hrun, hframe.socketKey_eq, hframe.tagKey_eq.trans ?_⟩
    unfold packetTags
    cases (headOf b.contents).s2s <;> rfl

/-- A client may name its own player. -/
theorem isolated_own :
    ∃ (b : NetworkBuffer) (p : Packet) (t : RecvState), b.contents = frameOfOwn ∧
      getTcpPacket 1 ClientConnection.loggedIn.identify Packet.create ⟨b, []⟩ =
        some (.packet p, t) ∧
      Isolated .game 5 WorldProxy.pair PlayerManager.empty
        (ClientConnection.loggedIn.tagEntity SocketLocator.empty p) := by
  obtain ⟨b, hring, hcontents⟩ := NetworkBuffer.exists_ring_contents (q := frameOfOwn) (by decide)
  obtain ⟨p, t, hrun, -, -⟩ := exists_packet hring ClientConnection.loggedIn.identify
    (by rw [hcontents]; decide) (by rw [hcontents]; decide) (by rw [hcontents]; decide)
  refine ⟨b, p, t, hcontents, hrun, ?_⟩
  obtain ⟨s₁, head, s₂, hbuffer, hhead, hiff⟩ := isolated_iff hrun
  have hb : s₁.buffer = b := hbuffer
  obtain ⟨u, hhead'⟩ := readHead_run (s := s₁) (by rw [hb]; exact hring) (by
    have hlen := hring.length_contents
    rw [hb, ← hlen, hcontents]
    decide)
  rw [hb, hcontents] at hhead'
  obtain rfl : headOf frameOfOwn = head :=
    (Prod.mk.inj (Option.some.inj (hhead'.symm.trans hhead))).1
  refine (hiff .game SocketLocator.empty WorldProxy.pair PlayerManager.empty).2 ?_
  intro sn hsn
  obtain rfl : 7 = sn := Option.some.inj hsn
  refine ⟨fun q hq => ?_, fun hspace => by cases hspace⟩
  have hsocket : (WorldProxy.pair.players.getPlayerBySn 7).map (fun q => q.socketKey.socket) =
      some 5 := by decide
  rw [hq] at hsocket
  exact Option.some.inj hsocket

/-- **A client that names the player of another client** gets a packet through to that client. -/
theorem not_isolated_other :
    ¬ ∀ (fuel : ℕ) (c : ClientConnection) (pooled p : Packet) (s t : RecvState) (app : AppType)
      (locator : SocketLocator) (w : WorldProxy) (world : PlayerManager),
        getTcpPacket fuel c.identify pooled s = some (.packet p, t) →
          Isolated app c.socket w world (c.tagEntity locator p) := by
  intro hall
  obtain ⟨b, hring, hcontents⟩ := NetworkBuffer.exists_ring_contents (q := frameOfOther) (by decide)
  obtain ⟨p, t, hrun, -, htags⟩ := exists_packet hring ClientConnection.loggedIn.identify
    (by rw [hcontents]; decide) (by rw [hcontents]; decide) (by rw [hcontents]; decide)
  have hisolated := hall _ _ _ _ _ _ .game SocketLocator.empty WorldProxy.pair PlayerManager.empty
    hrun
  have hsocket : (WorldProxy.pair.players.getPlayerBySn 8).map (fun q => q.socketKey.socket) =
      some 6 := by decide
  obtain ⟨q, hq, hqsocket⟩ := Option.map_eq_some_iff.1 hsocket
  have hplayer : (ClientConnection.loggedIn.tagEntity SocketLocator.empty p).tagKey.getTagValue
      .player = some ⟨[], 8⟩ := by
    rw [ClientConnection.getTagValue_tagEntity (by decide), htags, hcontents]
    decide
  have hclaim := (claimIsOwn_of_isolated ?_ hisolated 8 (by rw [hplayer]; rfl)).1 q hq
  · rw [hqsocket] at hclaim
    exact absurd hclaim (by decide)
  · rw [ClientConnection.getTagValue_tagEntity (by decide), htags, hcontents]
    decide

end MmoServer
