/-
**One process, or two.**

A proxy tells its world what happens to a player.  If both are in one process, the packet itself reaches
the world, with all its tags.  If the world is in a space process, the packet becomes a frame, whose head
has the serial numbers of the world and of the player, and the decoder makes another packet of it, with
these two numbers and the tags of the connection.  The tag with the socket of the player stays behind.

Main definitions:

* `MmoServer.WorldSend`, `MmoServer.WorldSend.packet` — what a proxy sends, and the packet for it;
* `MmoServer.Arrives` — a packet of a game process becomes a packet of the space process;
* `MmoServer.ProcessConnection` — the connections between processes;
* `MmoServer.Transparent` — the world gets the same tags in one process and in two.

Main results:

* `MmoServer.Arrives.socket_eq` — the socket tag of a packet that arrives is the one of the connection;
* `MmoServer.arrives_sendable` — the other two tags do arrive;
* `MmoServer.awakeInWorld_two` — a player cannot be set up in the space process;
* `MmoServer.not_transparent` — **the tags are never the same**.
-/

import MmoServer.FrameEncode
import MmoServer.NetworkLocator
import MmoServer.WorldProxy

set_option relaxedAutoImplicit false
set_option autoImplicit false

namespace MmoServer

/-! ### What a proxy sends -/

/-- What a proxy sends to its world for a player. -/
inductive WorldSend
  /-- The two functions `SendPacketToWorld`; without a `proto` there is no body. -/
  | sendPacketToWorld (msgId : MsgId) (body : List UInt8)
  /-- `CopyPacketToWorld`. -/
  | copyPacketToWorld (m : Message)

namespace WorldSend

/-- `MessageSystemHelp::SendPacket` with tags: the packet that is dispatched in this process, or sent to
the app, whose identification is `app`. -/
def sendPacket (inProcess : Bool) (app : NetIdentify) (msgId : MsgId) (body : List UInt8)
    (tagKey : TagKey) : Option Message :=
  if inProcess then
    some ⟨NetIdentify.forPacket ⟨.none, TagKey.clear.copyFrom tagKey⟩, msgId, body⟩
  else if app.socketKey.netType = .none then none
  else some ⟨NetIdentify.forPacket ⟨app.socketKey, TagKey.clear.copyFrom tagKey⟩, msgId, body⟩

/-- `MessageSystemHelp::SendPacket` of a packet to an app. -/
def sendPacketToApp (inProcess : Bool) (app : NetIdentify) (m : Message) : Option Message :=
  if inProcess then some m
  else if app.socketKey.netType = .none then none
  else some { m with socketKey := app.socketKey }

/-- The packet that is sent; nothing if the space app is not connected. -/
def packet (app : AppType) (space : NetIdentify) (w : WorldProxy) (player : Player) :
    WorldSend → Option Message
  | sendPacketToWorld msgId body =>
    sendPacket app.hasSpace space msgId body (w.addWorldTags app .clear player)
  | copyPacketToWorld m =>
    sendPacketToApp app.hasSpace space (w.copyPacketToWorld app player m)

/-- Every packet that is sent names its world, its player, and the socket of the player. -/
theorem tags_of_packet {app : AppType} {space : NetIdentify} {w : WorldProxy} {player : Player}
    {send : WorldSend} {m : Message} (h : send.packet app space w player = some m) :
    m.tagKey.getTagValue .entity = some ⟨[], w.sn⟩ ∧
      m.tagKey.getTagValue .player = some ⟨[], player.playerSn⟩ ∧
      m.tagKey.getTagValue .socket = some ⟨[], socketTag player.socketKey.socket⟩ := by
  obtain ⟨hsocket, hplayer, hentity⟩ := w.getTagValue_addWorldTags app .clear player
  -- a copy of the tags has the same values, since none of them is a string
  have hnormal : ∀ v : UInt64, TagKey.normal ⟨[], v⟩ = ⟨[], v⟩ := by
    intro v
    by_cases hv : v = 0
    · simp [TagKey.normal, hv]
    · simp [TagKey.normal, hv]
  cases send with
  | sendPacketToWorld msgId body =>
      simp only [packet, sendPacket] at h
      split at h
      · obtain rfl := Option.some.inj h
        simp [NetIdentify.forPacket, TagKey.getTagValue_copyFrom_clear, hsocket, hplayer, hentity,
          hnormal]
      · split at h
        · cases h
        · obtain rfl := Option.some.inj h
          simp [NetIdentify.forPacket, TagKey.getTagValue_copyFrom_clear, hsocket, hplayer, hentity,
            hnormal]
  | copyPacketToWorld m' =>
      simp only [packet, sendPacketToApp] at h
      split at h
      · obtain rfl := Option.some.inj h
        exact ⟨hentity, hplayer, hsocket⟩
      · split at h
        · cases h
        · obtain rfl := Option.some.inj h
          exact ⟨hentity, hplayer, hsocket⟩

end WorldSend

/-! ### What arrives -/

/-- **A packet arrives**: `AddPacket` appends its bytes to a send ring, they are at the front of a
receive ring, and `GetTcpPacket` makes a packet of them. -/
def Arrives (connection : NetIdentify) (p got : Packet) : Prop :=
  ∃ (fuel : ℕ) (b c r : NetworkBuffer) (rest : List UInt8) (pooled : Packet) (s : RecvState),
    b.Ring ∧ addPacket fuel b p = some c ∧ r.Ring ∧
      r.contents = c.contents.drop b.dataSize ++ rest ∧ pooled.Pooled ∧
      getTcpPacket fuel connection pooled ⟨r, []⟩ = some (.packet got, s)

/-- A result of a computation is a result of its rest. -/
theorem RecvM.of_bind {α β : Type} {m : RecvM α} {f : α → RecvM β} {s : RecvState}
    {r : β × RecvState} (h : (m >>= f) s = some r) : ∃ a t, m s = some (a, t) ∧ f a t = some r := by
  rw [RecvM.run_bind] at h
  obtain ⟨⟨a, t⟩, hm, hf⟩ := Option.bind_eq_some_iff.1 h
  exact ⟨a, t, hm, hf⟩

/-- Making room does not change the tags. -/
theorem Packet.tagKey_grow {fuel size : ℕ} {p q : Packet} (h : p.grow fuel size = some q) :
    q.tagKey = p.tagKey := by
  have hstep : ∀ s t : Packet, s.tagKey = p.tagKey → s.reAllocBuffer = some t →
      t.tagKey = p.tagKey := by
    intro s t hs hst
    obtain ⟨c, -, rfl⟩ := Option.map_eq_some_iff.1 hst
    exact hs
  exact Loop.run_invariant hstep rfl h

/-- The tags of a packet are those it was set up with, and those of the head. -/
theorem tagKey_of_getBody {fuel totalSize : ℕ} {packet got : Packet} {head : PacketHead}
    {s t : RecvState} (h : getBody fuel packet totalSize head s = some (.packet got, t)) :
    got.tagKey = (packet.addHeadTags head).tagKey := by
  obtain ⟨dataLength, s₁, -, h⟩ := RecvM.of_bind h
  obtain ⟨p, s₂, hgrow, h⟩ := RecvM.of_bind h
  obtain ⟨bytes, s₃, -, h⟩ := RecvM.of_bind h
  obtain ⟨q, s₄, hcopy, h⟩ := RecvM.of_bind h
  obtain ⟨-, s₅, -, h⟩ := RecvM.of_bind h
  obtain ⟨p', hp, heq⟩ := Option.map_eq_some_iff.1 hgrow
  obtain ⟨rfl, -⟩ := Prod.mk.inj heq
  obtain ⟨q', hq, heq⟩ := Option.map_eq_some_iff.1 hcopy
  obtain ⟨rfl, -⟩ := Prod.mk.inj heq
  obtain ⟨bytes', -, rfl⟩ := Option.map_eq_some_iff.1 hq
  obtain rfl : ((p'.setBytes bytes').fillData dataLength).addHeadTags head = got := by
    simpa [RecvM.run_pure] using congrArg Prod.fst (Option.some.inj h)
  have hkey : p'.tagKey = packet.tagKey := Packet.tagKey_grow hp
  cases hs2s : head.s2s with
  | none => simp [Packet.addHeadTags, hs2s, Packet.fillData, Packet.setBytes, hkey]
  | some sn => simp [Packet.addHeadTags, hs2s, Packet.fillData, Packet.setBytes, hkey]

/-- **The socket tag of a packet from the network** is the one of its connection, whatever its bytes
are. -/
theorem socket_of_getTcpPacket {fuel : ℕ} {connection : NetIdentify} {pooled got : Packet}
    {s t : RecvState} (h : getTcpPacket fuel connection pooled s = some (.packet got, t)) :
    got.tagKey.getTagValue .socket =
      (connection.tagKey.getTagValue .socket).map TagKey.normal := by
  obtain ⟨dataSize, s₁, -, h⟩ := RecvM.of_bind h
  split at h
  · simp [RecvM.run_pure] at h
  obtain ⟨totalSize, s₂, -, h⟩ := RecvM.of_bind h
  split at h
  · simp [RecvM.run_pure] at h
  obtain ⟨-, s₃, -, h⟩ := RecvM.of_bind h
  obtain ⟨headSize, s₄, -, h⟩ := RecvM.of_bind h
  obtain ⟨-, s₅, -, h⟩ := RecvM.of_bind h
  obtain ⟨head, s₆, -, h⟩ := RecvM.of_bind h
  unfold getMessage at h
  cases hid : MsgId.findValueByNumber head.msgId with
  | none => simp [hid, RecvM.run_pure] at h
  | some msgId =>
      rw [hid] at h
      rw [tagKey_of_getBody h, ← TagKey.getTagValue_copyFrom_clear]
      -- the head sets the tags of the world and of the player only
      cases hs2s : head.s2s with
      | none => simp [Packet.addHeadTags, hs2s, Packet.awake]
      | some sn =>
          simp only [Packet.addHeadTags, hs2s, Packet.awake]
          rw [TagKey.getTagValue_addTagInt_of_ne _ _ (by decide),
            TagKey.getTagValue_addTagInt_of_ne _ _ (by decide)]

namespace Arrives

variable {connection : NetIdentify} {p got : Packet}

/-- **What arrives** has the socket tag of the connection. -/
theorem socket_eq (h : Arrives connection p got) : got.tagKey.getTagValue .socket =
    (connection.tagKey.getTagValue .socket).map TagKey.normal := by
  obtain ⟨fuel, b, c, r, rest, pooled, s, -, -, -, -, -, hget⟩ := h
  exact socket_of_getTcpPacket hget

end Arrives

/-- **A packet that can be framed arrives**, with the tags of its head. -/
theorem arrives_sendable (connection : NetIdentify) {p : Packet} (hp : p.Sendable)
    {entity player : UInt64} (hentity : p.tagKey.getTagValue .entity = some ⟨[], entity⟩)
    (hplayer : p.tagKey.getTagValue .player = some ⟨[], player⟩) :
    ∃ got, Arrives connection p got ∧ got.msgId = p.msgId ∧ got.body = p.body ∧
      got.tagKey.getTagValue .entity = some ⟨[], entity⟩ ∧
      got.tagKey.getTagValue .player = some ⟨[], player⟩ := by
  have hring := NetworkBuffer.ring_create_default
  have htotal := hp.totalSize_le
  obtain ⟨c, hadd, -, hcontents, -⟩ := addPacket_frame hring hp (by
    refine Or.inr ?_
    rw [NetworkBuffer.bufferSize_create]
    decide)
  obtain ⟨r, hrring, hr⟩ : ∃ r : NetworkBuffer, r.Ring ∧ r.contents = frame p ++ [] := by
    refine NetworkBuffer.exists_ring_contents ?_
    rw [List.append_nil, hp.length_frame]
    exact htotal.trans (by decide)
  have hnil : (NetworkBuffer.create defaultBufferSize).contents = [] :=
    NetworkBuffer.contents_create _
  have hbytes : r.contents =
      c.contents.drop (NetworkBuffer.create defaultBufferSize).dataSize ++ [] := by
    rw [hr, hcontents, hnil, ← hring.length_contents, hnil]
    rfl
  obtain ⟨outcome, d, log, hget, -, -, hout⟩ := getTcpPacket_frame connection Packet.create hrring
    Packet.pooled_create (hr ▸ not_waiting_frame hp []) (hr ▸ headFits_frame hp [])
  have hid : MsgId.findValueByNumber (headOf r.contents).msgId = some p.msgId := by
    rw [hr, headOf_frame]
    exact MsgId.findValueByNumber_number p.msgId
  rw [hid] at hout
  obtain ⟨got, rfl, hmsgId, hframe, -⟩ := hout
  refine ⟨got, ⟨1, _, c, r, [], Packet.create, _, hring, hadd, hrring, hbytes,
    Packet.pooled_create, hget⟩, hmsgId, ?_, ?_⟩
  · rw [hframe.body_eq, hr, bodyOf_frame hp]
  · have hhead : (headOf r.contents).s2s = some (entity, player) := by
      rw [hr, headOf_frame]
      simp [Packet.head, hentity, hplayer]
    have htags := hframe.tagKey_eq
    rw [hhead] at htags
    rw [htags]
    refine ⟨?_, TagKey.getTagValue_addTagInt_self _ _ _⟩
    rw [TagKey.getTagValue_addTagInt_of_ne _ _ (by decide), TagKey.getTagValue_addTagInt_self]

/-! ### Connections between processes -/

/-- The identification of a connection between two processes. -/
inductive ProcessConnection : NetIdentify → Prop
  /-- It was accepted. -/
  | accept (socket : ℤ) : ProcessConnection ⟨⟨socket, .tcpListen⟩, .clear⟩
  /-- It was made to an app. -/
  | createConnector (socket : ℤ) (appKey : UInt64) :
      ProcessConnection ⟨⟨socket, .tcpConnector⟩, TagKey.clear.addTag .app ⟨[], appKey⟩⟩
  /-- `HandleListenKey`: the app on the other side registered. -/
  | handleListenKey {connection : NetIdentify} (appKey : UInt64) : ProcessConnection connection →
      ProcessConnection { connection with
        tagKey := connection.tagKey.copyFrom
          (NetworkLocator.entry connection.socketKey appKey).forPacket.tagKey }
  /-- `HandleListenKey`, of a packet that itself came over a connection. -/
  | handleListenKeyFrom {connection other : NetIdentify} {p got : Packet} :
      ProcessConnection connection → ProcessConnection other → Arrives other p got →
      ProcessConnection { connection with tagKey := connection.tagKey.copyFrom got.tagKey }

/-- No such connection has the socket of a player. -/
theorem ProcessConnection.socket_eq {connection : NetIdentify} (h : ProcessConnection connection) :
    connection.tagKey.getTagValue .socket = none := by
  induction h with
  | accept socket => rfl
  | createConnector socket appKey =>
      by_cases hkey : appKey = 0
      · simp [TagKey.addTag, hkey, TagKey.getTagValue_addTagStr_of_ne]
      · simp [TagKey.addTag, hkey, TagKey.getTagValue_addTagInt_of_ne]
  | @handleListenKey connection appKey _ ih =>
      have hother : (NetworkLocator.entry connection.socketKey appKey).forPacket.tagKey.getTagValue
          .socket = none := by
        simp [NetIdentify.forPacket, NetworkLocator.entry, TagKey.getTagValue_copyFrom_clear,
          TagKey.getTagValue_addTagInt_of_ne]
      exact (TagKey.getTagValue_copyFrom_of_none _ hother).trans ih
  | @handleListenKeyFrom connection other p got _ _ harrives ih ihother =>
      have hgot : got.tagKey.getTagValue .socket = none := by
        rw [harrives.socket_eq, ihother]
        rfl
      exact (TagKey.getTagValue_copyFrom_of_none _ hgot).trans ih

/-! ### The two deployments -/

/-- The tags that the world reads are the same. -/
def SameWorldTags (a b : TagKey) : Prop :=
  a.getTagValue .entity = b.getTagValue .entity ∧ a.getTagValue .player = b.getTagValue .player ∧
    a.getTagValue .socket = b.getTagValue .socket

/-- **The world gets the same tags** from a process that has it, and over a connection. -/
def Transparent (connection space : NetIdentify) (w : WorldProxy) (player : Player)
    (send : WorldSend) : Prop :=
  ∃ one two p got, send.packet .allInOne space w player = some one ∧
    send.packet .game space w player = some two ∧ p.toMessage = two ∧ Arrives connection p got ∧
    SameWorldTags one.tagKey got.tagKey

/-- In one process, the socket of a player can be read from every packet, and the player set up. -/
theorem awakeInWorld_one {space : NetIdentify} {w : WorldProxy} {player : Player}
    {send : WorldSend} {m : Message} (h : send.packet .allInOne space w player = some m)
    (playerSn worldSn : UInt64) :
    ∃ q, Player.awakeInWorld m.toNetIdentify playerSn worldSn = some q ∧
      q.socketKey.socket = tagSocket (socketTag player.socketKey.socket) := by
  obtain ⟨-, -, hsocket⟩ := WorldSend.tags_of_packet h
  simp [Player.awakeInWorld, hsocket]

/-- **In two processes, a player cannot be set up**: there is no socket to read. -/
theorem awakeInWorld_two {connection : NetIdentify} (hconnection : ProcessConnection connection)
    {p got : Packet} (h : Arrives connection p got) (playerSn worldSn : UInt64) :
    Player.awakeInWorld got.toNetIdentify playerSn worldSn = none := by
  have hsocket : got.tagKey.getTagValue .socket = none := by
    rw [h.socket_eq, hconnection.socket_eq]
    rfl
  simp [Player.awakeInWorld, hsocket]

/-- The world finds the player of a packet by its serial number in two processes, where it finds it by
its socket in one. -/
theorem World.getPlayer_two {connection : NetIdentify} (hconnection : ProcessConnection connection)
    {p got : Packet} (h : Arrives connection p got) (players : PlayerManager) :
    World.getPlayer players got.toNetIdentify =
      (got.tagKey.getTagValue .player).bind fun value => players.getPlayerBySn value.keyInt64 := by
  refine World.getPlayer_of_no_socket ?_
  rw [h.socket_eq, hconnection.socket_eq]
  rfl

/-- What would have to be the case: the connection has the socket of the player. -/
theorem Transparent.connection_socket {connection space : NetIdentify} {w : WorldProxy}
    {player : Player} {send : WorldSend} (h : Transparent connection space w player send) :
    (connection.tagKey.getTagValue .socket).map TagKey.normal =
      some ⟨[], socketTag player.socketKey.socket⟩ := by
  obtain ⟨one, two, p, got, hone, -, -, harrives, -, -, hsame⟩ := h
  rw [← harrives.socket_eq, ← hsame]
  exact (WorldSend.tags_of_packet hone).2.2

/-- **The tags are never the same.** -/
theorem not_transparent {connection : NetIdentify} (hconnection : ProcessConnection connection)
    (space : NetIdentify) (w : WorldProxy) (player : Player) (send : WorldSend) :
    ¬ Transparent connection space w player send := by
  intro h
  have hsocket := h.connection_socket
  rw [hconnection.socket_eq] at hsocket
  cases hsocket

/-- A player on socket 5, in a world with the number 9. -/
theorem not_transparent_disconnect :
    ¬ Transparent ⟨⟨4, .tcpListen⟩, .clear⟩ ⟨⟨8, .tcpConnector⟩, .clear⟩
      ⟨9, .empty⟩ (Player.awake ⟨⟨5, .tcpListen⟩, .clear⟩ [97])
      (.sendPacketToWorld .miNetworkDisconnect []) :=
  not_transparent (.accept 4) _ _ _ _

/-- **The socket of a player gets lost** on the way of `G2S_SyncPlayer`: in a process with the world the
player is set up with socket 5, and over a connection the packet arrives without a socket. -/
theorem not_all_transparent :
    ¬ ∀ (connection space : NetIdentify) (w : WorldProxy) (player : Player) (send : WorldSend),
        ProcessConnection connection → space.socketKey.netType ≠ .none →
        Transparent connection space w player send := by
  intro hall
  have h := hall ⟨⟨4, .tcpListen⟩, .clear⟩ ⟨⟨8, .tcpConnector⟩, .clear⟩ ⟨9, .empty⟩
    (Player.awake ⟨⟨5, .tcpListen⟩, .clear⟩ [97]) (.sendPacketToWorld .g2sSyncPlayer [])
    (.accept 4) (by simp)
  have hsocket := h.connection_socket
  simp [ProcessConnection.socket_eq (.accept 4)] at hsocket

end MmoServer
