/-
**One connection, from `AddPacket` to `GetTcpPacket`.**

The bytes of a connection lie in the send ring, on the wire, and in the receive ring.  Any number of
packets is added, any number of bytes is sent and received at a time, and the decoder may be called
at any moment.  The module proves that the packets arrive as they were added, for every run in which
the sizes of the two rings do not overflow, and gives a run in which one does.

Main definitions:

* `MmoServer.Channel`, `MmoServer.ChannelEvent`, `MmoServer.channelSystem` — the connection, what
  happens to it, and its runs;
* `MmoServer.ChannelEvent.Room` — the sizes do not overflow;
* `MmoServer.Matches` — what of a packet must arrive;
* `MmoServer.Delivers` — the packets that were returned are the first ones that were added.

Main results:

* `MmoServer.step_inv` — the bytes under way are the frames of the packets that are not returned
  yet;
* `MmoServer.channel_delivers` — **the framing round trip**;
* `MmoServer.not_channel_delivers` — a run whose send ring overflows.
-/

import MmoServer.FrameEncode
import MmoServer.Transition

set_option relaxedAutoImplicit false
set_option autoImplicit false

namespace MmoServer

open Transition

/-! ### The connection -/

/-- The two ends of a connection, and the bytes between them. -/
structure Channel where
  sender : NetworkBuffer
  wire : List UInt8
  receiver : NetworkBuffer

/-- What happens to a connection. -/
inductive ChannelEvent
  /-- `SendPacket` of one side. -/
  | add (p : Packet)
  /-- One `::send` in `ConnectObj::Send` takes `n` bytes. -/
  | send (n : ℕ)
  /-- One `::recv` in `ConnectObj::Recv` of the other side yields `n` bytes. -/
  | recv (n : ℕ)
  /-- One call of `GetTcpPacket` with a packet from the pool, and what it returns. -/
  | get (pooled : Packet) (outcome : RecvOutcome)

/-- The room for a head, which `ConnectObj::Recv` asks for before each `::recv`. -/
def recvRoom (b : NetworkBuffer) : Option NetworkBuffer :=
  if b.getEmptySize < sizeofPacketHeadS2S + sizeofTotalSizeType * 2 then b.reAllocBuffer else some b

/-- The most bytes that `::recv` may write: the size is an `int` in the code, and a `size_t` for the
system. -/
def recvLimit (b : NetworkBuffer) : ℤ :=
  if b.recvGetBuffer.2 < 0 then 2 ^ 64 + b.recvGetBuffer.2 else b.recvGetBuffer.2

namespace ChannelEvent

/-- When an event can happen: what is added has a frame, what is sent was exposed, and what is
received was sent. -/
def Allowed (c : Channel) : ChannelEvent → Prop
  | add p => p.Sendable
  | send n => (n : ℤ) ≤ c.sender.sendGetBuffer.2
  | recv n => 0 < n ∧ n ≤ c.wire.length ∧ ∀ b, recvRoom c.receiver = some b → (n : ℤ) ≤ recvLimit b
  | get pooled _ => pooled.Pooled

/-- No size overflows: a ring that has to grow can, and what is received fits the place that
`GetBuffer` points to. -/
def Room (c : Channel) : ChannelEvent → Prop
  | add p => p.totalSize ≤ c.sender.getEmptySize ∨
      c.sender.bufferSize + additionalSize < 2 ^ 32
  | send _ => True
  | recv n => (24 ≤ c.receiver.getEmptySize ∨ c.receiver.bufferSize + additionalSize < 2 ^ 32) ∧
      ∀ b, recvRoom c.receiver = some b → n ≤ b.getWriteSize
  | get _ _ => True

end ChannelEvent

/-- One event; `identify` is the connection at the receiving side. -/
def channelStep (identify : NetIdentify) (c : Channel) : ChannelEvent → Channel → Prop
  | .add p, d => ∃ fuel b, addPacket fuel c.sender p = some b ∧ d = { c with sender := b }
  | .send n, d => ∃ bytes b, c.sender.sendPrefix n = some (bytes, b) ∧
      d = { c with sender := b, wire := c.wire ++ bytes }
  | .recv n, d => ∃ b b', recvRoom c.receiver = some b ∧ b.recvFill (c.wire.take n) = some b' ∧
      d = { c with receiver := b', wire := c.wire.drop n }
  | .get pooled outcome, d => ∃ fuel s, getTcpPacket fuel identify pooled ⟨c.receiver, []⟩ =
      some (outcome, s) ∧ d = { c with receiver := s.buffer }

/-- The runs of a new connection. -/
def channelSystem (identify : NetIdentify) : System Channel ChannelEvent where
  init c := c = ⟨NetworkBuffer.create defaultBufferSize, [], NetworkBuffer.create defaultBufferSize⟩
  step c e d := e.Allowed c ∧ channelStep identify c e d

/-- The runs in which no size overflows. -/
def boundedChannelSystem (identify : NetIdentify) : System Channel ChannelEvent :=
  (channelSystem identify).restrict fun c e => e.Room c

/-! ### What should arrive -/

/-- The packets that were added, in order. -/
def added : List ChannelEvent → List Packet
  | [] => []
  | .add p :: es => p :: added es
  | _ :: es => added es

/-- The packets that were returned, in order. -/
def returned : List ChannelEvent → List Packet
  | [] => []
  | .get _ (.packet p) :: es => p :: returned es
  | _ :: es => returned es

/-- The packet that arrived is the one that was sent: the same message id, the same body, and for a
packet with an entity tag the same two numbers. -/
structure Matches (sent got : Packet) : Prop where
  msgId_eq : got.msgId = sent.msgId
  body_eq : got.body = sent.body
  entity_eq : ∀ entity, sent.tagKey.getTagValue .entity = some entity →
    got.tagKey.getTagValue .entity = some ⟨[], entity.keyInt64⟩ ∧
      got.tagKey.getTagValue .player = some ⟨[],
        match sent.tagKey.getTagValue .player with
        | none => 0
        | some player => player.keyInt64⟩

/-- What the next call of `GetTcpPacket` does while the packets `pending` are under way: it returns,
with the first of them, or with nothing while its frame is incomplete. -/
def NextCall (identify : NetIdentify) (pending : List Packet) (c : Channel) : Prop :=
  ∀ pooled : Packet, pooled.Pooled → ∃ fuel outcome s,
    getTcpPacket fuel identify pooled ⟨c.receiver, []⟩ = some (outcome, s) ∧
      match outcome, pending with
      | .nullptr, [] => c.receiver.contents = []
      | .nullptr, p :: _ => c.receiver.contents.length < (frame p).length
      | .packet got, p :: _ => Matches p got
      | _, _ => False

/-- The state after the events `es`.  The packets that were returned are the first ones that were
added, in order, and the bytes under way are the frames of the others. -/
def Delivers (identify : NetIdentify) (es : List ChannelEvent) (c : Channel) : Prop :=
  ∃ sent pending, added es = sent ++ pending ∧ List.Forall₂ Matches sent (returned es) ∧
    pending.flatMap frame = c.receiver.contents ++ c.wire ++ c.sender.contents ∧
    NextCall identify pending c

/-- The code does not leave an allocation and does not loop for ever; for the decoder, that is part
of `NextCall`. -/
def Proceeds (identify : NetIdentify) (c : Channel) : ChannelEvent → Prop
  | .get _ _ => True
  | e => ∃ d, channelStep identify c e d

/-! ### The loops have one result -/

theorem addPacket_mono {fuel fuel' : ℕ} (hle : fuel ≤ fuel') {b c : NetworkBuffer} {p : Packet}
    (h : addPacket fuel b p = some c) : addPacket fuel' b p = some c := by
  unfold addPacket NetworkBuffer.grow at h ⊢
  cases hb : Loop.run (NetworkBuffer.lacks p.totalSize) NetworkBuffer.reAllocBuffer fuel b with
  | none => rw [hb] at h; cases h
  | some b' =>
    rw [hb] at h
    rw [Loop.run_mono hle hb]
    exact h

/-- A result of the rest is a result of the whole. -/
theorem RecvM.bind_mono {α β : Type} (m : RecvM α) {f g : α → RecvM β}
    (hfg : ∀ a s r, f a s = some r → g a s = some r) {s : RecvState} {r : β × RecvState}
    (h : (m >>= f) s = some r) : (m >>= g) s = some r := by
  rw [RecvM.run_bind] at h ⊢
  cases hm : m s with
  | none => rw [hm] at h; cases h
  | some p =>
    rw [hm, Option.bind_some] at h
    rw [Option.bind_some]
    exact hfg _ _ _ h

theorem getBody_mono {fuel fuel' : ℕ} (hle : fuel ≤ fuel') {packet : Packet} {totalSize : ℕ}
    {head : PacketHead} {s : RecvState} {r : RecvOutcome × RecvState}
    (h : getBody fuel packet totalSize head s = some r) :
    getBody fuel' packet totalSize head s = some r := by
  refine RecvM.bind_mono _ (fun dataLength s r h => ?_) h
  rw [RecvM.run_bind, RecvM.lift] at h ⊢
  cases hp : packet.grow fuel dataLength with
  | none => rw [hp] at h; cases h
  | some p =>
    rw [hp] at h
    rw [Packet.grow, Loop.run_mono hle hp]
    exact h

theorem getTcpPacket_mono {fuel fuel' : ℕ} (hle : fuel ≤ fuel') {identify : NetIdentify}
    {pooled : Packet} {s : RecvState} {r : RecvOutcome × RecvState}
    (h : getTcpPacket fuel identify pooled s = some r) :
    getTcpPacket fuel' identify pooled s = some r := by
  refine RecvM.bind_mono _ (fun dataSize s r h => ?_) h
  split at h
  · rename_i hsize
    rw [if_pos hsize]
    exact h
  rename_i hsize
  rw [if_neg hsize]
  refine RecvM.bind_mono _ (fun totalSize s r h => ?_) h
  split at h
  · rename_i hwait
    rw [if_pos hwait]
    exact h
  rename_i hwait
  rw [if_neg hwait]
  refine RecvM.bind_mono _ (fun _ s r h => ?_) h
  refine RecvM.bind_mono _ (fun headSize s r h => ?_) h
  refine RecvM.bind_mono _ (fun _ s r h => ?_) h
  refine RecvM.bind_mono _ (fun head s r h => ?_) h
  unfold getMessage at h ⊢
  cases hid : MsgId.findValueByNumber head.msgId with
  | none => rw [hid] at h; exact h
  | some msgId =>
    rw [hid] at h
    exact getBody_mono hle h

/-! ### One call of the decoder -/

/-- The result of a call of the decoder on a ring that holds the front of the frames of `pending`:
the outcome, and the ring afterwards. -/
inductive CallResult (pending : List Packet) (b : NetworkBuffer) :
    RecvOutcome → NetworkBuffer → Prop
  | drained : pending = [] → b.contents = [] → CallResult pending b .nullptr b
  | waiting {p : Packet} {rest : List Packet} : pending = p :: rest →
      b.contents.length < (frame p).length → CallResult pending b .nullptr b
  | packet {p got : Packet} {rest : List Packet} {c : NetworkBuffer} : pending = p :: rest →
      Matches p got → c.Ring → b.contents = frame p ++ c.contents →
      CallResult pending b (.packet got) c

/-- The total length is in the first two bytes. -/
theorem totalSizeOf_append {q : List UInt8} (hq : 2 ≤ q.length) (rest : List UInt8) :
    totalSizeOf (q ++ rest) = totalSizeOf q := by
  rw [totalSizeOf, List.take_append_of_le_length hq, totalSizeOf]

/-- What the decoder makes of the frame of a packet matches the packet. -/
theorem matches_of_isFrame {p got : Packet} {rest : List UInt8} {identify : NetIdentify}
    (hp : p.Sendable) (hid : MsgId.findValueByNumber (headOf (frame p ++ rest)).msgId = some got.msgId)
    (hframe : IsFrame (frame p ++ rest) identify got) : Matches p got where
  msgId_eq := by
    rw [headOf_frame, MsgId.findValueByNumber_eq_some] at hid
    have hsent := MsgId.findValueByNumber_eq_some.2 hid
    have hself := MsgId.findValueByNumber_number p.msgId
    rw [show p.head.msgId = p.msgId.number from rfl, hself] at hsent
    exact (Option.some.inj hsent).symm
  body_eq := by rw [hframe.body_eq, bodyOf_frame hp]
  entity_eq := by
    intro entity hentity
    have htags := hframe.tagKey_eq
    rw [headOf_frame] at htags
    have hs2s : p.head.s2s = some (entity.keyInt64,
        match p.tagKey.getTagValue .player with
        | none => 0
        | some player => player.keyInt64) := by
      unfold Packet.head
      rw [hentity]
      cases p.tagKey.getTagValue .player with
      | none => rfl
      | some player => rfl
    rw [hs2s] at htags
    rw [htags]
    refine ⟨?_, TagKey.getTagValue_addTagInt_self _ _ _⟩
    rw [TagKey.getTagValue_addTagInt_of_ne _ _ (by decide), TagKey.getTagValue_addTagInt_self]

/-- Frames are not empty. -/
theorem length_frame_pos {p : Packet} (hp : p.Sendable) : 0 < (frame p).length := by
  rw [hp.length_frame, hp.totalSize_eq]
  omega

/-- **One call** returns the first packet under way, or nothing while its frame is incomplete. -/
theorem callResult {b : NetworkBuffer} (h : b.Ring) {pending : List Packet} {rest : List UInt8}
    (hsend : ∀ p ∈ pending, p.Sendable) (hbytes : pending.flatMap frame = b.contents ++ rest)
    (identify : NetIdentify) {pooled : Packet} (hp : pooled.Pooled) :
    ∃ outcome s, getTcpPacket 1 identify pooled ⟨b, []⟩ = some (outcome, s) ∧
      CallResult pending b outcome s.buffer := by
  cases pending with
  | nil =>
    have hnil : b.contents = [] := (List.append_eq_nil_iff.1 hbytes.symm).1
    have hwait : Waiting b.contents := by
      rw [hnil]
      decide
    obtain ⟨log, hrun, -⟩ := getTcpPacket_waiting identify pooled h hwait 1
    exact ⟨_, _, hrun, .drained rfl hnil⟩
  | cons p ps =>
    have hsendable := hsend p (List.mem_cons_self ..)
    have hlen := hsendable.length_frame
    have hbytes' : frame p ++ ps.flatMap frame = b.contents ++ rest := by
      rw [← hbytes, List.flatMap_cons]
    by_cases hfull : (frame p).length ≤ b.contents.length
    · -- the whole frame has arrived
      obtain ⟨rest', hcontents⟩ : ∃ rest', b.contents = frame p ++ rest' := by
        rcases List.append_eq_append_iff.1 hbytes' with ⟨as, has, -⟩ | ⟨bs, hbs, -⟩
        · exact ⟨as, has⟩
        · have hzero : bs.length = 0 := by
            have hle := congrArg List.length hbs
            rw [List.length_append] at hle
            omega
          rw [List.eq_nil_of_length_eq_zero hzero, List.append_nil] at hbs
          exact ⟨[], by rw [List.append_nil, hbs]⟩
      have hwait : ¬ Waiting b.contents := hcontents ▸ not_waiting_frame hsendable rest'
      have hfits : HeadFits b.contents := hcontents ▸ headFits_frame hsendable rest'
      obtain ⟨outcome, c, log, hrun, hring, -, hout⟩ :=
        getTcpPacket_frame identify pooled h hp hwait hfits
      have hid : MsgId.findValueByNumber (headOf b.contents).msgId = some p.msgId := by
        rw [hcontents, headOf_frame]
        exact MsgId.findValueByNumber_number p.msgId
      rw [hid] at hout
      obtain ⟨got, rfl, hgot, hframe, hrest⟩ := hout
      refine ⟨_, _, hrun, .packet rfl ?_ hring ?_⟩
      · rw [hcontents] at hid hframe
        exact matches_of_isFrame hsendable (hgot ▸ hid) hframe
      · rw [hrest, hcontents, totalSizeOf_frame hsendable, drop_frame hsendable]
    · -- the frame is cut
      have hwait : Waiting b.contents := by
        rcases Nat.lt_or_ge b.contents.length 2 with hshort | hlong
        · exact Or.inl hshort
        · refine Or.inr ?_
          rw [← totalSizeOf_append hlong rest, ← hbytes', totalSizeOf_frame hsendable]
          omega
      obtain ⟨log, hrun, -⟩ := getTcpPacket_waiting identify pooled h hwait 1
      exact ⟨_, _, hrun, .waiting rfl (by omega)⟩

/-- The result of a call does not depend on the bound of its loop. -/
theorem getTcpPacket_unique {fuel fuel' : ℕ} {identify : NetIdentify} {pooled : Packet}
    {s : RecvState} {r r' : RecvOutcome × RecvState}
    (h : getTcpPacket fuel identify pooled s = some r)
    (h' : getTcpPacket fuel' identify pooled s = some r') : r = r' := by
  have hmax := getTcpPacket_mono (Nat.le_max_left fuel fuel') h
  have hmax' := getTcpPacket_mono (Nat.le_max_right fuel fuel') h'
  rw [hmax] at hmax'
  exact Option.some.inj hmax'

theorem addPacket_unique {fuel fuel' : ℕ} {b c c' : NetworkBuffer} {p : Packet}
    (h : addPacket fuel b p = some c) (h' : addPacket fuel' b p = some c') : c = c' := by
  have hmax := addPacket_mono (Nat.le_max_left fuel fuel') h
  have hmax' := addPacket_mono (Nat.le_max_right fuel fuel') h'
  rw [hmax] at hmax'
  exact Option.some.inj hmax'

/-! ### One step -/

theorem added_append (es fs : List ChannelEvent) : added (es ++ fs) = added es ++ added fs := by
  induction es with
  | nil => rfl
  | cons e es ih =>
    cases e with
    | add p => simp [added, ih]
    | send n => simp [added, ih]
    | recv n => simp [added, ih]
    | get pooled outcome => simp [added, ih]

theorem returned_append (es fs : List ChannelEvent) :
    returned (es ++ fs) = returned es ++ returned fs := by
  induction es with
  | nil => rfl
  | cons e es ih =>
    cases e with
    | add p => simp [returned, ih]
    | send n => simp [returned, ih]
    | recv n => simp [returned, ih]
    | get pooled outcome =>
      cases outcome with
      | nullptr => simp [returned, ih]
      | close => simp [returned, ih]
      | packet p => simp [returned, ih]

/-- The invariant: both rings are in good order, and the bytes under way are the frames of the
packets that were added and are not returned yet. -/
structure ChannelInv (es : List ChannelEvent) (c : Channel) (sent pending : List Packet) : Prop where
  sender_ring : c.sender.Ring
  receiver_ring : c.receiver.Ring
  added_eq : added es = sent ++ pending
  sendable : ∀ p ∈ pending, p.Sendable
  sent_matches : List.Forall₂ Matches sent (returned es)
  bytes_eq : pending.flatMap frame = c.receiver.contents ++ c.wire ++ c.sender.contents

/-- The room before a `::recv`, if it can be had: the contents stay, and the ring is not full. -/
theorem recvRoom_run {b : NetworkBuffer} (h : b.Ring)
    (hroom : 24 ≤ b.getEmptySize ∨ b.bufferSize + additionalSize < 2 ^ 32) :
    ∃ c, recvRoom b = some c ∧ c.Ring ∧ c.contents = b.contents ∧ c.dataSize < c.bufferSize := by
  have hempty := h.getEmptySize_eq
  have hdata := h.data_le
  have hhead : sizeofPacketHeadS2S + sizeofTotalSizeType * 2 = 24 := rfl
  unfold recvRoom
  rw [hhead]
  rcases Nat.lt_or_ge b.getEmptySize 24 with hlt | hge
  · obtain ⟨c, hc, hring, hcontents, hsize, hcdata⟩ := h.reAllocBuffer (by omega)
    have hadd : 0 < additionalSize := by decide
    exact ⟨c, by rw [if_pos hlt, hc], hring, hcontents, by omega⟩
  · exact ⟨b, if_neg (by omega), h, rfl, by omega⟩

/-- **Every event keeps the invariant**, and none of them leaves an allocation. -/
theorem step_inv {identify : NetIdentify} {es : List ChannelEvent} {c d : Channel} {e : ChannelEvent}
    {sent pending : List Packet} (h : ChannelInv es c sent pending) (hallow : e.Allowed c)
    (hroom : e.Room c) (hstep : channelStep identify c e d) :
    ∃ sent' pending', ChannelInv (es ++ [e]) d sent' pending' := by
  obtain ⟨hsender, hreceiver, hadded, hsendable, hmatches, hbytes⟩ := h
  cases e with
  | add p =>
    obtain ⟨fuel, b, hb, rfl⟩ := hstep
    obtain ⟨b', hb', hring, hcontents, -⟩ := addPacket_frame hsender hallow hroom
    obtain rfl := addPacket_unique hb hb'
    refine ⟨sent, pending ++ [p], hring, hreceiver, ?_, ?_, ?_, ?_⟩
    · rw [added_append, hadded, List.append_assoc]
      rfl
    · intro q hq
      rcases List.mem_append.1 hq with hold | hnew
      · exact hsendable q hold
      · rw [List.mem_singleton.1 hnew]
        exact hallow
    · rw [returned_append]
      simpa [returned] using hmatches
    · rw [List.flatMap_append, hbytes, hcontents]
      simp
  | send n =>
    obtain ⟨bytes, b, hb, rfl⟩ := hstep
    obtain ⟨hdata, hend, hsend⟩ := hsender.sendPrefix hallow
    have hlt := hsender.size_lt
    obtain ⟨hring, hcontents, -⟩ := hsender.removeData hdata (by omega)
    rw [hsend] at hb
    obtain ⟨rfl, rfl⟩ : c.sender.contents.take n = bytes ∧ c.sender.removeData n = b := by
      simpa using hb
    refine ⟨sent, pending, hring, hreceiver, ?_, hsendable, ?_, ?_⟩
    · rw [added_append, hadded]
      exact List.append_nil _
    · rw [returned_append]
      simpa [returned] using hmatches
    · show _ = c.receiver.contents ++ (c.wire ++ c.sender.contents.take n) ++ _
      rw [hcontents, hbytes, List.append_assoc, List.append_assoc, List.append_assoc,
        List.take_append_drop]
  | recv n =>
    obtain ⟨b, b', hb, hb', rfl⟩ := hstep
    obtain ⟨-, hwire, -⟩ := hallow
    obtain ⟨hgrow, hfits⟩ := hroom
    obtain ⟨r, hr, hring, hcontents, hnotfull⟩ := recvRoom_run hreceiver hgrow
    rw [hr] at hb
    obtain rfl := Option.some.inj hb
    have hlen : (c.wire.take n).length = n := by
      rw [List.length_take]
      omega
    have hfit : (c.wire.take n).length ≤ r.getWriteSize := by
      rw [hlen]
      exact hfits _ hr
    obtain ⟨r', hr', hring', hcontents', -⟩ := hring.recvFill hnotfull hfit
    rw [hr'] at hb'
    obtain rfl := Option.some.inj hb'
    refine ⟨sent, pending, hsender, hring', ?_, hsendable, ?_, ?_⟩
    · rw [added_append, hadded]
      exact List.append_nil _
    · rw [returned_append]
      simpa [returned] using hmatches
    · show _ = r'.contents ++ c.wire.drop n ++ _
      rw [hcontents', hcontents, hbytes, List.append_assoc c.receiver.contents (c.wire.take n),
        List.take_append_drop]
  | get pooled outcome =>
    obtain ⟨fuel, s, hrun, rfl⟩ := hstep
    have hfront : pending.flatMap frame =
        c.receiver.contents ++ (c.wire ++ c.sender.contents) := by
      rw [hbytes, List.append_assoc]
    obtain ⟨outcome', s', hrun', hresult⟩ :=
      callResult hreceiver hsendable hfront identify hallow
    obtain ⟨rfl, rfl⟩ : outcome = outcome' ∧ s = s' := by
      simpa using getTcpPacket_unique hrun hrun'
    have hadded' : added (es ++ [.get pooled outcome]) = added es := by
      rw [added_append]
      exact List.append_nil _
    generalize hbuffer : s.buffer = b at hresult ⊢
    cases hresult with
    | drained hnil hcontents =>
      refine ⟨sent, pending, hsender, hreceiver, by rw [hadded', hadded], hsendable, ?_, hbytes⟩
      rw [returned_append]
      simpa [returned] using hmatches
    | waiting hcons hlen =>
      refine ⟨sent, pending, hsender, hreceiver, by rw [hadded', hadded], hsendable, ?_, hbytes⟩
      rw [returned_append]
      simpa [returned] using hmatches
    | @packet p got rest _ hcons hgot hring hcontents =>
      subst hcons
      refine ⟨sent ++ [p], rest, hsender, hring, ?_, ?_, ?_, ?_⟩
      · rw [hadded', hadded, List.append_assoc]
        rfl
      · exact fun q hq => hsendable q (List.mem_cons_of_mem _ hq)
      · rw [returned_append]
        exact List.rel_append hmatches (List.Forall₂.cons hgot List.Forall₂.nil)
      · rw [List.flatMap_cons, hcontents] at hbytes
        simp only [List.append_assoc] at hbytes
        rw [List.append_assoc]
        exact List.append_cancel_left hbytes

/-- **The invariant holds after every run** in which no size overflows. -/
theorem inv_of_run {identify : NetIdentify} {es : List ChannelEvent} {c : Channel}
    (hrun : (boundedChannelSystem identify).Run es c) :
    ∃ sent pending, ChannelInv es c sent pending := by
  refine hrun.invariant_trace (p := fun es c => ∃ sent pending, ChannelInv es c sent pending) ?_ ?_
  · rintro c rfl
    have hring := NetworkBuffer.ring_create_default
    exact ⟨[], [], hring, hring, rfl, by simp, List.Forall₂.nil, rfl⟩
  · rintro es c e d ⟨sent, pending, hinv⟩ ⟨hroom, hallow, hstep⟩
    exact step_inv hinv hallow hroom hstep

/-! ### The round trip -/

theorem ChannelInv.delivers {es : List ChannelEvent} {c : Channel} {sent pending : List Packet}
    (h : ChannelInv es c sent pending) (identify : NetIdentify) : Delivers identify es c := by
  refine ⟨sent, pending, h.added_eq, h.sent_matches, h.bytes_eq, fun pooled hpooled => ?_⟩
  have hfront : pending.flatMap frame =
      c.receiver.contents ++ (c.wire ++ c.sender.contents) := by
    rw [h.bytes_eq, List.append_assoc]
  obtain ⟨outcome, s, hrun, hresult⟩ :=
    callResult h.receiver_ring h.sendable hfront identify hpooled
  refine ⟨1, outcome, s, hrun, ?_⟩
  generalize s.buffer = b at hresult
  cases hresult with
  | drained hnil hcontents =>
    subst hnil
    exact hcontents
  | waiting hcons hlen =>
    subst hcons
    exact hlen
  | packet hcons hgot _ _ =>
    subst hcons
    exact hgot

theorem ChannelInv.proceeds {es : List ChannelEvent} {c : Channel} {sent pending : List Packet}
    (h : ChannelInv es c sent pending) (identify : NetIdentify) {e : ChannelEvent}
    (hallow : e.Allowed c) (hroom : e.Room c) : Proceeds identify c e := by
  cases e with
  | add p =>
    obtain ⟨b, hb, -⟩ := addPacket_frame h.sender_ring hallow hroom
    exact ⟨_, 1, b, hb, rfl⟩
  | send n =>
    obtain ⟨-, -, hsend⟩ := h.sender_ring.sendPrefix hallow
    exact ⟨_, _, _, hsend, rfl⟩
  | recv n =>
    obtain ⟨r, hr, hring, -, hnotfull⟩ := recvRoom_run h.receiver_ring hroom.1
    have hfit : (c.wire.take n).length ≤ r.getWriteSize := by
      rw [List.length_take, Nat.min_eq_left hallow.2.1]
      exact hroom.2 r hr
    obtain ⟨b, hb, -⟩ := hring.recvFill hnotfull hfit
    exact ⟨_, r, b, hr, hb, rfl⟩
  | get pooled outcome => trivial

/-- When nothing is under way, everything that was added was returned. -/
theorem ChannelInv.all_returned {es : List ChannelEvent} {c : Channel} {sent pending : List Packet}
    (h : ChannelInv es c sent pending)
    (hnil : c.receiver.contents ++ c.wire ++ c.sender.contents = []) :
    List.Forall₂ Matches (added es) (returned es) := by
  have hbytes := h.bytes_eq
  rw [hnil] at hbytes
  have hpending : pending = [] := by
    cases pending with
    | nil => rfl
    | cons p rest =>
      have hpos := length_frame_pos (h.sendable p (List.mem_cons_self ..))
      rw [List.flatMap_cons] at hbytes
      rw [(List.append_eq_nil_iff.1 hbytes).1] at hpos
      exact absurd hpos (Nat.lt_irrefl _)
  rw [h.added_eq, hpending, List.append_nil]
  exact h.sent_matches

/-- **The framing round trip.**  After every run in which no size overflows, the packets returned
are the first ones added, in order and each once; the frames of the others are exactly the bytes
under way; the next call of the decoder returns the next of them, or nothing while its frame is
incomplete; and no event that can happen next leaves an allocation. -/
theorem channel_delivers {identify : NetIdentify} {es : List ChannelEvent} {c : Channel}
    (hrun : (boundedChannelSystem identify).Run es c) :
    Delivers identify es c ∧
      (c.receiver.contents ++ c.wire ++ c.sender.contents = [] →
        List.Forall₂ Matches (added es) (returned es)) ∧
      ∀ e : ChannelEvent, e.Allowed c → e.Room c → Proceeds identify c e := by
  obtain ⟨sent, pending, hinv⟩ := inv_of_run hrun
  exact ⟨hinv.delivers identify, hinv.all_returned, fun e hallow hroom =>
    hinv.proceeds identify hallow hroom⟩

/-- A packet without tags and with a body of `n` zeros, in an allocation that has grown once. -/
def zerosPacket (n : ℕ) : Packet :=
  ⟨⟨List.replicate (defaultPacketBufferSize + additionalSize) 0, 0, n⟩,
    ⟨SocketKey.none, TagKey.clear⟩, .c2sMove, 0, false⟩

theorem headSize_zerosPacket (n : ℕ) : (zerosPacket n).headSize = 2 := rfl

theorem sendable_zerosPacket {n : ℕ} (hn : n ≤ 65529) : (zerosPacket n).Sendable where
  beginIndex_eq := rfl
  endIndex_le := by
    have hlen : (zerosPacket n).bytes.length = 141312 := by
      rw [zerosPacket, List.length_replicate]
      rfl
    rw [hlen]
    show n ≤ 141312
    omega
  not_http := rfl
  size_le := by
    rw [headSize_zerosPacket]
    show n + 2 + 2 * 2 ≤ 65535
    omega

theorem totalSize_zerosPacket {n : ℕ} (hn : n ≤ 65529) : (zerosPacket n).totalSize = n + 6 := by
  rw [(sendable_zerosPacket hn).totalSize_eq, headSize_zerosPacket]
  rfl

theorem step_add {identify : NetIdentify} {b c r : NetworkBuffer} {wire : List UInt8} {p : Packet}
    (hp : p.Sendable) (hc : addPacket 1 b p = some c) :
    (channelSystem identify).step ⟨b, wire, r⟩ (.add p) ⟨c, wire, r⟩ :=
  ⟨hp, 1, c, hc, rfl⟩

/-! ### Byte by byte -/

section

variable {identify : NetIdentify} {es : List ChannelEvent} {s r : NetworkBuffer} {wire : List UInt8}

/-- A ring of a few bytes exposes one of them at least. -/
theorem one_le_sendGetBuffer {b : NetworkBuffer} (h : b.Ring) (hsize : b.bufferSize < 2 ^ 31)
    (hdata : 0 < b.dataSize) : (1 : ℤ) ≤ b.sendGetBuffer.2 := by
  have hbegin := h.begin_lt
  have hend := h.end_lt
  unfold NetworkBuffer.sendGetBuffer
  rw [if_neg (by omega)]
  split
  · rw [sub32_eq (by omega) (by omega)]
    simp only [toInt32]
    rw [if_pos (by omega)]
    omega
  · rw [sub32_eq (by omega) (by omega)]
    simp only [toInt32]
    rw [if_pos (by omega)]
    omega

/-- The bytes that are held leave the sender one by one. -/
theorem run_sends (hrun : (boundedChannelSystem identify).Run es ⟨s, wire, r⟩) (hring : s.Ring)
    (hsize : s.bufferSize < 2 ^ 31) :
    ∃ s', (boundedChannelSystem identify).Run (es ++ List.replicate s.contents.length (.send 1))
      ⟨s', wire ++ s.contents, r⟩ ∧ s'.contents = [] := by
  induction hlength : s.contents.length generalizing es s wire with
  | zero =>
    have hnil := List.eq_nil_of_length_eq_zero hlength
    refine ⟨s, ?_, hnil⟩
    rw [hnil, List.append_nil, List.replicate_zero, List.append_nil]
    exact hrun
  | succ k ih =>
    have hdata := hring.length_contents
    have hallow : ((1 : ℕ) : ℤ) ≤ s.sendGetBuffer.2 := one_le_sendGetBuffer hring hsize (by omega)
    obtain ⟨hle, hend, hsend⟩ := hring.sendPrefix hallow
    obtain ⟨hring', hcontents, hsize', -⟩ := hring.removeData hle (by omega)
    have hstep : (boundedChannelSystem identify).step ⟨s, wire, r⟩ (.send 1)
        ⟨s.removeData 1, wire ++ s.contents.take 1, r⟩ :=
      ⟨trivial, hallow, s.contents.take 1, s.removeData 1, hsend, rfl⟩
    obtain ⟨s', hrun', hnil⟩ := ih (hrun.step hstep) hring' (by omega) (by
      rw [hcontents, List.length_drop, hlength]
      rfl)
    refine ⟨s', ?_, hnil⟩
    rw [hcontents, List.append_assoc, List.append_assoc, List.take_append_drop] at hrun'
    exact hrun'

/-- The bytes on the wire arrive one by one. -/
theorem run_recvs (hrun : (boundedChannelSystem identify).Run es ⟨s, wire, r⟩) (hring : r.Ring)
    (hsize : r.bufferSize < 2 ^ 31) (hroom : r.contents.length + wire.length + 24 ≤ r.bufferSize) :
    ∃ r', (boundedChannelSystem identify).Run (es ++ List.replicate wire.length (.recv 1)) ⟨s, [], r'⟩ ∧
      r'.Ring ∧ r'.contents = r.contents ++ wire := by
  induction wire generalizing es r with
  | nil =>
    refine ⟨r, ?_, hring, (List.append_nil _).symm⟩
    rw [List.length_nil, List.replicate_zero, List.append_nil]
    exact hrun
  | cons c wire ih =>
    have hdata := hring.length_contents
    have hempty := hring.getEmptySize_eq
    rw [List.length_cons] at hroom
    have hstays : recvRoom r = some r :=
      if_neg (by rw [hempty, show sizeofPacketHeadS2S + sizeofTotalSizeType * 2 = 24 from rfl]; omega)
    have hpos := hring.getWriteSize_pos
    have hwrite := hring.getWriteSize_le (by omega)
    have hint : r.recvGetBuffer.2 = r.getWriteSize := if_pos (by omega)
    have hlimit : recvLimit r = r.getWriteSize := by
      rw [recvLimit, if_neg (by rw [hint]; omega), hint]
    have hone : [c].length ≤ r.getWriteSize := hpos
    obtain ⟨r₁, hfill, hring₁, hcontents₁, hsize₁, -⟩ := hring.recvFill (by omega) hone
    have hallow : ChannelEvent.Allowed ⟨s, c :: wire, r⟩ (.recv 1) := by
      refine ⟨Nat.one_pos, by rw [List.length_cons]; omega, fun b hb => ?_⟩
      obtain rfl := Option.some.inj (hstays.symm.trans hb)
      rw [hlimit]
      omega
    have hfits : ChannelEvent.Room ⟨s, c :: wire, r⟩ (.recv 1) := by
      refine ⟨Or.inl (by rw [hempty]; omega), fun b hb => ?_⟩
      obtain rfl := Option.some.inj (hstays.symm.trans hb)
      exact hpos
    have hstep : (boundedChannelSystem identify).step ⟨s, c :: wire, r⟩ (.recv 1) ⟨s, wire, r₁⟩ :=
      ⟨hfits, hallow, r, r₁, hstays, hfill, rfl⟩
    obtain ⟨r', hrun', hring', hcontents'⟩ := ih (hrun.step hstep) hring₁ (by omega) (by
      rw [hcontents₁, List.length_append, List.length_singleton]
      omega)
    refine ⟨r', ?_, hring', ?_⟩
    · rw [List.append_assoc] at hrun'
      exact hrun'
    · rw [hcontents', hcontents₁, List.append_assoc]
      rfl

/-- A packet whose frame has arrived is returned. -/
theorem run_get (hrun : (boundedChannelSystem identify).Run es ⟨s, wire, r⟩) (hring : r.Ring) {p : Packet}
    {rest : List Packet} (hsend : ∀ q ∈ p :: rest, q.Sendable) (hcontents : r.contents = (p :: rest).flatMap frame) :
    ∃ got r', (boundedChannelSystem identify).Run (es ++ [.get Packet.create (.packet got)]) ⟨s, wire, r'⟩ ∧
      r'.Ring ∧ r'.contents = rest.flatMap frame := by
  obtain ⟨outcome, ⟨r', log⟩, hget, hresult⟩ := callResult hring hsend
    (by rw [List.append_nil, hcontents]) identify Packet.pooled_create
  cases hresult with
  | drained hnil => cases hnil
  | waiting hcons hlen =>
    obtain ⟨rfl, rfl⟩ := List.cons.inj hcons
    rw [hcontents, List.flatMap_cons, List.length_append] at hlen
    omega
  | packet hcons hgot hring' hrest =>
    obtain ⟨rfl, rfl⟩ := List.cons.inj hcons
    refine ⟨_, r', hrun.step ⟨trivial, Packet.pooled_create, 1, _, hget, rfl⟩, hring', ?_⟩
    rw [hcontents, List.flatMap_cons] at hrest
    exact (List.append_cancel_left hrest).symm

end

/-- **Two packets** are added to a new connection; their bytes are sent and received one by one, and both packets are
returned. -/
theorem channel_delivers_two : ∃ (c : Channel) (got got' : Packet),
    (boundedChannelSystem (NetIdentify.ofSocket 5)).Run
      ([.add (zerosPacket 10), .add (zerosPacket 20)] ++ List.replicate 42 (.send 1) ++
        List.replicate 42 (.recv 1) ++
        [.get Packet.create (.packet got), .get Packet.create (.packet got')]) c ∧
    List.Forall₂ Matches [zerosPacket 10, zerosPacket 20] [got, got'] := by
  have hsend := sendable_zerosPacket (n := 10) (by decide)
  have hsend' := sendable_zerosPacket (n := 20) (by decide)
  have htotal := totalSize_zerosPacket (n := 10) (by decide)
  have htotal' := totalSize_zerosPacket (n := 20) (by decide)
  have hring := NetworkBuffer.ring_create_default
  have hnil : (NetworkBuffer.create defaultBufferSize).contents = [] := rfl
  have hfresh : (NetworkBuffer.create defaultBufferSize).bufferSize = 131072 := NetworkBuffer.bufferSize_create _
  have hdata : (NetworkBuffer.create defaultBufferSize).dataSize = 0 := rfl
  have hinit : (boundedChannelSystem (NetIdentify.ofSocket 5)).Run []
      ⟨NetworkBuffer.create defaultBufferSize, [], NetworkBuffer.create defaultBufferSize⟩ := System.Run.init rfl
  generalize NetworkBuffer.create defaultBufferSize = fresh at hring hnil hfresh hdata hinit
  -- both packets are added
  have hroom : (zerosPacket 10).totalSize ≤ fresh.getEmptySize := by
    rw [hring.getEmptySize_eq]
    omega
  obtain ⟨b, hb, hbring, hbcontents, hbdata, hbsize⟩ := addPacket_frame hring hsend (Or.inl hroom)
  have hroom' : (zerosPacket 20).totalSize ≤ b.getEmptySize := by
    rw [hbring.getEmptySize_eq]
    omega
  obtain ⟨b', hb', hbring', hbcontents', -, hbsize'⟩ := addPacket_frame hbring hsend' (Or.inl hroom')
  have hstep : (boundedChannelSystem (NetIdentify.ofSocket 5)).step ⟨fresh, [], fresh⟩ (.add (zerosPacket 10))
      ⟨b, [], fresh⟩ := ⟨Or.inl hroom, step_add hsend hb⟩
  have hstep' : (boundedChannelSystem (NetIdentify.ofSocket 5)).step ⟨b, [], fresh⟩ (.add (zerosPacket 20))
      ⟨b', [], fresh⟩ := ⟨Or.inl hroom', step_add hsend' hb'⟩
  have hadded := (hinit.step hstep).step hstep'
  have hframes : b'.contents = [zerosPacket 10, zerosPacket 20].flatMap frame := by
    rw [hbcontents', hbcontents, hnil]
    simp
  have hlength : b'.contents.length = 42 := by
    rw [hframes, List.flatMap_cons, List.flatMap_cons, List.flatMap_nil, List.append_nil, List.length_append,
      hsend.length_frame, hsend'.length_frame, htotal, htotal']
  -- their bytes come to the other side
  obtain ⟨s, hsent, hempty⟩ := run_sends hadded hbring' (by omega)
  obtain ⟨r, hreceived, hrring, hrcontents⟩ := run_recvs hsent hring (by omega) (by
    rw [List.nil_append, hnil, hlength, List.length_nil]
    omega)
  rw [hnil, List.nil_append, List.nil_append, hframes] at hrcontents
  -- and are taken from there
  have hsendable : ∀ p ∈ [zerosPacket 10, zerosPacket 20], p.Sendable := by
    intro p hp
    rcases List.mem_cons.1 hp with rfl | hp
    · exact hsend
    · rw [List.mem_singleton.1 hp]
      exact hsend'
  obtain ⟨got, r₁, hgot, hring₁, hcontents₁⟩ := run_get hreceived hrring hsendable hrcontents
  obtain ⟨got', r₂, hgot', -, hcontents₂⟩ := run_get hgot hring₁
    (fun p hp => hsendable p (List.mem_cons_of_mem _ hp)) hcontents₁
  simp only [List.nil_append, hlength] at hgot'
  have hall := (channel_delivers hgot').2.1 (by rw [hcontents₂, hempty]; rfl)
  refine ⟨⟨s, [], r₂⟩, got, got', ?_, ?_⟩
  · rw [List.append_assoc] at hgot'
    exact hgot'
  · have hnone : ∀ k, added (List.replicate k (.send 1)) = [] ∧ added (List.replicate k (.recv 1)) = [] ∧
        returned (List.replicate k (.send 1)) = [] ∧ returned (List.replicate k (.recv 1)) = [] := by
      intro k
      induction k with
      | zero => exact ⟨rfl, rfl, rfl, rfl⟩
      | succ k ih => exact ih
    simpa [added_append, returned_append, hnone, added, returned] using hall

/-! ### The send ring overflows -/

/-- Packets of the largest size, one after the other, and nothing sent: the ring grows no further
than it has to. -/
theorem exists_run_zerosPacket (identify : NetIdentify) (k : ℕ) (hk : k ≤ 65534) :
    ∃ es b, (channelSystem identify).Run es ⟨b, [], NetworkBuffer.create defaultBufferSize⟩ ∧
      b.Ring ∧ b.dataSize = k * 65535 ∧
      (b.bufferSize = 131072 ∨ b.bufferSize < b.dataSize + 131072) := by
  induction k with
  | zero =>
    exact ⟨[], _, System.Run.init rfl, NetworkBuffer.ring_create_default, rfl,
      Or.inl (NetworkBuffer.bufferSize_create _)⟩
  | succ k ih =>
    obtain ⟨es, b, hrun, hring, hdata, hsize⟩ := ih (by omega)
    have hsend := sendable_zerosPacket (n := 65529) (by decide)
    have htotal := totalSize_zerosPacket (n := 65529) (by decide)
    have hadd : additionalSize = 131072 := rfl
    have hempty := hring.getEmptySize_eq
    obtain ⟨c, hc, hcring, -, hcdata, hcsize⟩ := addPacket_frame hring hsend (by omega)
    refine ⟨_, c, hrun.step (step_add hsend hc), hcring, ?_, ?_⟩
    · rw [hcdata, htotal, hdata]
      omega
    · omega

/-- **The send ring overflows.**  After 65534 packets of the largest size it has the last size
below `2 ^ 32`, and the next packet makes it grow to nothing at all. -/
theorem not_channel_delivers :
    ¬ ∀ (identify : NetIdentify) (es : List ChannelEvent) (c : Channel),
      (channelSystem identify).Run es c → Delivers identify es c ∧
        ∀ e : ChannelEvent, e.Allowed c → Proceeds identify c e := by
  intro hall
  obtain ⟨es, b, hrun, hring, hdata, hsize⟩ :=
    exists_run_zerosPacket (NetIdentify.ofSocket 5) 65534 (Nat.le_refl _)
  have hsend := sendable_zerosPacket (n := 65529) (by decide)
  have htotal := totalSize_zerosPacket (n := 65529) (by decide)
  have hempty := hring.getEmptySize_eq
  have hle := hring.data_le
  have hlt := hring.size_lt
  have hadd : additionalSize = 131072 := rfl
  have hlast : b.bufferSize + additionalSize = 2 ^ 32 := by
    obtain ⟨n, hn⟩ := hring.size_dvd
    rw [hadd] at hn ⊢
    omega
  obtain ⟨d, fuel, c, hc, -⟩ := (hall _ _ _ hrun).2 (.add (zerosPacket 65529)) hsend
  have hlacks : NetworkBuffer.lacks (zerosPacket 65529).totalSize b = true := by
    refine decide_eq_true ?_
    omega
  have hgrow := Loop.run_of_body_none fuel hlacks
    (hring.reAllocBuffer_overflow hlast (by omega))
  unfold addPacket NetworkBuffer.grow at hc
  rw [hgrow] at hc
  cases hc

end MmoServer
