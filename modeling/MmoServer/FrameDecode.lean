/-
**Taking a packet out of the receive ring.**

A frame is its total length, the length of its head, the head and the body.  The head is the short
one of a client's packet, or the long one that servers use among themselves, with two serial
numbers.  `GetTcpPacket` reads these one after the other, and removes each from the ring as soon as
it is read; both lengths come from the network.

The translation keeps a list of what the function does to the ring and of the subtractions it
makes, so that what it does on the way can be stated, and not only what it returns.

Main definitions:

* `MmoServer.RecvM` — computations on a receive ring;
* `MmoServer.getTcpPacket` — the decoder;
* `MmoServer.StaysInside` — every copy lies inside the frame and nothing wraps below zero;
* `MmoServer.DecodesSafely` — what the decoder should do with a ring.

Main results:

* `MmoServer.getTcpPacket_waiting` — an incomplete frame is left alone;
* `MmoServer.getTcpPacket_frame` — a frame whose lengths agree is consumed, and its packet is
  determined by its bytes;
* `MmoServer.not_staysInside_of_short` — a frame that is shorter than its own head is not;
* `MmoServer.decodesSafely_iff` — **the decoder is safe exactly on these**.
-/

import MmoServer.LittleEndian
import MmoServer.NetworkBufferRing
import MmoServer.Packet

set_option relaxedAutoImplicit false
set_option autoImplicit false

namespace MmoServer

/-! ### Computations on a receive ring -/

/-- One thing the decoder does that a wrong length could make unsafe. -/
inductive Access
  /-- `MemcpyFromBuffer` of so many bytes. -/
  | copy (size : ℕ)
  /-- `RemoveData` of so many bytes. -/
  | remove (size : ℕ)
  /-- So many bytes of head are subtracted from the total length. -/
  | subtract (size : ℕ)
  deriving DecidableEq

/-- The ring, and what was done so far. -/
structure RecvState where
  buffer : NetworkBuffer
  accesses : List Access

/-- A computation on the receive ring.  It fails where the code would leave an allocation. -/
abbrev RecvM := StateT RecvState Option

namespace RecvM

/-- `_dataSize`. -/
def dataSize : RecvM ℕ := fun s => some (s.buffer.dataSize, s)

/-- `MemcpyFromBuffer`. -/
def memcpyFromBuffer (size : ℕ) : RecvM (List UInt8) := fun s =>
  (s.buffer.memcpyFromBuffer size).map fun out =>
    (out, { s with accesses := s.accesses ++ [.copy size] })

/-- `RemoveData`. -/
def removeData (size : ℕ) : RecvM Unit := fun s =>
  some ((), ⟨s.buffer.removeData size, s.accesses ++ [.remove size]⟩)

/-- `totalSize - size`, as an `unsigned int`. -/
def subtract (totalSize size : ℕ) : RecvM ℕ := fun s =>
  some (sub32 totalSize size, { s with accesses := s.accesses ++ [.subtract size] })

/-- An operation of a packet. -/
def lift {α : Type} (x : Option α) : RecvM α := fun s => x.map fun a => (a, s)

end RecvM

/-! ### The decoder -/

/-- `PacketHead`, and of `PacketHeadS2S` the two serial numbers. -/
structure PacketHead where
  msgId : ℕ
  s2s : Option (UInt64 × UInt64)
  deriving DecidableEq

/-- The bytes of a `PacketHead`. -/
def PacketHead.ofBytes (bytes : List UInt8) : PacketHead :=
  ⟨LittleEndian.ofBytes (bytes.take 2), none⟩

/-- The bytes of a `PacketHeadS2S`: the serial numbers follow two bytes of padding. -/
def PacketHead.ofBytesS2S (bytes : List UInt8) : PacketHead :=
  ⟨LittleEndian.ofBytes (bytes.take 2),
    some (UInt64.ofNat (LittleEndian.ofBytes ((bytes.drop 4).take 8)),
      UInt64.ofNat (LittleEndian.ofBytes ((bytes.drop 12).take 8)))⟩

/-- What `GetTcpPacket` returns; `close` is a `nullptr` after `ConnectObj::Close`. -/
inductive RecvOutcome
  | nullptr
  | close
  | packet (p : Packet)

/-- Read the head.  Its length says which of the two it is; any other length than the short one
is taken for the long one.  (The source reads the head through a pointer to a variable whose block
has ended; here its bytes are the ones that were copied.) -/
def getHead (headSize : ℕ) : RecvM PacketHead :=
  if headSize = sizeofPacketHead then do
    let bytes ← RecvM.memcpyFromBuffer sizeofPacketHead
    RecvM.removeData sizeofPacketHead
    pure (PacketHead.ofBytes bytes)
  else do
    let bytes ← RecvM.memcpyFromBuffer sizeofPacketHeadS2S
    RecvM.removeData sizeofPacketHeadS2S
    pure (PacketHead.ofBytesS2S bytes)

/-- `dataLength`: the total length without the heads. -/
def getDataLength (totalSize : ℕ) (head : PacketHead) : RecvM ℕ := do
  let dataLength ← RecvM.subtract totalSize (sizeofPacketHead + sizeofTotalSizeType * 2)
  if head.s2s.isSome then
    RecvM.subtract totalSize (sizeofPacketHeadS2S + sizeofTotalSizeType * 2)
  else
    pure dataLength

/-- The two tags that a long head sets. -/
def Packet.addHeadTags (p : Packet) (head : PacketHead) : Packet :=
  match head.s2s with
  | none => p
  | some (entitySn, playerSn) =>
    { p with tagKey := (p.tagKey.addTagInt .entity entitySn).addTagInt .player playerSn }

/-- Read the body into a packet.  `fuel` bounds the rounds of the loop that makes room. -/
def getBody (fuel : ℕ) (packet : Packet) (totalSize : ℕ) (head : PacketHead) :
    RecvM RecvOutcome := do
  let dataLength ← getDataLength totalSize head
  let packet ← RecvM.lift (packet.grow fuel dataLength)
  let bytes ← RecvM.memcpyFromBuffer dataLength
  let packet ← RecvM.lift (packet.memcpy bytes)
  RecvM.removeData dataLength
  pure (.packet ((packet.fillData dataLength).addHeadTags head))

/-- The part of `GetTcpPacket` behind the head: the message id is checked, and the body read. -/
def getMessage (fuel : ℕ) (identify : NetIdentify) (pooled : Packet) (totalSize : ℕ)
    (head : PacketHead) : RecvM RecvOutcome :=
  match MsgId.findValueByNumber head.msgId with
  | none => pure .close
  | some msgId => getBody fuel (pooled.awake msgId (some identify)) totalSize head

/-- The part of `GetTcpPacket` behind the total length. -/
def getFrame (fuel : ℕ) (identify : NetIdentify) (pooled : Packet) (totalSize : ℕ) :
    RecvM RecvOutcome := do
  let headSize ← RecvM.memcpyFromBuffer sizeofTotalSizeType
  RecvM.removeData sizeofTotalSizeType
  let head ← getHead (LittleEndian.ofBytes headSize)
  getMessage fuel identify pooled totalSize head

/-- `RecvNetworkBuffer::GetTcpPacket`.  The identification is the one of the connection, and the
packet is the one that the pool hands out. -/
def getTcpPacket (fuel : ℕ) (identify : NetIdentify) (pooled : Packet) : RecvM RecvOutcome := do
  let dataSize ← RecvM.dataSize
  if dataSize < sizeofTotalSizeType then
    pure .nullptr
  else do
    let totalSize ← RecvM.memcpyFromBuffer sizeofTotalSizeType
    if dataSize < LittleEndian.ofBytes totalSize then
      pure .nullptr
    else do
      RecvM.removeData sizeofTotalSizeType
      getFrame fuel identify pooled (LittleEndian.ofBytes totalSize)

/-! ### What the decoder should do -/

/-- The total length that the bytes of a ring begin with. -/
def totalSizeOf (q : List UInt8) : ℕ := LittleEndian.ofBytes (q.take 2)

/-- The length of the head that the bytes of a ring announce. -/
def headSizeOf (q : List UInt8) : ℕ := LittleEndian.ofBytes ((q.drop 2).take 2)

/-- The length of the head that the decoder reads. -/
def headLengthOf (q : List UInt8) : ℕ :=
  if headSizeOf q = sizeofPacketHead then sizeofPacketHead else sizeofPacketHeadS2S

/-- The head that the decoder reads. -/
def headOf (q : List UInt8) : PacketHead :=
  if headSizeOf q = sizeofPacketHead then PacketHead.ofBytes ((q.drop 4).take sizeofPacketHead)
  else PacketHead.ofBytesS2S ((q.drop 4).take sizeofPacketHeadS2S)

/-- The body of the first frame. -/
def bodyOf (q : List UInt8) : List UInt8 :=
  (q.take (totalSizeOf q)).drop (4 + headLengthOf q)

/-- From a position inside a frame of `total` bytes, with so many bytes held by the ring: every
copy ends inside the frame, no removal is of more bytes than are held, and no subtraction from
the total length is of more than that. -/
def StaysInside (total : ℕ) : ℕ → ℕ → List Access → Prop
  | _, _, [] => True
  | pos, size, .copy n :: l => pos + n ≤ total ∧ StaysInside total pos size l
  | pos, size, .remove n :: l => n ≤ size ∧ StaysInside total (pos + n) (size - n) l
  | pos, size, .subtract n :: l => n ≤ total ∧ StaysInside total pos size l

/-- The frame that the ring begins with is not complete. -/
def Waiting (q : List UInt8) : Prop := q.length < 2 ∨ q.length < totalSizeOf q
  deriving Decidable

/-- The lengths of the frame that the ring begins with agree: the head is part of it. -/
def HeadFits (q : List UInt8) : Prop := 4 + headLengthOf q ≤ totalSizeOf q
  deriving Decidable

/-- **Safety of one call.**  After finitely many growth steps of the packet the call returns.  The
ring is in good order, the call stayed inside the frame, and it consumed nothing, or exactly the
frame, or it closed the connection. -/
def DecodesSafely (b : NetworkBuffer) (identify : NetIdentify) (pooled : Packet) : Prop :=
  ∃ fuel outcome s, getTcpPacket fuel identify pooled ⟨b, []⟩ = some (outcome, s) ∧
    s.buffer.Ring ∧ StaysInside (totalSizeOf b.contents) 0 b.dataSize s.accesses ∧
    match outcome with
    | .nullptr => s.buffer = b
    | .close => True
    | .packet _ => totalSizeOf b.contents ≤ b.dataSize ∧
        s.buffer.contents = b.contents.drop (totalSizeOf b.contents)

/-! ### Running the steps -/

namespace RecvM

variable {α β : Type}

theorem run_bind (m : RecvM α) (f : α → RecvM β) (s : RecvState) :
    (m >>= f) s = (m s).bind fun p => f p.1 p.2 := rfl

/-- The rest of a computation, after a first step that is known. -/
theorem run_bind_of {m : RecvM α} {s t : RecvState} {a : α} (h : m s = some (a, t))
    (f : α → RecvM β) : (m >>= f) s = f a t := by
  rw [run_bind, h, Option.bind_some]

theorem run_removeData (n : ℕ) (s : RecvState) :
    removeData n s = some ((), ⟨s.buffer.removeData n, s.accesses ++ [Access.remove n]⟩) := rfl

theorem lift_some (a : α) (s : RecvState) : lift (some a) s = some (a, s) := rfl

theorem run_pure (a : α) (s : RecvState) : (pure a : RecvM α) s = some (a, s) := rfl

/-- What is done last is at the end of the list: nothing is taken back. -/
def Appends (m : RecvM α) : Prop :=
  ∀ s a t, m s = some (a, t) → s.accesses <+: t.accesses

theorem appends_pure (a : α) : Appends (pure a : RecvM α) := by
  rintro s b t h
  obtain ⟨rfl, rfl⟩ : a = b ∧ s = t := by simpa [run_pure] using h
  exact List.prefix_rfl

theorem appends_bind {m : RecvM α} {f : α → RecvM β} (hm : Appends m) (hf : ∀ a, Appends (f a)) :
    Appends (m >>= f) := by
  intro s b u h
  rw [run_bind] at h
  cases hms : m s with
  | none => rw [hms] at h; simp at h
  | some p =>
    rw [hms] at h
    exact (hm s p.1 p.2 hms).trans (hf p.1 p.2 b u h)

theorem appends_memcpyFromBuffer (size : ℕ) : Appends (memcpyFromBuffer size) := by
  intro s out t h
  unfold memcpyFromBuffer at h
  cases hb : s.buffer.memcpyFromBuffer size with
  | none => rw [hb] at h; simp at h
  | some bytes =>
    rw [hb] at h
    obtain ⟨-, rfl⟩ : bytes = out ∧ { s with accesses := s.accesses ++ [Access.copy size] } = t := by
      simpa using h
    exact List.prefix_append _ _

theorem appends_removeData (size : ℕ) : Appends (removeData size) := by
  intro s out t h
  obtain rfl : ⟨s.buffer.removeData size, s.accesses ++ [Access.remove size]⟩ = t := by
    simpa [removeData] using h
  exact List.prefix_append _ _

theorem appends_subtract (totalSize size : ℕ) : Appends (subtract totalSize size) := by
  intro s out t h
  obtain ⟨-, rfl⟩ : sub32 totalSize size = out ∧
      { s with accesses := s.accesses ++ [Access.subtract size] } = t := by
    simpa [subtract] using h
  exact List.prefix_append _ _

theorem appends_lift (x : Option α) : Appends (lift x) := by
  intro s a t h
  cases x with
  | none => simp [lift] at h
  | some b =>
    obtain ⟨-, rfl⟩ : b = a ∧ s = t := by simpa [lift] using h
    exact List.prefix_rfl

end RecvM

/-- A removal of an `unsigned short` number of bytes does not overflow the begin index. -/
theorem NetworkBuffer.Ring.begin_add_lt {b : NetworkBuffer} (h : b.Ring) {n : ℕ}
    (hn : n < 2 ^ 16) : b.beginIndex + n < 2 ^ 32 := by
  have hle := h.size_le
  have hlt := h.begin_lt
  simp only [additionalSize] at hle
  omega

namespace RecvM

variable {α : Type}

/-- Reading the front of the ring. -/
theorem run_memcpyFromBuffer {s : RecvState} (h : s.buffer.Ring) {n : ℕ}
    (hn : n ≤ s.buffer.dataSize) (f : List UInt8 → RecvM α) :
    (memcpyFromBuffer n >>= f) s =
      f (s.buffer.contents.take n) { s with accesses := s.accesses ++ [Access.copy n] } := by
  rw [run_bind, memcpyFromBuffer, h.memcpyFromBuffer hn]
  rfl

/-- Reading the front of the ring and removing it. -/
theorem run_memcpyFromBuffer_removeData {s : RecvState} (h : s.buffer.Ring) {n : ℕ}
    (hn : n ≤ s.buffer.dataSize) (hsmall : n < 2 ^ 16) (f : List UInt8 → RecvM α) :
    ∃ c : NetworkBuffer, c.Ring ∧ c.contents = s.buffer.contents.drop n ∧
      c.dataSize = s.buffer.dataSize - n ∧
      (memcpyFromBuffer n >>= fun bytes => removeData n >>= fun _ => f bytes) s =
        f (s.buffer.contents.take n) ⟨c, s.accesses ++ [Access.copy n, Access.remove n]⟩ := by
  obtain ⟨hring, hcontents, -, hsize⟩ := h.removeData hn (h.begin_add_lt hsmall)
  refine ⟨_, hring, hcontents, hsize, ?_⟩
  rw [run_memcpyFromBuffer h hn, run_bind, removeData, List.append_assoc]
  rfl

end RecvM

/-! ### The parts of the decoder -/

theorem appends_getHead (headSize : ℕ) : RecvM.Appends (getHead headSize) := by
  unfold getHead
  split
  all_goals
    refine RecvM.appends_bind (RecvM.appends_memcpyFromBuffer _) fun _ => ?_
    refine RecvM.appends_bind (RecvM.appends_removeData _) fun _ => ?_
    exact RecvM.appends_pure _

theorem appends_getDataLength (totalSize : ℕ) (head : PacketHead) :
    RecvM.Appends (getDataLength totalSize head) := by
  unfold getDataLength
  refine RecvM.appends_bind (RecvM.appends_subtract _ _) fun _ => ?_
  split
  · exact RecvM.appends_subtract _ _
  · exact RecvM.appends_pure _

theorem appends_getBody (fuel : ℕ) (packet : Packet) (totalSize : ℕ) (head : PacketHead) :
    RecvM.Appends (getBody fuel packet totalSize head) := by
  refine RecvM.appends_bind (appends_getDataLength _ _) fun _ => ?_
  refine RecvM.appends_bind (RecvM.appends_lift _) fun _ => ?_
  refine RecvM.appends_bind (RecvM.appends_memcpyFromBuffer _) fun _ => ?_
  refine RecvM.appends_bind (RecvM.appends_lift _) fun _ => ?_
  refine RecvM.appends_bind (RecvM.appends_removeData _) fun _ => ?_
  exact RecvM.appends_pure _

/-- The short head has no serial numbers, and the long one has them. -/
theorem headLengthOf_cases (q : List UInt8) :
    (headLengthOf q = 2 ∧ (headOf q).s2s.isSome = false) ∨
      (headLengthOf q = 20 ∧ (headOf q).s2s.isSome = true) := by
  unfold headLengthOf headOf
  by_cases hhead : headSizeOf q = sizeofPacketHead
  · rw [if_pos hhead, if_pos hhead]
    exact Or.inl ⟨rfl, rfl⟩
  · rw [if_neg hhead, if_neg hhead]
    exact Or.inr ⟨rfl, rfl⟩

/-- Reading the head consumes its length, and yields the head that the bytes stand for. -/
theorem getHead_run {q : List UInt8} {s : RecvState} (h : s.buffer.Ring)
    (hq : s.buffer.contents = q.drop 4) (hn : headLengthOf q ≤ s.buffer.dataSize) :
    ∃ c : NetworkBuffer, c.Ring ∧ c.contents = q.drop (4 + headLengthOf q) ∧
      c.dataSize = s.buffer.dataSize - headLengthOf q ∧
      getHead (headSizeOf q) s = some (headOf q,
        ⟨c, s.accesses ++ [Access.copy (headLengthOf q), Access.remove (headLengthOf q)]⟩) := by
  have hdrop : ∀ n, (q.drop 4).drop n = q.drop (4 + n) := fun n => List.drop_drop ..
  unfold headLengthOf at hn ⊢
  unfold headOf getHead
  by_cases hhead : headSizeOf q = sizeofPacketHead
  · simp only [if_pos hhead] at hn ⊢
    obtain ⟨c, hring, hcontents, hsize, hrun⟩ :=
      RecvM.run_memcpyFromBuffer_removeData h hn (by decide) fun bytes =>
        pure (PacketHead.ofBytes bytes)
    rw [hq] at hrun
    exact ⟨c, hring, by rw [hcontents, hq, hdrop], hsize, hrun⟩
  · simp only [if_neg hhead] at hn ⊢
    obtain ⟨c, hring, hcontents, hsize, hrun⟩ :=
      RecvM.run_memcpyFromBuffer_removeData h hn (by decide) fun bytes =>
        pure (PacketHead.ofBytesS2S bytes)
    rw [hq] at hrun
    exact ⟨c, hring, by rw [hcontents, hq, hdrop], hsize, hrun⟩

/-- The body length is the total length without what stands before the body. -/
theorem getDataLength_run {q : List UInt8} (s : RecvState) (hfits : HeadFits q)
    (hlt : totalSizeOf q < 2 ^ 16) :
    ∃ log, getDataLength (totalSizeOf q) (headOf q) s =
      some (totalSizeOf q - (4 + headLengthOf q), ⟨s.buffer, s.accesses ++ log⟩) ∧
      ∀ pos size rest, StaysInside (totalSizeOf q) pos size rest →
        StaysInside (totalSizeOf q) pos size (log ++ rest) := by
  unfold HeadFits at hfits
  have hshort : sizeofPacketHead + sizeofTotalSizeType * 2 = 6 := rfl
  have hlong : sizeofPacketHeadS2S + sizeofTotalSizeType * 2 = 24 := rfl
  unfold getDataLength
  rw [hshort, hlong]
  rcases headLengthOf_cases q with ⟨hlen, hhead⟩ | ⟨hlen, hhead⟩
  · rw [hlen] at hfits ⊢
    refine ⟨[.subtract 6], ?_, fun pos size rest hrest => ⟨hfits, hrest⟩⟩
    rw [RecvM.run_bind, RecvM.subtract, hhead, sub32_eq (by omega) hfits]
    rfl
  · rw [hlen] at hfits ⊢
    refine ⟨[.subtract 6, .subtract 24], ?_, fun pos size rest hrest => ⟨by omega, hfits, hrest⟩⟩
    rw [RecvM.run_bind, RecvM.subtract, hhead]
    show some (sub32 (totalSizeOf q) 24, _) = _
    rw [sub32_eq (by omega) hfits, List.append_assoc]
    rfl

/-- What the first frame says about its packet, apart from the message id. -/
structure IsFrame (q : List UInt8) (identify : NetIdentify) (p : Packet) : Prop where
  body_eq : p.body = bodyOf q
  socketKey_eq : p.socketKey = identify.socketKey
  tagKey_eq : p.tagKey =
    match (headOf q).s2s with
    | none => TagKey.clear.copyFrom identify.tagKey
    | some (entitySn, playerSn) =>
      ((TagKey.clear.copyFrom identify.tagKey).addTagInt .entity entitySn).addTagInt .player playerSn

theorem Packet.Pooled.awake {p : Packet} (h : p.Pooled) (msgId : MsgId)
    (identify : Option NetIdentify) : (p.awake msgId identify).Pooled :=
  ⟨rfl, rfl, h.size_lt, h.size_mod⟩

/-- A packet with a body at the front of its allocation. -/
theorem Packet.body_fillData {p : Packet} (src : List UInt8) (hb : p.beginIndex = 0)
    (he : p.endIndex = 0) (hn : src.length < 2 ^ 16) :
    ((p.setBytes (CyclicList.overwrite p.bytes 0 src)).fillData src.length).body = src := by
  have hend : add32 p.endIndex src.length = src.length := by
    rw [he, add32_eq (by omega), Nat.zero_add]
  have hlen : sub32 src.length 0 % 2 ^ 16 = src.length := by
    rw [sub32_eq (by omega) (Nat.zero_le _), Nat.sub_zero, Nat.mod_eq_of_lt hn]
  unfold Packet.body Packet.getDataLength Packet.fillData Packet.setBytes
  simp only [hb, hend, hlen]
  rw [CyclicList.overwrite, List.take_zero, List.nil_append, List.take_left]

/-- **Reading the body** takes what the head left of the frame. -/
theorem getBody_run {q : List UInt8} {s : RecvState} {pooled : Packet} (identify : NetIdentify)
    (h : s.buffer.Ring) (hq : s.buffer.contents = q.drop (4 + headLengthOf q))
    (hsize : s.buffer.dataSize = q.length - (4 + headLengthOf q)) (hfull : totalSizeOf q ≤ q.length)
    (hfits : HeadFits q) (hlt : totalSizeOf q < 2 ^ 16) (hp : pooled.Pooled) (msgId : MsgId) :
    ∃ c p log, getBody 1 (pooled.awake msgId (some identify)) (totalSizeOf q) (headOf q) s =
        some (.packet p, ⟨c, s.accesses ++ log⟩) ∧
      c.Ring ∧ c.contents = q.drop (totalSizeOf q) ∧
      StaysInside (totalSizeOf q) (4 + headLengthOf q) s.buffer.dataSize log ∧
      p.msgId = msgId ∧ IsFrame q identify p := by
  have hfits' := hfits
  unfold HeadFits at hfits'
  have hawake := hp.awake msgId (some identify)
  generalize hn : totalSizeOf q - (4 + headLengthOf q) = n
  have hnsmall : n < 2 ^ 16 := by omega
  have hnsize : n ≤ s.buffer.dataSize := by omega
  -- the body, as a piece of the frame
  have hbody : s.buffer.contents.take n = bodyOf q := by
    rw [hq, bodyOf, List.drop_take, hn]
  have hbodylen : (bodyOf q).length = n := by
    rw [← hbody, List.length_take, h.length_contents]
    omega
  obtain ⟨log, hlog, hinside⟩ := getDataLength_run s hfits hlt
  obtain ⟨bytes, hgrow, hroom⟩ := hawake.grow hnsmall
  obtain ⟨hcring, hccontents, -, -⟩ := h.removeData hnsize (h.begin_add_lt hnsmall)
  generalize hpacket : pooled.awake msgId (some identify) = packet at hawake hgrow ⊢
  have hwrite : (packet.setBytes bytes).memcpy (bodyOf q) =
      some (packet.setBytes (CyclicList.overwrite bytes 0 (bodyOf q))) := by
    unfold Packet.memcpy
    rw [writeAt_eq (by rw [hbodylen, Nat.zero_add]; exact hroom)]
    rfl
  have hrun : getBody 1 packet (totalSizeOf q) (headOf q) s =
      some (.packet (((packet.setBytes
          (CyclicList.overwrite bytes 0 (bodyOf q))).fillData n).addHeadTags (headOf q)),
        ⟨s.buffer.removeData n, s.accesses ++ (log ++ [Access.copy n, Access.remove n])⟩) := by
    unfold getBody
    rw [RecvM.run_bind_of hlog, hn, hgrow, RecvM.run_bind_of (RecvM.lift_some _ _),
      RecvM.run_memcpyFromBuffer (s := ⟨s.buffer, s.accesses ++ log⟩) h hnsize, hbody, hwrite,
      RecvM.run_bind_of (RecvM.lift_some _ _), RecvM.run_bind_of (RecvM.run_removeData _ _),
      RecvM.run_pure]
    simp only [List.append_assoc, List.cons_append, List.nil_append]
  refine ⟨_, _, _, hrun, hcring, ?_, ?_, ?_, ?_⟩
  · rw [hccontents, hq, List.drop_drop]
    congr 1
    omega
  · exact hinside _ _ _ ⟨by omega, hnsize, trivial⟩
  · unfold Packet.addHeadTags
    split <;> rw [← hpacket] <;> rfl
  · have hbodyEq := Packet.body_fillData (p := packet.setBytes bytes) (bodyOf q)
      hawake.beginIndex_eq hawake.endIndex_eq (by omega)
    rw [hbodylen] at hbodyEq
    unfold Packet.addHeadTags
    cases hs2s : (headOf q).s2s with
    | none => exact ⟨hbodyEq, by rw [← hpacket]; rfl, by rw [hs2s, ← hpacket]; rfl⟩
    | some sn => exact ⟨hbodyEq, by rw [← hpacket]; rfl, by rw [hs2s, ← hpacket]; rfl⟩

/-! ### The decoder -/

theorem totalSizeOf_lt (q : List UInt8) : totalSizeOf q < 2 ^ 16 := by
  have hlt := LittleEndian.ofBytes_lt (q.take 2)
  have hlen : (q.take 2).length ≤ 2 := List.length_take_le ..
  have hpow : 256 ^ (q.take 2).length ≤ 256 ^ 2 := Nat.pow_le_pow_right (by decide) hlen
  unfold totalSizeOf
  omega

section

variable {b : NetworkBuffer} (identify : NetIdentify) (pooled : Packet)

/-- **An incomplete frame is left alone.** -/
theorem getTcpPacket_waiting (h : b.Ring) (hwait : Waiting b.contents) (fuel : ℕ) :
    ∃ log, getTcpPacket fuel identify pooled ⟨b, []⟩ = some (.nullptr, ⟨b, log⟩) ∧
      StaysInside (totalSizeOf b.contents) 0 b.dataSize log := by
  have hlen := h.length_contents
  unfold getTcpPacket
  rw [RecvM.run_bind_of (a := b.dataSize) rfl]
  by_cases hsize : b.dataSize < sizeofTotalSizeType
  · rw [if_pos hsize]
    exact ⟨[], rfl, trivial⟩
  · have htwo : sizeofTotalSizeType ≤ b.dataSize := Nat.le_of_not_lt hsize
    have htotal : b.dataSize < totalSizeOf b.contents := by
      rcases hwait with hshort | hshort
      · exact absurd (hlen ▸ hshort) hsize
      · exact hlen ▸ hshort
    rw [if_neg hsize, RecvM.run_memcpyFromBuffer (s := ⟨b, []⟩) h htwo]
    refine ⟨[.copy sizeofTotalSizeType], congrFun (if_pos htotal) _, ?_, trivial⟩
    omega

/-- The total length of a complete frame is read and removed. -/
theorem getTcpPacket_complete (h : b.Ring) (hwait : ¬ Waiting b.contents) (fuel : ℕ) :
    ∃ c : NetworkBuffer, c.Ring ∧ c.contents = b.contents.drop 2 ∧ c.dataSize = b.dataSize - 2 ∧
      getTcpPacket fuel identify pooled ⟨b, []⟩ =
        getFrame fuel identify pooled (totalSizeOf b.contents) ⟨c, [.copy 2, .remove 2]⟩ := by
  have hlen := h.length_contents
  unfold Waiting at hwait
  have hsize : ¬ b.dataSize < sizeofTotalSizeType := by
    show ¬ b.dataSize < 2
    omega
  have htwo : sizeofTotalSizeType ≤ b.dataSize := Nat.le_of_not_lt hsize
  have htotal : ¬ b.dataSize < totalSizeOf b.contents := by omega
  obtain ⟨hring, hcontents, -, hdata⟩ := h.removeData htwo (h.begin_add_lt (by decide))
  refine ⟨_, hring, hcontents, hdata, ?_⟩
  unfold getTcpPacket
  rw [RecvM.run_bind_of (a := b.dataSize) rfl, if_neg hsize,
    RecvM.run_memcpyFromBuffer (s := ⟨b, []⟩) h htwo]
  exact congrFun (if_neg htotal) _

/-- The length of the head is read and removed, if it has arrived. -/
theorem getFrame_run {q : List UInt8} {s : RecvState} (h : s.buffer.Ring)
    (hq : s.buffer.contents = q.drop 2) (hsize : 2 ≤ s.buffer.dataSize) (fuel totalSize : ℕ) :
    ∃ c : NetworkBuffer, c.Ring ∧ c.contents = q.drop 4 ∧ c.dataSize = s.buffer.dataSize - 2 ∧
      getFrame fuel identify pooled totalSize s =
        (getHead (headSizeOf q) >>= getMessage fuel identify pooled totalSize)
          ⟨c, s.accesses ++ [Access.copy 2, Access.remove 2]⟩ := by
  obtain ⟨c, hring, hcontents, hdata, hrun⟩ :=
    RecvM.run_memcpyFromBuffer_removeData h (n := sizeofTotalSizeType) hsize (by decide)
      fun headSize =>
        getHead (LittleEndian.ofBytes headSize) >>= getMessage fuel identify pooled totalSize
  refine ⟨c, hring, ?_, hdata, ?_⟩
  · rw [hcontents, hq, List.drop_drop]
    rfl
  · rw [hq] at hrun
    exact hrun

/-- **A frame whose lengths agree** is consumed, or the connection is closed because of its
message id; the packet is what the bytes of the frame say. -/
theorem getTcpPacket_frame (h : b.Ring) (hp : pooled.Pooled) (hwait : ¬ Waiting b.contents)
    (hfits : HeadFits b.contents) :
    ∃ outcome c log, getTcpPacket 1 identify pooled ⟨b, []⟩ = some (outcome, ⟨c, log⟩) ∧ c.Ring ∧
      StaysInside (totalSizeOf b.contents) 0 b.dataSize log ∧
      match MsgId.findValueByNumber (headOf b.contents).msgId with
      | none => outcome = .close
      | some msgId => ∃ p, outcome = .packet p ∧ p.msgId = msgId ∧
          IsFrame b.contents identify p ∧
          c.contents = b.contents.drop (totalSizeOf b.contents) := by
  have hlen := h.length_contents
  have htotal := totalSizeOf_lt b.contents
  have hfits' := hfits
  unfold HeadFits at hfits'
  obtain ⟨c, hcring, hccontents, hcsize, hcrun⟩ := getTcpPacket_complete identify pooled h hwait 1
  unfold Waiting at hwait
  have hhead := headLengthOf_cases b.contents
  obtain ⟨d, hdring, hdcontents, hdsize, hdrun⟩ :=
    getFrame_run identify pooled (s := ⟨c, [.copy 2, .remove 2]⟩) hcring hccontents
      (by show 2 ≤ c.dataSize; omega) 1 (totalSizeOf b.contents)
  simp only at hdsize
  obtain ⟨e, hering, hecontents, hesize, herun⟩ :=
    getHead_run (s := ⟨d, [Access.copy 2, Access.remove 2] ++ [Access.copy 2, Access.remove 2]⟩)
      hdring hdcontents
      (by show headLengthOf b.contents ≤ d.dataSize; omega)
  simp only at hesize
  rw [hcrun, hdrun, RecvM.run_bind_of herun, getMessage]
  cases hid : MsgId.findValueByNumber (headOf b.contents).msgId with
  | none =>
    refine ⟨.close, e, _, rfl, hering, ?_, rfl⟩
    refine ⟨by omega, by omega, by omega, by omega, by omega, ?_, trivial⟩
    omega
  | some msgId =>
    obtain ⟨c', p, log, hrun, hring', hcontents', hinside, hmsgId, hframe⟩ :=
      getBody_run identify (s := ⟨e,
        [Access.copy 2, Access.remove 2] ++ [Access.copy 2, Access.remove 2] ++
          [Access.copy (headLengthOf b.contents), Access.remove (headLengthOf b.contents)]⟩)
        hering hecontents (by show e.dataSize = _; omega) (by omega) hfits htotal hp msgId
    refine ⟨.packet p, c', _, hrun, hring', ?_, p, rfl, hmsgId, hframe, hcontents'⟩
    refine ⟨by omega, by omega, by omega, by omega, by omega, by omega, ?_⟩
    have hpos : 0 + 2 + 2 + headLengthOf b.contents = 4 + headLengthOf b.contents := by omega
    have hrest : b.dataSize - 2 - 2 - headLengthOf b.contents = e.dataSize := by omega
    rw [hpos, hrest]
    exact hinside

/-! ### Frames that are shorter than their own head -/

/-- What was done first must stay inside as well. -/
theorem StaysInside.mono {total pos size : ℕ} {l l' : List Access} (hl : l <+: l')
    (h : StaysInside total pos size l') : StaysInside total pos size l := by
  obtain ⟨rest, rfl⟩ := hl
  induction l generalizing pos size with
  | nil => trivial
  | cons a l ih =>
    cases a with
    | copy n => exact ⟨h.1, ih h.2⟩
    | remove n => exact ⟨h.1, ih h.2⟩
    | subtract n => exact ⟨h.1, ih h.2⟩

/-- A computation that begins with a copy has that copy on its list. -/
theorem RecvM.copy_mem_of_bind {α : Type} {n : ℕ} {f : List UInt8 → RecvM α}
    (hf : ∀ bytes, Appends (f bytes)) {s t : RecvState} {a : α}
    (h : (memcpyFromBuffer n >>= f) s = some (a, t)) :
    s.accesses ++ [Access.copy n] <+: t.accesses := by
  rw [run_bind, memcpyFromBuffer] at h
  cases hb : s.buffer.memcpyFromBuffer n with
  | none => rw [hb] at h; simp at h
  | some bytes =>
    rw [hb] at h
    exact hf bytes _ _ _ h

theorem getHead_copies {q : List UInt8} {s t : RecvState} {head : PacketHead}
    (h : getHead (headSizeOf q) s = some (head, t)) :
    s.accesses ++ [Access.copy (headLengthOf q)] <+: t.accesses := by
  unfold headLengthOf
  unfold getHead at h
  by_cases hhead : headSizeOf q = sizeofPacketHead
  · rw [if_pos hhead] at h ⊢
    exact RecvM.copy_mem_of_bind (fun _ => RecvM.appends_bind (RecvM.appends_removeData _)
      fun _ => RecvM.appends_pure _) h
  · rw [if_neg hhead] at h ⊢
    exact RecvM.copy_mem_of_bind (fun _ => RecvM.appends_bind (RecvM.appends_removeData _)
      fun _ => RecvM.appends_pure _) h

theorem appends_getMessage (fuel totalSize : ℕ) (head : PacketHead) :
    RecvM.Appends (getMessage fuel identify pooled totalSize head) := by
  unfold getMessage
  split
  · exact RecvM.appends_pure _
  · exact appends_getBody _ _ _ _

/-- **A complete frame that is shorter than its own head is not decoded safely.**  The copy of the
length of the head, or the copy of the head itself, ends outside of it. -/
theorem not_staysInside_of_short (h : b.Ring) (hwait : ¬ Waiting b.contents)
    (hfits : ¬ HeadFits b.contents) {fuel : ℕ} {outcome : RecvOutcome} {t : RecvState}
    (hrun : getTcpPacket fuel identify pooled ⟨b, []⟩ = some (outcome, t)) :
    ¬ StaysInside (totalSizeOf b.contents) 0 b.dataSize t.accesses := by
  intro hinside
  have hlen := h.length_contents
  unfold HeadFits at hfits
  obtain ⟨c, hcring, hccontents, hcsize, hcrun⟩ :=
    getTcpPacket_complete identify pooled h hwait fuel
  unfold Waiting at hwait
  rw [hcrun] at hrun
  rcases Nat.lt_or_ge (totalSizeOf b.contents) 4 with hsmall | hbig
  · -- the length of the head lies outside of the frame
    have hcopy := RecvM.copy_mem_of_bind (fun headSize =>
      RecvM.appends_bind (RecvM.appends_removeData _) fun _ =>
        RecvM.appends_bind (appends_getHead _) fun _ => appends_getMessage identify pooled _ _ _) hrun
    obtain ⟨-, -, hthird, -⟩ := hinside.mono hcopy
    have htwo : 0 + 2 + 2 ≤ totalSizeOf b.contents := hthird
    omega
  · -- the head does
    obtain ⟨d, -, -, -, hdrun⟩ :=
      getFrame_run identify pooled (s := ⟨c, [.copy 2, .remove 2]⟩) hcring hccontents
        (by show 2 ≤ c.dataSize; omega) fuel (totalSizeOf b.contents)
    rw [hdrun, RecvM.run_bind] at hrun
    cases hhead : getHead (headSizeOf b.contents)
        ⟨d, [Access.copy 2, Access.remove 2] ++ [Access.copy 2, Access.remove 2]⟩ with
    | none => rw [hhead] at hrun; simp at hrun
    | some r =>
      rw [hhead, Option.bind_some] at hrun
      have hcopy := (getHead_copies hhead).trans (appends_getMessage identify pooled _ _ _ _ _ _ hrun)
      obtain ⟨-, -, -, -, hfifth, -⟩ := hinside.mono hcopy
      have hhead : 0 + 2 + 2 + headLengthOf b.contents ≤ totalSizeOf b.contents := hfifth
      omega

/-! ### Safety -/

theorem decodesSafely_of_fits (h : b.Ring) (hp : pooled.Pooled)
    (hok : Waiting b.contents ∨ HeadFits b.contents) : DecodesSafely b identify pooled := by
  by_cases hwait : Waiting b.contents
  · obtain ⟨log, hrun, hinside⟩ := getTcpPacket_waiting identify pooled h hwait 0
    exact ⟨0, .nullptr, _, hrun, h, hinside, rfl⟩
  · have hfits : HeadFits b.contents := hok.resolve_left hwait
    have hlen := h.length_contents
    obtain ⟨outcome, c, log, hrun, hring, hinside, hout⟩ :=
      getTcpPacket_frame identify pooled h hp hwait hfits
    refine ⟨1, outcome, _, hrun, hring, hinside, ?_⟩
    cases hid : MsgId.findValueByNumber (headOf b.contents).msgId with
    | none =>
      rw [hid] at hout
      rw [hout]
      trivial
    | some msgId =>
      rw [hid] at hout
      obtain ⟨p, rfl, -, -, hcontents⟩ := hout
      unfold Waiting at hwait
      exact ⟨by omega, hcontents⟩

theorem not_decodesSafely_of_short (h : b.Ring) (hwait : ¬ Waiting b.contents)
    (hfits : ¬ HeadFits b.contents) : ¬ DecodesSafely b identify pooled := by
  rintro ⟨fuel, outcome, t, hrun, -, hinside, -⟩
  exact not_staysInside_of_short identify pooled h hwait hfits hrun hinside

/-- **The decoder is safe exactly on the rings that begin with an incomplete frame, or with one
whose head fits into it.** -/
theorem decodesSafely_iff (h : b.Ring) (hp : pooled.Pooled) :
    DecodesSafely b identify pooled ↔ Waiting b.contents ∨ HeadFits b.contents := by
  refine ⟨fun hsafe => ?_, decodesSafely_of_fits identify pooled h hp⟩
  by_contra hnot
  exact not_decodesSafely_of_short identify pooled h (fun hw => hnot (Or.inl hw))
    (fun hf => hnot (Or.inr hf)) hsafe

end

/-- The identification of a connection without tags. -/
def NetIdentify.ofSocket (socket : ℤ) : NetIdentify := ⟨⟨socket, .tcpListen⟩, TagKey.clear⟩

/-- A ping is decoded safely. -/
theorem decodesSafely_ping :
    ∃ b : NetworkBuffer, b.Ring ∧ b.contents = [6, 0, 2, 0, 101, 0] ∧
      DecodesSafely b (NetIdentify.ofSocket 5) Packet.create := by
  obtain ⟨b, hring, hcontents⟩ :=
    NetworkBuffer.exists_ring_contents (q := [6, 0, 2, 0, 101, 0]) (by decide)
  refine ⟨b, hring, hcontents, (decodesSafely_iff _ _ hring Packet.pooled_create).2 (Or.inr ?_)⟩
  rw [hcontents]
  decide

/-- **Two bytes are enough** to make the decoder leave the frame: a total length of two, which
counts itself and no head. -/
theorem not_decodesSafely_two :
    ¬ ∀ (b : NetworkBuffer) (identify : NetIdentify) (pooled : Packet), b.Ring → pooled.Pooled →
      DecodesSafely b identify pooled := by
  intro hall
  obtain ⟨b, hring, hcontents⟩ := NetworkBuffer.exists_ring_contents (q := [2, 0]) (by decide)
  refine not_decodesSafely_of_short (NetIdentify.ofSocket 5) Packet.create hring ?_ ?_
    (hall _ _ _ hring Packet.pooled_create)
  · rw [hcontents]
    decide
  · rw [hcontents]
    decide

end MmoServer
