/-
**Putting a packet into the send ring.**

`AddPacket` writes what `GetTcpPacket` reads: the total length, the length of the head, the head,
and the body.  A packet with an entity tag gets the long head, with the serial numbers of its
entity and of its player; every other packet gets the short one.  The bodies of the three HTTP
messages are written alone.

Main definitions:

* `MmoServer.addPacket` — the encoder;
* `MmoServer.Packet.Sendable` — a packet whose frame has a length that fits its two bytes;
* `MmoServer.frame` — the bytes that a packet becomes.

Main results:

* `MmoServer.addPacket_frame` — **the encoder appends the frame**, and grows the ring at most once;
* `MmoServer.headFits_frame`, `MmoServer.headOf_frame`, `MmoServer.bodyOf_frame` — **what the
  decoder finds in a frame**.
-/

import MmoServer.FrameDecode

set_option relaxedAutoImplicit false
set_option autoImplicit false

namespace MmoServer

/-! ### The encoder -/

/-- `NetworkHelp::IsHttpMsg`. -/
def isHttpMsg (msgId : MsgId) : Bool :=
  if msgId = .miHttpOuterRequest then true
  else if msgId = .miHttpOuterResponse then true
  else if msgId = .miHttpInnerResponse then true
  else false

/-- The bytes of a head; the long one has two bytes of padding behind the message id. -/
def PacketHead.toBytes (head : PacketHead) : List UInt8 :=
  match head.s2s with
  | none => LittleEndian.toBytes 2 head.msgId
  | some (entitySn, playerSn) =>
    LittleEndian.toBytes 2 head.msgId ++ [0, 0] ++ LittleEndian.toBytes 8 entitySn.toNat ++
      LittleEndian.toBytes 8 playerSn.toNat

/-- The head that `AddPacket` gives a packet.  Without a player tag the player is zero. -/
def Packet.head (p : Packet) : PacketHead where
  msgId := p.msgId.number
  s2s :=
    match p.tagKey.getTagValue .entity with
    | none => none
    | some entity =>
      match p.tagKey.getTagValue .player with
      | none => some (entity.keyInt64, 0)
      | some player => some (entity.keyInt64, player.keyInt64)

/-- `sizeof` the head that a packet gets. -/
def Packet.headSize (p : Packet) : ℕ :=
  match p.tagKey.getTagValue .entity with
  | none => sizeofPacketHead
  | some _ => sizeofPacketHeadS2S

/-- `totalSize`, a `TotalSizeType`. -/
def Packet.totalSize (p : Packet) : ℕ :=
  (p.getDataLength + p.headSize + sizeofTotalSizeType * 2) % 2 ^ 16

/-- The condition of the loop that makes room in the ring. -/
def NetworkBuffer.lacks (totalSize : ℕ) (b : NetworkBuffer) : Bool := b.getEmptySize < totalSize

/-- The loop that makes room in the ring: `while (GetEmptySize() < totalSize) ReAllocBuffer();`. -/
def NetworkBuffer.grow (fuel : ℕ) (b : NetworkBuffer) (totalSize : ℕ) : Option NetworkBuffer :=
  Loop.run (lacks totalSize) reAllocBuffer fuel b

/-- The lengths and the head of a message that is not an HTTP one. -/
def addHead (b : NetworkBuffer) (p : Packet) : Option NetworkBuffer := do
  let b ← b.memcpyToBuffer (LittleEndian.toBytes 2 p.totalSize)
  let b ← b.memcpyToBuffer (LittleEndian.toBytes 2 p.headSize)
  b.memcpyToBuffer p.head.toBytes

/-- `SendNetworkBuffer::AddPacket`. -/
def addPacket (fuel : ℕ) (b : NetworkBuffer) (p : Packet) : Option NetworkBuffer := do
  let b ← b.grow fuel p.totalSize
  let b ← if !isHttpMsg p.msgId then addHead b p else some b
  let body ← readAt p.bytes 0 p.getDataLength
  b.memcpyToBuffer body

/-! ### Frames -/

/-- A packet that can be framed: it lies at the front of its allocation, is not a message of
HTTP, and its frame is at most 65535 bytes long. -/
structure Packet.Sendable (p : Packet) : Prop where
  beginIndex_eq : p.beginIndex = 0
  endIndex_le : p.endIndex ≤ p.bytes.length
  not_http : isHttpMsg p.msgId = false
  size_le : p.endIndex + p.headSize + sizeofTotalSizeType * 2 ≤ 65535

/-- The bytes that a packet becomes. -/
def frame (p : Packet) : List UInt8 :=
  LittleEndian.toBytes 2 p.totalSize ++ LittleEndian.toBytes 2 p.headSize ++ p.head.toBytes ++ p.body

/-- The two heads have the sizes that the code gives them. -/
theorem Packet.headSize_cases (p : Packet) :
    (p.headSize = 2 ∧ p.head.s2s = none) ∨ (p.headSize = 20 ∧ ∃ sn, p.head.s2s = some sn) := by
  unfold Packet.headSize Packet.head
  cases p.tagKey.getTagValue .entity with
  | none => exact Or.inl ⟨rfl, rfl⟩
  | some entity =>
    cases p.tagKey.getTagValue .player with
    | none => exact Or.inr ⟨rfl, _, rfl⟩
    | some player => exact Or.inr ⟨rfl, _, rfl⟩

theorem Packet.length_head (p : Packet) : p.head.toBytes.length = p.headSize := by
  unfold PacketHead.toBytes
  rcases p.headSize_cases with ⟨hsize, hs2s⟩ | ⟨hsize, sn, hs2s⟩
  · rw [hs2s, hsize]
    exact LittleEndian.length_toBytes _ _
  · rw [hs2s, hsize]
    simp

namespace Packet.Sendable

variable {p : Packet}

theorem getDataLength_eq (h : p.Sendable) : p.getDataLength = p.endIndex := by
  have hsize := h.size_le
  have hpos : 0 < 2 ^ 32 := by decide
  unfold Packet.getDataLength
  rw [h.beginIndex_eq, sub32_eq (by omega) (Nat.zero_le _), Nat.sub_zero,
    Nat.mod_eq_of_lt (by omega)]

theorem length_body (h : p.Sendable) : p.body.length = p.endIndex := by
  have hend := h.endIndex_le
  rw [Packet.body, List.length_take, h.getDataLength_eq, Nat.min_eq_left hend]

theorem totalSize_eq (h : p.Sendable) : p.totalSize = p.endIndex + p.headSize + 4 := by
  have hsize := h.size_le
  unfold sizeofTotalSizeType at hsize
  unfold Packet.totalSize sizeofTotalSizeType
  rw [h.getDataLength_eq, Nat.mod_eq_of_lt (by omega)]

theorem totalSize_le (h : p.Sendable) : p.totalSize ≤ 65535 := by
  have hsize := h.size_le
  unfold sizeofTotalSizeType at hsize
  rw [h.totalSize_eq]
  exact hsize

theorem length_frame (h : p.Sendable) : (frame p).length = p.totalSize := by
  rw [frame, List.length_append, List.length_append, List.length_append, p.length_head,
    h.length_body, LittleEndian.length_toBytes, LittleEndian.length_toBytes, h.totalSize_eq]
  omega

end Packet.Sendable

/-! ### The encoder appends the frame -/

namespace NetworkBuffer.Ring

variable {b : NetworkBuffer}

/-- Writing, with the room stated without machine integers. -/
theorem write (h : b.Ring) (src : List UInt8) (hfit : b.dataSize + src.length ≤ b.bufferSize) :
    ∃ c, b.memcpyToBuffer src = some c ∧ c.Ring ∧ c.contents = b.contents ++ src ∧
      c.bufferSize = b.bufferSize ∧ c.dataSize = b.dataSize + src.length := by
  refine h.memcpyToBuffer ?_
  rw [h.getEmptySize_eq]
  omega

/-- **One round is enough** to make room for a frame, if the size does not overflow in it. -/
theorem grow (h : b.Ring) {n : ℕ} (hn : n ≤ 65535)
    (hroom : n ≤ b.getEmptySize ∨ b.bufferSize + additionalSize < 2 ^ 32) :
    ∃ c, b.grow 1 n = some c ∧ c.Ring ∧ c.contents = b.contents ∧ c.dataSize = b.dataSize ∧
      c.dataSize + n ≤ c.bufferSize ∧
      ((n ≤ b.getEmptySize ∧ c.bufferSize = b.bufferSize) ∨
        (b.getEmptySize < n ∧ c.bufferSize = b.bufferSize + additionalSize)) := by
  have hempty := h.getEmptySize_eq
  have hdata := h.data_le
  rcases Nat.lt_or_ge b.getEmptySize n with hlt | hge
  · have hsize : b.bufferSize + additionalSize < 2 ^ 32 := by
      rcases hroom with hfit | hsize
      · exact absurd hlt (Nat.not_lt.2 hfit)
      · exact hsize
    obtain ⟨c, hc, hring, hcontents, hcsize, hcdata⟩ := h.reAllocBuffer hsize
    have hcempty := hring.getEmptySize_eq
    have hadd : additionalSize = 131072 := rfl
    have hcond : lacks n b = true := decide_eq_true hlt
    have hdone : lacks n c = false := decide_eq_false (by omega)
    exact ⟨c, (Loop.run_succ_of 0 hcond hc).trans (Loop.run_of_not 0 hdone), hring, hcontents,
      hcdata, by omega, Or.inr ⟨hlt, hcsize⟩⟩
  · have hdone : lacks n b = false := decide_eq_false (Nat.not_lt.2 hge)
    exact ⟨b, Loop.run_of_not 1 hdone, h, rfl, rfl, by omega, Or.inl ⟨hge, rfl⟩⟩

end NetworkBuffer.Ring

/-- **`AddPacket` appends the frame of a packet.**  The ring grows at most once; that its size
does not overflow then is all that is asked for. -/
theorem addPacket_frame {b : NetworkBuffer} {p : Packet} (h : b.Ring) (hp : p.Sendable)
    (hroom : p.totalSize ≤ b.getEmptySize ∨ b.bufferSize + additionalSize < 2 ^ 32) :
    ∃ c, addPacket 1 b p = some c ∧ c.Ring ∧ c.contents = b.contents ++ frame p ∧
      c.dataSize = b.dataSize + p.totalSize ∧
      ((p.totalSize ≤ b.getEmptySize ∧ c.bufferSize = b.bufferSize) ∨
        (b.getEmptySize < p.totalSize ∧ c.bufferSize = b.bufferSize + additionalSize)) := by
  have htotal := hp.totalSize_eq
  have hhead := p.length_head
  have hbody := hp.length_body
  obtain ⟨b₁, h₁, hring₁, hcontents₁, hdata₁, hfit, hsize₁⟩ := h.grow hp.totalSize_le hroom
  -- the four pieces of the frame, one after the other
  obtain ⟨b₂, h₂, hring₂, hcontents₂, hsize₂, hdata₂⟩ :=
    hring₁.write (LittleEndian.toBytes 2 p.totalSize)
      (by rw [LittleEndian.length_toBytes]; omega)
  rw [LittleEndian.length_toBytes] at hdata₂
  obtain ⟨b₃, h₃, hring₃, hcontents₃, hsize₃, hdata₃⟩ :=
    hring₂.write (LittleEndian.toBytes 2 p.headSize)
      (by rw [LittleEndian.length_toBytes]; omega)
  rw [LittleEndian.length_toBytes] at hdata₃
  obtain ⟨b₄, h₄, hring₄, hcontents₄, hsize₄, hdata₄⟩ :=
    hring₃.write p.head.toBytes (by omega)
  obtain ⟨b₅, h₅, hring₅, hcontents₅, hsize₅, hdata₅⟩ := hring₄.write p.body (by omega)
  have hread : readAt p.bytes 0 p.getDataLength = some p.body := by
    have hend := hp.endIndex_le
    rw [readAt_eq (by rw [hp.getDataLength_eq]; omega)]
    rfl
  refine ⟨b₅, ?_, hring₅, ?_, by omega, ?_⟩
  · unfold addPacket addHead
    rw [h₁]
    simp only [hp.not_http, Option.bind_eq_bind, Option.bind_some, Bool.not_false, if_true, h₂, h₃,
      h₄, hread, h₅]
  · rw [hcontents₅, hcontents₄, hcontents₃, hcontents₂, hcontents₁, frame]
    simp only [List.append_assoc]
  · rw [hsize₅, hsize₄, hsize₃, hsize₂]
    exact hsize₁

/-! ### The decoder on a frame -/

theorem ofNat_ofBytes_toBytes (v : UInt64) :
    UInt64.ofNat (LittleEndian.ofBytes (LittleEndian.toBytes 8 v.toNat)) = v := by
  rw [LittleEndian.ofBytes_toBytes v.toNat_lt]
  exact UInt64.ofNat_toNat

/-- Reading the bytes of a short head. -/
theorem PacketHead.ofBytes_toBytes {head : PacketHead} (hid : head.msgId < 2 ^ 16)
    (hs2s : head.s2s = none) : PacketHead.ofBytes head.toBytes = head := by
  have htake : (LittleEndian.toBytes 2 head.msgId).take 2 = LittleEndian.toBytes 2 head.msgId :=
    List.take_of_length_le (by rw [LittleEndian.length_toBytes])
  unfold PacketHead.ofBytes PacketHead.toBytes
  rw [hs2s]
  simp only [htake]
  rw [LittleEndian.ofBytes_toBytes hid, ← hs2s]

/-- Reading the bytes of a long head. -/
theorem PacketHead.ofBytesS2S_toBytes {head : PacketHead} {sn : UInt64 × UInt64}
    (hid : head.msgId < 2 ^ 16) (hs2s : head.s2s = some sn) :
    PacketHead.ofBytesS2S head.toBytes = head := by
  obtain ⟨entitySn, playerSn⟩ := sn
  have hlen := LittleEndian.length_toBytes
  have hbytes : head.toBytes = LittleEndian.toBytes 2 head.msgId ++ ([0, 0] ++
      (LittleEndian.toBytes 8 entitySn.toNat ++ LittleEndian.toBytes 8 playerSn.toNat)) := by
    unfold PacketHead.toBytes
    rw [hs2s]
    simp only [List.append_assoc]
  have hmsgId : head.toBytes.take 2 = LittleEndian.toBytes 2 head.msgId := by
    rw [hbytes, List.take_left' (hlen _ _)]
  have hentity : (head.toBytes.drop 4).take 8 = LittleEndian.toBytes 8 entitySn.toNat := by
    have hdrop : head.toBytes.drop 4 = LittleEndian.toBytes 8 entitySn.toNat ++
        LittleEndian.toBytes 8 playerSn.toNat := by
      rw [hbytes, ← List.append_assoc, List.drop_left' (by simp)]
    rw [hdrop, List.take_left' (hlen _ _)]
  have hplayer : (head.toBytes.drop 12).take 8 = LittleEndian.toBytes 8 playerSn.toNat := by
    have hdrop : head.toBytes.drop 12 = LittleEndian.toBytes 8 playerSn.toNat := by
      rw [hbytes, ← List.append_assoc, ← List.append_assoc, List.drop_left' (by simp)]
    rw [hdrop, List.take_of_length_le (by rw [hlen])]
  unfold PacketHead.ofBytesS2S
  rw [hmsgId, hentity, hplayer, LittleEndian.ofBytes_toBytes hid, ofNat_ofBytes_toBytes,
    ofNat_ofBytes_toBytes, ← hs2s]

section

variable {p : Packet}

/-- A frame begins with its own length. -/
theorem totalSizeOf_frame (h : p.Sendable) (rest : List UInt8) :
    totalSizeOf (frame p ++ rest) = p.totalSize := by
  have hle := h.totalSize_le
  have htake : (frame p ++ rest).take 2 = LittleEndian.toBytes 2 p.totalSize := by
    simp only [frame, List.append_assoc]
    exact List.take_left' (LittleEndian.length_toBytes _ _)
  rw [totalSizeOf, htake, LittleEndian.ofBytes_toBytes (by omega)]

/-- Then comes the length of its head. -/
theorem headSizeOf_frame (p : Packet) (rest : List UInt8) :
    headSizeOf (frame p ++ rest) = p.headSize := by
  have htake : ((frame p ++ rest).drop 2).take 2 = LittleEndian.toBytes 2 p.headSize := by
    simp only [frame, List.append_assoc]
    rw [List.drop_left' (LittleEndian.length_toBytes _ _)]
    exact List.take_left' (LittleEndian.length_toBytes _ _)
  rw [headSizeOf, htake, LittleEndian.ofBytes_toBytes]
  rcases p.headSize_cases with ⟨hsize, -⟩ | ⟨hsize, -⟩
  · rw [hsize]
    decide
  · rw [hsize]
    decide

theorem headLengthOf_frame (p : Packet) (rest : List UInt8) :
    headLengthOf (frame p ++ rest) = p.headSize := by
  unfold headLengthOf
  rw [headSizeOf_frame p rest]
  rcases p.headSize_cases with ⟨hsize, -⟩ | ⟨hsize, -⟩
  · rw [hsize]
    rfl
  · rw [hsize]
    rfl

/-- The head is part of the frame. -/
theorem headFits_frame (h : p.Sendable) (rest : List UInt8) : HeadFits (frame p ++ rest) := by
  unfold HeadFits
  rw [headLengthOf_frame p rest, totalSizeOf_frame h rest, h.totalSize_eq]
  omega

theorem drop_four_frame (p : Packet) (rest : List UInt8) :
    (frame p ++ rest).drop 4 = p.head.toBytes ++ (p.body ++ rest) := by
  have hlen : (LittleEndian.toBytes 2 p.totalSize ++ LittleEndian.toBytes 2 p.headSize).length =
      4 := by simp
  have hassoc : frame p ++ rest =
      (LittleEndian.toBytes 2 p.totalSize ++ LittleEndian.toBytes 2 p.headSize) ++
        (p.head.toBytes ++ (p.body ++ rest)) := by simp only [frame, List.append_assoc]
  rw [hassoc, List.drop_left' hlen]

/-- The head in the frame is the one the packet was given. -/
theorem headOf_frame (p : Packet) (rest : List UInt8) : headOf (frame p ++ rest) = p.head := by
  have hid : p.head.msgId < 2 ^ 16 := p.msgId.number_lt
  have hlen := p.length_head
  unfold headOf
  rw [headSizeOf_frame p rest, drop_four_frame p rest]
  rcases p.headSize_cases with ⟨hsize, hs2s⟩ | ⟨hsize, sn, hs2s⟩
  · have heq : p.headSize = sizeofPacketHead := hsize
    rw [if_pos heq, List.take_left' (by rw [hlen, heq]), PacketHead.ofBytes_toBytes hid hs2s]
  · have hne : ¬ p.headSize = sizeofPacketHead := by
      rw [hsize]
      decide
    rw [if_neg hne, List.take_left' (by rw [hlen, hsize]; rfl),
      PacketHead.ofBytesS2S_toBytes hid hs2s]

/-- The frame ends where the next one begins. -/
theorem drop_frame (h : p.Sendable) (rest : List UInt8) :
    (frame p ++ rest).drop p.totalSize = rest :=
  List.drop_left' h.length_frame

/-- The body in the frame is the one of the packet. -/
theorem bodyOf_frame (h : p.Sendable) (rest : List UInt8) : bodyOf (frame p ++ rest) = p.body := by
  have hlen : (LittleEndian.toBytes 2 p.totalSize ++ LittleEndian.toBytes 2 p.headSize ++
      p.head.toBytes).length = 4 + p.headSize := by
    rw [List.length_append, List.length_append, p.length_head, LittleEndian.length_toBytes,
      LittleEndian.length_toBytes]
  rw [bodyOf, totalSizeOf_frame h rest, headLengthOf_frame p rest,
    List.take_left' h.length_frame, frame, List.drop_left' hlen]

/-- A ring that holds a whole frame is not waiting. -/
theorem not_waiting_frame (h : p.Sendable) (rest : List UInt8) : ¬ Waiting (frame p ++ rest) := by
  have hlen := h.length_frame
  have htotal := h.totalSize_eq
  unfold Waiting
  rw [totalSizeOf_frame h rest, List.length_append, hlen]
  omega

end

end MmoServer
