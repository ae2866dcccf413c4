/-
**The sixteen bits of a length.**

A packet grows until it holds its message, however long that is.  `GetDataLength` is an `unsigned short`, and
so is the total length that `AddPacket` computes: a message that is too long for one of them is cut, or
its frame says another length than it has.  What is asked here is what the receiver relies on: the frame
begins with the number of its bytes and ends with the message, all of it.

Main definitions:

* `MmoServer.Packet.Serialized` — a packet after `SerializeToBuffer`;
* `MmoServer.Carries`, `MmoServer.Intact` — the bytes carry the message, and `AddPacket` appends such
  bytes or none;
* `MmoServer.FitsLength` — the length and the room that this takes.

Main results:

* `MmoServer.Packet.Serialized.holds` — **the packet holds the message**, of whatever length;
* `MmoServer.intact_iff` — `AddPacket` keeps the message intact **exactly if the length of the whole frame
  fits its sixteen bits**; the two heads take 6 and 24 of the 65535.
-/

import MmoServer.StrandedBytes

set_option relaxedAutoImplicit false
set_option autoImplicit false

namespace MmoServer

/-! ### Serializing a message -/

namespace Packet

/-- The condition of the loop of `SerializeToBuffer`. -/
def isFull (total : ℕ) (p : Packet) : Bool := p.getEmptySize < total

/-- The loop of `SerializeToBuffer`: `while (GetEmptySize() < total) ReAllocBuffer();`. -/
def makeRoom (fuel : ℕ) (p : Packet) (total : ℕ) : Option Packet :=
  Loop.run (isFull total) reAllocBuffer fuel p

/-- `SerializeToBuffer` of a message, as its serialized bytes.  More than `INT_MAX` of them are not
serialized. -/
def serializeToBuffer (fuel : ℕ) (p : Packet) (message : List UInt8) : Option Packet := do
  if message.length < 2 ^ 31 then
    let p ← p.makeRoom fuel message.length
    let p ← p.memcpy message
    some (p.fillData message.length)
  else none

/-- `SerializeToBuffer` of a string. -/
def serializeStrToBuffer (fuel : ℕ) (p : Packet) (s : List UInt8) : Option Packet := do
  let p ← p.makeRoom fuel s.length
  let bytes ← writeAt p.bytes p.endIndex s
  some ((p.setBytes bytes).fillData s.length)

/-- A packet of the pool after one of the two. -/
def Serialized (p : Packet) (message : List UInt8) (q : Packet) : Prop :=
  ∃ fuel, p.serializeToBuffer fuel message = some q ∨ p.serializeStrToBuffer fuel message = some q

/-- The packet holds the message, at the front of its allocation. -/
structure HoldsMessage (q : Packet) (message : List UInt8) : Prop where
  beginIndex_eq : q.beginIndex = 0
  endIndex_eq : q.endIndex = message.length
  take_eq : q.bytes.take message.length = message
  length_lt : message.length < 2 ^ 32

end Packet

/-! ### What is asked of `AddPacket` -/

/-- **The bytes carry the message.**  They begin with the number of them, and end with the message, all of
it, behind the head.  A message of HTTP is alone. -/
def Carries (p : Packet) (message appended : List UInt8) : Prop :=
  if isHttpMsg p.msgId then appended = message
  else totalSizeOf appended = appended.length ∧
    ∃ front, appended = front ++ message ∧ front.length = p.headSize + sizeofTotalSizeType * 2

/-- **The message stays intact.**  Bytes that carry it are appended, or the ring stays as it is; and none of
the body's bytes is dropped. -/
structure Intact (b : NetworkBuffer) (p : Packet) (message : List UInt8) : Prop where
  appends : ∃ fuel c, addPacket fuel b p = some c ∧ c.Ring ∧
    ((∃ appended, c.contents = b.contents ++ appended ∧ Carries p message appended) ∨ c = b)
  keeps_body : p.body = message

/-- There is room for so many bytes, or the ring can grow once more. -/
def NetworkBuffer.HasRoom (b : NetworkBuffer) (totalSize : ℕ) : Prop :=
  totalSize ≤ b.getEmptySize ∨ b.bufferSize + additionalSize < 2 ^ 32

/-- **The length fits.**  The whole frame has at most 65535 bytes.  Of a message of HTTP, only the body is
appended, while the room for it is made for the frame that it does not get: for a body that is almost as long
as possible that length is cut, and the free bytes decide. -/
def FitsLength (b : NetworkBuffer) (p : Packet) (message : List UInt8) : Prop :=
  let total := message.length + p.headSize + sizeofTotalSizeType * 2
  if isHttpMsg p.msgId then
    message.length ≤ 65535 ∧ b.HasRoom (total % 2 ^ 16) ∧
      (total % 2 ^ 16 ≤ b.getEmptySize → message.length ≤ b.getEmptySize)
  else total ≤ 65535 ∧ b.HasRoom total

/-! ### The packet holds the message -/

namespace Packet

variable {p q : Packet} {message : List UInt8}

/-- Room is made in an empty packet: it stays empty, and only its allocation changes. -/
theorem makeRoom_fields {fuel total : ℕ} (hb : p.beginIndex = 0) (he : p.endIndex = 0)
    (h : p.makeRoom fuel total = some q) :
    q.beginIndex = 0 ∧ q.endIndex = 0 ∧ q.msgId = p.msgId ∧ q.tagKey = p.tagKey := by
  have hstep : ∀ s t : Packet,
      (s.beginIndex = 0 ∧ s.endIndex = 0 ∧ s.msgId = p.msgId ∧ s.tagKey = p.tagKey) →
      s.reAllocBuffer = some t →
      t.beginIndex = 0 ∧ t.endIndex = 0 ∧ t.msgId = p.msgId ∧ t.tagKey = p.tagKey := by
    rintro s t ⟨hsb, hse, hmsg, htag⟩ hst
    obtain ⟨c, hc, rfl⟩ := Option.map_eq_some_iff.1 hst
    have hempty : s.beginIndex = s.endIndex ∧ sub32 s.endIndex s.beginIndex = 0 := by
      rw [hsb, hse]
      exact ⟨rfl, rfl⟩
    rw [Buffer.reAllocBuffer, if_neg (by omega), if_pos hempty] at hc
    obtain rfl := Option.some.inj hc
    exact ⟨rfl, rfl, hmsg, htag⟩
  exact Loop.run_invariant hstep ⟨hb, he, rfl, rfl⟩ h

/-- The loop ends with room for the message, which is shorter than `2 ^ 32` therefore. -/
theorem length_lt_of_makeRoom {fuel : ℕ} (h : p.makeRoom fuel message.length = some q) :
    message.length < 2 ^ 32 := by
  by_contra hlt
  have hcond : ∀ s : Packet, True → isFull message.length s = true := by
    intro s _
    have hsize : s.getEmptySize < 2 ^ 32 := Nat.mod_lt _ (by decide)
    exact decide_eq_true (by omega)
  have hnone : p.makeRoom fuel message.length = none :=
    Loop.run_eq_none hcond (fun _ _ _ _ => trivial) fuel trivial
  rw [hnone] at h
  cases h

/-- The message is written at the front, and counted. -/
theorem holdsMessage_write {bytes : List UInt8} (hb : p.beginIndex = 0) (he : p.endIndex = 0)
    (hlt : message.length < 2 ^ 32) (h : writeAt p.bytes 0 message = some bytes) :
    ((p.setBytes bytes).fillData message.length).HoldsMessage message := by
  have hend : add32 0 message.length = message.length := by
    rw [add32_eq (by omega), Nat.zero_add]
  refine ⟨hb, ?_, ?_, hlt⟩
  · rw [← he] at hend
    exact hend
  · rw [writeAt] at h
    split at h
    · obtain rfl := Option.some.inj h
      exact List.take_left' rfl
    · cases h

/-- **The packet holds the message**, and keeps its id and its tags. -/
theorem Serialized.holds (h : p.Serialized message q) (hp : p.Pooled) :
    q.HoldsMessage message ∧ q.msgId = p.msgId ∧ q.tagKey = p.tagKey := by
  obtain ⟨fuel, h | h⟩ := h
  · rw [serializeToBuffer] at h
    split at h
    · obtain ⟨r, hroom, h⟩ := Option.bind_eq_some_iff.1 h
      obtain ⟨s, hcopy, h⟩ := Option.bind_eq_some_iff.1 h
      obtain ⟨bytes, hbytes, rfl⟩ := Option.map_eq_some_iff.1 hcopy
      obtain rfl := Option.some.inj h
      obtain ⟨hb, he, hmsg, htag⟩ := makeRoom_fields hp.beginIndex_eq hp.endIndex_eq hroom
      exact ⟨holdsMessage_write hb he (length_lt_of_makeRoom hroom) hbytes, hmsg, htag⟩
    · cases h
  · obtain ⟨r, hroom, h⟩ := Option.bind_eq_some_iff.1 h
    obtain ⟨bytes, hbytes, h⟩ := Option.bind_eq_some_iff.1 h
    obtain rfl := Option.some.inj h
    obtain ⟨hb, he, hmsg, htag⟩ := makeRoom_fields hp.beginIndex_eq hp.endIndex_eq hroom
    rw [he] at hbytes
    exact ⟨holdsMessage_write hb he (length_lt_of_makeRoom hroom) hbytes, hmsg, htag⟩

/-- A packet of the pool takes every message that is shorter than what it grows by. -/
theorem Pooled.exists_serialized (hp : p.Pooled) (hlt : message.length < additionalSize) :
    ∃ q, p.Serialized message q := by
  have hadd : additionalSize = 131072 := rfl
  have hempty : ∀ bytes : List UInt8, bytes.length < 2 ^ 32 →
      (p.setBytes bytes).getEmptySize = bytes.length := by
    intro bytes hlen
    rw [Buffer.getEmptySize]
    exact (congrArg (sub32 _) hp.endIndex_eq).trans ((sub32_eq hlen (Nat.zero_le _)).trans (Nat.sub_zero _))
  have hroom : ∃ fuel bytes, p.makeRoom fuel message.length = some (p.setBytes bytes) ∧
      message.length ≤ bytes.length := by
    have hsize := hp.size_lt
    rcases Nat.lt_or_ge p.bytes.length message.length with hfull | hfits
    · have hgrow := hp.reAllocBuffer
      generalize hbytes : List.replicate (add32 p.bufferSize additionalSize) (0 : UInt8) = bytes at hgrow
      have hlen : bytes.length = p.bytes.length + additionalSize := by
        rw [← hbytes, List.length_replicate]
        exact add32_eq (by rw [Buffer.bufferSize]; omega)
      have hcond : isFull message.length p = true := decide_eq_true ((hempty p.bytes hsize).trans_lt hfull)
      have hdone : isFull message.length (p.setBytes bytes) = false :=
        decide_eq_false (by rw [hempty bytes (by omega)]; omega)
      exact ⟨1, bytes, (Loop.run_succ_of 0 hcond hgrow).trans (Loop.run_of_not 0 hdone), by omega⟩
    · have hdone : isFull message.length p = false :=
        decide_eq_false (Nat.not_lt.2 (hfits.trans_eq (hempty p.bytes hsize).symm))
      exact ⟨0, p.bytes, Loop.run_of_not 0 hdone, hfits⟩
  obtain ⟨fuel, bytes, hmake, hfits⟩ := hroom
  have hcopy : (p.setBytes bytes).memcpy message =
      some ((p.setBytes bytes).setBytes (CyclicList.overwrite bytes 0 message)) := by
    have hwrite : writeAt (p.setBytes bytes).bytes 0 message = some (CyclicList.overwrite bytes 0 message) :=
      writeAt_eq (by rw [Nat.zero_add]; exact hfits)
    rw [memcpy, hwrite]
    rfl
  refine ⟨((p.setBytes bytes).setBytes (CyclicList.overwrite bytes 0 message)).fillData message.length,
    fuel, .inl ?_⟩
  rw [serializeToBuffer, if_pos (by omega), hmake, Option.bind_eq_bind, Option.bind_some, hcopy]
  rfl

end Packet

/-! ### The ring -/

namespace NetworkBuffer

variable {b c : NetworkBuffer}

/-- The allocation keeps its size when bytes are written into it. -/
theorem bufferSize_memcpyToBuffer {src : List UInt8} (h : b.memcpyToBuffer src = some c) :
    c.bufferSize = b.bufferSize := by
  have hwrite : ∀ {bytes bytes' s : List UInt8} {off : ℕ}, writeAt bytes off s = some bytes' →
      bytes'.length = bytes.length := by
    intro bytes bytes' s off hw
    rw [writeAt] at hw
    split at hw
    · rename_i hle
      obtain rfl := Option.some.inj hw
      exact CyclicList.length_overwrite hle
    · cases hw
  have hfill : ∀ (bytes : List UInt8) (n : ℕ),
      (fillData { b with bytes := bytes } n).bufferSize = bytes.length := by
    intro bytes n
    simp only [fillData]
    split <;> rfl
  simp only [memcpyToBuffer] at h
  split at h
  · obtain ⟨bytes, h₁, h⟩ := Option.bind_eq_some_iff.1 h
    obtain ⟨bytes', h₂, h⟩ := Option.bind_eq_some_iff.1 h
    obtain rfl := Option.some.inj h
    rw [hfill, hwrite h₂, hwrite h₁]
    rfl
  · obtain ⟨bytes, h₁, h⟩ := Option.bind_eq_some_iff.1 h
    obtain rfl := Option.some.inj h
    rw [hfill, hwrite h₁]
    rfl

/-- Bytes are not copied into an allocation of size zero. -/
theorem readAt_bind_none {bytes : List UInt8} {off size : ℕ} (f : List UInt8 → List UInt8 → Option Buffer)
    (hpos : 0 < size) :
    (readAt bytes off size >>= fun src => writeAt [] 0 src >>= f src) = none := by
  rw [readAt]
  split
  · rename_i hfits
    have hlen : 0 < ((bytes.drop off).take size).length := by
      rw [List.length_take, List.length_drop]
      omega
    have hnone : writeAt ([] : List UInt8) 0 ((bytes.drop off).take size) = none :=
      if_neg (by rw [List.length_nil]; omega)
    rw [Option.bind_eq_bind, Option.bind_some, hnone]
    rfl
  · rfl

/-- **A ring that cannot grow any more** has no room for what it does not hold already: the new size is
zero, and the first copy leaves it. -/
theorem Ring.hasRoom_of_grow (h : b.Ring) {fuel n : ℕ} (hn : n ≤ 65535) (hgrow : b.grow fuel n = some c) :
    b.HasRoom n := by
  by_contra hroom
  obtain ⟨hempty, hsize⟩ := not_or.1 hroom
  have hlt := h.size_lt
  have hle := h.size_le
  have hadd : additionalSize = 131072 := rfl
  have hdata := h.getEmptySize_eq
  have hbegin := h.begin_lt
  have hzero : add32 b.bufferSize additionalSize = 0 := by
    unfold add32
    omega
  have hbody : b.reAllocBuffer = none := by
    rw [NetworkBuffer.reAllocBuffer, Option.map_eq_none_iff]
    simp only [Buffer.reAllocBuffer, hzero, List.replicate_zero]
    split
    · rename_i hlt'
      have hend := h.end_lt
      exact readAt_bind_none _ (by rw [sub32_eq (by omega) (by omega)]; omega)
    · rw [if_neg (by omega)]
      exact readAt_bind_none _ (by rw [sub32_eq hlt (by omega)]; omega)
  have hcond : lacks n b = true := decide_eq_true (by omega)
  have hfail : b.grow fuel n = none := Loop.run_of_body_none fuel hcond hbody
  rw [hfail] at hgrow
  cases hgrow

end NetworkBuffer

/-! ### The message stays intact -/

section

variable {b : NetworkBuffer} {p : Packet} {message : List UInt8}

theorem Packet.HoldsMessage.getDataLength_eq (h : p.HoldsMessage message) :
    p.getDataLength = message.length % 2 ^ 16 := by
  rw [Packet.getDataLength, h.beginIndex_eq, h.endIndex_eq, sub32_eq h.length_lt (Nat.zero_le _), Nat.sub_zero]

theorem Packet.HoldsMessage.length_le (h : p.HoldsMessage message) : message.length ≤ p.bytes.length := by
  have hlen := congrArg List.length h.take_eq
  rw [List.length_take] at hlen
  omega

/-- None of the body's bytes is dropped **exactly if their number fits** its sixteen bits. -/
theorem Packet.HoldsMessage.body_eq_iff (h : p.HoldsMessage message) :
    p.body = message ↔ message.length ≤ 65535 := by
  have hle := h.length_le
  rw [Packet.body, h.getDataLength_eq]
  constructor
  · intro hbody
    have hlen := congrArg List.length hbody
    rw [List.length_take] at hlen
    omega
  · intro hlen
    rw [Nat.mod_eq_of_lt (by omega)]
    exact h.take_eq

/-- A packet whose whole frame fits can be framed. -/
theorem Packet.HoldsMessage.sendable (h : p.HoldsMessage message) (hhttp : isHttpMsg p.msgId = false)
    (hsize : message.length + p.headSize + sizeofTotalSizeType * 2 ≤ 65535) : p.Sendable where
  beginIndex_eq := h.beginIndex_eq
  endIndex_le := by
    rw [h.endIndex_eq]
    exact h.length_le
  not_http := hhttp
  size_le := by
    rw [h.endIndex_eq]
    exact hsize

/-- The frame carries the message. -/
theorem Packet.HoldsMessage.carries_frame (h : p.HoldsMessage message) (hp : p.Sendable) :
    Carries p message (frame p) := by
  have htotal := totalSizeOf_frame hp []
  have hlen := h.body_eq_iff.2 (by have := hp.size_le; rw [h.endIndex_eq] at this; omega)
  rw [List.append_nil] at htotal
  rw [Carries, if_neg (by rw [hp.not_http]; decide), htotal, hp.length_frame]
  refine ⟨rfl, LittleEndian.toBytes 2 p.totalSize ++ LittleEndian.toBytes 2 p.headSize ++ p.head.toBytes, ?_, ?_⟩
  · rw [frame, hlen]
  · rw [List.length_append, List.length_append, p.length_head, LittleEndian.length_toBytes,
      LittleEndian.length_toBytes, sizeofTotalSizeType]
    omega

/-- A message that is framed is appended: the ring does not stay as it is. -/
theorem ne_of_addPacket {fuel : ℕ} {c : NetworkBuffer} (hring : b.Ring) (hhttp : isHttpMsg p.msgId = false)
    (h : addPacket fuel b p = some c) : c ≠ b := by
  rintro rfl
  have hsize := dataSize_addPacket h
  have hlt := hring.size_lt
  have hle := hring.data_le
  have hdata : p.getDataLength < 2 ^ 16 := Nat.mod_lt _ (by decide)
  rw [Packet.frameBytes, hhttp, add32] at hsize
  simp only [Bool.false_eq_true, if_false] at hsize
  rcases p.headSize_cases with ⟨hhead, -⟩ | ⟨hhead, -⟩
  · omega
  · omega

/-- A message of HTTP is appended alone. -/
theorem addPacket_http {fuel : ℕ} {c : NetworkBuffer} (hhttp : isHttpMsg p.msgId = true)
    (hle : p.getDataLength ≤ p.bytes.length) :
    addPacket fuel b p = some c ↔
      ∃ d, b.grow fuel p.totalSize = some d ∧ d.memcpyToBuffer p.body = some c := by
  have hread : readAt p.bytes 0 p.getDataLength = some p.body := readAt_eq (by omega)
  rw [addPacket]
  simp only [hhttp, Bool.not_true, Bool.false_eq_true, if_false, hread, Option.bind_eq_bind, Option.bind_some,
    Option.bind_eq_some_iff]

/-- A ring with enough free bytes does not grow. -/
theorem NetworkBuffer.grow_of_le {fuel n : ℕ} (h : n ≤ b.getEmptySize) : b.grow fuel n = some b :=
  Loop.run_of_not fuel (decide_eq_false (Nat.not_lt.2 h))

/-- **A framed message** stays intact exactly if its length fits. -/
theorem intact_iff_of_framed (hring : b.Ring) (hp : p.HoldsMessage message)
    (hhttp : isHttpMsg p.msgId = false) :
    Intact b p message ↔
      message.length + p.headSize + sizeofTotalSizeType * 2 ≤ 65535 ∧
        b.HasRoom (message.length + p.headSize + sizeofTotalSizeType * 2) := by
  constructor
  · rintro ⟨⟨fuel, c, hadd, -, happend⟩, -⟩
    have hsize : message.length + p.headSize + sizeofTotalSizeType * 2 ≤ 65535 := by
      rcases happend with ⟨appended, -, hcarries⟩ | heq
      · rw [Carries, if_neg (by rw [hhttp]; decide)] at hcarries
        obtain ⟨htotal, front, rfl, hfront⟩ := hcarries
        have hlt := totalSizeOf_lt (front ++ message)
        rw [htotal, List.length_append, hfront] at hlt
        omega
      · exact absurd heq (ne_of_addPacket hring hhttp hadd)
    have hsendable := hp.sendable hhttp hsize
    have htotal := hsendable.totalSize_eq
    obtain ⟨d, hgrow, -⟩ := Option.bind_eq_some_iff.1 hadd
    have hroom := hring.hasRoom_of_grow hsendable.totalSize_le hgrow
    rw [htotal, hp.endIndex_eq] at hroom
    exact ⟨hsize, hroom⟩
  · rintro ⟨hsize, hroom⟩
    have hsendable := hp.sendable hhttp hsize
    have htotal := hsendable.totalSize_eq
    rw [hp.endIndex_eq] at htotal
    obtain ⟨c, hadd, hcring, hcontents, -⟩ := addPacket_frame hring hsendable (by rw [htotal]; exact hroom)
    refine ⟨⟨1, c, hadd, hcring, .inl ⟨frame p, hcontents, hp.carries_frame hsendable⟩⟩, ?_⟩
    exact hp.body_eq_iff.2 (by unfold sizeofTotalSizeType at hsize; omega)

/-- **A message of HTTP** stays intact exactly if its own length fits, and its bytes do where room was made
for a cut length. -/
theorem intact_iff_of_http (hring : b.Ring) (hp : p.HoldsMessage message) (hhttp : isHttpMsg p.msgId = true) :
    Intact b p message ↔
      message.length ≤ 65535 ∧
        b.HasRoom ((message.length + p.headSize + sizeofTotalSizeType * 2) % 2 ^ 16) ∧
        ((message.length + p.headSize + sizeofTotalSizeType * 2) % 2 ^ 16 ≤ b.getEmptySize →
          message.length ≤ b.getEmptySize) := by
  have hlength := hp.length_le
  have hdata := hp.getDataLength_eq
  have hle : p.getDataLength ≤ p.bytes.length := by omega
  have htotal : p.totalSize = (message.length + p.headSize + sizeofTotalSizeType * 2) % 2 ^ 16 := by
    rw [Packet.totalSize, hdata]
    omega
  have htotalle : p.totalSize ≤ 65535 := by omega
  have hempty := hring.getEmptySize_eq
  have hdatale := hring.data_le
  rw [← htotal]
  constructor
  · rintro ⟨⟨fuel, c, hadd, hcring, happend⟩, hbody⟩
    have hsize := hp.body_eq_iff.1 hbody
    obtain ⟨d, hgrow, hcopy⟩ := (addPacket_http hhttp hle).1 hadd
    refine ⟨hsize, hring.hasRoom_of_grow htotalle hgrow, fun hroom => ?_⟩
    rw [NetworkBuffer.grow_of_le hroom] at hgrow
    obtain rfl := Option.some.inj hgrow
    -- what is held afterwards is in an allocation of the same size
    have hcsize := NetworkBuffer.bufferSize_memcpyToBuffer hcopy
    have hcdata := (NetworkBuffer.memcpyToBuffer_fields hcopy).1
    have hcle := hcring.data_le
    rcases happend with ⟨appended, hcontents, hcarries⟩ | rfl
    · rw [Carries, if_pos hhttp] at hcarries
      have hlen := congrArg List.length hcontents
      rw [hcring.length_contents, List.length_append, hring.length_contents, hcarries] at hlen
      omega
    · rw [hbody, add32] at hcdata
      have hlt := hring.size_lt
      omega
  · rintro ⟨hsize, hroom, hfree⟩
    have hbody := hp.body_eq_iff.2 hsize
    obtain ⟨d, hgrow, hdring, hdcontents, hddata, -, hdsize⟩ := hring.grow htotalle hroom
    have hfit : d.dataSize + p.body.length ≤ d.bufferSize := by
      have hadd : additionalSize = 131072 := rfl
      rw [hbody]
      rcases hdsize with ⟨hroom', hsame⟩ | ⟨-, hmore⟩
      · have := hfree hroom'
        omega
      · omega
    obtain ⟨c, hcopy, hcring, hccontents, -⟩ := hdring.write p.body hfit
    refine ⟨⟨1, c, (addPacket_http hhttp hle).2 ⟨d, hgrow, hcopy⟩, hcring, .inl ⟨message, ?_, ?_⟩⟩, hbody⟩
    · rw [hccontents, hdcontents, hbody]
    · rw [Carries, if_pos hhttp]

end

/-- **`AddPacket` keeps a message intact exactly if its length fits.** -/
theorem intact_iff {b : NetworkBuffer} {p q : Packet} {message : List UInt8} (hring : b.Ring) (hp : p.Pooled)
    (hq : p.Serialized message q) : Intact b q message ↔ FitsLength b q message := by
  obtain ⟨hholds, -⟩ := hq.holds hp
  rw [FitsLength]
  cases hhttp : isHttpMsg q.msgId with
  | true =>
    simp only [if_true]
    exact intact_iff_of_http hring hholds hhttp
  | false =>
    simp only [Bool.false_eq_true, if_false]
    exact intact_iff_of_framed hring hholds hhttp

theorem headSize_of_emptyMessage {q : Packet} (htag : q.tagKey = emptyMessage.tagKey) : q.headSize = 2 := by
  rw [Packet.headSize, htag]
  rfl

theorem not_http_of_emptyMessage {q : Packet} (hmsg : q.msgId = emptyMessage.msgId) :
    isHttpMsg q.msgId = false := by
  rw [hmsg]
  rfl

theorem intact_short : ∃ q, emptyMessage.Serialized [1, 2, 3] q ∧
    Intact (NetworkBuffer.create defaultBufferSize) q [1, 2, 3] := by
  have hp : emptyMessage.Pooled := Packet.pooled_create.awake _ _
  obtain ⟨q, hq⟩ := hp.exists_serialized (show [1, 2, 3].length < additionalSize by decide)
  obtain ⟨-, hmsg, htag⟩ := hq.holds hp
  refine ⟨q, hq, (intact_iff NetworkBuffer.ring_create_default hp hq).2 ?_⟩
  rw [FitsLength, not_http_of_emptyMessage hmsg, headSize_of_emptyMessage htag]
  exact ⟨by decide, .inr (by rw [NetworkBuffer.bufferSize_create]; decide)⟩

/-- **A body of 65530 bytes** behind the short head makes a frame whose length is said to be zero. -/
theorem not_intact : ¬ ∀ (b : NetworkBuffer) (p q : Packet) (message : List UInt8), b.Ring → p.Pooled →
    p.Serialized message q → Intact b q message := by
  intro hintact
  have hp : emptyMessage.Pooled := Packet.pooled_create.awake _ _
  have hlen : (List.replicate 65530 (0 : UInt8)).length = 65530 := List.length_replicate ..
  obtain ⟨q, hq⟩ := hp.exists_serialized (hlen.trans_lt (by decide))
  obtain ⟨hholds, hmsg, htag⟩ := hq.holds hp
  have hring := NetworkBuffer.ring_create_default
  have hsize := ((intact_iff_of_framed hring hholds (not_http_of_emptyMessage hmsg)).1
    (hintact _ _ q _ hring hp hq)).1
  rw [hlen, headSize_of_emptyMessage htag, sizeofTotalSizeType] at hsize
  omega

end MmoServer
