/-
**The ring of a connection holds a queue of bytes.**

`MmoServer/Buffer.lean` translates the network buffer; this module says what it means.  A buffer
in good order (`MmoServer.NetworkBuffer.Ring`) holds the bytes of a window of its allocation
(`MmoServer.NetworkBuffer.contents`), and every operation of the class is one operation on that
list: writing appends to it, removing drops its front, and a larger allocation does not change it.

Everything is about machine integers, so two of the operations need a bound: growing must not
overflow the 32-bit size, and removing must not overflow the sum of the begin index and the
number of removed bytes.

Main definitions:

* `MmoServer.NetworkBuffer.Ring` — the invariant;
* `MmoServer.NetworkBuffer.contents` — the bytes held.

Main results:

* `MmoServer.NetworkBuffer.Ring.memcpyToBuffer`, `MmoServer.NetworkBuffer.Ring.recvFill` —
  **writing appends**;
* `MmoServer.NetworkBuffer.Ring.removeData` — **removing drops the front**;
* `MmoServer.NetworkBuffer.Ring.memcpyFromBuffer`, `MmoServer.NetworkBuffer.Ring.sendPrefix` —
  **reading yields the front**;
* `MmoServer.NetworkBuffer.Ring.reAllocBuffer` — **growing changes nothing**.
-/

import Mathlib.Tactic.Linarith
import MmoServer.Buffer

set_option relaxedAutoImplicit false
set_option autoImplicit false

namespace MmoServer

open CyclicList

namespace NetworkBuffer

/-! ### The invariant -/

/-- A ring in good order.  Its size is a positive multiple of the amount it grows by, as the
default size is and as growing keeps it. -/
structure Ring (b : NetworkBuffer) : Prop where
  size_pos : 0 < b.bufferSize
  size_lt : b.bufferSize < 2 ^ 32
  size_dvd : additionalSize ∣ b.bufferSize
  begin_lt : b.beginIndex < b.bufferSize
  end_lt : b.endIndex < b.bufferSize
  data_le : b.dataSize ≤ b.bufferSize
  sum_mod : (b.beginIndex + b.dataSize) % b.bufferSize = b.endIndex

/-- The bytes held: `dataSize` of them, from the begin index on in a circle. -/
def contents (b : NetworkBuffer) : List UInt8 := window b.bytes b.beginIndex b.dataSize

@[simp] theorem contents_create (n : ℕ) : (create n).contents = [] := rfl

@[simp] theorem bufferSize_create (n : ℕ) : (create n).bufferSize = n :=
  List.length_replicate ..

/-- A ring as a connection creates it. -/
theorem ring_create {n : ℕ} (hpos : 0 < n) (hlt : n < 2 ^ 32) (hdvd : additionalSize ∣ n) :
    Ring (create n) where
  size_pos := by rw [bufferSize_create]; exact hpos
  size_lt := by rw [bufferSize_create]; exact hlt
  size_dvd := by rw [bufferSize_create]; exact hdvd
  begin_lt := by rw [bufferSize_create]; exact hpos
  end_lt := by rw [bufferSize_create]; exact hpos
  data_le := Nat.zero_le _
  sum_mod := Nat.zero_mod _

theorem ring_create_default : Ring (create defaultBufferSize) :=
  ring_create (by decide) (by decide) (by decide)

namespace Ring

variable {b : NetworkBuffer}

theorem length_contents (h : Ring b) : b.contents.length = b.dataSize :=
  length_window h.data_le

/-- The largest size leaves one more growth step below `2 ^ 32`. -/
theorem size_le (h : Ring b) : b.bufferSize + additionalSize ≤ 2 ^ 32 := by
  obtain ⟨k, hk⟩ := h.size_dvd
  have hlt := h.size_lt
  simp only [additionalSize] at hk ⊢
  omega

theorem additionalSize_le (h : Ring b) : additionalSize ≤ b.bufferSize :=
  Nat.le_of_dvd h.size_pos h.size_dvd

/-- The end index without the remainder: the bytes run over the end at most once. -/
theorem endIndex_eq (h : Ring b) :
    (b.beginIndex + b.dataSize < b.bufferSize ∧ b.endIndex = b.beginIndex + b.dataSize) ∨
      (b.bufferSize ≤ b.beginIndex + b.dataSize ∧
        b.endIndex + b.bufferSize = b.beginIndex + b.dataSize) := by
  have hb := h.begin_lt
  have hd := h.data_le
  rw [← h.sum_mod]
  rcases Nat.lt_or_ge (b.beginIndex + b.dataSize) b.bufferSize with hlt | hge
  · exact Or.inl ⟨hlt, Nat.mod_eq_of_lt hlt⟩
  · refine Or.inr ⟨hge, ?_⟩
    rw [Nat.mod_eq_sub_mod (by omega), Nat.mod_eq_of_lt (by omega)]
    omega

/-- The invariant from the end index without the remainder. -/
theorem of_endIndex (hpos : 0 < b.bufferSize) (hlt : b.bufferSize < 2 ^ 32)
    (hdvd : additionalSize ∣ b.bufferSize) (hb : b.beginIndex < b.bufferSize)
    (hd : b.dataSize ≤ b.bufferSize)
    (he : (b.beginIndex + b.dataSize < b.bufferSize ∧ b.endIndex = b.beginIndex + b.dataSize) ∨
      (b.bufferSize ≤ b.beginIndex + b.dataSize ∧
        b.endIndex + b.bufferSize = b.beginIndex + b.dataSize)) : Ring b where
  size_pos := hpos
  size_lt := hlt
  size_dvd := hdvd
  begin_lt := hb
  end_lt := by omega
  data_le := hd
  sum_mod := by
    rcases he with ⟨hlt, he⟩ | ⟨hge, he⟩
    · rw [he, Nat.mod_eq_of_lt hlt]
    · rw [Nat.mod_eq_sub_mod (by omega), Nat.mod_eq_of_lt (by omega)]
      omega

/-! ### The three sizes -/

theorem getEmptySize_eq (h : Ring b) : b.getEmptySize = b.bufferSize - b.dataSize :=
  sub32_eq h.size_lt h.data_le

theorem getWriteSize_eq (h : Ring b) :
    (b.beginIndex ≤ b.endIndex ∧ b.getWriteSize = b.bufferSize - b.endIndex) ∨
      (b.endIndex < b.beginIndex ∧ b.getWriteSize = b.beginIndex - b.endIndex) := by
  have hb := h.begin_lt
  have he := h.end_lt
  have hs := h.size_lt
  unfold getWriteSize
  split
  · rename_i hle
    exact Or.inl ⟨hle, sub32_eq hs (by omega)⟩
  · rename_i hgt
    exact Or.inr ⟨by omega, sub32_eq (by omega) (by omega)⟩

theorem getReadSize_eq (h : Ring b) :
    b.getReadSize = min b.dataSize (b.bufferSize - b.beginIndex) := by
  have hb := h.begin_lt
  have he := h.endIndex_eq
  have hs := h.size_lt
  have hd := h.data_le
  unfold getReadSize
  split
  · omega
  · split
    · rw [sub32_eq (by omega) (by omega)]
      omega
    · rw [sub32_eq hs (by omega)]
      omega

/-- **The write area of a ring that is not full is not empty.** -/
theorem getWriteSize_pos (h : Ring b) : 0 < b.getWriteSize := by
  have he := h.end_lt
  have hws := h.getWriteSize_eq
  omega

/-- The write area of a ring that is not full is part of its free bytes. -/
theorem getWriteSize_le (h : Ring b) (hd : b.dataSize < b.bufferSize) :
    b.getWriteSize ≤ b.bufferSize - b.dataSize := by
  have he := h.endIndex_eq
  have hb := h.begin_lt
  have hws := h.getWriteSize_eq
  omega

end Ring

/-! ### Writing -/

/-- `FillData` without the wrap of the machine integers. -/
theorem fillData_fields {b : NetworkBuffer} (size : ℕ) (hs : b.bufferSize < 2 ^ 32)
    (he : b.endIndex < b.bufferSize) (hd : b.dataSize + size ≤ b.bufferSize) :
    (b.fillData size).bytes = b.bytes ∧ (b.fillData size).beginIndex = b.beginIndex ∧
      (b.fillData size).dataSize = b.dataSize + size ∧
      ((b.endIndex + size < b.bufferSize ∧ (b.fillData size).endIndex = b.endIndex + size) ∨
        (b.bufferSize ≤ b.endIndex + size ∧
          (b.fillData size).endIndex + b.bufferSize = b.endIndex + size)) := by
  have hroom : sub32 b.bufferSize b.endIndex = b.bufferSize - b.endIndex := sub32_eq hs (by omega)
  have hdata : add32 b.dataSize size = b.dataSize + size := add32_eq (by omega)
  unfold fillData
  simp only [hroom, hdata]
  split
  · rename_i hr
    refine ⟨rfl, rfl, rfl, Or.inr ⟨by omega, ?_⟩⟩
    show add32 0 (sub32 size (b.bufferSize - b.endIndex)) + b.bufferSize = _
    rw [sub32_eq (by omega) hr, add32_eq (by omega)]
    omega
  · rename_i hr
    exact ⟨rfl, rfl, rfl, Or.inl ⟨by omega, add32_eq (by omega)⟩⟩

/-- `RemoveData` without the wrap of the machine integers. -/
theorem removeData_fields {b : NetworkBuffer} {size : ℕ} (hs : b.bufferSize < 2 ^ 32)
    (hb : b.beginIndex < b.bufferSize) (hd : size ≤ b.dataSize) (hds : b.dataSize ≤ b.bufferSize)
    (hsum : b.beginIndex + size < 2 ^ 32) :
    (b.removeData size).bytes = b.bytes ∧ (b.removeData size).endIndex = b.endIndex ∧
      (b.removeData size).dataSize = b.dataSize - size ∧
      ((b.beginIndex + size < b.bufferSize ∧
          (b.removeData size).beginIndex = b.beginIndex + size) ∨
        (b.bufferSize ≤ b.beginIndex + size ∧
          (b.removeData size).beginIndex = b.beginIndex + size - b.bufferSize)) := by
  have hdata : sub32 b.dataSize size = b.dataSize - size := sub32_eq (by omega) hd
  have hadd : add32 b.beginIndex size = b.beginIndex + size := add32_eq hsum
  unfold removeData
  simp only [hdata, hadd]
  split
  · rename_i hr
    refine ⟨rfl, rfl, rfl, Or.inr ⟨hr, ?_⟩⟩
    show add32 0 (sub32 size (sub32 b.bufferSize b.beginIndex)) = _
    rw [sub32_eq hs (by omega), sub32_eq (by omega) (by omega), add32_eq (by omega)]
    omega
  · rename_i hr
    exact ⟨rfl, rfl, rfl, Or.inl ⟨by omega, rfl⟩⟩

/-- Writing adds the bytes, and does not move the begin. -/
theorem memcpyToBuffer_fields {b c : NetworkBuffer} {src : List UInt8}
    (h : b.memcpyToBuffer src = some c) :
    c.dataSize = add32 b.dataSize src.length ∧ c.beginIndex = b.beginIndex := by
  have hfill : ∀ (bytes : List UInt8) (n : ℕ),
      (fillData { b with bytes := bytes } n).dataSize = add32 b.dataSize n ∧
        (fillData { b with bytes := bytes } n).beginIndex = b.beginIndex := by
    intro bytes n
    simp only [fillData]
    split <;> exact ⟨rfl, rfl⟩
  simp only [memcpyToBuffer] at h
  split at h
  · obtain ⟨bytes, -, h⟩ := Option.bind_eq_some_iff.1 h
    obtain ⟨bytes', -, h⟩ := Option.bind_eq_some_iff.1 h
    obtain rfl := Option.some.inj h
    exact hfill bytes' _
  · obtain ⟨bytes, -, h⟩ := Option.bind_eq_some_iff.1 h
    obtain rfl := Option.some.inj h
    exact hfill bytes _

namespace Ring

variable {b : NetworkBuffer}

/-- Counting the bytes of a list that was written at the end index. -/
theorem fillData (h : Ring b) {src : List UInt8} {c : NetworkBuffer}
    (hsrc : b.dataSize + src.length ≤ b.bufferSize)
    (hc : c = { b with bytes := cyclicWrite b.bytes b.endIndex src }) :
    Ring (c.fillData src.length) ∧ (c.fillData src.length).contents = b.contents ++ src ∧
      (c.fillData src.length).bufferSize = b.bufferSize ∧
      (c.fillData src.length).dataSize = b.dataSize + src.length := by
  have hel := h.end_lt
  have heq := h.endIndex_eq
  have hlen : c.bufferSize = b.bufferSize := by
    rw [hc]
    exact length_cyclicWrite (Nat.le_of_lt hel) (Nat.le_trans (Nat.le_add_left _ _) hsrc)
  have hwin : window c.bytes b.beginIndex (b.dataSize + src.length) = b.contents ++ src := by
    rw [hc]
    exact window_cyclicWrite h.begin_lt hsrc hel heq
  have hb : c.beginIndex = b.beginIndex := by rw [hc]
  have he : c.endIndex = b.endIndex := by rw [hc]
  have hd : c.dataSize = b.dataSize := by rw [hc]
  have hbl := h.begin_lt
  obtain ⟨hfbytes, hfb, hfd, hfe⟩ := fillData_fields (b := c) src.length
    (hlen ▸ h.size_lt) (by omega) (by omega)
  have hflen : (c.fillData src.length).bufferSize = b.bufferSize := by
    rw [← hlen, Buffer.bufferSize, hfbytes, Buffer.bufferSize]
  refine ⟨Ring.of_endIndex (hflen ▸ h.size_pos) (hflen ▸ h.size_lt) (hflen ▸ h.size_dvd)
    (by omega) (by omega) (by omega), ?_, hflen, by omega⟩
  rw [contents, hfbytes, hfb, hb, hfd, hd, hwin]

/-- **`MemcpyToBuffer` appends**, as long as the bytes fit. -/
theorem memcpyToBuffer (h : Ring b) {src : List UInt8} (hsrc : src.length ≤ b.getEmptySize) :
    ∃ c, b.memcpyToBuffer src = some c ∧ Ring c ∧ c.contents = b.contents ++ src ∧
      c.bufferSize = b.bufferSize ∧ c.dataSize = b.dataSize + src.length := by
  have heq := h.endIndex_eq
  have hws := h.getWriteSize_eq
  have hel := h.end_lt
  have hbl := h.begin_lt
  have hdl := h.data_le
  have hB : b.bufferSize = b.bytes.length := rfl
  rw [h.getEmptySize_eq] at hsrc
  refine ⟨_, ?_, h.fillData (by omega) rfl⟩
  unfold NetworkBuffer.memcpyToBuffer cyclicWrite
  simp only
  split
  · -- the bytes run over the end of the allocation
    rename_i hw
    have hfit : b.getWriteSize = b.bytes.length - b.endIndex := by omega
    have htake : (src.take (b.bytes.length - b.endIndex)).length = b.bytes.length - b.endIndex := by
      rw [List.length_take]
      omega
    have hlen := length_overwrite (l := b.bytes) (i := b.endIndex)
      (s := src.take (b.bytes.length - b.endIndex)) (by omega)
    rw [hfit, writeAt_eq (by omega), if_pos (by omega), Option.bind_eq_bind, Option.bind_some,
      writeAt_eq (by rw [hlen, List.length_drop]; omega), Option.bind_some]
  · rename_i hw
    rw [writeAt_eq (by omega), if_neg (by omega)]
    rfl

/-- **Receiving appends**: bytes written at the write pointer of a ring that is not full. -/
theorem recvFill (h : Ring b) {src : List UInt8} (hd : b.dataSize < b.bufferSize)
    (hsrc : src.length ≤ b.getWriteSize) :
    ∃ c, b.recvFill src = some c ∧ Ring c ∧ c.contents = b.contents ++ src ∧
      c.bufferSize = b.bufferSize ∧ c.dataSize = b.dataSize + src.length := by
  have heq := h.endIndex_eq
  have hws := h.getWriteSize_eq
  have hle := h.getWriteSize_le hd
  have hel := h.end_lt
  have hbl := h.begin_lt
  have hB : b.bufferSize = b.bytes.length := rfl
  refine ⟨_, ?_, h.fillData (by omega) rfl⟩
  unfold NetworkBuffer.recvFill recvGetBuffer cyclicWrite
  rw [writeAt_eq (by omega), if_neg (by omega)]
  rfl

/-! ### Removing and reading -/

/-- **`RemoveData` drops the front**, if the sum of the begin index and the number of removed
bytes is an `unsigned int`. -/
theorem removeData (h : Ring b) {size : ℕ} (hd : size ≤ b.dataSize)
    (hsum : b.beginIndex + size < 2 ^ 32) :
    Ring (b.removeData size) ∧ (b.removeData size).contents = b.contents.drop size ∧
      (b.removeData size).bufferSize = b.bufferSize ∧
      (b.removeData size).dataSize = b.dataSize - size := by
  have heq := h.endIndex_eq
  have hbl := h.begin_lt
  have hdl := h.data_le
  obtain ⟨hfbytes, hfe, hfd, hfb⟩ := removeData_fields h.size_lt hbl hd hdl hsum
  have hlen : (b.removeData size).bufferSize = b.bufferSize := by
    rw [Buffer.bufferSize, hfbytes, Buffer.bufferSize]
  refine ⟨Ring.of_endIndex (hlen ▸ h.size_pos) (hlen ▸ h.size_lt) (hlen ▸ h.size_dvd)
    (by omega) (by omega) (by omega), ?_, hlen, hfd⟩
  rw [contents, contents, hfbytes, hfd]
  rcases hfb with ⟨hr, hfb⟩ | ⟨hr, hfb⟩
  · rw [hfb, drop_window_of_lt hr hd hdl]
  · rw [hfb, drop_window_of_ge hbl hr hd hdl, Buffer.bufferSize]

/-- **`MemcpyFromBuffer` reads the front.** -/
theorem memcpyFromBuffer (h : Ring b) {size : ℕ} (hd : size ≤ b.dataSize) :
    b.memcpyFromBuffer size = some (b.contents.take size) := by
  have hlt := h.size_lt
  have hbl := h.begin_lt
  have hdl := h.data_le
  have hrs := h.getReadSize_eq
  have hB : b.bufferSize = b.bytes.length := rfl
  rw [contents, take_window _ _ hd]
  unfold NetworkBuffer.memcpyFromBuffer
  simp only
  split
  · -- the bytes run over the end of the allocation
    rename_i hr
    have hread : b.getReadSize = b.bytes.length - b.beginIndex := by omega
    have htail : (b.bytes.drop b.beginIndex).take (b.bytes.length - b.beginIndex) =
        b.bytes.drop b.beginIndex := List.take_of_length_le (by rw [List.length_drop])
    have hhead : size - (b.bytes.length - b.beginIndex) =
        b.beginIndex + size - b.bytes.length := by omega
    rw [window_of_wrap (by omega) (by omega) (by omega), hread, sub32_eq (by omega) (by omega),
      readAt_eq (by omega), readAt_eq (by omega), htail, List.drop_zero, hhead]
    rfl
  · rename_i hr
    rw [window_of_le (by omega), readAt_eq (by omega)]

/-- **Sending takes the front**: the bytes `GetBuffer` exposes are the first ones held. -/
theorem sendPrefix (h : Ring b) {size : ℕ} (hsize : (size : ℤ) ≤ b.sendGetBuffer.2) :
    size ≤ b.dataSize ∧ b.beginIndex + size ≤ b.bufferSize ∧
      b.sendPrefix size = some (b.contents.take size, b.removeData size) := by
  have heq := h.endIndex_eq
  have hlt := h.size_lt
  have hbl := h.begin_lt
  have hdl := h.data_le
  have hB : b.bufferSize = b.bytes.length := rfl
  have hint : ∀ n : ℕ, toInt32 n ≤ (n : ℤ) := by
    intro n
    unfold toInt32
    split <;> omega
  -- the exposed piece is part of the held bytes and ends inside the allocation
  have hpiece : size ≤ b.dataSize ∧ b.beginIndex + size ≤ b.bufferSize := by
    unfold sendGetBuffer at hsize
    split at hsize
    · simp only at hsize
      omega
    · split at hsize
      · have hle := hint (sub32 b.endIndex b.beginIndex)
        rw [sub32_eq (by omega) (by omega)] at hle hsize
        simp only at hsize
        omega
      · have hle := hint (sub32 b.bufferSize b.beginIndex)
        rw [sub32_eq (by omega) (by omega)] at hle hsize
        simp only at hsize
        omega
  refine ⟨hpiece.1, hpiece.2, ?_⟩
  rw [contents, take_window _ _ hpiece.1, window_of_le (by omega)]
  unfold NetworkBuffer.sendPrefix
  by_cases hzero : b.dataSize = 0
  · -- nothing is exposed, and nothing was sent
    obtain rfl : size = 0 := by omega
    have hnone : b.sendGetBuffer.1 = none := by
      unfold sendGetBuffer
      rw [if_pos hzero]
    rw [hnone, List.take_zero]
  · have hsome : b.sendGetBuffer.1 = some b.beginIndex := by
      unfold sendGetBuffer
      rw [if_neg hzero]
      split <;> rfl
    rw [hsome]
    simp only [Option.bind_eq_bind]
    rw [readAt_eq (by omega), Option.bind_some]

end Ring

/-! ### Growing -/

/-- The first bytes of a fresh allocation. -/
theorem overwrite_replicate (n : ℕ) (src : List UInt8) :
    overwrite (List.replicate n 0) 0 src = src ++ List.replicate (n - src.length) 0 := by
  simp [overwrite]

/-- The bytes behind the first ones of a fresh allocation. -/
theorem overwrite_append_replicate (n : ℕ) (tail head : List UInt8) :
    overwrite (tail ++ List.replicate n 0) tail.length head =
      tail ++ head ++ List.replicate (n - head.length) 0 := by
  simp [overwrite]

namespace Ring

variable {b : NetworkBuffer}

/-- `ReAllocBuffer` moves the bytes held to the front of the larger allocation. -/
theorem reAllocBuffer_eq (h : Ring b) (hsize : b.bufferSize + additionalSize < 2 ^ 32) :
    b.reAllocBuffer = some ⟨⟨b.contents ++
      List.replicate (b.bufferSize + additionalSize - b.dataSize) 0, 0, b.dataSize⟩,
        b.dataSize⟩ := by
  have heq := h.endIndex_eq
  have hbl := h.begin_lt
  have hel := h.end_lt
  have hdl := h.data_le
  have hB : b.bufferSize = b.bytes.length := rfl
  unfold NetworkBuffer.reAllocBuffer Buffer.reAllocBuffer
  rw [add32_eq hsize, contents]
  simp only [Option.bind_eq_bind]
  by_cases hlt : b.beginIndex < b.endIndex
  · -- the bytes are one piece
    have hds : sub32 b.endIndex b.beginIndex = b.dataSize := by
      rw [sub32_eq (by omega) (by omega)]
      omega
    rw [if_pos hlt, hds, readAt_eq (by omega), Option.bind_some,
      writeAt_eq (by rw [List.length_replicate, List.length_take, List.length_drop]; omega),
      Option.bind_some, overwrite_replicate, window_of_le (by omega), List.length_take,
      List.length_drop, Nat.min_eq_left (by omega)]
    rfl
  · rw [if_neg hlt]
    by_cases hempty : b.beginIndex = b.endIndex ∧ b.dataSize = 0
    · rw [if_pos hempty, hempty.2, window_zero, List.nil_append, Nat.sub_zero]
      rfl
    · -- the bytes run up to the end of the allocation, and go on at its front
      have htail : sub32 b.bufferSize b.beginIndex = b.bytes.length - b.beginIndex := by
        rw [sub32_eq (by omega) (by omega), hB]
      have hdrop : (b.bytes.drop b.beginIndex).take (b.bytes.length - b.beginIndex) =
          b.bytes.drop b.beginIndex := List.take_of_length_le (by rw [List.length_drop])
      have hlen : (b.bytes.drop b.beginIndex).length = b.bytes.length - b.beginIndex :=
        List.length_drop ..
      rw [if_neg hempty, htail, readAt_eq (by omega), Option.bind_some, hdrop,
        writeAt_eq (by rw [List.length_replicate]; omega), Option.bind_some, overwrite_replicate,
        window_of_wrap (by omega) (by omega) (by omega)]
      have hhead : (b.bytes.take b.endIndex).length = b.endIndex := by
        rw [List.length_take]
        omega
      have hend : b.beginIndex + b.dataSize - b.bytes.length = b.endIndex := by omega
      rw [hend]
      by_cases hpos : 0 < b.endIndex
      · rw [if_pos hpos, readAt_eq (by omega), Option.bind_some, List.drop_zero,
          writeAt_eq (by rw [List.length_append, List.length_replicate]; omega), Option.bind_some,
          ← hlen, overwrite_append_replicate, hlen, hhead, add32_eq (by omega), Option.map_some]
        congr 4
        · congr 1
          omega
        · omega
      · have hzero : b.endIndex = 0 := by omega
        rw [if_neg hpos, hzero, List.take_zero, List.append_nil, hlen, Option.map_some]
        congr 4
        · congr 1
          omega
        · omega

/-- A ring that holds the first `n` bytes of its allocation. -/
theorem of_front {bytes : List UInt8} {n : ℕ} (hn : n < bytes.length)
    (hlt : bytes.length < 2 ^ 32) (hdvd : additionalSize ∣ bytes.length) :
    Ring ⟨⟨bytes, 0, n⟩, n⟩ ∧ (contents ⟨⟨bytes, 0, n⟩, n⟩) = bytes.take n := by
  have hpos : 0 < bytes.length := by omega
  refine ⟨⟨hpos, hlt, hdvd, hpos, hn, Nat.le_of_lt hn, ?_⟩, ?_⟩
  · show (0 + n) % bytes.length = n
    rw [Nat.zero_add, Nat.mod_eq_of_lt hn]
  · rw [contents, window_of_le (by show 0 + n ≤ bytes.length; omega), List.drop_zero]

/-- **`ReAllocBuffer` changes nothing but the size**, as long as the new size is an
`unsigned int`. -/
theorem reAllocBuffer (h : Ring b) (hsize : b.bufferSize + additionalSize < 2 ^ 32) :
    ∃ c, b.reAllocBuffer = some c ∧ Ring c ∧ c.contents = b.contents ∧
      c.bufferSize = b.bufferSize + additionalSize ∧ c.dataSize = b.dataSize := by
  have hlen := h.length_contents
  have hdl := h.data_le
  have hadd : 0 < additionalSize := by decide
  have hnew : (b.contents ++
      List.replicate (b.bufferSize + additionalSize - b.dataSize) (0 : UInt8)).length =
        b.bufferSize + additionalSize := by
    rw [List.length_append, List.length_replicate, hlen]
    omega
  have hdvd : additionalSize ∣ b.bufferSize + additionalSize :=
    Nat.dvd_add h.size_dvd (Nat.dvd_refl _)
  obtain ⟨hring, hcontents⟩ := of_front (n := b.dataSize) (by omega) (by omega) (hnew ▸ hdvd)
  refine ⟨_, h.reAllocBuffer_eq hsize, hring, ?_, hnew, rfl⟩
  rw [hcontents, ← hlen, List.take_left']
  rfl

/-- **The last size of all does not grow**: the next one is zero, and the bytes held do not fit. -/
theorem reAllocBuffer_overflow (h : Ring b) (hsize : b.bufferSize + additionalSize = 2 ^ 32)
    (hdata : 0 < b.dataSize) : b.reAllocBuffer = none := by
  have heq := h.endIndex_eq
  have hbl := h.begin_lt
  have hel := h.end_lt
  have hdl := h.data_le
  have hlt := h.size_lt
  have hzero : add32 b.bufferSize additionalSize = 0 := by
    unfold add32
    omega
  have hnone : ∀ src : List UInt8, 0 < src.length → writeAt (List.replicate 0 0) 0 src = none :=
    fun src hsrc => if_neg (by simp only [List.replicate_zero, List.length_nil]; omega)
  have hB : b.bufferSize = b.bytes.length := rfl
  unfold NetworkBuffer.reAllocBuffer Buffer.reAllocBuffer
  rw [hzero]
  simp only [Option.bind_eq_bind]
  by_cases hpiece : b.beginIndex < b.endIndex
  · have hsub : sub32 b.endIndex b.beginIndex = b.endIndex - b.beginIndex :=
      sub32_eq (by omega) (by omega)
    rw [if_pos hpiece, hsub, readAt_eq (by omega), Option.bind_some,
      hnone _ (by rw [List.length_take, List.length_drop]; omega)]
    rfl
  · have hsub : sub32 b.bufferSize b.beginIndex = b.bytes.length - b.beginIndex := by
      rw [sub32_eq (by omega) (by omega), hB]
    rw [if_neg hpiece, if_neg (by omega), hsub, readAt_eq (by omega), Option.bind_some,
      hnone _ (by rw [List.length_take, List.length_drop]; omega)]
    rfl

end Ring

/-- Any bytes that fit can be what a ring holds. -/
theorem exists_ring_contents {q : List UInt8} (hq : q.length ≤ defaultBufferSize) :
    ∃ b : NetworkBuffer, b.Ring ∧ b.contents = q := by
  have hempty : (create defaultBufferSize).getEmptySize = defaultBufferSize := by
    rw [ring_create_default.getEmptySize_eq, bufferSize_create]
    rfl
  obtain ⟨c, -, hring, hcontents, -⟩ :=
    ring_create_default.memcpyToBuffer (hempty ▸ hq)
  exact ⟨c, hring, by rw [hcontents, contents_create, List.nil_append]⟩

end NetworkBuffer

end MmoServer
