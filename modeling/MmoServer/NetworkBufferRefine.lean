/-
**A network buffer is a queue of bytes.**

A connection uses its two rings through seven operations.  This module runs them in any order and
compares the ring with what it is for: a first-in first-out queue, in which a ring, its two indices
and its allocation do not occur.

The queue has no size.  The ring has one, an `unsigned int`, and growing it past the last value of
that type starts again from zero.  So the refinement is a theorem about the runs in which no size
overflows (`MmoServer.RingOp.NoOverflow`), and an example of a run in which one does.

Main definitions:

* `MmoServer.RingOp`, `MmoServer.RingOp.Allowed`, `MmoServer.RingOp.apply` — the operations of a
  ring, when a caller may use them, and what the code does;
* `MmoServer.ringSystem` — the runs of a ring from its construction on;
* `MmoServer.queueSystem` — the runs of a queue;
* `MmoServer.Represents` — the relation between the two.

Main results:

* `MmoServer.represents_apply` — one operation of the ring is one operation of the queue;
* `MmoServer.ring_refines_queue` — **runs of a ring are runs of a queue**;
* `MmoServer.ring_overflows` — a run of a ring that leaves it without any allocation.
-/

import MmoServer.NetworkBufferRing
import MmoServer.Transition

set_option relaxedAutoImplicit false
set_option autoImplicit false

namespace MmoServer

open CyclicList Transition

/-! ### The operations of a ring -/

/-- What a connection does with a ring. -/
inductive RingOp
  /-- `SendNetworkBuffer::MemcpyToBuffer`. -/
  | memcpyToBuffer (src : List UInt8)
  /-- The system writes at the write pointer, then `FillData`. -/
  | recv (src : List UInt8)
  /-- `RecvNetworkBuffer::MemcpyFromBuffer`. -/
  | memcpyFromBuffer (size : ℕ)
  /-- `RemoveData`. -/
  | removeData (size : ℕ)
  /-- `SendNetworkBuffer::GetBuffer`, then `RemoveData` of a prefix of what it exposed. -/
  | send (size : ℕ)
  /-- `ReAllocBuffer`. -/
  | reAllocBuffer
  /-- The connection closes, and its object goes back to its pool. -/
  | backToPool
  deriving DecidableEq

/-- An operation, with the bytes that it reads. -/
structure RingEvent where
  op : RingOp
  out : List UInt8

namespace RingOp

/-- When a caller may use an operation. -/
def Allowed (b : NetworkBuffer) : RingOp → Prop
  | memcpyToBuffer src => src.length ≤ b.getEmptySize
  | recv src => b.dataSize < b.bufferSize ∧ src.length ≤ b.getWriteSize
  | memcpyFromBuffer size => size ≤ b.dataSize
  | removeData size => size ≤ b.dataSize
  | send size => (size : ℤ) ≤ b.sendGetBuffer.2
  | reAllocBuffer => True
  | backToPool => True

/-- What the code does: the ring afterwards and the bytes read, or an access outside of the
allocation. -/
def apply (b : NetworkBuffer) : RingOp → Option (NetworkBuffer × List UInt8)
  | memcpyToBuffer src => (b.memcpyToBuffer src).map fun c => (c, [])
  | recv src => (b.recvFill src).map fun c => (c, [])
  | memcpyFromBuffer size => (b.memcpyFromBuffer size).map fun out => (b, out)
  | removeData size => some (b.removeData size, [])
  | send size => (b.sendPrefix size).map fun p => (p.2, p.1)
  | reAllocBuffer => b.reAllocBuffer.map fun c => (c, [])
  | backToPool => some (b.backToPool, [])

/-- No `unsigned int` that the operation computes overflows. -/
def NoOverflow (b : NetworkBuffer) : RingOp → Prop
  | removeData size => b.beginIndex + size < 2 ^ 32
  | reAllocBuffer => b.bufferSize + additionalSize < 2 ^ 32
  | _ => True

/-- What the operation is for: the queue afterwards and the bytes read. -/
def onQueue (q : List UInt8) : RingOp → List UInt8 × List UInt8
  | memcpyToBuffer src => (q ++ src, [])
  | recv src => (q ++ src, [])
  | memcpyFromBuffer size => (q, q.take size)
  | removeData size => (q.drop size, [])
  | send size => (q.drop size, q.take size)
  | reAllocBuffer => (q, [])
  | backToPool => ([], [])

end RingOp

/-- The runs of a ring, from its construction on. -/
def ringSystem : System NetworkBuffer RingEvent where
  init b := b = NetworkBuffer.create defaultBufferSize
  step b e c := e.op.Allowed b ∧ e.op.apply b = some (c, e.out)

/-- The runs of a queue that starts empty. -/
def queueSystem : System (List UInt8) RingEvent where
  init q := q = []
  step q e r := e.op.onQueue q = (r, e.out)

/-! ### One operation -/

/-- The ring holds the bytes of the queue, and its fields are in good order. -/
structure Represents (b : NetworkBuffer) (q : List UInt8) : Prop where
  contents_eq : b.contents = q
  begin_lt : b.beginIndex < b.bufferSize
  end_lt : b.endIndex < b.bufferSize
  data_le : b.dataSize ≤ b.bufferSize
  sum_mod : (b.beginIndex + b.dataSize) % b.bufferSize = b.endIndex
  writable : b.dataSize < b.bufferSize → 0 < b.getWriteSize

/-- A ring in good order represents its contents. -/
theorem NetworkBuffer.Ring.represents {b : NetworkBuffer} (h : b.Ring) :
    Represents b b.contents where
  contents_eq := rfl
  begin_lt := h.begin_lt
  end_lt := h.end_lt
  data_le := h.data_le
  sum_mod := h.sum_mod
  writable _ := h.getWriteSize_pos

theorem NetworkBuffer.Ring.backToPool {b : NetworkBuffer} (h : b.Ring) :
    b.backToPool.Ring ∧ b.backToPool.contents = [] :=
  ⟨⟨h.size_pos, h.size_lt, h.size_dvd, h.size_pos, h.size_pos, Nat.zero_le _, Nat.zero_mod _⟩,
    window_zero _ _⟩

/-- **One operation of the ring is one operation of the queue**, with the same bytes read and
without a fault. -/
theorem represents_apply {b : NetworkBuffer} (h : b.Ring) {op : RingOp} (hallow : op.Allowed b)
    (hno : op.NoOverflow b) :
    ∃ c, op.apply b = some (c, (op.onQueue b.contents).2) ∧ c.Ring ∧
      c.contents = (op.onQueue b.contents).1 := by
  cases op with
  | memcpyToBuffer src =>
    obtain ⟨c, hc, hring, hcontents, -⟩ := h.memcpyToBuffer hallow
    exact ⟨c, by rw [RingOp.apply, hc]; rfl, hring, hcontents⟩
  | recv src =>
    obtain ⟨c, hc, hring, hcontents, -⟩ := h.recvFill hallow.1 hallow.2
    exact ⟨c, by rw [RingOp.apply, hc]; rfl, hring, hcontents⟩
  | memcpyFromBuffer size =>
    exact ⟨b, by rw [RingOp.apply, h.memcpyFromBuffer hallow]; rfl, h, rfl⟩
  | removeData size =>
    obtain ⟨hring, hcontents, -⟩ := h.removeData hallow hno
    exact ⟨_, rfl, hring, hcontents⟩
  | send size =>
    obtain ⟨hd, hend, hsend⟩ := h.sendPrefix hallow
    have hlt := h.size_lt
    obtain ⟨hring, hcontents, -⟩ := h.removeData hd (by omega)
    exact ⟨_, by rw [RingOp.apply, hsend]; rfl, hring, hcontents⟩
  | reAllocBuffer =>
    obtain ⟨c, hc, hring, hcontents, -⟩ := h.reAllocBuffer hno
    exact ⟨c, by rw [RingOp.apply, hc]; rfl, hring, hcontents⟩
  | backToPool =>
    exact ⟨_, rfl, h.backToPool.1, h.backToPool.2⟩

/-! ### Runs -/

/-- The runs of a ring in which no size overflows. -/
def boundedRingSystem : System NetworkBuffer RingEvent :=
  ringSystem.restrict fun b e => e.op.NoOverflow b

/-- A ring in good order is the queue of its contents, step by step. -/
theorem boundedRingSystem_simulates :
    boundedRingSystem.Simulates queueSystem fun b q => b.Ring ∧ b.contents = q where
  init := by
    rintro b rfl
    exact ⟨[], rfl, NetworkBuffer.ring_create_default, NetworkBuffer.contents_create _⟩
  step := by
    rintro b q ⟨op, out⟩ c ⟨hring, rfl⟩ ⟨hno, hallow, happly⟩
    obtain ⟨c', hc', hring', hcontents'⟩ := represents_apply hring hallow hno
    obtain ⟨rfl, rfl⟩ : c' = c ∧ (op.onQueue b.contents).2 = out := by
      simpa [hc'] using happly
    exact ⟨_, rfl, hring', hcontents'⟩

/-- **Runs of a ring are runs of a queue.**  After any run in which no size overflows, the ring
holds the bytes of the queue, every byte read on the way was the one the queue gave, and no
operation that is allowed next reads or writes outside of the allocation. -/
theorem ring_refines_queue {es : List RingEvent} {b : NetworkBuffer}
    (hrun : boundedRingSystem.Run es b) :
    ∃ q, queueSystem.Run es q ∧ Represents b q ∧
      ∀ op : RingOp, op.Allowed b → op.NoOverflow b → (op.apply b).isSome := by
  obtain ⟨q, hq, hring, rfl⟩ := boundedRingSystem_simulates.run hrun
  refine ⟨_, hq, hring.represents, fun op hallow hno => ?_⟩
  obtain ⟨c, hc, -⟩ := represents_apply hring hallow hno
  rw [hc]
  rfl

/-- Three bytes are written over the end of a ring. -/
def overTheEnd : List RingEvent :=
  [⟨.memcpyToBuffer (List.replicate 131070 0), []⟩, ⟨.removeData 131070, []⟩, ⟨.memcpyToBuffer [1, 2, 3], []⟩]

/-- **A ring whose bytes run over its end**, and that is then read and grown: it is the queue of the three bytes. -/
theorem ring_refines_queue_overTheEnd :
    ∃ b c, boundedRingSystem.Run overTheEnd b ∧ b.endIndex < b.beginIndex ∧ Represents b [1, 2, 3] ∧
      boundedRingSystem.Run (overTheEnd ++ [⟨.memcpyFromBuffer 3, [1, 2, 3]⟩] ++ [⟨.reAllocBuffer, []⟩]) c ∧
      c.bufferSize = 262144 ∧ Represents c [1, 2, 3] := by
  have hdefault : (NetworkBuffer.create defaultBufferSize).bufferSize = 131072 := by
    rw [NetworkBuffer.bufferSize_create]
    rfl
  have hring := NetworkBuffer.ring_create_default
  have hempty := hring.getEmptySize_eq
  have hdata : (NetworkBuffer.create defaultBufferSize).dataSize = 0 := rfl
  have hlength : (List.replicate 131070 (0 : UInt8)).length = 131070 := List.length_replicate ..
  -- the ring is filled and emptied, up to two bytes before its end
  have hfits₁ : (RingOp.memcpyToBuffer (List.replicate 131070 0)).Allowed
      (NetworkBuffer.create defaultBufferSize) := by
    rw [RingOp.Allowed]
    omega
  obtain ⟨b₁, hb₁, hring₁, hcontents₁, hsize₁, hdata₁⟩ := hring.memcpyToBuffer hfits₁
  have hbegin₁ : b₁.beginIndex = 0 := (NetworkBuffer.memcpyToBuffer_fields hb₁).2
  have hheld₁ : 131070 ≤ b₁.dataSize := by omega
  obtain ⟨hring₂, hcontents₂, hsize₂, hdata₂⟩ := hring₁.removeData hheld₁ (by omega)
  obtain ⟨-, -, -, hbegin₂⟩ := NetworkBuffer.removeData_fields hring₁.size_lt hring₁.begin_lt hheld₁
    hring₁.data_le (by omega)
  have hnil : (b₁.removeData 131070).contents = [] :=
    List.eq_nil_of_length_eq_zero (by rw [hring₂.length_contents]; omega)
  -- three bytes are written
  have hempty₂ := hring₂.getEmptySize_eq
  have hthree : ([1, 2, 3] : List UInt8).length = 3 := rfl
  have hfits₂ : (RingOp.memcpyToBuffer [1, 2, 3]).Allowed (b₁.removeData 131070) := by
    rw [RingOp.Allowed]
    omega
  obtain ⟨b, hb, hbring, hcontents, hsize, hbdata⟩ := hring₂.memcpyToBuffer hfits₂
  have hbegin := (NetworkBuffer.memcpyToBuffer_fields hb).2
  rw [hnil, List.nil_append] at hcontents
  -- they are read, and the ring grows
  have hheld : 3 ≤ b.dataSize := by omega
  have hread := hbring.memcpyFromBuffer hheld
  rw [hcontents] at hread
  have hadd : additionalSize = 131072 := rfl
  have hgrow : (RingOp.reAllocBuffer).NoOverflow b := by
    rw [RingOp.NoOverflow]
    omega
  obtain ⟨c, hc, hcring, hccontents, hcsize, -⟩ := hbring.reAllocBuffer hgrow
  have hfill : boundedRingSystem.step (NetworkBuffer.create defaultBufferSize)
      ⟨.memcpyToBuffer (List.replicate 131070 0), []⟩ b₁ := ⟨trivial, hfits₁, by rw [RingOp.apply, hb₁]; rfl⟩
  have hremove : boundedRingSystem.step b₁ ⟨.removeData 131070, []⟩ (b₁.removeData 131070) :=
    ⟨(by show b₁.beginIndex + 131070 < 2 ^ 32; omega), hheld₁, rfl⟩
  have hwrite : boundedRingSystem.step (b₁.removeData 131070) ⟨.memcpyToBuffer [1, 2, 3], []⟩ b :=
    ⟨trivial, hfits₂, by rw [RingOp.apply, hb]; rfl⟩
  have hcopy : boundedRingSystem.step b ⟨.memcpyFromBuffer 3, [1, 2, 3]⟩ b :=
    ⟨trivial, hheld, by rw [RingOp.apply, hread]; rfl⟩
  have hgrown : boundedRingSystem.step b ⟨.reAllocBuffer, []⟩ c :=
    ⟨hgrow, trivial, by rw [RingOp.apply, hc]; rfl⟩
  have hrun : boundedRingSystem.Run overTheEnd b := (((System.Run.init rfl).step hfill).step hremove).step hwrite
  have hnext := (hrun.step hcopy).step hgrown
  obtain ⟨q, -, hrep, -⟩ := ring_refines_queue hrun
  obtain ⟨q', -, hrep', -⟩ := ring_refines_queue hnext
  have hend := hbring.endIndex_eq
  refine ⟨b, c, hrun, by omega, ?_, hnext, by omega, ?_⟩
  · rw [← hrep.contents_eq, hcontents] at hrep
    exact hrep
  · rw [← hrep'.contents_eq, hccontents, hcontents] at hrep'
    exact hrep'

/-- Growing an empty ring is making a larger one. -/
theorem step_create {n m : ℕ} (hm : add32 n additionalSize = m) :
    ringSystem.step (NetworkBuffer.create n) ⟨.reAllocBuffer, []⟩ (NetworkBuffer.create m) := by
  have hn : (List.replicate n (0 : UInt8)).length = n := List.length_replicate ..
  have hgrow : (NetworkBuffer.create n).reAllocBuffer = some (NetworkBuffer.create m) := by
    simp [NetworkBuffer.reAllocBuffer, Buffer.reAllocBuffer, NetworkBuffer.create,
      Buffer.bufferSize, hn, hm]
  refine ⟨trivial, ?_⟩
  rw [RingOp.apply, hgrow]
  rfl

/-- A ring can be grown again and again, up to the last multiple of its growth below `2 ^ 32`. -/
theorem exists_run_create (k : ℕ) (hk : k < 32767) :
    ∃ es, ringSystem.Run es (NetworkBuffer.create ((k + 1) * additionalSize)) := by
  induction k with
  | zero => exact ⟨[], System.Run.init rfl⟩
  | succ k ih =>
    obtain ⟨es, hes⟩ := ih (by omega)
    refine ⟨_, hes.step (step_create ?_)⟩
    rw [add32_eq (by unfold additionalSize; omega), Nat.succ_mul (k + 1)]

/-- **The size overflows.**  A ring that is grown 32767 times is left with an allocation of no
bytes at all, whose begin index is not inside of it. -/
theorem ring_overflows :
    ¬ ∀ (es : List RingEvent) (b : NetworkBuffer), ringSystem.Run es b →
      ∃ q, queueSystem.Run es q ∧ Represents b q ∧
        ∀ op : RingOp, op.Allowed b → (op.apply b).isSome := by
  intro h
  obtain ⟨es, hes⟩ := exists_run_create 32766 (by decide)
  have hzero : add32 ((32766 + 1) * additionalSize) additionalSize = 0 := by decide
  obtain ⟨q, -, hrep, -⟩ := h _ _ (hes.step (step_create hzero))
  exact absurd hrep.begin_lt (by decide)

end MmoServer
