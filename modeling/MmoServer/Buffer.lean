/-
**Byte buffers and the network ring buffer.**

The server keeps the bytes of a packet and the bytes of a connection in buffers that share one
base class: an allocation, the index of its first used byte and the index behind its last one.  A
packet uses its buffer from the front; a connection uses it in a circle, and counts the bytes it
holds in a third field, because an empty and a full ring both have their two indices equal.

All of these are `unsigned int`, so the arithmetic here is modulo `2 ^ 32`, and an access outside
an allocation is `none`.

Main definitions:

* `MmoServer.add32`, `MmoServer.sub32` — `unsigned int` addition and subtraction;
* `MmoServer.readAt`, `MmoServer.writeAt` — the two sides of a `memcpy`;
* `MmoServer.Buffer`, `MmoServer.Buffer.reAllocBuffer` — the base class and its growth;
* `MmoServer.NetworkBuffer` and its operations — the ring of a connection.
-/

import Mathlib.Algebra.Order.Ring.Nat
import MmoServer.CyclicList

set_option relaxedAutoImplicit false
set_option autoImplicit false

namespace MmoServer

open CyclicList

/-! ### Unsigned arithmetic -/

/-- Addition of `unsigned int`s. -/
def add32 (a b : ℕ) : ℕ := (a + b) % 2 ^ 32

/-- Subtraction of `unsigned int`s. -/
def sub32 (a b : ℕ) : ℕ := (a + (2 ^ 32 - b)) % 2 ^ 32

/-- The `int` with the bits of an `unsigned int`. -/
def toInt32 (a : ℕ) : ℤ := if a < 2 ^ 31 then (a : ℤ) else (a : ℤ) - 2 ^ 32

theorem add32_eq {a b : ℕ} (h : a + b < 2 ^ 32) : add32 a b = a + b := Nat.mod_eq_of_lt h

theorem sub32_eq {a b : ℕ} (ha : a < 2 ^ 32) (h : b ≤ a) : sub32 a b = a - b := by
  unfold sub32
  omega

/-! ### Copying bytes -/

/-- The source of a `memcpy`: `size` bytes from `off` on, inside the allocation. -/
def readAt (bytes : List UInt8) (off size : ℕ) : Option (List UInt8) :=
  if off + size ≤ bytes.length then some ((bytes.drop off).take size) else none

/-- The destination of a `memcpy`: `src` from `off` on, inside the allocation. -/
def writeAt (bytes : List UInt8) (off : ℕ) (src : List UInt8) : Option (List UInt8) :=
  if off + src.length ≤ bytes.length then some (overwrite bytes off src) else none

theorem readAt_eq {bytes : List UInt8} {off size : ℕ} (h : off + size ≤ bytes.length) :
    readAt bytes off size = some ((bytes.drop off).take size) := if_pos h

theorem writeAt_eq {bytes src : List UInt8} {off : ℕ} (h : off + src.length ≤ bytes.length) :
    writeAt bytes off src = some (overwrite bytes off src) := if_pos h

/-! ### The base class -/

/-- What a buffer grows by. -/
def additionalSize : ℕ := 1024 * 128

/-- A buffer: its allocation, and the indices of its first byte and behind its last one.  The
allocation has `_bufferSize` bytes at all times. -/
structure Buffer where
  bytes : List UInt8
  beginIndex : ℕ
  endIndex : ℕ

namespace Buffer

/-- The size of the allocation. -/
def bufferSize (b : Buffer) : ℕ := b.bytes.length

/-- `GetTotalSize`. -/
def getTotalSize (b : Buffer) : ℕ := b.bufferSize

/-- `GetEmptySize` of the base class, the one a packet uses. -/
def getEmptySize (b : Buffer) : ℕ := sub32 b.bufferSize b.endIndex

/-- Move the bytes to the front of a larger allocation.  Past the maximum size the source only
prints a warning; the new size is an `unsigned int` like every other. -/
def reAllocBuffer (b : Buffer) (dataLength : ℕ) : Option Buffer :=
  let temp := List.replicate (add32 b.bufferSize additionalSize) 0
  if b.beginIndex < b.endIndex then do
    let src ← readAt b.bytes b.beginIndex (sub32 b.endIndex b.beginIndex)
    let temp ← writeAt temp 0 src
    some ⟨temp, 0, sub32 b.endIndex b.beginIndex⟩
  else if b.beginIndex = b.endIndex ∧ dataLength = 0 then
    some ⟨temp, 0, 0⟩
  else do
    let tail ← readAt b.bytes b.beginIndex (sub32 b.bufferSize b.beginIndex)
    let temp ← writeAt temp 0 tail
    let newEndIndex := sub32 b.bufferSize b.beginIndex
    if 0 < b.endIndex then do
      let head ← readAt b.bytes 0 b.endIndex
      let temp ← writeAt temp newEndIndex head
      some ⟨temp, 0, add32 newEndIndex b.endIndex⟩
    else
      some ⟨temp, 0, newEndIndex⟩

end Buffer

/-! ### The ring of a connection -/

/-- The buffer of a connection: `dataSize` bytes are held, from `beginIndex` on in a circle. -/
structure NetworkBuffer extends Buffer where
  dataSize : ℕ

/-- `sizeof(PacketHead)`. -/
def sizeofPacketHead : ℕ := 2

/-- `sizeof(PacketHeadS2S)`: the message id, two bytes of padding, and two 64-bit numbers. -/
def sizeofPacketHeadS2S : ℕ := 20

/-- `sizeof(TotalSizeType)`. -/
def sizeofTotalSizeType : ℕ := 2

/-- `DEFAULT_RECV_BUFFER_SIZE` and `DEFAULT_SEND_BUFFER_SIZE`. -/
def defaultBufferSize : ℕ := 1024 * 128

namespace NetworkBuffer

/-- The constructor. -/
def create (size : ℕ) : NetworkBuffer := ⟨⟨List.replicate size 0, 0, 0⟩, 0⟩

/-- `BackToPool`. -/
def backToPool (b : NetworkBuffer) : NetworkBuffer :=
  ⟨⟨b.bytes, 0, 0⟩, 0⟩

/-- `HasData`: at least one head. -/
def hasData (b : NetworkBuffer) : Bool :=
  if b.dataSize = 0 then false else if b.dataSize < sizeofPacketHead then false else true

/-- `GetEmptySize`: the free bytes of the ring, before and behind its bytes together. -/
def getEmptySize (b : NetworkBuffer) : ℕ := sub32 b.bufferSize b.dataSize

/-- `GetWriteSize`: the free bytes that can be written in one piece. -/
def getWriteSize (b : NetworkBuffer) : ℕ :=
  if b.beginIndex ≤ b.endIndex then sub32 b.bufferSize b.endIndex
  else sub32 b.beginIndex b.endIndex

/-- `GetReadSize`: the held bytes that can be read in one piece. -/
def getReadSize (b : NetworkBuffer) : ℕ :=
  if b.dataSize = 0 then 0
  else if b.beginIndex < b.endIndex then sub32 b.endIndex b.beginIndex
  else sub32 b.bufferSize b.beginIndex

/-- `FillData`: count `size` bytes that were written at the end index. -/
def fillData (b : NetworkBuffer) (size : ℕ) : NetworkBuffer :=
  let room := sub32 b.bufferSize b.endIndex
  if room ≤ size then
    { b with dataSize := add32 b.dataSize size, endIndex := add32 0 (sub32 size room) }
  else
    { b with dataSize := add32 b.dataSize size, endIndex := add32 b.endIndex size }

/-- `RemoveData`: drop `size` bytes at the begin index. -/
def removeData (b : NetworkBuffer) (size : ℕ) : NetworkBuffer :=
  if b.bufferSize ≤ add32 b.beginIndex size then
    { b with
      dataSize := sub32 b.dataSize size
      beginIndex := add32 0 (sub32 size (sub32 b.bufferSize b.beginIndex)) }
  else
    { b with dataSize := sub32 b.dataSize size, beginIndex := add32 b.beginIndex size }

/-- `ReAllocBuffer`. -/
def reAllocBuffer (b : NetworkBuffer) : Option NetworkBuffer :=
  (b.toBuffer.reAllocBuffer b.dataSize).map fun c => { c with dataSize := b.dataSize }

/-- `RecvNetworkBuffer::MemcpyFromBuffer`: read `size` bytes in one piece or in two, without
removing them. -/
def memcpyFromBuffer (b : NetworkBuffer) (size : ℕ) : Option (List UInt8) :=
  let readSize := b.getReadSize
  if readSize < size then do
    let tail ← readAt b.bytes b.beginIndex readSize
    let head ← readAt b.bytes 0 (sub32 size readSize)
    some (tail ++ head)
  else readAt b.bytes b.beginIndex size

/-- `SendNetworkBuffer::MemcpyToBuffer`: write `src` in one piece or in two, and count it. -/
def memcpyToBuffer (b : NetworkBuffer) (src : List UInt8) : Option NetworkBuffer :=
  let writeSize := b.getWriteSize
  if writeSize < src.length then do
    let bytes ← writeAt b.bytes b.endIndex (src.take writeSize)
    let bytes ← writeAt bytes 0 (src.drop writeSize)
    some (fillData { b with bytes := bytes } src.length)
  else do
    let bytes ← writeAt b.bytes b.endIndex src
    some (fillData { b with bytes := bytes } src.length)

/-- `RecvNetworkBuffer::GetBuffer`: where `::recv` may write, and how many bytes. -/
def recvGetBuffer (b : NetworkBuffer) : ℕ × ℤ := (b.endIndex, toInt32 b.getWriteSize)

/-- The receiving half of `ConnectObj::Recv`: the system writes `src` where `GetBuffer` points
to, and `FillData` counts it. -/
def recvFill (b : NetworkBuffer) (src : List UInt8) : Option NetworkBuffer := do
  let bytes ← writeAt b.bytes b.recvGetBuffer.1 src
  some (fillData { b with bytes := bytes } src.length)

/-- `SendNetworkBuffer::GetBuffer`: the bytes exposed to `::send`, as their index and number; no
index when nothing is held. -/
def sendGetBuffer (b : NetworkBuffer) : Option ℕ × ℤ :=
  if b.dataSize = 0 then (none, 0)
  else if b.beginIndex < b.endIndex then
    (some b.beginIndex, toInt32 (sub32 b.endIndex b.beginIndex))
  else (some b.beginIndex, toInt32 (sub32 b.bufferSize b.beginIndex))

/-- One successful `::send` of `size` of the bytes that `GetBuffer` exposes: they leave the
process, and `RemoveData` drops them. -/
def sendPrefix (b : NetworkBuffer) (size : ℕ) : Option (List UInt8 × NetworkBuffer) :=
  match b.sendGetBuffer.1 with
  | none => some ([], b.removeData size)
  | some off => do
      let sent ← readAt b.bytes off size
      some (sent, b.removeData size)

end NetworkBuffer

end MmoServer
