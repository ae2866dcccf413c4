/-
**Packets and what identifies them.**

A packet is a message id, a buffer with the body, the socket it came from or goes to, and a set of
tags that say whom it is for.  Connections and packets share the last two, and a packet that is
made from a connection takes them from it.

A `std::string` is the list of its bytes, and a `uint64` a `UInt64`.

Main definitions:

* `MmoServer.SocketKey`, `MmoServer.TagKey`, `MmoServer.NetIdentify` — what identifies a packet;
* `MmoServer.TagKey.addTag`, `MmoServer.TagKey.copyFrom` — setting one tag, and taking those of
  another key;
* `MmoServer.TagKey.compareTags` — the comparison of two keys;
* `MmoServer.Packet` and its operations;
* `MmoServer.Packet.Pooled` — the state in which the pool hands out a packet.

Main results:

* `MmoServer.TagKey.getTagValue_copyFrom_clear` — copying into an empty key gives it the tags of
  the other one;
* `MmoServer.TagKey.compareTags_eq_false_iff` — the comparison fails exactly if a tag tells the keys
  apart;
* `MmoServer.Packet.Pooled.grow` — a pooled packet grows at most once.
-/

import Mathlib.Data.List.TakeWhile
import MmoServer.Buffer
import MmoServer.Loop
import MmoServer.MsgId

set_option relaxedAutoImplicit false
set_option autoImplicit false

namespace MmoServer

/-! ### Strings -/

/-- The bytes of a string up to its first zero, as `c_str()` passes them on. -/
def cStr (s : List UInt8) : List UInt8 := s.takeWhile (· ≠ 0)

/-- The bytes up to the first zero contain none. -/
@[simp]
theorem cStr_cStr (s : List UInt8) : cStr (cStr s) = cStr s := List.takeWhile_idem

theorem length_cStr_le (s : List UInt8) : (cStr s).length ≤ s.length :=
  (List.takeWhile_sublist _).length_le

/-- The bytes up to the first zero are all bytes exactly if there is no zero. -/
theorem cStr_eq_iff (s : List UInt8) : cStr s = s ↔ 0 ∉ s := by
  unfold cStr
  rw [List.takeWhile_eq_self_iff]
  constructor
  · intro h hzero
    exact absurd rfl (of_decide_eq_true (h 0 hzero))
  · intro h b hb
    exact decide_eq_true fun hzero => h (hzero ▸ hb)

/-- Bytes behind others that contain no zero. -/
theorem cStr_append {s : List UInt8} (hzero : 0 ∉ s) (rest : List UInt8) : cStr (s ++ rest) = s ++ cStr rest := by
  refine List.takeWhile_append_of_pos fun b hb => decide_eq_true fun h => hzero ?_
  rw [← h]
  exact hb

/-! ### Identification -/

/-- `NetworkType`. -/
inductive NetworkType
  | none | tcpListen | tcpConnector | httpListen | httpConnector
  deriving DecidableEq, Repr

/-- `INVALID_SOCKET`. -/
def invalidSocket : ℤ := -1

/-- The connection a packet came from or goes to. -/
structure SocketKey where
  socket : ℤ
  netType : NetworkType
  deriving DecidableEq, Repr

/-- `SocketKey::None`. -/
def SocketKey.none : SocketKey := ⟨invalidSocket, .none⟩

/-- The kinds of tags. -/
inductive TagType
  | none | account | app | entity | toWorld | player | socket
  deriving DecidableEq, Repr

/-- `IsTagTypeStr`. -/
def TagType.isTagTypeStr (t : TagType) : Bool := t == .account

/-- The value of a tag: a string or a number, the other one empty. -/
structure TagValue where
  keyStr : List UInt8
  keyInt64 : UInt64
  deriving DecidableEq, Repr

/-- The tags of a packet or a connection, at most one of each kind. -/
structure TagKey where
  tags : TagType → Option TagValue

namespace TagKey

/-- `Clear`. -/
def clear : TagKey := ⟨fun _ => Option.none⟩

/-- `GetTagValue`. -/
def getTagValue (k : TagKey) (t : TagType) : Option TagValue := k.tags t

/-- `AddTag` of a string. -/
def addTagStr (k : TagKey) (t : TagType) (value : List UInt8) : TagKey :=
  ⟨fun u => if u = t then some ⟨value, 0⟩ else k.tags u⟩

/-- `AddTag` of a number. -/
def addTagInt (k : TagKey) (t : TagType) (value : UInt64) : TagKey :=
  ⟨fun u => if u = t then some ⟨[], value⟩ else k.tags u⟩

/-- `AddTag` of a value: its number, unless that is zero. -/
def addTag (k : TagKey) (t : TagType) (value : TagValue) : TagKey :=
  if value.keyInt64 ≠ 0 then k.addTagInt t value.keyInt64 else k.addTagStr t value.keyStr

/-- `CopyFrom`: `AddTag` of every tag of the other key. -/
def copyFrom (k other : TagKey) : TagKey :=
  ⟨fun u =>
    match other.tags u with
    | Option.none => k.tags u
    | some value => (k.addTag u value).tags u⟩

@[simp] theorem getTagValue_clear (t : TagType) : clear.getTagValue t = Option.none := rfl

@[simp] theorem getTagValue_addTagStr_self (k : TagKey) (t : TagType) (value : List UInt8) :
    (k.addTagStr t value).getTagValue t = some ⟨value, 0⟩ := if_pos rfl

@[simp] theorem getTagValue_addTagInt_self (k : TagKey) (t : TagType) (value : UInt64) :
    (k.addTagInt t value).getTagValue t = some ⟨[], value⟩ := if_pos rfl

theorem getTagValue_addTagInt_of_ne (k : TagKey) {t u : TagType} (value : UInt64) (h : u ≠ t) :
    (k.addTagInt t value).getTagValue u = k.getTagValue u := if_neg h

theorem getTagValue_addTagStr_of_ne (k : TagKey) {t u : TagType} (value : List UInt8)
    (h : u ≠ t) : (k.addTagStr t value).getTagValue u = k.getTagValue u := if_neg h

/-- The value that `AddTag` keeps of another one: its number, unless that is zero. -/
def normal (value : TagValue) : TagValue :=
  if value.keyInt64 ≠ 0 then ⟨[], value.keyInt64⟩ else ⟨value.keyStr, 0⟩

theorem getTagValue_addTag_self (k : TagKey) (t : TagType) (value : TagValue) :
    (k.addTag t value).getTagValue t = some (normal value) := by
  unfold addTag normal
  split
  · exact getTagValue_addTagInt_self k t _
  · exact getTagValue_addTagStr_self k t _

/-- Copying keeps a tag that the other key does not have. -/
theorem getTagValue_copyFrom_of_none (k : TagKey) {other : TagKey} {t : TagType}
    (h : other.getTagValue t = none) : (k.copyFrom other).getTagValue t = k.getTagValue t := by
  have htags : other.tags t = Option.none := h
  unfold copyFrom
  simp only [getTagValue, htags]

/-- **Copying into an empty key** gives it the tags of the other one. -/
theorem getTagValue_copyFrom_clear (other : TagKey) (t : TagType) :
    (clear.copyFrom other).getTagValue t = (other.getTagValue t).map normal := by
  unfold copyFrom
  cases h : other.getTagValue t with
  | none =>
    have htags : other.tags t = Option.none := h
    simp only [getTagValue, htags, Option.map_none, clear]
  | some value =>
    have htags : other.tags t = some value := h
    simp only [getTagValue, htags, Option.map_some]
    exact getTagValue_addTag_self clear t value

/-- `CompareTags` of one kind of tags: they are equal, or one is missing. -/
def compareTag (a b : TagKey) (t : TagType) : Bool :=
  match a.getTagValue t, b.getTagValue t with
  | some x, some y => if t.isTagTypeStr then x.keyStr == y.keyStr else x.keyInt64 == y.keyInt64
  | _, _ => true

/-- `CompareTags`. -/
def compareTags (a b : TagKey) : Bool := a.compareTag b .account && a.compareTag b .app

/-- Two keys have a tag of the same kind, account or process, with different values. -/
def Distinguished (a b : TagKey) : Prop :=
  (∃ x y, a.getTagValue .account = some x ∧ b.getTagValue .account = some y ∧
    x.keyStr ≠ y.keyStr) ∨
  ∃ x y, a.getTagValue .app = some x ∧ b.getTagValue .app = some y ∧ x.keyInt64 ≠ y.keyInt64

/-- **The comparison fails** exactly if a tag tells the keys apart. -/
theorem compareTags_eq_false_iff {a b : TagKey} : a.compareTags b = false ↔ a.Distinguished b := by
  unfold compareTags Distinguished
  rw [Bool.and_eq_false_iff]
  refine or_congr ?_ ?_
  · unfold compareTag
    cases a.getTagValue .account <;> cases b.getTagValue .account <;> simp [TagType.isTagTypeStr]
  · unfold compareTag
    cases a.getTagValue .app <;> cases b.getTagValue .app <;> simp [TagType.isTagTypeStr]

end TagKey

/-- What a packet and a connection have in common. -/
structure NetIdentify where
  socketKey : SocketKey
  tagKey : TagKey

/-! ### Packets -/

/-- `DEFAULT_PACKET_BUFFER_SIZE`. -/
def defaultPacketBufferSize : ℕ := 1024 * 10

/-- A packet.  Its buffer is used from the front: the body is what lies between the indices. -/
structure Packet extends Buffer, NetIdentify where
  msgId : MsgId
  ref : ℤ
  isRefOpen : Bool

namespace Packet

/-- `Awake`: a packet from the pool is set up for a message, and takes the identification of the
connection or the packet that it is made for. -/
def awake (p : Packet) (msgId : MsgId) (identify : Option NetIdentify) : Packet where
  bytes := p.bytes
  beginIndex := 0
  endIndex := 0
  socketKey :=
    match identify with
    | some i => i.socketKey
    | none => SocketKey.none
  tagKey :=
    match identify with
    | some i => TagKey.clear.copyFrom i.tagKey
    | none => TagKey.clear
  msgId := msgId
  ref := 0
  isRefOpen := false

/-- `GetDataLength`, an `unsigned short`. -/
def getDataLength (p : Packet) : ℕ := sub32 p.endIndex p.beginIndex % 2 ^ 16

/-- The body: what `GetBuffer` and `GetDataLength` name together. -/
def body (p : Packet) : List UInt8 := p.bytes.take p.getDataLength

/-- `FillData`. -/
def fillData (p : Packet) (size : ℕ) : Packet := { p with endIndex := add32 p.endIndex size }

/-- `ReAllocBuffer`. -/
def reAllocBuffer (p : Packet) : Option Packet :=
  (p.toBuffer.reAllocBuffer (sub32 p.endIndex p.beginIndex)).map fun c => { p with toBuffer := c }

/-- The packet with other bytes in its allocation, or with another allocation. -/
def setBytes (p : Packet) (bytes : List UInt8) : Packet := { p with bytes := bytes }

/-- A copy to `GetBuffer`, the start of the allocation. -/
def memcpy (p : Packet) (src : List UInt8) : Option Packet :=
  (writeAt p.bytes 0 src).map p.setBytes

/-- `AddRef`. -/
def addRef (p : Packet) : Packet := { p with ref := p.ref + 1 }

/-- `RemoveRef`.  A negative count is only logged. -/
def removeRef (p : Packet) : Packet := { p with ref := p.ref - 1 }

/-- `OpenRef`. -/
def openRef (p : Packet) : Packet := { p with isRefOpen := true }

/-- `CanBack2Pool`. -/
def canBack2Pool (p : Packet) : Bool :=
  if !p.isRefOpen then false else if p.ref = 0 then true else false

/-- A packet that the pool can hand out.  It was allocated with the default size, and it may have
grown while it was used before. -/
structure Pooled (p : Packet) : Prop where
  beginIndex_eq : p.beginIndex = 0
  endIndex_eq : p.endIndex = 0
  size_lt : p.bufferSize < 2 ^ 32
  size_mod : p.bufferSize % additionalSize = defaultPacketBufferSize

/-- A packet that was never used. -/
def create : Packet :=
  ⟨⟨List.replicate defaultPacketBufferSize 0, 0, 0⟩, ⟨SocketKey.none, TagKey.clear⟩, .none, 0, false⟩

theorem pooled_create : Pooled create := by
  have hsize : create.bufferSize = defaultPacketBufferSize := List.length_replicate ..
  refine ⟨rfl, rfl, ?_, ?_⟩
  · rw [hsize]
    decide
  · rw [hsize]
    decide

/-- The condition of the loop that makes room for a body. -/
def lacks (size : ℕ) (p : Packet) : Bool := p.bufferSize < size

/-- The loop that makes room for a body: `while (GetTotalSize() < size) ReAllocBuffer();`. -/
def grow (fuel : ℕ) (p : Packet) (size : ℕ) : Option Packet :=
  Loop.run (lacks size) reAllocBuffer fuel p

/-- An empty packet grows into an empty allocation. -/
theorem Pooled.reAllocBuffer {p : Packet} (h : Pooled p) :
    p.reAllocBuffer =
      some (p.setBytes (List.replicate (add32 p.bufferSize additionalSize) 0)) := by
  have hb := h.beginIndex_eq
  have he := h.endIndex_eq
  unfold Packet.reAllocBuffer Buffer.reAllocBuffer
  rw [if_neg (by omega), if_pos ⟨by omega, by rw [he, hb]; rfl⟩, ← hb]
  simp only [Option.map_some, setBytes, hb, ← he]

/-- **A pooled packet grows at most once** for a body whose length is an `unsigned short`. -/
theorem Pooled.grow {p : Packet} (h : Pooled p) {size : ℕ} (hsize : size < 2 ^ 16) :
    ∃ bytes, Packet.grow 1 p size = some (p.setBytes bytes) ∧ size ≤ bytes.length := by
  rcases Nat.lt_or_ge p.bufferSize size with hlt | hge
  · have hroom : size ≤ add32 p.bufferSize additionalSize := by
      rw [add32_eq (by unfold additionalSize; omega)]
      unfold additionalSize
      omega
    have hgrow := h.reAllocBuffer
    generalize hbytes : List.replicate (add32 p.bufferSize additionalSize) (0 : UInt8) = bytes
      at hgrow
    have hlen : size ≤ bytes.length := by
      rw [← hbytes, List.length_replicate]
      exact hroom
    have hcond : lacks size p = true := decide_eq_true hlt
    have hdone : lacks size (p.setBytes bytes) = false := decide_eq_false (Nat.not_lt.2 hlen)
    exact ⟨bytes, (Loop.run_succ_of 0 hcond hgrow).trans (Loop.run_of_not 0 hdone), hlen⟩
  · have hdone : lacks size p = false := decide_eq_false (Nat.not_lt.2 hge)
    exact ⟨p.bytes, Loop.run_of_not 1 hdone, hge⟩

end Packet

end MmoServer
