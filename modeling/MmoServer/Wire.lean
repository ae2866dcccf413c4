/-
**Messages as tagged fields.**

A message is written as a sequence of fields, each behind a tag with the number and the kind of the field.
Numbers are written in groups of seven bits, and strings and nested messages behind their length.  A reader
merges one field after the other into a message, and stops at the first one that it cannot read, with what
it has merged until then.  Strings have to be UTF-8, which is decided by a finite automaton.

This module has the readers and the writers of the pieces, over an arbitrary type of messages, and the rules
by which what was written is read back.

Main definitions:

* `Wire.varint`, `Wire.readVarint64` — a number;
* `Wire.delimited`, `Wire.readString`, `Wire.readMessage` — what stands behind its length;
* `Wire.mergeFields`, `Wire.merge` — the loop over the fields of a message;
* `Wire.Reads` — bytes that are whole fields;
* `Wire.validUtf8` — the automaton.

Main results:

* `Wire.readVarint64_varint` — **a number is read back**;
* `Wire.merge_of_reads`, `Wire.merge_of_fails` — the end of a message, and a field that cannot be read;
* `Wire.weight_mergeFields_le` — a message holds no more bytes than were read;
* `Wire.validUtf8_of_ascii` — seven-bit strings are valid.
-/

import Mathlib.Algebra.Order.Ring.Nat

set_option relaxedAutoImplicit false
set_option autoImplicit false

namespace Wire

/-! ### Numbers -/

/-- A number in groups of seven bits, the lowest first, in so many bytes at most. -/
def writeVarint : ℕ → ℕ → List UInt8
  | 0, _ => []
  | k + 1, n =>
    if n < 128 then [UInt8.ofNat n] else UInt8.ofNat (n % 128 + 128) :: writeVarint k (n / 128)

/-- A number from so many bytes at most, and what follows. -/
def readVarint : ℕ → List UInt8 → Option (ℕ × List UInt8)
  | 0, _ => none
  | _ + 1, [] => none
  | k + 1, b :: rest =>
    if b.toNat < 128 then some (b.toNat, rest)
    else (readVarint k rest).map fun (n, rest) => (b.toNat - 128 + 128 * n, rest)

/-- A number of 64 bits takes ten bytes at most. -/
def maxVarintBytes : ℕ := 10

/-- A number of 64 bits. -/
def varint (value : UInt64) : List UInt8 := writeVarint maxVarintBytes value.toNat

/-- Read a number of 64 bits. -/
def readVarint64 (bytes : List UInt8) : Option (UInt64 × List UInt8) :=
  (readVarint maxVarintBytes bytes).map fun (n, rest) => (UInt64.ofNat n, rest)

theorem readVarint_writeVarint (k n : ℕ) (rest : List UInt8) (hn : n < 128 ^ k) (hk : 0 < k) :
    readVarint k (writeVarint k n ++ rest) = some (n, rest) := by
  induction k generalizing n with
  | zero => omega
  | succ k ih =>
    by_cases hlt : n < 128
    · have hb : (UInt8.ofNat n).toNat = n := by
        rw [UInt8.toNat_ofNat']
        omega
      rw [writeVarint, if_pos hlt, List.singleton_append, readVarint, hb, if_pos hlt]
    · have hb : (UInt8.ofNat (n % 128 + 128)).toNat = n % 128 + 128 := by
        rw [UInt8.toNat_ofNat']
        omega
      have hdiv : n / 128 < 128 ^ k := by
        rw [Nat.div_lt_iff_lt_mul (by decide)]
        rwa [Nat.pow_succ] at hn
      have hpos : 0 < k := by
        rcases Nat.eq_zero_or_pos k with rfl | hpos
        · simp at hn
          omega
        · exact hpos
      rw [writeVarint, if_neg hlt, List.cons_append, readVarint, hb, if_neg (by omega),
        ih _ hdiv hpos, Option.map_some]
      have hn : n % 128 + 128 - 128 + 128 * (n / 128) = n := by omega
      simp only [hn]

/-- **A number is read back**, whatever follows it. -/
theorem readVarint64_varint (value : UInt64) (rest : List UInt8) :
    readVarint64 (varint value ++ rest) = some (value, rest) := by
  have hlt : value.toNat < 128 ^ maxVarintBytes :=
    Nat.lt_trans value.toNat_lt (by decide)
  rw [readVarint64, varint, readVarint_writeVarint _ _ rest hlt (by decide), Option.map_some]
  simp only [UInt64.ofNat_toNat]

theorem length_of_readVarint {k n : ℕ} {bytes rest : List UInt8}
    (h : readVarint k bytes = some (n, rest)) : rest.length < bytes.length := by
  induction k generalizing bytes n with
  | zero => cases h
  | succ k ih =>
    cases bytes with
    | nil => cases h
    | cons b bytes =>
      rw [readVarint] at h
      split at h
      · obtain ⟨-, rfl⟩ := Prod.mk.inj (Option.some.inj h)
        exact Nat.lt_succ_self _
      · obtain ⟨⟨m, rest'⟩, hrest, heq⟩ := Option.map_eq_some_iff.1 h
        obtain ⟨-, rfl⟩ := Prod.mk.inj heq
        exact Nat.lt_succ_of_lt (ih hrest)

theorem length_of_readVarint64 {bytes rest : List UInt8} {value : UInt64}
    (h : readVarint64 bytes = some (value, rest)) : rest.length < bytes.length := by
  obtain ⟨⟨n, rest'⟩, hrest, heq⟩ := Option.map_eq_some_iff.1 h
  obtain ⟨-, rfl⟩ := Prod.mk.inj heq
  exact length_of_readVarint hrest

theorem length_writeVarint_le (k n : ℕ) : (writeVarint k n).length ≤ k := by
  induction k generalizing n with
  | zero => exact Nat.le_refl _
  | succ k ih =>
    rw [writeVarint]
    split
    · exact Nat.succ_le_succ (Nat.zero_le _)
    · exact Nat.succ_le_succ (ih _)

theorem length_varint_le (value : UInt64) : (varint value).length ≤ maxVarintBytes :=
  length_writeVarint_le _ _

/-- A number of 32 bits with a sign is written as one of 64 bits. -/
def ofInt32 (value : Int32) : UInt64 := value.toInt64.toUInt64

/-- The number of 32 bits with a sign in the low bits. -/
def toInt32 (value : UInt64) : Int32 := value.toUInt32.toInt32

@[simp] theorem toInt32_ofInt32 (value : Int32) : toInt32 (ofInt32 value) = value := by
  refine Int32.toBitVec_inj.1 ?_
  have hlow : (value.toBitVec.signExtend 64).setWidth 32 = value.toBitVec := by
    ext i hi
    rw [BitVec.getElem_setWidth, BitVec.getLsbD_signExtend, if_pos hi, BitVec.getLsbD_eq_getElem hi]
    rw [Bool.and_eq_right_iff_imp]
    exact fun _ => decide_eq_true (by omega)
  exact hlow

/-! ### What stands behind its length -/

/-- Bytes behind their number. -/
def delimited (bytes : List UInt8) : List UInt8 := varint (UInt64.ofNat bytes.length) ++ bytes

/-- Read a string over an old one.  A string that is cut off takes what there is, and is an error. -/
def readString (old bytes : List UInt8) : List UInt8 × Option (List UInt8) :=
  match readVarint64 bytes with
  | none => (old, none)
  | some (size, rest) =>
    -- the length is cut to 32 bits, and then read as a number with a sign
    let size := size.toUInt32.toNat
    if 2 ^ 31 ≤ size then (old, none)
    else if rest.length < size then (rest, none)
    else (rest.take size, some (rest.drop size))

/-- Read a nested message, which has to take all of its bytes. -/
def readMessage {M : Type*} (empty : M) (merge : List UInt8 → M × Bool) (bytes : List UInt8) :
    M × Option (List UInt8) :=
  match readVarint64 bytes with
  | none => (empty, none)
  | some (size, rest) =>
    if 2 ^ 31 ≤ size.toNat then (empty, none)
    else
      -- what was merged stays, even if the message is not read to its end
      let nested := merge (rest.take size.toNat)
      (nested.1, if nested.2 then some (rest.drop size.toNat) else none)

theorem toNat_ofNat_length {bytes : List UInt8} (h : bytes.length < 2 ^ 31) :
    (UInt64.ofNat bytes.length).toNat = bytes.length := by
  rw [UInt64.toNat_ofNat']
  omega

theorem readString_delimited {s : List UInt8} (h : s.length < 2 ^ 31) (old rest : List UInt8) :
    readString old (delimited s ++ rest) = (s, some rest) := by
  have hsize : (UInt64.ofNat s.length).toUInt32.toNat = s.length := by
    rw [UInt64.toNat_toUInt32, toNat_ofNat_length h]
    omega
  have hlen : ¬ (s ++ rest).length < s.length := by
    rw [List.length_append]
    omega
  rw [readString, delimited, List.append_assoc, readVarint64_varint]
  simp only [hsize]
  rw [if_neg (by omega), if_neg hlen, List.take_left, List.drop_left]

theorem readMessage_delimited {M : Type*} {bytes : List UInt8} (h : bytes.length < 2 ^ 31) (empty : M)
    (merge : List UInt8 → M × Bool) (rest : List UInt8) :
    readMessage empty merge (delimited bytes ++ rest) =
      ((merge bytes).1, if (merge bytes).2 then some rest else none) := by
  rw [readMessage, delimited, List.append_assoc, readVarint64_varint]
  simp only [toNat_ofNat_length h]
  rw [if_neg (by omega), List.take_left, List.drop_left]

/-- A string that was read, with what is left, is no longer than what there was. -/
theorem length_readString_le (old bytes : List UInt8) :
    (readString old bytes).1.length + ((readString old bytes).2.elim 0 List.length) ≤
      old.length + bytes.length := by
  unfold readString
  cases hread : readVarint64 bytes with
  | none => simp
  | some read =>
    obtain ⟨size, rest⟩ := read
    have hlt := length_of_readVarint64 hread
    simp only
    split
    · simp
    · split
      · simp
        omega
      · simp
        omega

/-- And if it is read only under a condition. -/
theorem length_readString_if_le (old bytes : List UInt8) (c : Prop) [Decidable c] :
    (readString old bytes).1.length + ((if c then (readString old bytes).2 else none).elim 0 List.length) ≤
      old.length + bytes.length := by
  have hle := length_readString_le old bytes
  split
  · exact hle
  · rw [Option.elim_none]
    omega

/-- A nested message holds no more than it was given, and what is left is behind it. -/
theorem weight_readMessage_le {M : Type*} (weight : M → ℕ) (empty : M) {merge : List UInt8 → M × Bool}
    (hempty : weight empty = 0) (hmerge : ∀ bytes, weight (merge bytes).1 ≤ bytes.length)
    (bytes : List UInt8) :
    weight (readMessage empty merge bytes).1 + ((readMessage empty merge bytes).2.elim 0 List.length) ≤
      bytes.length := by
  unfold readMessage
  cases hread : readVarint64 bytes with
  | none => simp [hempty]
  | some read =>
    obtain ⟨size, rest⟩ := read
    have hlt := length_of_readVarint64 hread
    have hle := hmerge (rest.take size.toNat)
    rw [List.length_take] at hle
    simp only
    split
    · simp [hempty]
    · cases (merge (rest.take size.toNat)).2 with
      | true =>
        simp only [if_true, Option.elim_some, List.length_drop]
        omega
      | false =>
        simp only [Bool.false_eq_true, if_false, Option.elim_none]
        omega

/-! ### The fields of a message -/

section Fields

variable {M : Type*}

/-- The tag of the next field.  There is none at a zero, or if it is cut off. -/
def readTag (bytes : List UInt8) : Option (ℕ × List UInt8) :=
  (readVarint maxVarintBytes bytes).bind fun (n, rest) =>
    if n % 2 ^ 32 = 0 then none else some (n % 2 ^ 32, rest)

/-- Merge one field after the other, in so many rounds at most; and whether all bytes were read. -/
def mergeFields (field : ℕ → M → List UInt8 → M × Option (List UInt8)) :
    ℕ → M → List UInt8 → M × Bool
  | _, m, [] => (m, true)
  | 0, m, _ :: _ => (m, false)
  | fuel + 1, m, b :: bytes =>
    match readTag (b :: bytes) with
    | none => (m, false)
    | some (tag, rest) =>
      match field tag m rest with
      | (m, none) => (m, false)
      | (m, some rest) => mergeFields field fuel m rest

/-- Merge a whole message: every field takes a byte at least. -/
def merge (field : ℕ → M → List UInt8 → M × Option (List UInt8)) (m : M) (bytes : List UInt8) :
    M × Bool :=
  mergeFields field bytes.length m bytes

/-- A field with a number, which the message takes. -/
def readField (m : M) (set : UInt64 → M) (bytes : List UInt8) : M × Option (List UInt8) :=
  match readVarint64 bytes with
  | none => (m, none)
  | some (value, rest) => (set value, some rest)

/-- What is done with a field that the message does not have: it is skipped, or an error. -/
structure SkipField where
  skip : ℕ → List UInt8 → Option (List UInt8)
  length_le : ∀ {tag bytes rest}, skip tag bytes = some rest → rest.length ≤ bytes.length

/-- The bytes are whole fields, which turn one message into another. -/
def Reads (field : ℕ → M → List UInt8 → M × Option (List UInt8)) (m : M) (bytes : List UInt8)
    (m' : M) : Prop :=
  ∃ n ≤ bytes.length, ∀ fuel rest,
    mergeFields field (n + fuel) m (bytes ++ rest) = mergeFields field fuel m' rest

variable {field : ℕ → M → List UInt8 → M × Option (List UInt8)} {m m' m'' : M} {bytes : List UInt8}

theorem readTag_cons {tag : UInt8} (hpos : 0 < tag.toNat) (hlt : tag.toNat < 128) (rest : List UInt8) :
    readTag (tag :: rest) = some (tag.toNat, rest) := by
  have hread : readVarint maxVarintBytes (tag :: rest) = some (tag.toNat, rest) := if_pos hlt
  rw [readTag, hread, Option.bind_some]
  simp only
  rw [Nat.mod_eq_of_lt (by omega), if_neg (by omega)]

theorem readField_varint (m : M) (set : UInt64 → M) (value : UInt64) (rest : List UInt8) :
    readField m set (varint value ++ rest) = (set value, some rest) := by
  rw [readField, readVarint64_varint]

/-- A field with a number adds nothing. -/
theorem weight_readField_le (weight : M → ℕ) {set : UInt64 → M}
    (hset : ∀ value, weight (set value) = weight m) (bytes : List UInt8) :
    weight (readField m set bytes).1 + ((readField m set bytes).2.elim 0 List.length) ≤
      weight m + bytes.length := by
  unfold readField
  cases hread : readVarint64 bytes with
  | none => simp
  | some read =>
    have hlt := length_of_readVarint64 hread
    simp only [hset, Option.elim_some]
    omega

/-- Nor does one that is skipped. -/
theorem SkipField.length_skip_le (skipField : SkipField) (tag : ℕ) (bytes : List UInt8) :
    (skipField.skip tag bytes).elim 0 List.length ≤ bytes.length := by
  cases hskip : skipField.skip tag bytes with
  | none => exact Nat.zero_le _
  | some rest => exact skipField.length_le hskip

theorem Reads.nil (field : ℕ → M → List UInt8 → M × Option (List UInt8)) (m : M) :
    Reads field m [] m :=
  ⟨0, Nat.le_refl _, fun fuel rest => by rw [Nat.zero_add, List.nil_append]⟩

theorem Reads.append {bytes' : List UInt8} (h : Reads field m bytes m')
    (h' : Reads field m' bytes' m'') : Reads field m (bytes ++ bytes') m'' := by
  obtain ⟨n, hn, hread⟩ := h
  obtain ⟨n', hn', hread'⟩ := h'
  refine ⟨n + n', ?_, fun fuel rest => ?_⟩
  · rw [List.length_append]
    omega
  · rw [List.append_assoc, Nat.add_assoc, hread, hread']

/-- One field. -/
theorem Reads.one {tag : UInt8} {payload : List UInt8} (hpos : 0 < tag.toNat) (hlt : tag.toNat < 128)
    (h : ∀ rest, field tag.toNat m (payload ++ rest) = (m', some rest)) :
    Reads field m (tag :: payload) m' := by
  refine ⟨1, Nat.succ_le_succ (Nat.zero_le _), fun fuel rest => ?_⟩
  rw [Nat.add_comm, List.cons_append, mergeFields, readTag_cons hpos hlt]
  simp only [h]

/-- **The end of a message.** -/
theorem merge_of_reads (h : Reads field m bytes m') : merge field m bytes = (m', true) := by
  obtain ⟨n, hn, hread⟩ := h
  have hall := hread (bytes.length - n) []
  rw [List.append_nil, Nat.add_sub_cancel' hn] at hall
  rw [merge, hall]
  cases bytes.length - n with
  | zero => rfl
  | succ k => rfl

/-- **A field that cannot be read** is the last one. -/
theorem merge_of_fails {tag : UInt8} {payload : List UInt8} (h : Reads field m bytes m')
    (hpos : 0 < tag.toNat) (hlt : tag.toNat < 128) (hfail : field tag.toNat m' payload = (m'', none)) :
    merge field m (bytes ++ tag :: payload) = (m'', false) := by
  obtain ⟨n, hn, hread⟩ := h
  have hfuel : (bytes ++ tag :: payload).length = n + (bytes.length - n + payload.length + 1) := by
    rw [List.length_append, List.length_cons]
    omega
  rw [merge, hfuel, hread, mergeFields, readTag_cons hpos hlt]
  simp only [hfail]

/-- **A message holds no more than was read**, if every field does. -/
theorem weight_mergeFields_le (weight : M → ℕ)
    (hfield : ∀ tag m rest, weight (field tag m rest).1 + ((field tag m rest).2.elim 0 List.length) ≤
      weight m + rest.length) (fuel : ℕ) (m : M) (bytes : List UInt8) :
    weight (mergeFields field fuel m bytes).1 ≤ weight m + bytes.length := by
  induction fuel generalizing m bytes with
  | zero =>
    cases bytes with
    | nil => exact Nat.le_add_right _ _
    | cons b bytes => exact Nat.le_add_right _ _
  | succ fuel ih =>
    cases bytes with
    | nil => exact Nat.le_add_right _ _
    | cons b bytes =>
      rw [mergeFields]
      cases htag : readTag (b :: bytes) with
      | none => exact Nat.le_add_right _ _
      | some read =>
        obtain ⟨tag, rest⟩ := read
        have hrest : rest.length < (b :: bytes).length := by
          obtain ⟨⟨n, rest'⟩, hread, hif⟩ := Option.bind_eq_some_iff.1 htag
          simp only at hif
          split at hif
          · cases hif
          · obtain ⟨-, rfl⟩ := Prod.mk.inj (Option.some.inj hif)
            exact length_of_readVarint hread
        have hle := hfield tag m rest
        simp only
        cases hf : field tag m rest with
        | mk m' more =>
          rw [hf] at hle
          cases more with
          | none =>
            simp only [Option.elim_none] at hle
            simp only
            omega
          | some more =>
            have hmore := ih m' more
            simp only [Option.elim_some] at hle
            simp only
            omega

end Fields

/-! ### UTF-8 -/

/-- One step of the automaton.  State 0 is between two characters, 1 before the last byte of one, 3 before the
second to last; the others take care of the characters that would be too long, surrogates or too large. -/
def utf8Step (state : ℕ) (byte : UInt8) : Option ℕ :=
  let b := byte.toNat
  match state with
  | 0 =>
    if b < 0x80 then some 0
    else if 0xC2 ≤ b ∧ b ≤ 0xDF then some 1
    else if b = 0xE0 then some 2
    else if b = 0xED then some 7
    else if 0xE1 ≤ b ∧ b ≤ 0xEF then some 3
    else if b = 0xF0 then some 4
    else if 0xF1 ≤ b ∧ b ≤ 0xF3 then some 5
    else if b = 0xF4 then some 6
    else none
  | 1 => if 0x80 ≤ b ∧ b ≤ 0xBF then some 0 else none
  | 2 => if 0xA0 ≤ b ∧ b ≤ 0xBF then some 1 else none
  | 3 => if 0x80 ≤ b ∧ b ≤ 0xBF then some 1 else none
  | 4 => if 0x90 ≤ b ∧ b ≤ 0xBF then some 3 else none
  | 5 => if 0x80 ≤ b ∧ b ≤ 0xBF then some 3 else none
  | 6 => if 0x80 ≤ b ∧ b ≤ 0x8F then some 3 else none
  | 7 => if 0x80 ≤ b ∧ b ≤ 0x9F then some 1 else none
  | _ => none

/-- The bytes are whole characters in UTF-8. -/
def validUtf8 (s : List UInt8) : Bool := s.foldlM utf8Step 0 = some 0

/-- **Seven-bit strings are valid.** -/
theorem validUtf8_of_ascii {s : List UInt8} (h : ∀ b ∈ s, b.toNat < 128) : validUtf8 s = true := by
  refine decide_eq_true ?_
  induction s with
  | nil => rfl
  | cons b s ih =>
    have hstep : utf8Step 0 b = some 0 := if_pos (h b (.head _))
    rw [List.foldlM_cons, hstep]
    exact ih fun c hc => h c (.tail _ hc)

end Wire
