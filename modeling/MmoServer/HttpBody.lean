/-
**The body of an HTTP message.**

`ParseHttp` takes the body of a message as it is, or, if it has come in chunks, line by line: it reads a
decimal number, goes past that line, and takes the next line for the chunk.  A line ends at a carriage return,
a line feed or a zero, and all of these that follow one another end it together.

In the chunked coding the number of bytes of a chunk is hexadecimal, and a chunk may have line breaks in it.

Main definitions:

* `MmoServer.mgSkip`, `MmoServer.atoi` — the scanner of the HTTP library, and `atoi`;
* `MmoServer.parseChunks` — the loop of `ParseHttp` over the chunks;
* `MmoServer.HttpChunk`, `MmoServer.ChunkedBody` — the chunked coding;
* `MmoServer.ReadsChunk`, `MmoServer.EndsInside` — what a chunk, and a body, must be like.

Main results:

* `MmoServer.parseChunks_bytes` — what is read of chunks without line breaks;
* `MmoServer.parseChunks_iff` — **when the chunks are read as they are, and when the loop ends inside** of
  any bytes.
-/

import MmoServer.FrameEncode

set_option relaxedAutoImplicit false
set_option autoImplicit false

namespace MmoServer

/-! ### Scanning -/

/-- `strchr` finds the byte among the delimiters.  It finds a zero at the end of them. -/
def isDelim (delims : List UInt8) (b : UInt8) : Bool := b = 0 ∨ b ∈ delims

/-- `mg_skip`, on the bytes up to the end: the text up to a delimiter, and what follows the delimiters. -/
def mgSkip (delims s : List UInt8) : List UInt8 × List UInt8 :=
  (s.takeWhile fun b => !isDelim delims b, (s.dropWhile fun b => !isDelim delims b).dropWhile (isDelim delims))

/-- `"\r\n"`. -/
def crlf : List UInt8 := [13, 10]

/-- `isspace`. -/
def isSpace (b : UInt8) : Bool := b = 32 ∨ 9 ≤ b ∧ b ≤ 13

/-- `isdigit`. -/
def isDigit (b : UInt8) : Bool := 48 ≤ b ∧ b ≤ 57

/-- The number that decimal digits stand for. -/
def decimalValue (digits : List UInt8) : ℕ := digits.foldl (fun n b => 10 * n + (b.toNat - 48)) 0

/-- The sign in front of a number, and the rest. -/
def takeSign : List UInt8 → Bool × List UInt8
  | 45 :: s => (true, s)
  | 43 :: s => (false, s)
  | s => (false, s)

/-- `atoi`: the number, converted to a `long` and cut to an `int`.  There is none if it reads on behind the
bytes, where the number has not ended. -/
def atoi (s : List UInt8) : Option ℤ :=
  let signed := takeSign (s.dropWhile isSpace)
  let digits := signed.2.takeWhile isDigit
  if digits.length = signed.2.length then none
  else
    let n : ℤ := if signed.1 then -decimalValue digits else decimalValue digits
    let n := max (-2 ^ 63) (min n (2 ^ 63 - 1))
    some (toInt32 (n % 2 ^ 32).toNat)

/-- The loop of `ParseHttp` over the chunks of a body, with what was appended so far.  There is no result if
it reads behind the body. -/
def parseChunks : ℕ → List UInt8 → List UInt8 → Option (List UInt8)
  | 0, _, _ => none
  | fuel + 1, s, body =>
    match atoi s with
    | none => none
    | some len =>
      if len = 0 then some body
      else
        let (_, s) := mgSkip crlf s
        let (tmp, s) := mgSkip crlf s
        parseChunks fuel s (body ++ tmp)

/-! ### The chunked coding -/

/-- The value of a hexadecimal digit. -/
def hexDigit (b : UInt8) : Option ℕ :=
  if 48 ≤ b ∧ b ≤ 57 then some (b.toNat - 48)
  else if 97 ≤ b ∧ b ≤ 102 then some (b.toNat - 87)
  else if 65 ≤ b ∧ b ≤ 70 then some (b.toNat - 55)
  else none

/-- The number that hexadecimal digits stand for. -/
def hexValue (digits : List UInt8) : ℕ := digits.foldl (fun n b => 16 * n + (hexDigit b).getD 0) 0

/-- An extension behind the size of a chunk: nothing, or a semicolon and what the line has behind it. -/
def IsExtension (ext : List UInt8) : Prop :=
  ext = [] ∨ ∃ rest, ext = 59 :: rest ∧ ∀ b ∈ rest, isDelim crlf b = false

/-- A chunk: the digits of its size, an extension, and its bytes, of which there is one at least. -/
structure HttpChunk where
  size : List UInt8
  ext : List UInt8
  data : List UInt8
  hex : ∀ b ∈ size, (hexDigit b).isSome
  size_eq : hexValue size = data.length
  isExtension : IsExtension ext
  data_ne : data ≠ []

/-- The bytes of a chunk. -/
def HttpChunk.bytes (c : HttpChunk) : List UInt8 := c.size ++ (c.ext ++ (crlf ++ (c.data ++ crlf)))

/-- A body in chunks.  The last one has the size zero; trailers may follow. -/
structure ChunkedBody where
  chunks : List HttpChunk
  zeros : List UInt8
  ext : List UInt8
  trailer : List UInt8
  zeros_ne : zeros ≠ []
  zeros_eq : ∀ b ∈ zeros, b = 48
  isExtension : IsExtension ext

namespace ChunkedBody

/-- The chunks together. -/
def data (body : ChunkedBody) : List UInt8 := body.chunks.flatMap HttpChunk.data

/-- The bytes of the last chunk and the trailers. -/
def lastBytes (body : ChunkedBody) : List UInt8 := body.zeros ++ (body.ext ++ (crlf ++ body.trailer))

/-- The bytes of the body. -/
def bytes (body : ChunkedBody) : List UInt8 := body.chunks.flatMap HttpChunk.bytes ++ body.lastBytes

end ChunkedBody

/-- **The chunk is read as it is**: it has no carriage return, no line feed and no zero, and its size has one
of the digits from 1 to 9 in front of its first letter. -/
def ReadsChunk (c : HttpChunk) : Prop :=
  (∀ b ∈ c.data, isDelim crlf b = false) ∧ ∃ b ∈ c.size.takeWhile isDigit, b ≠ 48

/-- Behind two lines. -/
def skipPair (s : List UInt8) : List UInt8 := (mgSkip crlf (mgSkip crlf s).2).2

/-- **The loop ends inside of the bytes**: of the numbers that stand two lines apart, one is zero, and it and
those in front of it end before the bytes do. -/
def EndsInside (s : List UInt8) : Prop :=
  ∃ n, atoi (skipPair^[n] s) = some 0 ∧ ∀ m < n, ∃ len ≠ 0, atoi (skipPair^[m] s) = some len

/-! ### Lines -/

section

variable {line rest : List UInt8}

/-- A line ends at its line break. -/
theorem mgSkip_crlf (hline : ∀ b ∈ line, isDelim crlf b = false) :
    mgSkip crlf (line ++ (crlf ++ rest)) = (line, rest.dropWhile (isDelim crlf)) := by
  have hnot : ∀ b ∈ line, (!isDelim crlf b) = true := fun b hb => by rw [hline b hb]; rfl
  rw [mgSkip, List.takeWhile_append_of_pos hnot, List.dropWhile_append_of_pos hnot]
  exact Prod.ext (List.append_nil line) rfl

/-- What does not begin with a delimiter stays. -/
theorem dropWhile_isDelim (hne : line ≠ []) (hline : ∀ b ∈ line, isDelim crlf b = false) :
    (line ++ rest).dropWhile (isDelim crlf) = line ++ rest := by
  cases line with
  | nil => exact absurd rfl hne
  | cons b line =>
    rw [List.cons_append, List.dropWhile_cons_of_neg]
    rw [hline b List.mem_cons_self]
    exact Bool.false_ne_true

/-- A hexadecimal digit is no delimiter, no space and no sign. -/
theorem of_isSome_hexDigit {b : UInt8} (h : (hexDigit b).isSome) :
    isDelim crlf b = false ∧ isSpace b = false ∧ b ≠ 45 ∧ b ≠ 43 := by
  have hall : ∀ n : Fin 256, (hexDigit (.ofFin n)).isSome →
      isDelim crlf (.ofFin n) = false ∧ isSpace (.ofFin n) = false ∧ UInt8.ofFin n ≠ 45 ∧ UInt8.ofFin n ≠ 43 := by
    decide +kernel
  exact hall b.toFin h

theorem IsExtension.not_isDelim {ext : List UInt8} (h : IsExtension ext) : ∀ b ∈ ext, isDelim crlf b = false := by
  obtain rfl | ⟨rest, rfl, hrest⟩ := h
  · exact List.forall_mem_nil _
  · exact List.forall_mem_cons.2 ⟨by decide, hrest⟩

/-- Behind the digits of a size comes no decimal digit. -/
theorem IsExtension.takeWhile_isDigit {ext : List UInt8} (h : IsExtension ext) :
    (ext ++ (crlf ++ rest)).takeWhile isDigit = [] := by
  obtain rfl | ⟨rest', rfl, -⟩ := h
  · rfl
  · rfl

end

/-! ### Numbers -/

/-- A decimal number is zero only if all its digits are. -/
theorem foldl_decimal_eq_zero_iff {digits : List UInt8} (hdigits : ∀ b ∈ digits, isDigit b = true) (n : ℕ) :
    digits.foldl (fun n b => 10 * n + (b.toNat - 48)) n = 0 ↔ n = 0 ∧ ∀ b ∈ digits, b = 48 := by
  induction digits generalizing n with
  | nil => simp
  | cons b digits ih =>
    obtain ⟨hb, hdigits⟩ := List.forall_mem_cons.1 hdigits
    have hzero : b.toNat - 48 = 0 ↔ b = 48 := by
      have hall : ∀ n : Fin 256, isDigit (.ofFin n) = true →
          ((UInt8.ofFin n).toNat - 48 = 0 ↔ UInt8.ofFin n = 48) := by decide +kernel
      exact hall b.toFin hb
    rw [List.foldl_cons, ih hdigits, List.forall_mem_cons, ← hzero, ← and_assoc]
    exact and_congr_left' (by omega)

/-- The value of hexadecimal digits grows with each of them. -/
theorem le_foldl_hex (digits : List UInt8) (n : ℕ) :
    n ≤ digits.foldl (fun n b => 16 * n + (hexDigit b).getD 0) n := by
  induction digits generalizing n with
  | nil => exact Nat.le_refl n
  | cons b digits ih => exact Nat.le_trans (show n ≤ 16 * n + (hexDigit b).getD 0 by omega) (ih _)

/-- The decimal digits in front are at most what all of them say as hexadecimal ones. -/
theorem decimal_le_hex (digits : List UInt8) {m n : ℕ} (hle : m ≤ n) :
    (digits.takeWhile isDigit).foldl (fun n b => 10 * n + (b.toNat - 48)) m ≤
      digits.foldl (fun n b => 16 * n + (hexDigit b).getD 0) n := by
  induction digits generalizing m n with
  | nil => exact hle
  | cons b digits ih =>
    cases hb : isDigit b with
    | true =>
      have hdigit : hexDigit b = some (b.toNat - 48) := if_pos (of_decide_eq_true hb)
      rw [List.takeWhile_cons_of_pos hb, List.foldl_cons, List.foldl_cons, hdigit, Option.getD_some]
      exact ih (by omega)
    | false =>
      rw [List.takeWhile_cons_of_neg (by rw [hb]; exact Bool.false_ne_true), List.foldl_nil]
      exact Nat.le_trans hle (le_foldl_hex (b :: digits) n)

theorem takeSign_cons {b : UInt8} {s : List UInt8} (hminus : b ≠ 45) (hplus : b ≠ 43) :
    takeSign (b :: s) = (false, b :: s) := by
  unfold takeSign
  split
  · rename_i heq
    exact absurd (List.cons.inj heq).1 hminus
  · rename_i heq
    exact absurd (List.cons.inj heq).1 hplus
  · rfl

/-- What `atoi` makes of the size of a chunk: the decimal digits that it begins with. -/
theorem atoi_size {size tail : List UInt8} (hhex : ∀ b ∈ size, (hexDigit b).isSome) (hne : size ≠ [])
    (htail : tail.takeWhile isDigit = []) (htail_ne : tail ≠ []) (hlt : hexValue size < 2 ^ 32) :
    atoi (size ++ tail) = some (toInt32 (decimalValue (size.takeWhile isDigit))) := by
  have hvalue : decimalValue (size.takeWhile isDigit) ≤ hexValue size := decimal_le_hex size (Nat.le_refl 0)
  have htake : (size ++ tail).takeWhile isDigit = size.takeWhile isDigit := by
    rw [List.takeWhile_append, htail, List.append_nil]
    split
    · rename_i hall
      exact (List.takeWhile_prefix isDigit).eq_of_length hall |>.symm
    · rfl
  have hsigned : takeSign ((size ++ tail).dropWhile isSpace) = (false, size ++ tail) := by
    cases size with
    | nil => exact absurd rfl hne
    | cons b size =>
      obtain ⟨-, hspace, hminus, hplus⟩ := of_isSome_hexDigit (hhex b List.mem_cons_self)
      rw [List.cons_append, List.dropWhile_cons_of_neg (by rw [hspace]; exact Bool.false_ne_true)]
      exact takeSign_cons hminus hplus
  have hlen : (size.takeWhile isDigit).length < (size ++ tail).length := by
    have hle := (List.takeWhile_prefix (l := size) isDigit).length_le
    have hpos := List.length_pos_iff.2 htail_ne
    rw [List.length_append]
    omega
  rw [atoi, hsigned]
  simp only [htake, Bool.false_eq_true, if_false]
  rw [if_neg hlen.ne]
  congr 2
  omega

/-- The number of a chunk, as the loop reads it, is zero. -/
def HttpChunk.isLast (c : HttpChunk) : Bool := (c.size.takeWhile isDigit).all (· = 48)

theorem HttpChunk.size_ne (c : HttpChunk) : c.size ≠ [] := by
  intro hnil
  have hsize := c.size_eq
  rw [hnil] at hsize
  exact c.data_ne (List.length_eq_zero_iff.1 hsize.symm)

/-- `atoi` at the front of a chunk. -/
theorem HttpChunk.atoi_bytes (c : HttpChunk) (next : List UInt8) (hlt : c.data.length < 2 ^ 32) :
    ∃ len, atoi (c.bytes ++ next) = some len ∧ (len = 0 ↔ c.isLast = true) := by
  have hsize := c.size_eq
  have hvalue : decimalValue (c.size.takeWhile isDigit) ≤ hexValue c.size :=
    decimal_le_hex c.size (Nat.le_refl 0)
  have hdigits : ∀ b ∈ c.size.takeWhile isDigit, isDigit b = true := fun b hb => List.mem_takeWhile_imp hb
  have hzero := foldl_decimal_eq_zero_iff hdigits 0
  refine ⟨toInt32 (decimalValue (c.size.takeWhile isDigit)), ?_, ?_⟩
  · have hbytes : c.bytes ++ next = c.size ++ (c.ext ++ (crlf ++ (c.data ++ (crlf ++ next)))) := by
      simp only [HttpChunk.bytes, List.append_assoc]
    rw [hbytes]
    refine atoi_size c.hex c.size_ne c.isExtension.takeWhile_isDigit ?_ (by omega)
    simp [crlf]
  · rw [HttpChunk.isLast, List.all_eq_true]
    simp only [decide_eq_true_eq]
    simp only [true_and] at hzero
    rw [← hzero, toInt32]
    change _ ↔ decimalValue (c.size.takeWhile isDigit) = 0
    split
    · omega
    · omega

/-! ### Chunks without line breaks -/

namespace ChunkedBody

variable (body : ChunkedBody)

/-- The last chunk ends the loop. -/
theorem atoi_lastBytes : atoi body.lastBytes = some 0 := by
  have hhex : ∀ b ∈ body.zeros, (hexDigit b).isSome := by
    intro b hb
    rw [body.zeros_eq b hb]
    rfl
  have hhexValue : ∀ zeros : List UInt8, (∀ b ∈ zeros, b = 48) → hexValue zeros = 0 := by
    intro zeros hzeros
    induction zeros with
    | nil => rfl
    | cons b zeros ih =>
      obtain ⟨hb, hrest⟩ := List.forall_mem_cons.1 hzeros
      rw [hb]
      exact ih hrest
  have hvalue : decimalValue (body.zeros.takeWhile isDigit) ≤ hexValue body.zeros :=
    decimal_le_hex body.zeros (Nat.le_refl 0)
  rw [hhexValue _ body.zeros_eq] at hvalue
  rw [lastBytes, atoi_size hhex body.zeros_ne body.isExtension.takeWhile_isDigit (by simp [crlf])
    (by rw [hhexValue _ body.zeros_eq]; decide), Nat.le_zero.1 hvalue]
  rfl

/-- What follows a chunk begins with a digit. -/
theorem dropWhile_bytes (cs : List HttpChunk) :
    (cs.flatMap HttpChunk.bytes ++ body.lastBytes).dropWhile (isDelim crlf) =
      cs.flatMap HttpChunk.bytes ++ body.lastBytes := by
  cases cs with
  | nil =>
    rw [List.flatMap_nil, List.nil_append, lastBytes]
    refine dropWhile_isDelim body.zeros_ne fun b hb => ?_
    rw [body.zeros_eq b hb]
    rfl
  | cons c cs =>
    simp only [List.flatMap_cons, HttpChunk.bytes, List.append_assoc]
    exact dropWhile_isDelim c.size_ne fun b hb => (of_isSome_hexDigit (c.hex b hb)).1

end ChunkedBody

/-- **One round** reads a chunk without line breaks, and comes to what follows it. -/
theorem parseChunks_chunk {c : HttpChunk} {next out : List UInt8} {fuel : ℕ} {len : ℤ}
    (hdata : ∀ b ∈ c.data, isDelim crlf b = false) (hnext : next.dropWhile (isDelim crlf) = next)
    (hatoi : atoi (c.bytes ++ next) = some len) (hlen : len ≠ 0) :
    parseChunks (fuel + 1) (c.bytes ++ next) out = parseChunks fuel next (out ++ c.data) := by
  have hbytes : c.bytes ++ next = (c.size ++ c.ext) ++ (crlf ++ (c.data ++ (crlf ++ next))) := by
    simp only [HttpChunk.bytes, List.append_assoc]
  have hline : ∀ b ∈ c.size ++ c.ext, isDelim crlf b = false := by
    intro b hb
    rcases List.mem_append.1 hb with hb | hb
    · exact (of_isSome_hexDigit (c.hex b hb)).1
    · exact c.isExtension.not_isDelim b hb
  rw [parseChunks, hatoi]
  dsimp only
  rw [if_neg hlen, hbytes, mgSkip_crlf hline, dropWhile_isDelim c.data_ne hdata, mgSkip_crlf hdata, hnext]

/-- **What is read of chunks without line breaks**: those in front of the first one whose number reads as
zero. -/
theorem parseChunks_bytes (body : ChunkedBody) (cs : List HttpChunk) (out : List UInt8)
    (hdata : ∀ c ∈ cs, ∀ b ∈ c.data, isDelim crlf b = false) (hlt : ∀ c ∈ cs, c.data.length < 2 ^ 32) :
    parseChunks (cs.length + 1) (cs.flatMap HttpChunk.bytes ++ body.lastBytes) out =
      some (out ++ (cs.takeWhile fun c => !c.isLast).flatMap HttpChunk.data) := by
  induction cs generalizing out with
  | nil =>
    rw [List.flatMap_nil, List.nil_append, List.length_nil, parseChunks, body.atoi_lastBytes]
    simp
  | cons c cs ih =>
    obtain ⟨hc, hcs⟩ := List.forall_mem_cons.1 hdata
    obtain ⟨hclt, hcslt⟩ := List.forall_mem_cons.1 hlt
    obtain ⟨len, hatoi, hlen⟩ := c.atoi_bytes (cs.flatMap HttpChunk.bytes ++ body.lastBytes) hclt
    rw [List.flatMap_cons, List.append_assoc, List.length_cons]
    cases hlast : c.isLast with
    | true =>
      rw [parseChunks, hatoi]
      simp [hlen.2 hlast, hlast]
    | false =>
      have hne : len ≠ 0 := fun hzero => by
        rw [hlen.1 hzero] at hlast
        cases hlast
      rw [parseChunks_chunk hc (body.dropWhile_bytes cs) hatoi hne, ih _ hcs hcslt,
        List.takeWhile_cons_of_pos (by rw [hlast]; rfl), List.flatMap_cons, List.append_assoc]

/-! ### The loop -/

/-- One round: the number is zero, and the loop ends, or it goes on behind the next two lines. -/
theorem parseChunks_succ_iff {fuel : ℕ} {s out res : List UInt8} :
    parseChunks (fuel + 1) s out = some res ↔
      atoi s = some 0 ∧ out = res ∨
        (∃ len ≠ 0, atoi s = some len) ∧
          parseChunks fuel (skipPair s) (out ++ (mgSkip crlf (mgSkip crlf s).2).1) = some res := by
  rw [parseChunks]
  cases atoi s with
  | none => simp
  | some len =>
    by_cases hzero : len = 0
    · simp [hzero]
    · simp [hzero, skipPair]

theorem parseChunks_succ {fuel : ℕ} {s out res : List UInt8} (h : parseChunks fuel s out = some res) :
    parseChunks (fuel + 1) s out = some res := by
  induction fuel generalizing s out with
  | zero => cases h
  | succ fuel ih => exact parseChunks_succ_iff.2 ((parseChunks_succ_iff.1 h).imp_right (And.imp_right ih))

theorem parseChunks_mono {fuel fuel' : ℕ} (hle : fuel ≤ fuel') {s out res : List UInt8}
    (h : parseChunks fuel s out = some res) : parseChunks fuel' s out = some res := by
  induction hle with
  | refl => exact h
  | step _ ih => exact parseChunks_succ ih

/-- What the loop appends has no line break in it. -/
theorem not_isDelim_of_parseChunks {fuel : ℕ} {s out res : List UInt8}
    (hout : ∀ b ∈ out, isDelim crlf b = false) (h : parseChunks fuel s out = some res) :
    ∀ b ∈ res, isDelim crlf b = false := by
  induction fuel generalizing s out with
  | zero => cases h
  | succ fuel ih =>
    obtain ⟨-, rfl⟩ | ⟨-, h⟩ := parseChunks_succ_iff.1 h
    · exact hout
    · refine ih (fun b hb => ?_) h
      rcases List.mem_append.1 hb with hb | hb
      · exact hout b hb
      · simpa using List.mem_takeWhile_imp hb

/-- **Chunks are read as they are** exactly if each of them is. -/
theorem parseChunks_data_iff (body : ChunkedBody) (hlt : body.bytes.length < 2 ^ 32) :
    (∃ fuel, parseChunks fuel body.bytes [] = some body.data) ↔ ∀ c ∈ body.chunks, ReadsChunk c := by
  have hclt : ∀ c ∈ body.chunks, c.data.length < 2 ^ 32 := by
    intro c hc
    have hle : c.bytes.length ≤ (body.chunks.flatMap HttpChunk.bytes).length :=
      (List.sublist_flatten_of_mem (List.mem_map_of_mem hc)).length_le
    simp only [ChunkedBody.bytes, List.length_append] at hlt
    simp only [HttpChunk.bytes, List.length_append] at hle
    omega
  have hnumber : ∀ c : HttpChunk, c.isLast = false ↔ ∃ b ∈ c.size.takeWhile isDigit, b ≠ 48 := by
    intro c
    rw [HttpChunk.isLast, List.all_eq_false]
    simp only [decide_eq_true_eq]
  constructor
  · rintro ⟨fuel, hfuel⟩
    have hnone := not_isDelim_of_parseChunks (List.forall_mem_nil _) hfuel
    have hdata : ∀ c ∈ body.chunks, ∀ b ∈ c.data, isDelim crlf b = false := fun c hc b hb =>
      hnone b (List.mem_flatMap.2 ⟨c, hc, hb⟩)
    have hread := parseChunks_bytes body body.chunks [] hdata hclt
    -- the two results are one
    have hmax := parseChunks_mono (Nat.le_max_left fuel (body.chunks.length + 1)) hfuel
    have hmax' := parseChunks_mono (Nat.le_max_right fuel (body.chunks.length + 1)) hread
    rw [← ChunkedBody.bytes, hmax, List.nil_append] at hmax'
    have hsplit := List.takeWhile_append_dropWhile (p := fun c : HttpChunk => !c.isLast) (l := body.chunks)
    have hrest : (body.chunks.dropWhile fun c => !c.isLast).flatMap HttpChunk.data = [] := by
      have hsame := Option.some.inj hmax'
      rw [ChunkedBody.data, ← congrArg (List.flatMap HttpChunk.data) hsplit, List.flatMap_append] at hsame
      simpa using hsame
    have hall : body.chunks.dropWhile (fun c => !c.isLast) = [] := by
      cases hdrop : body.chunks.dropWhile fun c => !c.isLast with
      | nil => rfl
      | cons c cs =>
        rw [hdrop, List.flatMap_cons] at hrest
        exact absurd (List.append_eq_nil_iff.1 hrest).1 c.data_ne
    intro c hc
    have hc' := List.dropWhile_eq_nil_iff.1 hall c hc
    exact ⟨hdata c hc, (hnumber c).1 (by simpa using hc')⟩
  · intro hreads
    refine ⟨body.chunks.length + 1, ?_⟩
    have hread := parseChunks_bytes body body.chunks [] (fun c hc => (hreads c hc).1) hclt
    have hall : body.chunks.takeWhile (fun c => !c.isLast) = body.chunks := by
      rw [List.takeWhile_eq_self_iff]
      intro c hc
      rw [(hnumber c).2 (hreads c hc).2]
      rfl
    rw [hall] at hread
    exact hread

/-- **The loop ends inside of the bytes** exactly if a number that is zero does. -/
theorem parseChunks_isSome_iff (s out : List UInt8) :
    (∃ fuel res, parseChunks fuel s out = some res) ↔ EndsInside s := by
  constructor
  · rintro ⟨fuel, res, h⟩
    induction fuel generalizing s out with
    | zero => cases h
    | succ fuel ih =>
      obtain ⟨hzero, -⟩ | ⟨hnumber, h⟩ := parseChunks_succ_iff.1 h
      · exact ⟨0, hzero, fun m hm => absurd hm (Nat.not_lt_zero m)⟩
      · obtain ⟨n, hn, hbefore⟩ := ih _ _ h
        refine ⟨n + 1, hn, fun m hm => ?_⟩
        cases m with
        | zero => exact hnumber
        | succ m => exact hbefore m (by omega)
  · rintro ⟨n, hn, hbefore⟩
    induction n generalizing s out with
    | zero => exact ⟨1, out, parseChunks_succ_iff.2 (.inl ⟨hn, rfl⟩)⟩
    | succ n ih =>
      obtain ⟨fuel, res, h⟩ := ih (skipPair s) (out ++ (mgSkip crlf (mgSkip crlf s).2).1) hn
        fun m hm => hbefore (m + 1) (by omega)
      exact ⟨fuel + 1, res, parseChunks_succ_iff.2 (.inr ⟨hbefore 0 (Nat.succ_pos n), h⟩)⟩

/-- **When a body in chunks is read as it is, and when the loop ends inside** of whatever bytes. -/
theorem parseChunks_iff (body : ChunkedBody) (hlt : body.bytes.length < 2 ^ 32) (s : List UInt8) :
    ((∃ fuel, parseChunks fuel body.bytes [] = some body.data) ↔ ∀ c ∈ body.chunks, ReadsChunk c) ∧
      ((∃ fuel res, parseChunks fuel s [] = some res) ↔ EndsInside s) :=
  ⟨parseChunks_data_iff body hlt, parseChunks_isSome_iff s []⟩

/-- A body of two chunks, of five and of three bytes. -/
def twoChunks : ChunkedBody where
  chunks := [⟨[53], [], [104, 101, 108, 108, 111], by decide +kernel, rfl, .inl rfl, by decide⟩,
    ⟨[48, 51], [59, 120], [32, 109, 101], by decide +kernel, rfl, .inr ⟨[120], rfl, by decide +kernel⟩, by decide⟩]
  zeros := [48]
  ext := []
  trailer := crlf
  zeros_ne := by decide
  zeros_eq := by decide +kernel
  isExtension := .inl rfl

/-- They are read as they are; and what is left of them behind the first one ends inside, too. -/
theorem parseChunks_twoChunks : (∃ fuel, parseChunks fuel twoChunks.bytes [] = some twoChunks.data) ∧
    ∃ fuel res, parseChunks fuel (skipPair twoChunks.bytes) [] = some res := by
  have hiff := parseChunks_iff twoChunks (by decide) (skipPair twoChunks.bytes)
  refine ⟨hiff.1.2 fun c hc => ?_, hiff.2.2 ⟨1, by decide +kernel, fun m hm => ?_⟩⟩
  · rcases List.mem_cons.1 hc with rfl | hc
    · exact ⟨by decide +kernel, 53, by decide, by decide⟩
    · obtain rfl := List.mem_singleton.1 hc
      exact ⟨by decide +kernel, 51, by decide, by decide⟩
  · obtain rfl : m = 0 := by omega
    exact ⟨3, by decide, by decide +kernel⟩

/-- A body of one chunk of ten bytes. -/
def tenBytes : ChunkedBody where
  chunks := [⟨[97], [], List.replicate 10 120, by decide +kernel, rfl, .inl rfl, by decide⟩]
  zeros := [48]
  ext := []
  trailer := crlf
  zeros_ne := by decide
  zeros_eq := by decide +kernel
  isExtension := .inl rfl

/-- **Ten bytes** have the size `a`, which `atoi` reads as zero; and a body that ends behind a number is read
beyond its end. -/
theorem not_parseChunks : ¬ (∀ body : ChunkedBody, body.bytes.length < 2 ^ 32 →
      ∃ fuel, parseChunks fuel body.bytes [] = some body.data) ∧
    ¬ ∀ s : List UInt8, s ≠ [] → ∃ fuel res, parseChunks fuel s [] = some res := by
  constructor
  · intro hall
    have hreads := (parseChunks_data_iff tenBytes (by decide)).1 (hall tenBytes (by decide)) _ List.mem_cons_self
    obtain ⟨b, hb, -⟩ := hreads.2
    cases hb
  · intro hall
    obtain ⟨fuel, res, h⟩ := hall [53] (by decide)
    cases fuel with
    | zero => cases h
    | succ fuel =>
      rw [parseChunks] at h
      cases h

end MmoServer
