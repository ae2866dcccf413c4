/-
**Well-formed HTTP messages.**

The parser is given all bytes that have arrived: a part of a message, or a message and what follows it.  What it
finds in a header does not depend on what follows: the search ends at the empty line, and the number behind
`Content-Length` ends in front of it.  In a part of the header there is no empty line.

Main definitions:

* `MmoServer.HttpText` — a message whose header the parser accepts, with a body as long as it says;
* `MmoServer.IsHeaderByte` — the bytes of a header.

Main results:

* `MmoServer.requestLenFrom_append`, `MmoServer.requestLenFrom_part` — the search in more bytes, and in fewer;
* `MmoServer.mgParseHttp_append` — **the parser finds the same**, whatever follows the header;
* `MmoServer.HttpText.requestLen_part` — **it waits** for the rest of a part of it.
-/

import MmoServer.HttpPacket

set_option relaxedAutoImplicit false
set_option autoImplicit false

namespace MmoServer

/-- **A well-formed message.**  The parser finds that the header is all of the bytes it is given; the body is
not in chunks, and as long as the header says, or empty if it says nothing. -/
structure HttpText (isReq : Bool) where
  header : List UInt8
  message : HttpMessage
  body : List UInt8
  parsed : mgParseHttp isReq header = ((header.length : ℤ), message)
  header_ne : header ≠ []
  isChunked : message.isChunked = false
  length_eq : message.contentLength.getD 0 = body.length

/-- Its bytes. -/
def HttpText.bytes {isReq : Bool} (m : HttpText isReq) : List UInt8 := m.header ++ m.body

/-! ### The search for the empty line -/

/-- A byte that the search goes past: it can be printed, or ends a line, or is none of ASCII. -/
def IsHeaderByte (b : UInt8) : Prop := 32 ≤ b ∧ b ≤ 126 ∨ b = 13 ∨ b = 10 ∨ 128 ≤ b

instance (b : UInt8) : Decidable (IsHeaderByte b) :=
  inferInstanceAs (Decidable (32 ≤ b ∧ b ≤ 126 ∨ b = 13 ∨ b = 10 ∨ 128 ≤ b))

section

variable {i : ℕ} {b : UInt8} {s q rest : List UInt8}

theorem requestLenFrom_cons (hb : IsHeaderByte b) : requestLenFrom i (b :: s) =
    if b = 10 ∧ [10] <+: s then (i : ℤ) + 2 else if b = 10 ∧ [13, 10] <+: s then (i : ℤ) + 3
    else requestLenFrom (i + 1) s := by
  have htext : ¬ (¬ (32 ≤ b ∧ b ≤ 126) ∧ b ≠ 13 ∧ b ≠ 10 ∧ b < 128) := by
    rintro ⟨hprint, h13, h10, hlt⟩
    rcases hb with h | h | h | h
    · exact hprint h
    · exact h13 h
    · exact h10 h
    · exact absurd hlt (UInt8.not_lt.2 h)
  rw [requestLenFrom, if_neg htext]
  simp only [List.isPrefixOf_iff_prefix]

/-- Any other byte makes the header malformed. -/
theorem isHeaderByte_of_ne (h : requestLenFrom i (b :: s) ≠ -1) : IsHeaderByte b := by
  rw [requestLenFrom] at h
  split at h
  · exact absurd rfl h
  · rename_i htext
    by_contra hb
    simp only [IsHeaderByte, not_or] at hb
    exact htext ⟨hb.1, hb.2.1, hb.2.2.1, UInt8.not_le.1 hb.2.2.2⟩

/-- A part of the end of a line is no empty line. -/
theorem requestLenFrom_short {p : List UInt8} (hp : p = [10] ∨ p = [13, 10]) (hq : q <+: p) (hne : q ≠ p) :
    requestLenFrom i q = 0 := by
  have hall : q = [] ∨ q = [13] := by
    obtain rfl | rfl := hp
    · rcases List.prefix_cons_iff.1 hq with rfl | ⟨t, rfl, ht⟩
      · exact .inl rfl
      · rw [List.prefix_nil.1 ht] at hne
        exact absurd rfl hne
    · rcases List.prefix_cons_iff.1 hq with rfl | ⟨t, rfl, ht⟩
      · exact .inl rfl
      · rcases List.prefix_cons_iff.1 ht with rfl | ⟨t', rfl, ht'⟩
        · exact .inr rfl
        · rw [List.prefix_nil.1 ht'] at hne
          exact absurd rfl hne
  obtain rfl | rfl := hall
  · rfl
  · rw [requestLenFrom_cons (.inr (.inl rfl))]
    rfl

/-- An end of a line that begins in some bytes is part of them, or runs on behind them. -/
theorem prefix_append_cases {p : List UInt8} (h : p <+: q ++ rest) : p <+: q ∨ q <+: p ∧ q ≠ p := by
  rcases List.prefix_or_prefix_of_prefix h (List.prefix_append q rest) with h | h
  · exact .inl h
  · by_cases heq : q = p
    · exact .inl (heq ▸ List.prefix_refl q)
    · exact .inr ⟨h, heq⟩

/-- **What follows the empty line** is not looked at. -/
theorem requestLenFrom_append (hpos : 0 < requestLenFrom i s) (rest : List UInt8) :
    requestLenFrom i (s ++ rest) = requestLenFrom i s := by
  induction s generalizing i with
  | nil => exact absurd hpos (lt_irrefl 0)
  | cons b s ih =>
    have hb : IsHeaderByte b := isHeaderByte_of_ne (i := i) (s := s) (by omega)
    rw [requestLenFrom_cons hb] at hpos
    rw [List.cons_append, requestLenFrom_cons hb, requestLenFrom_cons hb]
    by_cases hone : b = 10 ∧ [10] <+: s
    · rw [if_pos hone, if_pos ⟨hone.1, hone.2.trans (List.prefix_append s rest)⟩]
    · rw [if_neg hone] at hpos ⊢
      have hone' : ¬ (b = 10 ∧ [10] <+: s ++ rest) := by
        rintro ⟨hb10, h⟩
        rcases prefix_append_cases h with h | ⟨h, hne⟩
        · exact hone ⟨hb10, h⟩
        · have hnil : s = [] := by
            rcases List.prefix_cons_iff.1 h with rfl | ⟨t, rfl, ht⟩
            · rfl
            · rw [List.prefix_nil.1 ht] at hne
              exact absurd rfl hne
          rw [hnil] at hpos
          simp [requestLenFrom] at hpos
      rw [if_neg hone']
      by_cases htwo : b = 10 ∧ [13, 10] <+: s
      · rw [if_pos htwo, if_pos ⟨htwo.1, htwo.2.trans (List.prefix_append s rest)⟩]
      · rw [if_neg htwo] at hpos ⊢
        have htwo' : ¬ (b = 10 ∧ [13, 10] <+: s ++ rest) := by
          rintro ⟨hb10, h⟩
          rcases prefix_append_cases h with h | ⟨h, hne⟩
          · exact htwo ⟨hb10, h⟩
          · rw [requestLenFrom_short (.inr rfl) h hne] at hpos
            exact lt_irrefl 0 hpos
        rw [if_neg htwo', ih hpos]

/-- **In a part of a header** there is no empty line yet. -/
theorem requestLenFrom_part (hlt : i + q.length < requestLenFrom i (q ++ rest)) : requestLenFrom i q = 0 := by
  induction q generalizing i with
  | nil => rfl
  | cons b q ih =>
    have hb : IsHeaderByte b := isHeaderByte_of_ne (i := i) (s := q ++ rest) (by rw [← List.cons_append]; omega)
    rw [List.cons_append, requestLenFrom_cons hb, List.length_cons] at hlt
    rw [requestLenFrom_cons hb]
    by_cases hone : b = 10 ∧ [10] <+: q ++ rest
    · rw [if_pos hone] at hlt
      have hnil : q = [] := List.eq_nil_of_length_eq_zero (by omega)
      rw [hnil]
      simp [requestLenFrom]
    · rw [if_neg hone] at hlt
      rw [if_neg fun h => hone ⟨h.1, h.2.trans (List.prefix_append q rest)⟩]
      by_cases htwo : b = 10 ∧ [13, 10] <+: q ++ rest
      · rw [if_pos htwo] at hlt
        rcases prefix_append_cases htwo.2 with h | ⟨h, hne⟩
        · have hle := h.length_le
          simp only [List.length_cons, List.length_nil] at hle
          omega
        · rw [if_neg fun h' => hne (h.eq_of_length_le h'.2.length_le), requestLenFrom_short (.inr rfl) h hne]
      · rw [if_neg htwo] at hlt
        rw [if_neg fun h => htwo ⟨h.1, h.2.trans (List.prefix_append q rest)⟩]
        refine ih ?_
        push_cast
        omega

/-- What is found lies behind where the search begins. -/
theorem lt_requestLenFrom (hpos : 0 < requestLenFrom i s) : i < requestLenFrom i s := by
  induction s generalizing i with
  | nil => exact absurd hpos (lt_irrefl 0)
  | cons b s ih =>
    have hb : IsHeaderByte b := isHeaderByte_of_ne (i := i) (s := s) (by omega)
    rw [requestLenFrom_cons hb] at hpos ⊢
    split
    · omega
    · rename_i hone
      rw [if_neg hone] at hpos
      split
      · omega
      · rename_i htwo
        rw [if_neg htwo] at hpos
        have hnext := ih hpos
        omega

/-- **Up to the empty line** the search finds the same. -/
theorem requestLenFrom_take {n : ℕ} (h : requestLenFrom i s = i + n) (hpos : 0 < n) :
    requestLenFrom i (s.take n) = i + n := by
  induction s generalizing i n with
  | nil =>
    rw [requestLenFrom] at h
    omega
  | cons b s ih =>
    have hb : IsHeaderByte b := isHeaderByte_of_ne (i := i) (s := s) (by omega)
    obtain ⟨n, rfl⟩ := Nat.exists_eq_succ_of_ne_zero hpos.ne'
    rw [requestLenFrom_cons hb] at h
    rw [List.take_succ_cons, requestLenFrom_cons hb]
    by_cases hone : b = 10 ∧ [10] <+: s
    · rw [if_pos hone] at h
      have hn : n = 1 := by omega
      obtain ⟨t, rfl⟩ := hone.2
      subst hn
      rw [if_pos ⟨hone.1, List.prefix_refl [10]⟩]
      rfl
    · rw [if_neg hone] at h
      have hone' : ¬ (b = 10 ∧ [10] <+: s.take n) := fun hend =>
        hone ⟨hend.1, hend.2.trans (List.take_prefix n s)⟩
      rw [if_neg hone']
      by_cases htwo : b = 10 ∧ [13, 10] <+: s
      · rw [if_pos htwo] at h
        have hn : n = 2 := by omega
        obtain ⟨t, rfl⟩ := htwo.2
        subst hn
        rw [if_pos ⟨htwo.1, List.prefix_refl [13, 10]⟩]
        rfl
      · rw [if_neg htwo] at h
        rw [if_neg fun hcrlf => htwo ⟨hcrlf.1, hcrlf.2.trans (List.take_prefix n s)⟩]
        rcases Nat.eq_zero_or_pos n with rfl | hn
        · -- the search goes on, and does not end here
          have hbehind := lt_requestLenFrom (i := i + 1) (s := s) (by omega)
          omega
        · have hnext := ih (i := i + 1) (n := n) (by push_cast at h ⊢; omega) hn
          rw [hnext]
          push_cast
          omega

/-- The bytes of a header, and that the last one ends a line. -/
theorem requestLenFrom_eq_length (h : requestLenFrom i s = i + s.length) (hne : s ≠ []) :
    (∀ b ∈ s, IsHeaderByte b) ∧ ∃ t, s = t ++ [10] := by
  induction s generalizing i with
  | nil => exact absurd rfl hne
  | cons b s ih =>
    have hb : IsHeaderByte b := isHeaderByte_of_ne (i := i) (s := s) (by rw [h]; omega)
    rw [requestLenFrom_cons hb, List.length_cons] at h
    by_cases hone : b = 10 ∧ [10] <+: s
    · rw [if_pos hone] at h
      have hs : [10] = s := hone.2.eq_of_length (by rw [List.length_singleton]; omega)
      rw [← hs, hone.1]
      exact ⟨by simp [IsHeaderByte], [10], rfl⟩
    · rw [if_neg hone] at h
      by_cases htwo : b = 10 ∧ [13, 10] <+: s
      · rw [if_pos htwo] at h
        have hs : [13, 10] = s := htwo.2.eq_of_length (by simp; omega)
        rw [← hs, htwo.1]
        exact ⟨by simp [IsHeaderByte], [10, 13], rfl⟩
      · rw [if_neg htwo] at h
        have hs : s ≠ [] := by
          rintro rfl
          simp [requestLenFrom] at h
          omega
        obtain ⟨hall, t, ht⟩ := ih (i := i + 1) (by push_cast; omega) hs
        exact ⟨List.forall_mem_cons.2 ⟨hb, hall⟩, b :: t, by rw [ht]; rfl⟩

end

/-! ### The fields -/

/-- The bytes of a header from a place on: they end a line, unless there are none. -/
structure HeaderPart (s : List UInt8) : Prop where
  bytes : ∀ b ∈ s, IsHeaderByte b
  ends : s ≠ [] → ∃ t, s = t ++ [10]

section

variable {s t rest : List UInt8}

theorem HeaderPart.suffix (h : HeaderPart s) (ht : t <:+ s) : HeaderPart t where
  bytes := fun b hb => h.bytes b (ht.subset hb)
  ends := by
    intro hne
    obtain ⟨front, rfl⟩ := ht
    obtain ⟨r, hr⟩ := h.ends (List.append_ne_nil_of_right_ne_nil front hne)
    rcases List.append_eq_append_iff.1 hr with ⟨mid, -, hmid⟩ | ⟨mid, -, hmid⟩
    · exact ⟨mid, hmid⟩
    · cases mid with
      | nil => exact ⟨[], by simpa using hmid.symm⟩
      | cons x mid =>
        have hlen := congrArg List.length hmid
        have hpos := List.length_pos_iff.2 hne
        simp only [List.length_cons, List.length_append, List.length_nil] at hlen
        omega

/-- What is left behind some text is a part of it. -/
theorem mgSkip_suffix (delims s : List UInt8) : (mgSkip delims s).2 <:+ s :=
  (List.dropWhile_suffix _).trans (List.dropWhile_suffix _)

/-- A number that stands in front of the end of a line does not depend on what follows that. -/
theorem atoi_append {b : UInt8} (hb : isSpace b = false) (hs : ∃ t, b :: s = t ++ [10]) (rest : List UInt8) :
    atoi (b :: s ++ rest) = atoi (b :: s) := by
  obtain ⟨t, ht⟩ := hs
  have hdigits : ∀ (u : List UInt8), (∃ t, u = t ++ [10]) →
      (u ++ rest).takeWhile isDigit = u.takeWhile isDigit ∧ (u.takeWhile isDigit).length < u.length := by
    rintro _ ⟨t, rfl⟩
    rw [List.append_assoc]
    have hstop : ∀ r, (t ++ ([10] ++ r)).takeWhile isDigit = t.takeWhile isDigit := by
      intro r
      rw [List.takeWhile_append]
      split
      · rename_i hall
        rw [List.singleton_append, List.takeWhile_cons_of_neg (by decide), List.append_nil]
        exact ((List.takeWhile_prefix isDigit).eq_of_length hall).symm
      · rfl
    refine ⟨(hstop rest).trans ?_, ?_⟩
    · exact (hstop []).symm
    · have hle := (List.takeWhile_prefix isDigit (l := t)).length_le
      have heq := hstop []
      rw [List.append_nil] at heq
      rw [heq, List.length_append, List.length_singleton]
      omega
  have hfirst : ∀ r, (b :: s ++ r).dropWhile isSpace = b :: s ++ r := fun r =>
    List.dropWhile_cons_of_neg (by simp [hb])
  have hsign : ∃ sign u, (∃ t, u = t ++ [10]) ∧ ∀ r, takeSign (b :: s ++ r) = (sign, u ++ r) := by
    have htail : b ≠ 10 → ∃ t, s = t ++ [10] := by
      intro hne
      cases t with
      | nil => exact absurd (List.cons.inj ht).1 hne
      | cons c t => exact ⟨t, (List.cons.inj ht).2⟩
    by_cases hminus : b = 45
    · subst hminus
      exact ⟨true, s, htail (by decide), fun r => rfl⟩
    · by_cases hplus : b = 43
      · subst hplus
        exact ⟨false, s, htail (by decide), fun r => rfl⟩
      · exact ⟨false, b :: s, ⟨t, ht⟩, fun r => takeSign_cons hminus hplus⟩
  obtain ⟨sign, u, hu, hsigned⟩ := hsign
  obtain ⟨htake, hlt⟩ := hdigits u hu
  have hlength : (u.takeWhile isDigit).length ≠ (u ++ rest).length := by
    rw [List.length_append]
    omega
  have hspace := hfirst []
  have hself := hsigned []
  rw [List.append_nil, List.append_nil] at hself
  rw [List.append_nil] at hspace
  simp only [atoi, hfirst rest, hspace, hsigned rest, hself, htake]
  rw [if_neg hlength, if_neg hlt.ne]

/-- A byte of a header is no space, unless it is a delimiter. -/
theorem isSpace_eq_false {b : UInt8} (hb : IsHeaderByte b) (hnot : isDelim [58, 32] b = false)
    (hline : isDelim crlf b = false) : isSpace b = false := by
  have hall : ∀ n : Fin 256, IsHeaderByte (.ofFin n) → isDelim [58, 32] (.ofFin n) = false →
      isDelim crlf (.ofFin n) = false → isSpace (.ofFin n) = false := by
    decide +kernel
  exact hall b.toFin hb hnot hline

/-- The fields with the bytes behind the header. -/
def HttpField.behind (rest : List UInt8) (field : HttpField) : HttpField :=
  { field with at_ := field.at_ ++ rest }

/-- The fields are the same, whatever follows the header. -/
theorem parseFields_behind (rest : List UInt8) (fuel left : ℕ) (s : List UInt8) :
    parseFields rest fuel left s = (parseFields [] fuel left s).map (HttpField.behind rest) := by
  induction fuel generalizing left s with
  | zero => rfl
  | succ fuel ih =>
    cases left with
    | zero => rfl
    | succ left =>
      simp only [parseFields]
      split
      · exact ih (left + 1) _
      · split
        · rfl
        · rw [List.map_cons, ih left]
          simp [HttpField.behind]

/-- Each value begins with what is no space, and ends in front of the end of a line. -/
theorem mem_parseFields (hs : HeaderPart s) {fuel left : ℕ} {field : HttpField}
    (hfield : field ∈ parseFields [] fuel left s) :
    ∃ b t, field.at_ = b :: t ∧ isSpace b = false ∧ ∃ u, b :: t = u ++ [10] := by
  induction fuel generalizing left s with
  | zero => cases hfield
  | succ fuel ih =>
    cases left with
    | zero => cases hfield
    | succ left =>
      have hvalue : HeaderPart (mgSkip [58, 32] s).2 := hs.suffix (mgSkip_suffix _ s)
      have hnext : HeaderPart (mgSkip crlf (mgSkip [58, 32] s).2).2 := hvalue.suffix (mgSkip_suffix _ _)
      simp only [parseFields] at hfield
      split at hfield
      · exact ih hnext hfield
      · split at hfield
        · cases hfield
        · rename_i hne
          rcases List.mem_cons.1 hfield with rfl | hfield
          · have hskipped : (mgSkip [58, 32] s).2 =
                (s.dropWhile fun b => !isDelim [58, 32] b).dropWhile (isDelim [58, 32]) := rfl
            cases hrest : (mgSkip [58, 32] s).2 with
            | nil =>
              rw [hrest] at hne
              exact absurd (Or.inr rfl) hne
            | cons b t =>
              have hnot : isDelim [58, 32] b = false := by
                have hhead := List.head?_dropWhile_not (isDelim [58, 32])
                  (s.dropWhile fun b => !isDelim [58, 32] b)
                rw [← hskipped, hrest] at hhead
                simpa using hhead
              have hline : isDelim crlf b = false := by
                by_contra hdelim
                refine hne (.inr ?_)
                rw [hrest, mgSkip, List.takeWhile_cons_of_neg (by simpa using hdelim)]
                rfl
              rw [hrest] at hvalue
              refine ⟨b, t, List.append_nil (b :: t), ?_, hvalue.ends (List.cons_ne_nil b t)⟩
              exact isSpace_eq_false (hvalue.bytes b List.mem_cons_self) hnot hline
          · exact ih hnext hfield

/-- What the server asks of the fields is the same, whatever follows the header. -/
theorem ofFields_behind (hs : HeaderPart s) (method uri : List UInt8) (respCode : ℤ) (fuel left : ℕ)
    (rest : List UInt8) :
    HttpMessage.ofFields method uri respCode (parseFields rest fuel left s) =
      HttpMessage.ofFields method uri respCode (parseFields [] fuel left s) := by
  have hfind : ∀ name, mgGetHttpHeader (parseFields rest fuel left s) name =
      (mgGetHttpHeader (parseFields [] fuel left s) name).map (HttpField.behind rest) := by
    intro name
    rw [parseFields_behind, mgGetHttpHeader, List.find?_map]
    rfl
  rw [HttpMessage.ofFields, HttpMessage.ofFields, hfind, hfind, Option.map_map, Option.map_map]
  congr 1
  refine Option.map_congr fun field hfield => ?_
  obtain ⟨b, t, hat, hb, hends⟩ := mem_parseFields hs (List.mem_of_find?_eq_some hfield)
  have hfield' : (field.behind rest).at_ = b :: t ++ rest := by
    rw [HttpField.behind, hat]
  rw [Function.comp_apply, hfield', hat, List.append_assoc, atoi_append hb hends, atoi_append hb hends]

end

/-! ### What the parser finds -/

theorem parseRequestLine_suffix {s method uri rest : List UInt8}
    (h : parseRequestLine s = some (method, uri, rest)) : rest <:+ s := by
  simp only [parseRequestLine] at h
  split at h
  · cases h
  · obtain ⟨rfl, rfl, rfl⟩ := by simpa using h
    exact (mgSkip_suffix _ _).trans ((mgSkip_suffix _ _).trans (mgSkip_suffix _ _))

theorem parseStatusLine_suffix {s rest : List UInt8} {respCode : ℤ}
    (h : parseStatusLine s = some (respCode, rest)) : rest <:+ s := by
  simp only [parseStatusLine] at h
  split at h
  · rename_i c c₁ c₂ c₃ r heq
    split at h
    · cases h
    · split at h
      · cases h
      · obtain ⟨rfl, rfl⟩ := by simpa using h
        have hcut : r <:+ (mgSkip [32] s).2 := by
          rw [heq]
          exact ⟨[c, c₁, c₂, c₃], rfl⟩
        exact (mgSkip_suffix _ _).trans (hcut.trans (mgSkip_suffix _ _))
  · cases h

section

variable {isReq : Bool} {header rest : List UInt8} {message : HttpMessage}

/-- **A header that the parser takes whole** ends with the first empty line. -/
theorem requestLenFrom_of_parsed (hparsed : mgParseHttp isReq header = ((header.length : ℤ), message))
    (hne : header ≠ []) :
    mgHttpGetRequestLen header = header.length ∧ requestLenFrom 0 header = header.length ∧
      header.length < 2 ^ 31 := by
  have hpos := List.length_pos_iff.2 hne
  have hlen : mgHttpGetRequestLen header = header.length := by
    have hfst := mgParseHttp_fst isReq header
    rw [hparsed] at hfst
    simp only at hfst
    omega
  have hsearch := hlen
  rw [mgHttpGetRequestLen] at hsearch
  split at hsearch
  · rename_i hlt
    exact ⟨hlen, hsearch, hlt⟩
  · omega

/-- **The parser finds the same**, whatever follows the header. -/
theorem mgParseHttp_append (hparsed : mgParseHttp isReq header = ((header.length : ℤ), message))
    (hne : header ≠ []) (hlt : (header ++ rest).length < 2 ^ 31) :
    mgParseHttp isReq (header ++ rest) = ((header.length : ℤ), message) := by
  obtain ⟨hheader, hsearch, -⟩ := requestLenFrom_of_parsed hparsed hne
  have hpos := List.length_pos_iff.2 hne
  have hlen : mgHttpGetRequestLen (header ++ rest) = header.length := by
    rw [mgHttpGetRequestLen, if_pos hlt, requestLenFrom_append (by omega), hsearch]
  have hpart : HeaderPart header := by
    obtain ⟨hall, hends⟩ := requestLenFrom_eq_length (i := 0) (by simpa using hsearch) hne
    exact ⟨hall, fun _ => hends⟩
  have hhead : HeaderPart (header.dropWhile isSpace) := hpart.suffix (List.dropWhile_suffix _)
  simp only [mgParseHttp, hheader, Int.toNat_natCast, List.take_length, List.drop_length] at hparsed
  rw [if_neg (by omega)] at hparsed
  simp only [mgParseHttp, hlen, Int.toNat_natCast, List.take_left, List.drop_left]
  rw [if_neg (by omega), ← hparsed]
  split
  · cases hline : parseRequestLine (header.dropWhile isSpace) with
    | none => rfl
    | some line =>
      obtain ⟨method, uri, fields⟩ := line
      simp only
      rw [ofFields_behind (hhead.suffix (parseRequestLine_suffix hline))]
  · cases hline : parseStatusLine (header.dropWhile isSpace) with
    | none => rfl
    | some line =>
      obtain ⟨respCode, fields⟩ := line
      simp only
      rw [ofFields_behind (hhead.suffix (parseStatusLine_suffix hline))]

end

namespace HttpText

variable {isReq : Bool} (m : HttpText isReq)

theorem requestLenFrom_header : requestLenFrom 0 m.header = m.header.length ∧ m.header.length < 2 ^ 31 :=
  (requestLenFrom_of_parsed m.parsed m.header_ne).2

/-- **The parser finds the same**, whatever follows the header. -/
theorem parse_append {rest : List UInt8} (hlt : (m.header ++ rest).length < 2 ^ 31) :
    mgParseHttp isReq (m.header ++ rest) = ((m.header.length : ℤ), m.message) :=
  mgParseHttp_append m.parsed m.header_ne hlt

/-- **In a part of the header** there is no empty line. -/
theorem requestLenFrom_part {q : List UInt8} (hq : q <+: m.header) (hne : q ≠ m.header) :
    requestLenFrom 0 q = 0 := by
  obtain ⟨rest, hrest⟩ := hq
  have hlt : q.length < m.header.length := by
    have hlen := congrArg List.length hrest
    rw [List.length_append] at hlen
    have hpos : rest ≠ [] := fun hnil => hne (by rw [← hrest, hnil, List.append_nil])
    have := List.length_pos_iff.2 hpos
    omega
  have hpart : ((0 : ℕ) : ℤ) + q.length < requestLenFrom 0 (q ++ rest) := by
    rw [hrest, m.requestLenFrom_header.1]
    push_cast
    omega
  exact MmoServer.requestLenFrom_part hpart

/-- **It waits** for the rest of it. -/
theorem requestLen_part {q : List UInt8} (hq : q <+: m.header) (hne : q ≠ m.header) :
    mgHttpGetRequestLen q = 0 := by
  rw [mgHttpGetRequestLen]
  split
  · exact m.requestLenFrom_part hq hne
  · rfl

end HttpText

end MmoServer
