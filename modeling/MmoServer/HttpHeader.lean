/-
**The header of an HTTP message.**

The HTTP library looks for the first empty line, and what is in front of it is the header: the line of the
request, or of the answer, and fields with a name and a value.  At most 39 fields are kept.  A field without a
value is passed over, and a name that is empty ends them.

Main definitions:

* `MmoServer.HttpMessage`, `MmoServer.HttpParser`, `MmoServer.HttpParser.Contract` — what a parser says,
  and what it promises;
* `MmoServer.mgHttpGetRequestLen` — the search for an empty line;
* `MmoServer.mgParseHttp` — the parser of the library.

Main results:

* `MmoServer.mgParseHttp_contract` — **the parser keeps its promises**.
-/

import Mathlib.Data.List.DropRight
import MmoServer.HttpBody

set_option relaxedAutoImplicit false
set_option autoImplicit false

namespace MmoServer

/-! ### The parser -/

/-- What the parser finds in a header: its first line, `Content-Length`, as `atoi` reads it, and
`Transfer-Encoding`. -/
structure HttpMessage where
  method : List UInt8
  uri : List UInt8
  respCode : ℤ
  contentLength : Option ℤ
  transferEncoding : Option (List UInt8)
  deriving DecidableEq

/-- `mg_parse_http` of a request, or of an answer. -/
abbrev HttpParser : Type := Bool → List UInt8 → ℤ × HttpMessage

/-- What it promises: -1 for what is malformed, 0 for what is incomplete, or the length of a header that is
part of the bytes.  The numbers are `int`s. -/
structure HttpParser.Contract (parse : HttpParser) : Prop where
  length : ∀ isReq s, (parse isReq s).1 = -1 ∨
    0 ≤ (parse isReq s).1 ∧ (parse isReq s).1 ≤ s.length ∧ (parse isReq s).1 < 2 ^ 31
  contentLength : ∀ isReq s n, (parse isReq s).2.contentLength = some n → -2 ^ 31 ≤ n ∧ n < 2 ^ 31

/-- `tolower`. -/
def toLower (b : UInt8) : UInt8 := if 65 ≤ b ∧ b ≤ 90 then b + 32 else b

/-- `mg_vcasecmp` finds no difference. -/
def sameText (s t : List UInt8) : Bool := s.map toLower = t.map toLower

/-- `"chunked"`. -/
def chunkedText : List UInt8 := [99, 104, 117, 110, 107, 101, 100]

/-- The body is in chunks. -/
def HttpMessage.isChunked (hm : HttpMessage) : Bool :=
  match hm.transferEncoding with
  | none => false
  | some encoding => sameText encoding chunkedText

/-- The loop of `mg_http_get_request_len`, behind `i` bytes. -/
def requestLenFrom (i : ℕ) : List UInt8 → ℤ
  | [] => 0
  | b :: rest =>
    if ¬ (32 ≤ b ∧ b ≤ 126) ∧ b ≠ 13 ∧ b ≠ 10 ∧ b < 128 then -1
    else if b = 10 ∧ [10].isPrefixOf rest then i + 2
    else if b = 10 ∧ [13, 10].isPrefixOf rest then i + 3
    else requestLenFrom (i + 1) rest

/-- `mg_http_get_request_len`: the length up to the first empty line.  The number of bytes is an `int`. -/
def mgHttpGetRequestLen (s : List UInt8) : ℤ := if s.length < 2 ^ 31 then requestLenFrom 0 s else 0

/-! ### The parser of the library -/

/-- A field of a header: its name, its value, and the bytes from the value on. -/
structure HttpField where
  name : List UInt8
  value : List UInt8
  at_ : List UInt8

/-- `mg_http_parse_headers`: the loop over the fields, of which so many are kept. -/
def parseFields (behind : List UInt8) : ℕ → ℕ → List UInt8 → List HttpField
  | 0, _, _ => []
  | _ + 1, 0, _ => []
  | fuel + 1, left + 1, s =>
    let (k, s) := mgSkip [58, 32] s
    let at_ := s ++ behind
    let (v, s) := mgSkip crlf s
    let v := v.rdropWhile (· = 32)
    if k ≠ [] ∧ v = [] then parseFields behind fuel (left + 1) s
    else if k = [] ∨ v = [] then []
    else ⟨k, v, at_⟩ :: parseFields behind fuel left s

/-- `MG_MAX_HTTP_HEADERS`. -/
def mgMaxHttpHeaders : ℕ := 40

/-- `mg_get_http_header`. -/
def mgGetHttpHeader (fields : List HttpField) (name : List UInt8) : Option HttpField :=
  fields.find? fun field => sameText field.name name

/-- `"Content-Length"`. -/
def contentLengthText : List UInt8 := [67, 111, 110, 116, 101, 110, 116, 45, 76, 101, 110, 103, 116, 104]

/-- `"Transfer-Encoding"`. -/
def transferEncodingText : List UInt8 :=
  [84, 114, 97, 110, 115, 102, 101, 114, 45, 69, 110, 99, 111, 100, 105, 110, 103]

/-- What the server asks of the fields.  The bytes are followed by something that ends a number. -/
def HttpMessage.ofFields (method uri : List UInt8) (respCode : ℤ) (fields : List HttpField) : HttpMessage where
  method := method
  uri := uri
  respCode := respCode
  contentLength := (mgGetHttpHeader fields contentLengthText).map fun field => (atoi (field.at_ ++ [0])).getD 0
  transferEncoding := (mgGetHttpHeader fields transferEncodingText).map HttpField.value

/-- The message that nothing was written to. -/
def HttpMessage.none : HttpMessage := ⟨[], [], 0, .none, .none⟩

/-- The line of a request, and what follows it.  Nothing if one of its three parts is missing. -/
def parseRequestLine (s : List UInt8) : Option (List UInt8 × List UInt8 × List UInt8) :=
  let (method, s₁) := mgSkip [32] s
  let (uri, s₂) := mgSkip [32] s₁
  let (_, s₃) := mgSkip crlf s₂
  if s.length ≤ s₁.length ∨ s₁.length ≤ s₂.length then .none
  else some (method, uri.takeWhile (· ≠ 63), s₃)

/-- The line of an answer, and what follows it. -/
def parseStatusLine (s : List UInt8) : Option (ℤ × List UInt8) :=
  let (_, s) := mgSkip [32] s
  match s with
  | c :: c₁ :: c₂ :: c₃ :: rest =>
    if ¬ (48 ≤ c ∧ c ≤ 57) ∨ c₃ ≠ 32 then .none
    else
      let respCode := (atoi (c :: c₁ :: c₂ :: c₃ :: rest)).getD 0
      if respCode < 100 ∨ 600 ≤ respCode then .none
      else some (respCode, (mgSkip crlf rest).2)
  | _ => .none

/-- `mg_parse_http`. -/
def mgParseHttp : HttpParser := fun isReq s =>
  let len := mgHttpGetRequestLen s
  if len ≤ 0 then (len, .none)
  else
    let head := (s.take len.toNat).dropWhile isSpace
    let behind := s.drop len.toNat
    let fields := parseFields behind (head.length + 1) (mgMaxHttpHeaders - 1)
    if isReq then
      match parseRequestLine head with
      | .none => (-1, .none)
      | some (method, uri, rest) => (len, .ofFields method uri 0 (fields rest))
    else
      match parseStatusLine head with
      | .none => (-1, .none)
      | some (respCode, rest) => (len, .ofFields [] [] respCode (fields rest))

/-! ### What it promises -/

/-- The search answers -1, 0 or the length of a part of the bytes. -/
theorem requestLenFrom_cases (i : ℕ) (s : List UInt8) :
    requestLenFrom i s = -1 ∨ 0 ≤ requestLenFrom i s ∧ requestLenFrom i s ≤ i + s.length := by
  induction s generalizing i with
  | nil => exact .inr ⟨le_refl 0, by rw [requestLenFrom]; omega⟩
  | cons b rest ih =>
    rw [requestLenFrom, List.length_cons]
    split
    · exact .inl rfl
    · split
      · rename_i h
        have hlen := (List.isPrefixOf_iff_prefix.1 h.2).length_le
        simp only [List.length_cons, List.length_nil] at hlen
        exact .inr ⟨by omega, by omega⟩
      · split
        · rename_i h
          have hlen := (List.isPrefixOf_iff_prefix.1 h.2).length_le
          simp only [List.length_cons, List.length_nil] at hlen
          exact .inr ⟨by omega, by omega⟩
        · rcases ih (i + 1) with h | ⟨h₀, h₁⟩
          · exact .inl h
          · exact .inr ⟨h₀, by omega⟩

theorem mgHttpGetRequestLen_cases (s : List UInt8) : mgHttpGetRequestLen s = -1 ∨
    0 ≤ mgHttpGetRequestLen s ∧ mgHttpGetRequestLen s ≤ s.length ∧ mgHttpGetRequestLen s < 2 ^ 31 := by
  rw [mgHttpGetRequestLen]
  split
  · rcases requestLenFrom_cases 0 s with h | ⟨h₀, h₁⟩
    · exact .inl h
    · exact .inr ⟨h₀, by omega, by omega⟩
  · exact .inr ⟨le_refl 0, by omega, by decide⟩

/-- `atoi` answers an `int`. -/
theorem atoi_range {s : List UInt8} {n : ℤ} (h : atoi s = some n) : -2 ^ 31 ≤ n ∧ n < 2 ^ 31 := by
  simp only [atoi] at h
  split at h
  · cases h
  · obtain rfl := Option.some.inj h
    rw [toInt32]
    split <;> omega

theorem ofFields_contentLength_range {method uri : List UInt8} {respCode n : ℤ} {fields : List HttpField}
    (h : (HttpMessage.ofFields method uri respCode fields).contentLength = some n) : -2 ^ 31 ≤ n ∧ n < 2 ^ 31 := by
  obtain ⟨field, -, rfl⟩ := Option.map_eq_some_iff.1 h
  cases hatoi : atoi (field.at_ ++ [0]) with
  | none => decide
  | some n => exact atoi_range hatoi

/-- The length is that of the search, unless the first line is malformed. -/
theorem mgParseHttp_fst (isReq : Bool) (s : List UInt8) :
    (mgParseHttp isReq s).1 = mgHttpGetRequestLen s ∨ (mgParseHttp isReq s).1 = -1 := by
  simp only [mgParseHttp]
  split
  · exact .inl rfl
  · split
    · split
      · exact .inr rfl
      · exact .inl rfl
    · split
      · exact .inr rfl
      · exact .inl rfl

/-- **The parser keeps its promises.** -/
theorem mgParseHttp_contract : mgParseHttp.Contract where
  length := by
    intro isReq s
    rcases mgParseHttp_fst isReq s with h | h
    · rw [h]
      exact mgHttpGetRequestLen_cases s
    · exact .inl h
  contentLength := by
    intro isReq s n h
    simp only [mgParseHttp] at h
    split at h
    · cases h
    · split at h
      · split at h
        · cases h
        · exact ofFields_contentLength_range h
      · split at h
        · cases h
        · exact ofFields_contentLength_range h

end MmoServer
