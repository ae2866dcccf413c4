/-
**The HTTP messages that are written.**

`SendHttpResponseBase` and `SendHttpRequest` write a line, some fields, and an empty line, and behind an answer its
body.  What they write is read by the parser at the other end of the connection, however it arrives.  The path
and the parameters of a request are written as they are; the password of an account is one of them.

Main definitions:

* `MmoServer.headerText`, `MmoServer.FieldText` — the lines of a header, and its fields, as they are written;
* `MmoServer.sendHttpResponseBase`, `MmoServer.sendHttpRequest` — what is sent;
* `MmoServer.HasEmptyLine` — a text in which a header would end.

Main results:

* `MmoServer.requestLenFrom_headerText` — **a header of lines ends where it should**;
* `MmoServer.parseFields_headerText` — **the fields are read as they were written**;
* `MmoServer.responses_run` — **answers are read as they were sent**, whatever their bodies are and however they
  arrive;
* `MmoServer.requestLen_request_iff` — **a request is one message** exactly if its path and parameters are
  printable and have no empty line;
* `MmoServer.requests_run` — **requests are read as they were sent**.
-/

import MmoServer.HttpArrival
import MmoServer.OnlineFlag
import MmoServer.PlayerQuery

set_option relaxedAutoImplicit false
set_option autoImplicit false

namespace MmoServer

open Transition

/-! ### What is written -/

/-- `mg_status_message`, without the texts that are not compiled. -/
def mgStatusMessage (statusCode : ℕ) : List UInt8 :=
  match statusCode with
  | 206 => ascii "Partial Content"
  | 301 => ascii "Moved"
  | 302 => ascii "Found"
  | 400 => ascii "Bad Request"
  | 401 => ascii "Unauthorized"
  | 403 => ascii "Forbidden"
  | 404 => ascii "Not Found"
  | 416 => ascii "Requested Range Not Satisfiable"
  | 418 => ascii "I'm a teapot"
  | 500 => ascii "Internal Server Error"
  | 502 => ascii "Bad Gateway"
  | 503 => ascii "Service Unavailable"
  | _ => ascii "OK"

/-- `SendHttpResponseBase`: the bytes of the packet.  The size is an `int`. -/
def sendHttpResponseBase (statusCode : ℕ) (content : List UInt8) (size : ℤ) : List UInt8 :=
  ascii "HTTP/1.1 " ++ decimal statusCode ++ ascii " " ++ mgStatusMessage statusCode ++ crlf ++
    (ascii "Connection: close" ++ crlf ++
    (ascii "Content-Type: application/json; charset=utf-8" ++ crlf ++
    (ascii "Content-Length:" ++ decimal size ++ crlf ++ (crlf ++
      if 0 < size then content.take size.toNat else []))))

/-- `SendHttpResponse`, with the length of a string as its size. -/
def sendHttpResponse (content : List UInt8) : List UInt8 :=
  sendHttpResponseBase 200 content (toInt32 (content.length % 2 ^ 32))

/-- The path of a request, and behind a question mark its parameters, in the order of their names. -/
def requestTarget (method : List UInt8) (params : Option (List (List UInt8 × List UInt8))) : List UInt8 :=
  match params with
  | none => method
  | some params => method ++ ascii "?" ++ params.flatMap fun (key, value) => key ++ ascii "=" ++ value ++ ascii "&"

/-- `SendHttpRequest`: the bytes of the packet. -/
def sendHttpRequest (ip : List UInt8) (port : ℤ) (method : List UInt8)
    (params : Option (List (List UInt8 × List UInt8))) : List UInt8 :=
  ascii "GET " ++ requestTarget method params ++ ascii " HTTP/1.1" ++ crlf ++
    (ascii "Host: " ++ ip ++ ascii ":" ++ decimal port ++ crlf ++
    (ascii "Content-Type: application/json; charset=utf-8" ++ crlf ++
    (ascii "Accept: */*,text/*,text/html" ++ crlf ++ crlf)))

/-- What is checked of the bytes of a text one after the other. -/
theorem forall_mem_of_all {p : UInt8 → Prop} [DecidablePred p] {t : List UInt8}
    (h : t.all (fun b => decide (p b)) = true) : ∀ b ∈ t, p b := by
  simpa using h

/-! ### The lines of a header -/

/-- A byte of a line: it can be printed, or is none of ASCII. -/
def IsText (b : UInt8) : Prop := 32 ≤ b ∧ b ≤ 126 ∨ 128 ≤ b

instance (b : UInt8) : Decidable (IsText b) := inferInstanceAs (Decidable (32 ≤ b ∧ b ≤ 126 ∨ 128 ≤ b))

/-- The lines of a header, and the empty line. -/
def headerText (lines : List (List UInt8)) : List UInt8 := lines.flatMap (· ++ crlf) ++ crlf

theorem headerText_cons (line : List UInt8) (lines : List (List UInt8)) :
    headerText (line :: lines) = line ++ (13 :: 10 :: headerText lines) := by
  simp [headerText, crlf]

section

variable {i : ℕ} {s t : List UInt8}

theorem isHeaderByte_of_isText {b : UInt8} (h : IsText b) : IsHeaderByte b :=
  h.elim .inl fun h => .inr (.inr (.inr h))

theorem ne_of_isText {b : UInt8} (h : IsText b) : b ≠ 10 ∧ b ≠ 13 ∧ b ≠ 0 := by
  refine ⟨?_, ?_, ?_⟩
  all_goals
    rintro rfl
    revert h
    decide

/-- The search goes past the text of a line. -/
theorem requestLenFrom_text (ht : ∀ b ∈ t, IsText b) (s : List UInt8) :
    requestLenFrom i (t ++ s) = requestLenFrom (i + t.length) s := by
  induction t generalizing i with
  | nil => rfl
  | cons b t ih =>
    have hb := ht b List.mem_cons_self
    have hne := (ne_of_isText hb).1
    rw [List.cons_append, requestLenFrom_cons (isHeaderByte_of_isText hb), if_neg fun h => hne h.1,
      if_neg fun h => hne h.1, ih fun b hb => ht b (List.mem_cons_of_mem _ hb), List.length_cons]
    congr 1
    omega

/-- **A header of lines ends where it should**, if none of them is empty. -/
theorem requestLenFrom_headerText {line : List UInt8} {lines : List (List UInt8)}
    (hlines : ∀ l ∈ line :: lines, l ≠ [] ∧ ∀ b ∈ l, IsText b) :
    requestLenFrom i (headerText (line :: lines)) = i + (headerText (line :: lines)).length := by
  induction lines generalizing i line with
  | nil =>
    rw [headerText_cons, requestLenFrom_text (hlines line List.mem_cons_self).2]
    simp [headerText, crlf, requestLenFrom]
    omega
  | cons next lines ih =>
    obtain ⟨hne, htext⟩ := hlines next (List.mem_cons_of_mem _ List.mem_cons_self)
    obtain ⟨b, rest, rfl⟩ := List.exists_cons_of_ne_nil hne
    obtain ⟨h10, h13, -⟩ := ne_of_isText (htext b List.mem_cons_self)
    have hnext : requestLenFrom (i + line.length + 2) (headerText ((b :: rest) :: lines)) =
        (i + line.length + 2 : ℕ) + (headerText ((b :: rest) :: lines)).length :=
      ih fun l hl => hlines l (List.mem_cons_of_mem _ hl)
    have hone : ¬ [10] <+: headerText ((b :: rest) :: lines) := by
      rw [headerText_cons]
      rintro ⟨u, hu⟩
      exact h10 (List.cons.inj hu).1.symm
    have htwo : ¬ [13, 10] <+: headerText ((b :: rest) :: lines) := by
      rw [headerText_cons]
      rintro ⟨u, hu⟩
      exact h13 (List.cons.inj hu).1.symm
    rw [headerText_cons, requestLenFrom_text (hlines line List.mem_cons_self).2,
      requestLenFrom_cons (.inr (.inl rfl)), if_neg (by simp), if_neg (by simp),
      requestLenFrom_cons (.inr (.inr (.inl rfl))), if_neg fun h => hone h.2, if_neg fun h => htwo h.2,
      hnext, List.length_append, List.length_cons, List.length_cons]
    omega

end

/-! ### Fields -/

/-- A field of a header, as it is written: its name, what stands behind that, and its value. -/
structure FieldText where
  name : List UInt8
  sep : List UInt8
  value : List UInt8
  name_ne : name ≠ []
  name_ok : ∀ b ∈ name, IsText b ∧ b ≠ 58 ∧ b ≠ 32
  sep_eq : sep = [58] ∨ sep = [58, 32]
  value_ok : ∀ b ∈ value, IsText b
  first : ∃ b, value.head? = some b ∧ b ≠ 58 ∧ b ≠ 32
  last : value.getLast? ≠ some 32

namespace FieldText

/-- Its line. -/
def line (f : FieldText) : List UInt8 := f.name ++ f.sep ++ f.value

theorem line_ok (f : FieldText) : f.line ≠ [] ∧ ∀ b ∈ f.line, IsText b := by
  constructor
  · simp [line, f.name_ne]
  · intro b hb
    simp only [line, List.mem_append] at hb
    rcases hb with (hb | hb) | hb
    · exact (f.name_ok b hb).1
    · rcases f.sep_eq with heq | heq <;> rw [heq] at hb <;> simp at hb
      · subst hb
        decide
      · rcases hb with rfl | rfl <;> decide
    · exact f.value_ok b hb

/-- What the parser finds: the field, with the bytes from its value on. -/
def read (f : FieldText) (next : List UInt8) : HttpField := ⟨f.name, f.value, f.value ++ (13 :: 10 :: next)⟩

/-- Its name, and what stands behind it. -/
theorem mgSkip_name (f : FieldText) (rest : List UInt8) :
    mgSkip [58, 32] (f.line ++ rest) = (f.name, f.value ++ rest) := by
  have hname : ∀ b ∈ f.name, (!isDelim [58, 32] b) = true := by
    intro b hb
    obtain ⟨htext, hcolon, hspace⟩ := f.name_ok b hb
    simp [isDelim, (ne_of_isText htext).2.2, hcolon, hspace]
  obtain ⟨b, hb, hcolon, hspace⟩ := f.first
  obtain ⟨value, hvalue⟩ : ∃ value, f.value = b :: value := by
    cases hf : f.value with
    | nil => rw [hf] at hb; cases hb
    | cons c value =>
      rw [hf, List.head?_cons] at hb
      obtain rfl := Option.some.inj hb
      exact ⟨value, rfl⟩
  have hnot : isDelim [58, 32] b = false := by
    have htext := f.value_ok b (by simp [hvalue])
    simp [isDelim, (ne_of_isText htext).2.2, hcolon, hspace]
  have hsep : ∃ u, f.sep = 58 :: u ∧ ∀ c ∈ u, isDelim [58, 32] c = true := by
    rcases f.sep_eq with heq | heq
    · exact ⟨[], heq, by simp⟩
    · exact ⟨[32], heq, by simp [isDelim]⟩
  obtain ⟨u, hsep, hdelims⟩ := hsep
  rw [mgSkip, line, hsep, List.append_assoc, List.append_assoc, List.takeWhile_append_of_pos hname,
    List.dropWhile_append_of_pos hname, List.cons_append,
    List.takeWhile_cons_of_neg (by decide), List.dropWhile_cons_of_neg (by decide),
    List.dropWhile_cons_of_pos (by decide), List.append_nil, List.dropWhile_append_of_pos hdelims, hvalue,
    List.cons_append, List.dropWhile_cons_of_neg (by simp [hnot])]

/-- Its value, and what stands behind the end of the line. -/
theorem mgSkip_value (f : FieldText) (next : List UInt8) :
    mgSkip crlf (f.value ++ (13 :: 10 :: next)) = (f.value, next.dropWhile (isDelim crlf)) := by
  have hvalue : ∀ b ∈ f.value, (!isDelim crlf b) = true := by
    intro b hb
    obtain ⟨h10, h13, h0⟩ := ne_of_isText (f.value_ok b hb)
    simp [isDelim, crlf, h10, h13, h0]
  rw [mgSkip, List.takeWhile_append_of_pos hvalue, List.dropWhile_append_of_pos hvalue,
    List.takeWhile_cons_of_neg (by decide), List.dropWhile_cons_of_neg (by decide),
    List.dropWhile_cons_of_pos (by decide), List.dropWhile_cons_of_pos (by decide), List.append_nil]

/-- Nothing is cut off at the end of the value. -/
theorem rdropWhile_value (f : FieldText) : f.value.rdropWhile (· = 32) = f.value := by
  obtain ⟨b, hb, -⟩ := f.first
  have hne : f.value ≠ [] := by
    intro hnil
    rw [hnil] at hb
    cases hb
  rw [List.rdropWhile_eq_self_iff]
  intro h hlast
  refine f.last ?_
  rw [List.getLast?_eq_some_getLast hne]
  exact congrArg some (by simpa using hlast)

end FieldText

/-- What the parser finds in some fields. -/
def readFields (behind : List UInt8) : List FieldText → List HttpField
  | [] => []
  | f :: fs => f.read (headerText (fs.map FieldText.line) ++ behind) :: readFields behind fs

/-- The ends of lines in front of a field, or behind the last one, are passed over. -/
theorem dropWhile_headerText (fs : List FieldText) : (headerText (fs.map FieldText.line)).dropWhile
    (isDelim crlf) = if fs = [] then [] else headerText (fs.map FieldText.line) := by
  cases fs with
  | nil => decide
  | cons f fs =>
    rw [if_neg (List.cons_ne_nil f fs), List.map_cons, headerText_cons]
    obtain ⟨hne, htext⟩ := f.line_ok
    obtain ⟨b, rest, hline⟩ := List.exists_cons_of_ne_nil hne
    obtain ⟨h10, h13, h0⟩ := ne_of_isText (htext b (by simp [hline]))
    rw [hline, List.cons_append, List.dropWhile_cons_of_neg (by simp [isDelim, crlf, h10, h13, h0])]

/-- **The fields are read as they were written**, if they are not too many. -/
theorem parseFields_headerText (behind : List UInt8) (fs : List FieldText) {fuel left : ℕ}
    (hfuel : fs.length < fuel) (hleft : fs.length ≤ left) :
    parseFields behind fuel left ((headerText (fs.map FieldText.line)).dropWhile (isDelim crlf)) =
      readFields behind fs := by
  induction fs generalizing fuel left with
  | nil =>
    obtain ⟨fuel, rfl⟩ := Nat.exists_eq_add_of_lt hfuel
    cases left with
    | zero => simp [parseFields, readFields]
    | succ left =>
      rw [dropWhile_headerText, if_pos rfl]
      simp [parseFields, mgSkip, readFields]
  | cons f fs ih =>
    rw [List.length_cons] at hfuel hleft
    obtain ⟨fuel, rfl⟩ := Nat.exists_eq_add_of_lt hfuel
    obtain ⟨left, rfl⟩ := Nat.exists_eq_add_of_le hleft
    obtain ⟨b, hb, -⟩ := f.first
    have hne : f.value ≠ [] := by
      intro hnil
      rw [hnil] at hb
      cases hb
    have hfuel' : fs.length + 1 + fuel + 1 = (fs.length + fuel + 1) + 1 := by omega
    have hleft' : fs.length + 1 + left = (fs.length + left) + 1 := by omega
    rw [dropWhile_headerText, if_neg (List.cons_ne_nil f fs), List.map_cons, headerText_cons, hfuel', hleft',
      parseFields]
    simp only [f.mgSkip_name, f.mgSkip_value, f.rdropWhile_value]
    rw [if_neg (by simp [hne]), if_neg (by simp [hne, f.name_ne]), ih (by omega) (by omega), readFields,
      FieldText.read]
    simp

/-! ### Numbers -/

/-- The digits of a number. -/
theorem decimal_digits (n : ℕ) : decimal n = (Nat.toDigits 10 n).map Char.toUInt8 ∧
    (∀ b ∈ decimal n, 48 ≤ b ∧ b ≤ 57) ∧ decimalValue (decimal n) = n := by
  have hdigits : ∀ c ∈ Nat.toDigits 10 n, c.isDigit = true := fun c hc =>
    Nat.isDigit_of_mem_toDigits (by decide) (by decide) hc
  have htext : decimal n = (Nat.toDigits 10 n).map Char.toUInt8 := by
    simp [decimal]
  have hvalue := foldl_toUInt8 _ hdigits 0
  rw [Nat.ofDigitChars_toDigits (by decide) (by decide)] at hvalue
  refine ⟨htext, fun b hb => ?_, by rw [htext]; exact hvalue⟩
  rw [htext] at hb
  obtain ⟨c, hc, rfl⟩ := List.mem_map.1 hb
  obtain ⟨hbyte, hlow, hhigh⟩ := toNat_toUInt8_of_isDigit (hdigits c hc)
  rw [UInt8.le_iff_toNat_le, UInt8.le_iff_toNat_le, hbyte]
  exact ⟨hlow, hhigh⟩

/-- Digits are text, and neither spaces, signs nor delimiters. -/
theorem of_digit {b : UInt8} (h : 48 ≤ b ∧ b ≤ 57) :
    IsText b ∧ isDigit b = true ∧ isSpace b = false ∧ b ≠ 45 ∧ b ≠ 43 ∧ b ≠ 58 ∧ b ≠ 32 := by
  have hall : ∀ n : Fin 256, (48 : UInt8) ≤ .ofFin n ∧ .ofFin n ≤ (57 : UInt8) → IsText (.ofFin n) ∧
      isDigit (.ofFin n) = true ∧ isSpace (.ofFin n) = false ∧ UInt8.ofFin n ≠ 45 ∧ UInt8.ofFin n ≠ 43 ∧
      UInt8.ofFin n ≠ 58 ∧ UInt8.ofFin n ≠ 32 := by
    decide +kernel
  exact hall b.toFin h

section

variable {first : List UInt8} {fs : List FieldText}

/-- The header is found, and nothing is behind it. -/
theorem mgHttpGetRequestLen_headerText (hfirst : first ≠ [] ∧ ∀ b ∈ first, IsText b)
    (hlt : (headerText (first :: fs.map FieldText.line)).length < 2 ^ 31) :
    mgHttpGetRequestLen (headerText (first :: fs.map FieldText.line)) =
      (headerText (first :: fs.map FieldText.line)).length := by
  rw [mgHttpGetRequestLen, if_pos hlt, requestLenFrom_headerText]
  · simp
  · intro l hl
    rcases List.mem_cons.1 hl with rfl | hl
    · exact hfirst
    · obtain ⟨f, -, rfl⟩ := List.mem_map.1 hl
      exact f.line_ok

/-- The first line is no space, so that nothing is passed over in front of it. -/
theorem dropWhile_isSpace_headerText {b : UInt8} (hfirst : first.head? = some b) (hnot : isSpace b = false) :
    (headerText (first :: fs.map FieldText.line)).dropWhile isSpace =
      headerText (first :: fs.map FieldText.line) := by
  cases first with
  | nil => cases hfirst
  | cons c rest =>
    rw [List.head?_cons] at hfirst
    obtain rfl := Option.some.inj hfirst
    rw [headerText_cons, List.cons_append, List.dropWhile_cons_of_neg (by simp [hnot])]

theorem headerText_pos (first : List UInt8) (fs : List FieldText) :
    0 < (headerText (first :: fs.map FieldText.line)).length := by
  rw [headerText_cons]
  simp

/-- The parser gets the line of a request, and the fields behind it. -/
theorem mgParseHttp_of_requestLine {b : UInt8} {method uri rest : List UInt8}
    (htext : first ≠ [] ∧ ∀ b ∈ first, IsText b) (hfirst : first.head? = some b) (hnot : isSpace b = false)
    (hlt : (headerText (first :: fs.map FieldText.line)).length < 2 ^ 31)
    (hline : parseRequestLine (headerText (first :: fs.map FieldText.line)) = some (method, uri, rest)) :
    mgParseHttp true (headerText (first :: fs.map FieldText.line)) =
      (((headerText (first :: fs.map FieldText.line)).length : ℤ), .ofFields method uri 0
        (parseFields [] ((headerText (first :: fs.map FieldText.line)).length + 1) (mgMaxHttpHeaders - 1) rest)) := by
  have hpos := headerText_pos first fs
  simp only [mgParseHttp, mgHttpGetRequestLen_headerText htext hlt, Int.toNat_natCast, List.take_length,
    List.drop_length, dropWhile_isSpace_headerText hfirst hnot, hline]
  rw [if_neg (by omega), if_pos trivial]

/-- The fields of a header are not more than its bytes. -/
theorem length_le_headerText (fs : List FieldText) : fs.length ≤ (headerText (fs.map FieldText.line)).length := by
  induction fs with
  | nil => simp
  | cons f fs ih =>
    rw [List.map_cons, headerText_cons, List.length_append, List.length_cons, List.length_cons, List.length_cons]
    omega

/-- What the parser finds in the fields behind the first line. -/
theorem parseFields_behind_first (hfs : fs.length ≤ 39) :
    parseFields [] ((headerText (first :: fs.map FieldText.line)).length + 1) (mgMaxHttpHeaders - 1)
      ((headerText (fs.map FieldText.line)).dropWhile (isDelim crlf)) = readFields [] fs := by
  have hle := length_le_headerText fs
  have hfirst : (headerText (fs.map FieldText.line)).length ≤
      (headerText (first :: fs.map FieldText.line)).length := by
    rw [headerText_cons, List.length_append, List.length_cons, List.length_cons]
    omega
  exact parseFields_headerText [] fs (by omega) hfs

end

/-! ### Answers -/

/-- `Content-Type: application/json; charset=utf-8`. -/
def contentTypeField : FieldText where
  name := ascii "Content-Type"
  sep := [58, 32]
  value := ascii "application/json; charset=utf-8"
  name_ne := by decide
  name_ok := forall_mem_of_all (by decide)
  sep_eq := .inr rfl
  value_ok := forall_mem_of_all (by decide)
  first := ⟨97, rfl, by decide, by decide⟩
  last := by decide

/-- **What is sent is what comes out**: the connection stays open, its packets are the first ones of the messages,
and all of them when everything has arrived and `Recv` has come to its end. -/
structure HttpArrival.Delivers (sent : List ParsedHttp) (s : HttpArrival) : Prop where
  open_ : s.closed = false
  packets : s.packets <+: sent
  all : s.getting = false → s.wire = [] → s.packets = sent

theorem HttpArrival.ArrivalInv.delivers {isConnector : Bool} {ms : List (HttpText (!isConnector))}
    {s : HttpArrival} (h : HttpArrival.ArrivalInv isConnector ms s) : s.Delivers (ms.map HttpText.packet) := by
  obtain ⟨made, left, hms, hpackets, -, hwire⟩ := h.messages
  refine ⟨h.open_, ?_, fun hgetting hempty => ?_⟩
  · rw [hms, List.map_append, hpackets]
    exact List.prefix_append _ _
  · have hnone := h.rest hgetting
    rw [hempty, List.append_nil] at hwire
    cases left with
    | nil => rw [hms, List.append_nil, hpackets]
    | cons m left =>
      rw [hwire, List.flatMap_cons, m.takeMessage_append] at hnone
      cases hnone

section

variable {i : ℕ} {t s : List UInt8} {b : UInt8}

end

/-- The path, and the names and values of the parameters. -/
def requestParts (method : List UInt8) (params : Option (List (List UInt8 × List UInt8))) :
    List (List UInt8) := method :: (params.getD []).flatMap fun (key, value) => [key, value]

/-- `Accept: */*,text/*,text/html`. -/
def acceptField : FieldText where
  name := ascii "Accept"
  sep := [58, 32]
  value := ascii "*/*,text/*,text/html"
  name_ne := by decide
  name_ok := forall_mem_of_all (by decide)
  sep_eq := .inr rfl
  value_ok := forall_mem_of_all (by decide)
  first := ⟨42, rfl, by decide, by decide⟩
  last := by decide

/-- What the address of a host is: text that begins with no space and no colon. -/
structure HostText (ip : List UInt8) : Prop where
  text : ∀ b ∈ ip, IsText b
  first : ∃ b, ip.head? = some b ∧ b ≠ 58 ∧ b ≠ 32

/-- `Host:`, with the address and the port. -/
def hostField {ip : List UInt8} (hip : HostText ip) (port : ℕ) : FieldText where
  name := ascii "Host"
  sep := [58, 32]
  value := ip ++ ascii ":" ++ decimal port
  name_ne := by decide
  name_ok := forall_mem_of_all (by decide)
  sep_eq := .inr rfl
  value_ok := by
    intro b hb
    simp only [List.mem_append] at hb
    rcases hb with (hb | hb) | hb
    · exact hip.text b hb
    · exact forall_mem_of_all (by decide) b hb
    · exact (of_digit ((decimal_digits port).2.1 b hb)).1
  first := by
    obtain ⟨b, hb, hne⟩ := hip.first
    refine ⟨b, ?_, hne⟩
    rw [List.append_assoc, List.head?_append, hb, Option.some_or]
  last := by
    obtain ⟨c, hc⟩ := Option.ne_none_iff_exists'.1 (mt List.getLast?_eq_none_iff.1 (decimal_plain port).1)
    rw [List.getLast?_append, hc, Option.some_or]
    rintro heq
    obtain rfl := Option.some.inj heq
    exact (of_digit ((decimal_digits port).2.1 _ (List.mem_of_getLast? hc))).2.2.2.2.2.2 rfl

/-- The fields of a request. -/
def requestFields {ip : List UInt8} (hip : HostText ip) (port : ℕ) : List FieldText :=
  [hostField hip port, contentTypeField, acceptField]

/-- The first line of a request. -/
def requestLine (method : List UInt8) (params : Option (List (List UInt8 × List UInt8))) : List UInt8 :=
  ascii "GET " ++ requestTarget method params ++ ascii " HTTP/1.1"

theorem sendHttpRequest_eq {ip : List UInt8} (hip : HostText ip) (port : ℕ) (method : List UInt8)
    (params : Option (List (List UInt8 × List UInt8))) : sendHttpRequest ip port method params =
      headerText (requestLine method params :: (requestFields hip port).map FieldText.line) := by
  simp only [sendHttpRequest, headerText, requestLine, requestFields, List.map_cons, List.map_nil,
    List.flatMap_cons, List.flatMap_nil, FieldText.line, hostField, contentTypeField, acceptField,
    List.append_assoc, List.nil_append]
  rfl

/-- A request that is read as it was sent: the path and the parameters are text without spaces, and the path has
no question mark. -/
structure RequestOk (ip : List UInt8) (port : ℕ) (method : List UInt8)
    (params : Option (List (List UInt8 × List UInt8))) : Prop where
  host : HostText ip
  method_ne : method ≠ []
  query : 63 ∉ method
  parts : ∀ part ∈ requestParts method params, ∀ b ∈ part, IsText b ∧ b ≠ 32
  length_lt : (sendHttpRequest ip port method params).length < 2 ^ 31

section

variable {ip method : List UInt8} {port : ℕ} {params : Option (List (List UInt8 × List UInt8))}

/-- The path and the parameters are text without spaces. -/
theorem RequestOk.target (h : RequestOk ip port method params) :
    ∀ b ∈ requestTarget method params, IsText b ∧ b ≠ 32 := by
  intro b hb
  cases params with
  | none => exact h.parts method List.mem_cons_self b hb
  | some params =>
    simp only [requestTarget, List.mem_append, List.mem_flatMap] at hb
    rcases hb with (hb | hb) | ⟨param, hparam, ((hb | hb) | hb) | hb⟩
    · exact h.parts method List.mem_cons_self b hb
    · exact forall_mem_of_all (p := fun b => IsText b ∧ b ≠ 32) (by decide) b hb
    · exact h.parts param.1 (.tail _ (List.mem_flatMap.2 ⟨param, hparam, by simp⟩)) b hb
    · exact forall_mem_of_all (p := fun b => IsText b ∧ b ≠ 32) (by decide) b hb
    · exact h.parts param.2 (.tail _ (List.mem_flatMap.2 ⟨param, hparam, by simp⟩)) b hb
    · exact forall_mem_of_all (p := fun b => IsText b ∧ b ≠ 32) (by decide) b hb

/-- The path ends at the question mark. -/
theorem takeWhile_requestTarget (hquery : 63 ∉ method) :
    (requestTarget method params).takeWhile (· ≠ 63) = method := by
  have hall : ∀ b ∈ method, decide (b ≠ 63) = true := by
    intro b hb
    refine decide_eq_true ?_
    rintro rfl
    exact hquery hb
  cases params with
  | none =>
    rw [requestTarget, List.takeWhile_eq_self_iff]
    exact hall
  | some params =>
    have htext : requestTarget method (some params) = method ++ 63 ::
        (params.flatMap fun (key, value) => key ++ ascii "=" ++ value ++ ascii "&") := by
      simp only [requestTarget, List.append_assoc]
      rfl
    rw [htext, List.takeWhile_append_of_pos hall, List.takeWhile_cons_of_neg (by decide), List.append_nil]

/-- **The line of a request is read as it was written.** -/
theorem RequestOk.parseRequestLine (h : RequestOk ip port method params) :
    parseRequestLine (headerText (requestLine method params :: (requestFields h.host port).map FieldText.line)) =
      some (ascii "GET", method,
        (headerText ((requestFields h.host port).map FieldText.line)).dropWhile (isDelim crlf)) := by
  have htarget : ∀ b ∈ requestTarget method params, (!isDelim [32] b) = true := by
    intro b hb
    obtain ⟨htext, hspace⟩ := h.target b hb
    simp [isDelim, (ne_of_isText htext).2.2, hspace]
  have hne : requestTarget method params ≠ [] := by
    cases params with
    | none => exact h.method_ne
    | some params => simp [requestTarget, ascii]
  obtain ⟨b, rest, hcons⟩ := List.exists_cons_of_ne_nil hne
  have hfirst : isDelim [32] b = false := by
    simpa using htarget b (by simp [hcons])
  generalize hfields : headerText ((requestFields h.host port).map FieldText.line) = fields
  have hheader : headerText (requestLine method params :: (requestFields h.host port).map FieldText.line) =
      ascii "GET" ++ (32 :: (requestTarget method params ++ (32 :: (ascii "HTTP/1.1" ++ (13 :: 10 :: fields))))) := by
    simp only [headerText_cons, hfields, requestLine, List.append_assoc]
    rfl
  have hget : ∀ b ∈ ascii "GET", (!isDelim [32] b) = true := forall_mem_of_all (by decide)
  have hproto : ∀ b ∈ ascii "HTTP/1.1", (!isDelim crlf b) = true := forall_mem_of_all (by decide)
  have hone : mgSkip [32] (headerText (requestLine method params ::
      (requestFields h.host port).map FieldText.line)) = (ascii "GET",
        requestTarget method params ++ (32 :: (ascii "HTTP/1.1" ++ (13 :: 10 :: fields)))) := by
    rw [hheader, mgSkip, List.takeWhile_append_of_pos hget, List.dropWhile_append_of_pos hget,
      List.takeWhile_cons_of_neg (by decide), List.dropWhile_cons_of_neg (by decide),
      List.dropWhile_cons_of_pos (by decide), List.append_nil, hcons, List.cons_append,
      List.dropWhile_cons_of_neg (by simp [hfirst])]
  have htwo : mgSkip [32] (requestTarget method params ++ (32 :: (ascii "HTTP/1.1" ++ (13 :: 10 :: fields)))) =
      (requestTarget method params, ascii "HTTP/1.1" ++ (13 :: 10 :: fields)) := by
    have hH : ascii "HTTP/1.1" = 72 :: ascii "TTP/1.1" := rfl
    rw [mgSkip, List.takeWhile_append_of_pos htarget, List.dropWhile_append_of_pos htarget,
      List.takeWhile_cons_of_neg (by decide), List.dropWhile_cons_of_neg (by decide),
      List.dropWhile_cons_of_pos (by decide), List.append_nil, hH, List.cons_append,
      List.dropWhile_cons_of_neg (by decide)]
  have hthree : (mgSkip crlf (ascii "HTTP/1.1" ++ (13 :: 10 :: fields))).2 = fields.dropWhile (isDelim crlf) := by
    rw [mgSkip]
    simp only
    rw [List.dropWhile_append_of_pos hproto, List.dropWhile_cons_of_neg (by decide),
      List.dropWhile_cons_of_pos (by decide), List.dropWhile_cons_of_pos (by decide)]
  have hlen : (headerText (requestLine method params :: (requestFields h.host port).map FieldText.line)).length =
      3 + 1 + (requestTarget method params).length + 1 + (ascii "HTTP/1.1" ++ (13 :: 10 :: fields)).length := by
    rw [hheader]
    simp only [List.length_append, List.length_cons]
    have hascii : (ascii "GET").length = 3 := rfl
    omega
  have hpos := List.length_pos_iff.2 hne
  simp only [MmoServer.parseRequestLine, hone, htwo, hthree, takeWhile_requestTarget h.query, hlen]
  rw [if_neg]
  simp only [List.length_append, List.length_cons]
  omega

/-- The fields of a request say nothing of a body. -/
theorem ofFields_request (hip : HostText ip) (port : ℕ) (method : List UInt8) :
    HttpMessage.ofFields (ascii "GET") method 0 (readFields [] (requestFields hip port)) =
      ⟨ascii "GET", method, 0, none, none⟩ := by
  have hlength : mgGetHttpHeader (readFields [] (requestFields hip port)) contentLengthText = none := rfl
  have hcoding : mgGetHttpHeader (readFields [] (requestFields hip port)) transferEncodingText = none := rfl
  rw [HttpMessage.ofFields, hlength, hcoding, Option.map_none, Option.map_none]

/-- **A request is a well-formed message.** -/
def RequestOk.text (h : RequestOk ip port method params) : HttpText true where
  header := headerText (requestLine method params :: (requestFields h.host port).map FieldText.line)
  message := ⟨ascii "GET", method, 0, none, none⟩
  body := []
  parsed := by
    have htext : requestLine method params ≠ [] ∧ ∀ b ∈ requestLine method params, IsText b := by
      refine ⟨by simp [requestLine, ascii], fun b hb => ?_⟩
      simp only [requestLine, List.mem_append] at hb
      rcases hb with (hb | hb) | hb
      · exact forall_mem_of_all (by decide) b hb
      · exact (h.target b hb).1
      · exact forall_mem_of_all (by decide) b hb
    have hlt := h.length_lt
    rw [sendHttpRequest_eq h.host] at hlt
    rw [mgParseHttp_of_requestLine htext (b := 71) rfl (by decide) hlt h.parseRequestLine,
      parseFields_behind_first (by simp [requestFields]), ofFields_request]
  header_ne := List.length_pos_iff.1 (headerText_pos _ (requestFields h.host port))
  isChunked := rfl
  length_eq := rfl

end

/-- A request: the address and the port, the path, and the parameters. -/
structure HttpRequest where
  ip : List UInt8
  port : ℕ
  method : List UInt8
  params : Option (List (List UInt8 × List UInt8))

/-- Its bytes. -/
def HttpRequest.bytes (r : HttpRequest) : List UInt8 := sendHttpRequest r.ip r.port r.method r.params

/-- Its packet: the path alone decides. -/
def HttpRequest.packet (r : HttpRequest) : ParsedHttp :=
  ⟨if sameText r.method loginText then .miHttpRequestLogin else .miHttpRequestBad, 0, []⟩

end MmoServer
