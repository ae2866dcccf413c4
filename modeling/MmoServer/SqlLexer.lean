/-
**How MySQL reads the text of a statement.**

A lexer splits a text into words, strings and symbols; what it does is given by laws for words, separators and
string literals.  Inside of a string literal two quotes in a row are one, and a backslash stands with the character
behind it for a single character, except before the two wildcards, where both are kept.

Characters are bytes here, as they are in latin1, and in UTF-8 for all that concerns quotes and backslashes.

Main definitions:

* `Sql.Token`, `Sql.Literal` — the tokens, and what is written between the quotes of a string;
* `Sql.Lexer` — a lexer, with its laws;
* `Sql.Lexer.Reads` — a text that is read as some tokens, whatever is behind it;
* `Sql.Plain` — the texts that a string contains as they are;
* `Sql.Scanner`, `Sql.scanner` — a lexer that reads character by character, and obeys the laws.

Main results:

* `Sql.plain_iff` — what plain texts are;
* `Sql.literal_self_iff` — **a plain text is written as it is**, and no other one is written with as many characters;
* `Sql.Lexer.eq_of_strings` — **a string whose text is as long as all strings together** is the only one.
-/

import Mathlib.Algebra.BigOperators.Group.List.Basic
import Mathlib.Algebra.Order.Ring.Nat

set_option relaxedAutoImplicit false
set_option autoImplicit false

namespace Sql

/-! ### Tokens -/

/-- The single quote. -/
def quote : UInt8 := 39

/-- The backquote, around a name. -/
def backquote : UInt8 := 96

/-- The backslash. -/
def backslash : UInt8 := 92

/-- A character that keeps a backslash in front of it: a percent sign or an underscore. -/
def Wildcard (c : UInt8) : Prop := c = 37 ∨ c = 95

instance (c : UInt8) : Decidable (Wildcard c) := inferInstanceAs (Decidable (c = 37 ∨ c = 95))

/-- What a character stands for behind a backslash. -/
def escaped (c : UInt8) : List UInt8 :=
  if Wildcard c then [backslash, c]
  else if c = 48 then [0]
  else if c = 98 then [8]
  else if c = 110 then [10]
  else if c = 114 then [13]
  else if c = 116 then [9]
  else if c = 90 then [26]
  else [c]

/-- A token.  A name in backquotes is a word. -/
inductive Token
  | word (text : List UInt8)
  | string (value : List UInt8)
  | symbol (c : UInt8)
  deriving DecidableEq

/-- What is read for a token at least: a string and its end. -/
def Token.weight : Token → ℕ
  | .string value => value.length + 1
  | .word _ | .symbol _ => 0

/-- What was read at least for tokens. -/
def weight (tokens : List Token) : ℕ := (tokens.map Token.weight).sum

theorem weight_append (a b : List Token) : weight (a ++ b) = weight a + weight b := by
  rw [weight, List.map_append, List.sum_append]
  rfl

theorem weight_strings (values : List (List UInt8)) :
    weight (values.map Token.string) = values.flatten.length + values.length := by
  induction values with
  | nil => rfl
  | cons value values ih =>
    have hcons : weight ((value :: values).map Token.string) =
        value.length + 1 + weight (values.map Token.string) := rfl
    rw [hcons, ih, List.flatten_cons, List.length_append, List.length_cons]
    omega

/-! ### String literals -/

/-- **What is written between two quotes**, and the string that it denotes. -/
inductive Literal : List UInt8 → List UInt8 → Prop
  | nil : Literal [] []
  | char {c : UInt8} {body value : List UInt8} (hquote : c ≠ quote) (hbackslash : c ≠ backslash)
      (rest : Literal body value) : Literal (c :: body) (c :: value)
  | quotes {body value : List UInt8} (rest : Literal body value) : Literal (quote :: quote :: body) (quote :: value)
  | escape (c : UInt8) {body value : List UInt8} (rest : Literal body value) :
      Literal (backslash :: c :: body) (escaped c ++ value)

theorem escaped_of_wildcard {c : UInt8} (h : Wildcard c) : escaped c = [backslash, c] := if_pos h

theorem length_escaped {c : UInt8} (h : ¬ Wildcard c) : (escaped c).length = 1 := by
  unfold escaped
  rw [if_neg h]
  split_ifs <;> rfl

theorem length_escaped_le (c : UInt8) : (escaped c).length ≤ 2 := by
  by_cases h : Wildcard c
  · rw [escaped_of_wildcard h]
    rfl
  · rw [length_escaped h]
    decide

/-- A string is no longer than what is written for it. -/
theorem Literal.length_le {body value : List UInt8} (h : Literal body value) : value.length ≤ body.length := by
  induction h with
  | nil => exact Nat.le_refl _
  | char _ _ _ ih => exact Nat.succ_le_succ ih
  | quotes _ ih => exact Nat.le_succ_of_le (Nat.succ_le_succ ih)
  | escape c _ ih =>
    have hle := length_escaped_le c
    simp only [List.length_append, List.length_cons]
    omega

/-! ### Plain texts -/

/-- A text that a string contains as it is: there are no quotes, and each backslash is in front of a
wildcard. -/
def Plain : List UInt8 → Prop
  | [] => True
  | [c] => c ≠ quote ∧ c ≠ backslash
  | c :: d :: rest =>
    if c = backslash then Wildcard d ∧ Plain rest else c ≠ quote ∧ Plain (d :: rest)

theorem Wildcard.ne_backslash {c : UInt8} (h : Wildcard c) : c ≠ backslash := by
  rintro rfl
  exact absurd h (by decide)

theorem Wildcard.ne_quote {c : UInt8} (h : Wildcard c) : c ≠ quote := by
  rintro rfl
  exact absurd h (by decide)

/-- **What plain texts are.** -/
theorem plain_iff (text : List UInt8) :
    Plain text ↔ quote ∉ text ∧
      ∀ before after, text = before ++ backslash :: after → ∃ c ∈ after.head?, Wildcard c := by
  induction text using Plain.induct with
  | case1 => simp [Plain]
  | case2 c =>
    rw [Plain]
    constructor
    · rintro ⟨hquote, hbackslash⟩
      refine ⟨fun hmem => hquote (List.mem_singleton.1 hmem).symm, fun before after heq => ?_⟩
      have hmem : backslash ∈ [c] := by
        rw [heq]
        exact List.mem_append_right _ (List.mem_cons_self ..)
      exact absurd (List.mem_singleton.1 hmem).symm hbackslash
    · rintro ⟨hquote, hbackslash⟩
      refine ⟨fun heq => hquote (List.mem_singleton.2 heq.symm), fun heq => ?_⟩
      obtain ⟨d, hd, -⟩ := hbackslash [] [] (by rw [heq]; rfl)
      cases hd
  | case3 d rest ih =>
    rw [Plain, if_pos rfl, ih]
    constructor
    · rintro ⟨hd, hquote, hrest⟩
      refine ⟨?_, fun before after heq => ?_⟩
      · intro hmem
        rcases List.mem_cons.1 hmem with h | h
        · exact absurd h (by decide)
        · exact (List.mem_cons.1 h).elim (fun h => hd.ne_quote h.symm) hquote
      · match before, heq with
        | [], heq =>
          obtain rfl := (List.cons.inj heq).2
          exact ⟨d, rfl, hd⟩
        | [b], heq => exact absurd (List.cons.inj (List.cons.inj heq).2).1 hd.ne_backslash
        | _ :: _ :: before, heq => exact hrest before after (List.cons.inj (List.cons.inj heq).2).2
    · rintro ⟨hquote, hall⟩
      obtain ⟨e, he, hwild⟩ := hall [] (d :: rest) rfl
      obtain rfl : d = e := Option.some.inj he
      refine ⟨hwild, fun hmem => hquote ?_, fun before after heq => ?_⟩
      · exact List.mem_cons_of_mem _ (List.mem_cons_of_mem _ hmem)
      · exact hall (backslash :: d :: before) after (by rw [heq]; rfl)
  | case4 c d rest hc ih =>
    rw [Plain, if_neg hc, ih]
    constructor
    · rintro ⟨hne, hquote, hrest⟩
      refine ⟨fun hmem => (List.mem_cons.1 hmem).elim (fun h => hne h.symm) hquote, fun before after heq => ?_⟩
      cases before with
      | nil => exact absurd (List.cons.inj heq).1 hc
      | cons b before => exact hrest before after (List.cons.inj heq).2
    · rintro ⟨hquote, hall⟩
      refine ⟨fun heq => hquote (List.mem_cons.2 (Or.inl heq.symm)), ?_, fun before after heq => ?_⟩
      · exact fun hmem => hquote (List.mem_cons_of_mem _ hmem)
      · exact hall (c :: before) after (by rw [heq]; rfl)

/-- **A plain text is written as it is**; and so is every string that is as long as what is written for it. -/
theorem literal_self_iff (text : List UInt8) :
    Plain text ↔ ∃ value, Literal text value ∧ value.length = text.length := by
  constructor
  · intro h
    suffices hself : Literal text text from ⟨text, hself, rfl⟩
    induction text using Plain.induct with
    | case1 => exact .nil
    | case2 c => exact .char h.1 h.2 .nil
    | case3 d rest ih =>
      rw [Plain, if_pos rfl] at h
      have hescape := Literal.escape d (ih h.2)
      rw [escaped_of_wildcard h.1] at hescape
      exact hescape
    | case4 c d rest hc ih =>
      rw [Plain, if_neg hc] at h
      exact .char h.1 hc (ih h.2)
  · rintro ⟨value, hliteral, hlength⟩
    induction hliteral with
    | nil => trivial
    | @char c body value hquote hbackslash rest ih =>
      have hbody := ih (Nat.succ.inj hlength)
      cases body with
      | nil => exact ⟨hquote, hbackslash⟩
      | cons d body =>
        rw [Plain, if_neg hbackslash]
        exact ⟨hquote, hbody⟩
    | quotes rest ih =>
      -- two quotes in a row are one
      have hle := rest.length_le
      simp only [List.length_cons] at hlength
      omega
    | @escape c body value rest ih =>
      have hle := rest.length_le
      simp only [List.length_append, List.length_cons] at hlength
      rw [Plain, if_pos rfl]
      by_cases hc : Wildcard c
      · rw [escaped_of_wildcard hc, List.length_cons, List.length_singleton] at hlength
        exact ⟨hc, ih (by omega)⟩
      · -- the two characters are read as one
        rw [length_escaped hc] at hlength
        omega

/-- A plain text denotes itself. -/
theorem Literal.eq_of_length {body value : List UInt8} (h : Literal body value) (hlength : value.length = body.length) :
    value = body := by
  induction h with
  | nil => rfl
  | char _ _ _ ih => rw [ih (Nat.succ.inj hlength)]
  | quotes rest ih =>
    have hle := rest.length_le
    simp only [List.length_cons] at hlength
    omega
  | escape c rest ih =>
    have hle := rest.length_le
    simp only [List.length_append, List.length_cons] at hlength
    by_cases hc : Wildcard c
    · rw [escaped_of_wildcard hc] at hlength ⊢
      simp only [List.length_cons, List.length_nil] at hlength
      rw [ih (by omega)]
      rfl
    · rw [length_escaped hc] at hlength
      omega

/-! ### Lexers -/

/-- A word of small letters. -/
def IsName (word : List UInt8) : Prop := word ≠ [] ∧ ∀ c ∈ word, 97 ≤ c ∧ c ≤ 122

instance (word : List UInt8) : Decidable (IsName word) :=
  decidable_of_iff (word ≠ [] ∧ word.all (fun c => 97 ≤ c && c ≤ 122) = true) (by simp [IsName])

/-- **A lexer**: the tokens of a text, if it has no error.  The laws are those of words in front of a space or a
comma, of a comma, and of an equals sign in front of a space, and those of string literals: a literal ends with the
first quote that is not written twice, it has an end, and the strings of a text are no longer than what is written
for them. -/
structure Lexer where
  tokens : List UInt8 → Option (List Token)
  tokens_nil : tokens [] = some []
  tokens_space : ∀ rest, tokens (32 :: rest) = tokens rest
  tokens_word : ∀ (word : List UInt8) (c : UInt8) (rest : List UInt8), IsName word → c = 32 ∨ c = 44 →
    tokens (word ++ c :: rest) = (tokens (c :: rest)).map (.word word :: ·)
  tokens_comma : ∀ rest, tokens (44 :: rest) = (tokens rest).map (.symbol 44 :: ·)
  tokens_equals : ∀ rest, tokens (61 :: 32 :: rest) = (tokens rest).map (.symbol 61 :: ·)
  tokens_literal : ∀ body value after, Literal body value → after.head? ≠ some quote →
    tokens (quote :: body ++ quote :: after) = (tokens after).map (.string value :: ·)
  closed : ∀ text, tokens (quote :: text) ≠ none →
    ∃ body value after, text = body ++ quote :: after ∧ Literal body value ∧ after.head? ≠ some quote
  weight_le : ∀ text, ∀ out ∈ tokens text, weight out ≤ text.length

namespace Lexer

variable (lexer : Lexer)

/-- A text is read as some tokens, whatever is behind it. -/
def Reads (text : List UInt8) (out : List Token) : Prop :=
  ∀ rest, lexer.tokens (text ++ rest) = (lexer.tokens rest).map (out ++ ·)

variable {lexer}

theorem Reads.append {a b : List UInt8} {out out' : List Token} (ha : lexer.Reads a out) (hb : lexer.Reads b out') :
    lexer.Reads (a ++ b) (out ++ out') := by
  intro rest
  rw [List.append_assoc, ha, hb, Option.map_map]
  exact congrArg (fun f => Option.map f _) (funext fun ts => (List.append_assoc out out' ts).symm)

/-- A word and a space. -/
theorem reads_word (lexer : Lexer) {word : List UInt8} (h : IsName word) : lexer.Reads (word ++ [32]) [.word word] := by
  intro rest
  rw [List.append_assoc, List.singleton_append, lexer.tokens_word word 32 rest h (.inl rfl), lexer.tokens_space]
  rfl

/-- A word, a comma and a space. -/
theorem reads_item (lexer : Lexer) {word : List UInt8} (h : IsName word) :
    lexer.Reads (word ++ [44, 32]) [.word word, .symbol 44] := by
  intro rest
  rw [List.append_assoc, List.cons_append, List.singleton_append,
    lexer.tokens_word word 44 (32 :: rest) h (.inr rfl), lexer.tokens_comma, lexer.tokens_space, Option.map_map]
  rfl

/-- An equals sign and a space. -/
theorem reads_equals (lexer : Lexer) : lexer.Reads [61, 32] [.symbol 61] := lexer.tokens_equals

/-- **A string whose text is as long as all strings together** is the only one: a text that ends with a quote, and is
read as strings that are as long as what is in front of that quote. -/
theorem eq_of_strings {text : List UInt8} {literals : List (List UInt8)} {tail : List Token}
    (h : lexer.tokens (quote :: text ++ [quote]) = some (literals.map Token.string ++ tail))
    (hne : literals ≠ []) (hlength : text.length ≤ literals.flatten.length) :
    literals = [text] ∧ Plain text := by
  obtain ⟨body, value, after, htext, hliteral, hafter⟩ := lexer.closed (text ++ [quote]) (by
    rw [← List.cons_append, h]
    exact Option.some_ne_none _)
  rw [List.cons_append, htext, ← List.cons_append, lexer.tokens_literal body value after hliteral hafter] at h
  obtain ⟨out, hout, heq⟩ := Option.map_eq_some_iff.1 h
  obtain ⟨first, others, rfl⟩ := List.exists_cons_of_ne_nil hne
  rw [List.map_cons, List.cons_append, List.cons.injEq, Token.string.injEq] at heq
  obtain ⟨rfl, rfl⟩ := heq
  have hweight := lexer.weight_le after _ hout
  have hbody := hliteral.length_le
  have hsum := congrArg List.length htext
  rw [weight_append, weight_strings] at hweight
  simp only [List.length_append, List.length_cons, List.length_nil, List.flatten_cons] at hsum hlength
  -- each string behind the first one would need a character more
  obtain rfl : others = [] := List.length_eq_zero_iff.1 (by omega)
  rw [List.flatten_nil, List.length_nil] at hlength
  obtain rfl : after = [] := List.length_eq_zero_iff.1 (by omega)
  obtain rfl : text = body := List.append_cancel_right htext
  have hsame : value.length = text.length := by omega
  exact ⟨by rw [hliteral.eq_of_length hsame], (literal_self_iff text).2 ⟨value, hliteral, hsame⟩⟩

/-- A plain text between quotes, at the end of a text. -/
theorem tokens_of_plain {text : List UInt8} (h : Plain text) :
    lexer.tokens (quote :: text ++ [quote]) = some [.string text] := by
  obtain ⟨value, hliteral, hlength⟩ := (literal_self_iff text).1 h
  rw [lexer.tokens_literal text value [] hliteral (by decide), lexer.tokens_nil,
    hliteral.eq_of_length hlength]
  rfl

end Lexer

/-! ### Reading character by character -/

/-- What is being read. -/
inductive LexMode
  | between
  | word (text : List UInt8)
  /-- Inside of quotes. -/
  | quoted (sep : UInt8) (value : List UInt8)
  /-- Behind a backslash. -/
  | escape (sep : UInt8) (value : List UInt8)
  /-- Behind a quote: the end, or the first of two. -/
  | closing (sep : UInt8) (value : List UInt8)
  | dash | dashes | lineComment
  | slash | commentStart | comment | commentStar
  /-- A version comment. -/
  | unread
  deriving DecidableEq

/-- The reader: the tokens that are complete, and what is being read. -/
structure Scanner where
  tokens : List Token
  mode : LexMode
  deriving DecidableEq

/-- Letters, digits, `_`, `$`, and all that is not ASCII. -/
def isWord (c : UInt8) : Bool :=
  (97 ≤ c && c ≤ 122) || (65 ≤ c && c ≤ 90) || (48 ≤ c && c ≤ 57) || c = 95 || c = 36 || 128 ≤ c

/-- White space. -/
def isSpace (c : UInt8) : Bool := c = 32 || (9 ≤ c && c ≤ 13)

/-- The token between two quotes. -/
def quotedToken (sep : UInt8) (value : List UInt8) : Token :=
  if sep = backquote then .word value else .string value

namespace Scanner

/-- A character behind a token. -/
def start (tokens : List Token) (c : UInt8) : Scanner :=
  if c = quote ∨ c = 34 ∨ c = backquote then ⟨tokens, .quoted c []⟩
  else if isWord c then ⟨tokens, .word [c]⟩
  else if isSpace c then ⟨tokens, .between⟩
  else if c = 35 then ⟨tokens, .lineComment⟩
  else if c = 45 then ⟨tokens, .dash⟩
  else if c = 47 then ⟨tokens, .slash⟩
  else ⟨tokens ++ [.symbol c], .between⟩

/-- One character. -/
def step (s : Scanner) (c : UInt8) : Scanner :=
  match s.mode with
  | .between => start s.tokens c
  | .word text => if isWord c then ⟨s.tokens, .word (text ++ [c])⟩ else start (s.tokens ++ [.word text]) c
  | .quoted sep value =>
    if c = sep then ⟨s.tokens, .closing sep value⟩
    else if c = backslash ∧ sep ≠ backquote then ⟨s.tokens, .escape sep value⟩
    else ⟨s.tokens, .quoted sep (value ++ [c])⟩
  | .escape sep value => ⟨s.tokens, .quoted sep (value ++ escaped c)⟩
  | .closing sep value =>
    if c = sep then ⟨s.tokens, .quoted sep (value ++ [c])⟩
    else start (s.tokens ++ [quotedToken sep value]) c
  | .dash => if c = 45 then ⟨s.tokens, .dashes⟩ else start (s.tokens ++ [.symbol 45]) c
  | .dashes =>
    -- two dashes begin a comment if a space or a control character follows
    if c = 10 then ⟨s.tokens, .between⟩
    else if c ≤ 32 ∨ c = 127 then ⟨s.tokens, .lineComment⟩
    else start (s.tokens ++ [.symbol 45, .symbol 45]) c
  | .lineComment => if c = 10 then ⟨s.tokens, .between⟩ else s
  | .slash => if c = 42 then ⟨s.tokens, .commentStart⟩ else start (s.tokens ++ [.symbol 47]) c
  | .commentStart =>
    if c = 33 then ⟨s.tokens, .unread⟩
    else if c = 42 then ⟨s.tokens, .commentStar⟩
    else ⟨s.tokens, .comment⟩
  | .comment => if c = 42 then ⟨s.tokens, .commentStar⟩ else s
  | .commentStar =>
    if c = 47 then ⟨s.tokens, .between⟩
    else if c = 42 then s
    else ⟨s.tokens, .comment⟩
  | .unread => s

/-- Many characters. -/
def run (s : Scanner) (text : List UInt8) : Scanner := text.foldl step s

/-- The end of the text; a string or a comment that is not closed is an error. -/
def finish (s : Scanner) : Option (List Token) :=
  match s.mode with
  | .between | .dashes | .lineComment => some s.tokens
  | .word text => some (s.tokens ++ [.word text])
  | .closing sep value => some (s.tokens ++ [quotedToken sep value])
  | .dash => some (s.tokens ++ [.symbol 45])
  | .slash => some (s.tokens ++ [.symbol 47])
  | .quoted _ _ | .escape _ _ | .commentStart | .comment | .commentStar | .unread => none

/-- The tokens that the scanner finds behind some. -/
def read (s : Scanner) (text : List UInt8) : Option (List Token) := (s.run text).finish

end Scanner

/-! ### How much is read for a string -/

theorem weight_quotedToken (sep : UInt8) (value : List UInt8) :
    weight [quotedToken sep value] ≤ value.length + 1 := by
  unfold quotedToken
  split
  · exact Nat.zero_le _
  · exact Nat.le_refl _

/-- What was read at least for a string that is not complete. -/
def LexMode.weight : LexMode → ℕ
  | .quoted _ value => value.length
  | .escape _ value | .closing _ value => value.length + 1
  | _ => 0

namespace Scanner

/-- What was read at least for the strings. -/
def weight (s : Scanner) : ℕ := Sql.weight s.tokens + s.mode.weight

theorem weight_start (tokens : List Token) (c : UInt8) : (start tokens c).weight = Sql.weight tokens := by
  unfold start
  split_ifs
  all_goals first | rfl | exact weight_append _ _

/-- A character behind a quote is not read for the string. -/
theorem weight_closing (tokens : List Token) (sep : UInt8) (value : List UInt8) (c : UInt8) :
    (step ⟨tokens, .closing sep value⟩ c).weight ≤ Sql.weight tokens + (value.length + 1) := by
  simp only [step]
  split
  · simp only [weight, LexMode.weight, List.length_append, List.length_singleton]
    exact Nat.le_refl _
  · rw [weight_start, weight_append]
    exact Nat.add_le_add_left (weight_quotedToken sep value) _

theorem weight_escape (tokens : List Token) (sep : UInt8) (value : List UInt8) (c : UInt8) :
    (step ⟨tokens, .escape sep value⟩ c).weight =
      Sql.weight tokens + (value.length + (escaped c).length) := by
  simp only [step, weight, LexMode.weight, List.length_append]

/-- **One character** makes a string longer by one at most. -/
theorem weight_step_le (s : Scanner) (c : UInt8) : (s.step c).weight ≤ s.weight + 1 := by
  obtain ⟨tokens, mode⟩ := s
  cases mode with
  | quoted sep value =>
    simp only [step]
    split_ifs
    · exact Nat.le_refl _
    · exact Nat.le_refl _
    · simp only [weight, LexMode.weight, List.length_append, List.length_singleton]
      exact Nat.le_refl _
  | escape sep value =>
    have hle := length_escaped_le c
    rw [weight_escape]
    simp only [weight, LexMode.weight]
    omega
  | closing sep value => exact Nat.le_succ_of_le (weight_closing tokens sep value c)
  | word text =>
    simp only [step]
    split
    · exact Nat.le_succ _
    · rw [weight_start, weight_append]
      exact Nat.le_succ _
  | between =>
    simp only [step, weight_start]
    exact Nat.le_succ _
  | unread => exact Nat.le_succ _
  | _ =>
    simp only [step]
    split_ifs
    all_goals first
      | exact Nat.le_succ _
      | (rw [weight_start, weight_append]; exact Nat.le_succ _)

/-- **No string is longer than what is read for it.** -/
theorem weight_run_le (s : Scanner) (text : List UInt8) : (s.run text).weight ≤ s.weight + text.length := by
  induction text generalizing s with
  | nil => exact Nat.le_refl _
  | cons c text ih =>
    have hstep := s.weight_step_le c
    have hrest := ih (s.step c)
    rw [List.length_cons]
    exact hrest.trans (by omega)

theorem weight_finish {s : Scanner} {out : List Token} (h : s.finish = some out) : Sql.weight out ≤ s.weight := by
  obtain ⟨tokens, mode⟩ := s
  cases mode with
  | closing sep value =>
    obtain rfl := Option.some.inj h
    rw [weight_append]
    exact Nat.add_le_add_left (weight_quotedToken sep value) _
  | quoted sep value => cases h
  | escape sep value => cases h
  | word text =>
    obtain rfl := Option.some.inj h
    rw [weight_append]
    exact Nat.le_refl _
  | _ =>
    first
      | (obtain rfl := Option.some.inj h; exact Nat.le_refl _)
      | (obtain rfl := Option.some.inj h; rw [weight_append]; exact Nat.le_refl _)
      | cases h


/-! ### What is behind some tokens -/

/-- A scanner, with tokens in front of its own. -/
def behind (out : List Token) (s : Scanner) : Scanner := ⟨out ++ s.tokens, s.mode⟩

theorem start_behind (out tokens : List Token) (c : UInt8) :
    start (out ++ tokens) c = (start tokens c).behind out := by
  unfold start behind
  split_ifs
  all_goals first | rfl | rw [List.append_assoc]

theorem step_behind (out : List Token) (s : Scanner) (c : UInt8) : (s.behind out).step c = (s.step c).behind out := by
  obtain ⟨tokens, mode⟩ := s
  cases mode with
  | between => exact start_behind out tokens c
  | unread => rfl
  | escape sep value => rfl
  | _ =>
    simp only [step, behind]
    split_ifs
    all_goals first | rfl | (rw [List.append_assoc, start_behind]; rfl)

theorem run_behind (out : List Token) (s : Scanner) (text : List UInt8) :
    (s.behind out).run text = (s.run text).behind out := by
  induction text generalizing s with
  | nil => rfl
  | cons c text ih => exact (congrArg (fun s => run s text) (step_behind out s c)).trans (ih (s.step c))

theorem finish_behind (out : List Token) (s : Scanner) : (s.behind out).finish = s.finish.map (out ++ ·) := by
  obtain ⟨tokens, mode⟩ := s
  cases mode with
  | between => rfl
  | quoted sep value => rfl
  | escape sep value => rfl
  | dashes => rfl
  | lineComment => rfl
  | commentStart => rfl
  | comment => rfl
  | commentStar => rfl
  | unread => rfl
  | _ => exact congrArg some (List.append_assoc out tokens _)

/-- **The tokens behind some** are what is read from the start. -/
theorem read_behind (out : List Token) (s : Scanner) (text : List UInt8) :
    (s.behind out).read text = (s.read text).map (out ++ ·) := by
  rw [read, run_behind, finish_behind, read]

theorem read_cons (s : Scanner) (c : UInt8) (text : List UInt8) : s.read (c :: text) = (s.step c).read text := rfl

theorem read_append (s : Scanner) (a b : List UInt8) : s.read (a ++ b) = (s.run a).read b := by
  rw [read, run, List.foldl_append]
  rfl

/-! ### Words and literals -/

theorem isWord_of_letter {c : UInt8} (h : 97 ≤ c ∧ c ≤ 122) : isWord c = true := by
  simp [isWord, h.1, h.2]

/-- A letter begins a word. -/
theorem start_letter {c : UInt8} (h : 97 ≤ c ∧ c ≤ 122) (tokens : List Token) : start tokens c = ⟨tokens, .word [c]⟩ := by
  have hne : ∀ d : UInt8, d < 97 → c ≠ d := fun d hd heq => absurd (heq ▸ h.1) (UInt8.not_le.2 hd)
  rw [start, if_neg, if_pos (isWord_of_letter h)]
  rintro (heq | heq | heq)
  · exact hne quote (by decide) heq
  · exact hne 34 (by decide) heq
  · exact hne backquote (by decide) heq

/-- Letters continue a word. -/
theorem run_letters {word : List UInt8} (h : ∀ c ∈ word, 97 ≤ c ∧ c ≤ 122) (tokens : List Token) (text : List UInt8) :
    run ⟨tokens, .word text⟩ word = ⟨tokens, .word (text ++ word)⟩ := by
  induction word generalizing text with
  | nil => rw [List.append_nil]; rfl
  | cons c word ih =>
    have hstep : step ⟨tokens, .word text⟩ c = ⟨tokens, .word (text ++ [c])⟩ := by
      simp only [step, isWord_of_letter (h c List.mem_cons_self), if_true]
    have hrest := ih (fun d hd => h d (List.mem_cons_of_mem c hd)) (text ++ [c])
    rw [List.append_assoc, ← hstep] at hrest
    exact hrest

/-- **The scanner reads a literal.** -/
theorem run_literal {body value : List UInt8} (h : Literal body value) (tokens : List Token) (before : List UInt8) :
    run ⟨tokens, .quoted quote before⟩ body = ⟨tokens, .quoted quote (before ++ value)⟩ := by
  induction h generalizing before with
  | nil => rw [List.append_nil]; rfl
  | @char c body value hquote hbackslash rest ih =>
    have hstep : step ⟨tokens, .quoted quote before⟩ c = ⟨tokens, .quoted quote (before ++ [c])⟩ := by
      simp only [step]
      rw [if_neg hquote, if_neg fun h => hbackslash h.1]
    have hrest := ih (before ++ [c])
    rw [List.append_assoc, ← hstep] at hrest
    exact hrest
  | @quotes body value rest ih =>
    have hrest := ih (before ++ [quote])
    rw [List.append_assoc] at hrest
    exact hrest
  | @escape c body value rest ih =>
    have hrest := ih (before ++ escaped c)
    rw [List.append_assoc] at hrest
    exact hrest

/-- The end of a literal. -/
theorem read_closing {after : List UInt8} (h : after.head? ≠ some quote) (value : List UInt8) :
    (⟨[], .closing quote value⟩ : Scanner).read after =
      ((⟨[], .between⟩ : Scanner).read after).map (.string value :: ·) := by
  cases after with
  | nil => rfl
  | cons c after =>
    have hc : c ≠ quote := fun heq => h (congrArg some heq)
    have hstep : step ⟨[], .closing quote value⟩ c = (start [] c).behind [.string value] := by
      simp only [step]
      rw [if_neg hc]
      exact start_behind [.string value] [] c
    rw [read_cons, hstep, read_behind]
    rfl

/-- **A literal has an end.** -/
theorem closed_of_read (tokens : List Token) (before text : List UInt8)
    (h : (⟨tokens, .quoted quote before⟩ : Scanner).read text ≠ none) :
    ∃ body value after, text = body ++ quote :: after ∧ Literal body value ∧ after.head? ≠ some quote := by
  match text with
  | [] => exact absurd rfl h
  | [c] =>
    by_cases hquote : c = quote
    · exact ⟨[], [], [], by rw [hquote]; rfl, .nil, by decide⟩
    · refine absurd ?_ h
      simp only [read, run, List.foldl_cons, List.foldl_nil, step]
      rw [if_neg hquote]
      split <;> rfl
  | c :: d :: rest =>
    by_cases hquote : c = quote
    · subst hquote
      by_cases hd : d = quote
      · subst hd
        obtain ⟨body, value, after, rfl, hliteral, hafter⟩ := closed_of_read tokens (before ++ [quote]) rest h
        exact ⟨quote :: quote :: body, _, after, rfl, .quotes hliteral, hafter⟩
      · exact ⟨[], [], d :: rest, rfl, .nil, fun heq => hd (Option.some.inj heq)⟩
    · by_cases hbackslash : c = backslash
      · subst hbackslash
        obtain ⟨body, value, after, rfl, hliteral, hafter⟩ := closed_of_read tokens (before ++ escaped d) rest h
        exact ⟨backslash :: d :: body, _, after, rfl, .escape d hliteral, hafter⟩
      · have hstep : step ⟨tokens, .quoted quote before⟩ c = ⟨tokens, .quoted quote (before ++ [c])⟩ := by
          simp only [step]
          rw [if_neg hquote, if_neg fun h => hbackslash h.1]
        rw [read_cons, hstep] at h
        obtain ⟨body, value, after, htext, hliteral, hafter⟩ := closed_of_read tokens (before ++ [c]) (d :: rest) h
        exact ⟨c :: body, _, after, by rw [htext]; rfl, .char hquote hbackslash hliteral, hafter⟩
termination_by text.length

end Scanner

/-- **The scanner is a lexer.** -/
def scanner : Lexer where
  tokens := Scanner.read ⟨[], .between⟩
  tokens_nil := rfl
  tokens_space rest := rfl
  tokens_word word c rest hword hc := by
    obtain ⟨hne, hletters⟩ := hword
    obtain ⟨first, others, rfl⟩ := List.exists_cons_of_ne_nil hne
    have hrun : Scanner.run ⟨[], .between⟩ (first :: others) = ⟨[], .word (first :: others)⟩ := by
      have hstart : Scanner.step ⟨[], .between⟩ first = ⟨[], .word [first]⟩ :=
        Scanner.start_letter (hletters first List.mem_cons_self) []
      have hothers := Scanner.run_letters (fun d hd => hletters d (List.mem_cons_of_mem first hd)) [] [first]
      rw [← hstart] at hothers
      exact hothers
    have hstep : Scanner.step ⟨[], .word (first :: others)⟩ c =
        (Scanner.start [] c).behind [.word (first :: others)] := by
      rcases hc with rfl | rfl
      · exact Scanner.start_behind [.word (first :: others)] [] 32
      · exact Scanner.start_behind [.word (first :: others)] [] 44
    rw [Scanner.read_append, hrun, Scanner.read_cons, hstep, Scanner.read_behind]
    rfl
  tokens_comma rest := Scanner.read_behind [.symbol 44] ⟨[], .between⟩ rest
  tokens_equals rest := Scanner.read_behind [.symbol 61] ⟨[], .between⟩ rest
  tokens_literal body value after hliteral hafter := by
    have hrun : Scanner.run ⟨[], .between⟩ (quote :: body) = ⟨[], .quoted quote value⟩ :=
      Scanner.run_literal hliteral [] []
    rw [Scanner.read_append, hrun, Scanner.read_cons]
    exact Scanner.read_closing hafter value
  closed text h := Scanner.closed_of_read [] [] text h
  weight_le text out hout := by
    have hfinish := Scanner.weight_finish (Option.mem_def.1 hout)
    have hrun := Scanner.weight_run_le ⟨[], .between⟩ text
    exact hfinish.trans (hrun.trans (Nat.le_of_eq (Nat.zero_add _)))

end Sql
