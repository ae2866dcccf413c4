/-
**The query for the players of an account.**

`QueryPlayerList` formats the account between the quotes of a statement, as it is, and gives the text to MySQL.
The account comes from a query for the list of its players, or from a request to create one, which is not
checked.

Main definitions:

* `MmoServer.queryPlayerList` — the text of the statement;
* `MmoServer.SelectsAccount` — a statement that selects the players of an account, and nothing else.

Main results:

* `MmoServer.reads_selectText` — how MySQL begins to read it;
* `MmoServer.selectsAccount_iff` — **when the statement is about the account**;
* `MmoServer.not_selectsAccount` — an account that ends with a quote.
-/

import MmoServer.RedisConnector
import MmoServer.SqlLexer

set_option relaxedAutoImplicit false
set_option autoImplicit false

namespace MmoServer

/-- The characters of a constant. -/
def ascii (text : String) : List UInt8 := text.toList.map Char.toUInt8

/-- The statement of `QueryPlayerList`, up to the literal. -/
def selectText : List UInt8 := ascii "select sn, name, base, item, misc from player where account = "

/-- The text of `QueryPlayerList` that is formatted. -/
def queryText (account : List UInt8) : List UInt8 := selectText ++ (Sql.quote :: cStr account ++ [Sql.quote])

/-- `QueryPlayerList`: what `mysql_query` reads. -/
def queryPlayerList (account : List UInt8) : List UInt8 := (format (queryText account)).cStr

/-- The tokens in front of the account. -/
def selectTokens : List Sql.Token :=
  [.word (ascii "select"), .word (ascii "sn"), .symbol 44, .word (ascii "name"), .symbol 44,
    .word (ascii "base"), .symbol 44, .word (ascii "item"), .symbol 44, .word (ascii "misc"),
    .word (ascii "from"), .word (ascii "player"), .word (ascii "where"), .word (ascii "account"), .symbol 61]

/-- **A statement that selects the players of an account**, and is the only one of its text.  Strings in a row are
one literal, and there may be a semicolon at the end. -/
def SelectsAccount (lexer : Sql.Lexer) (text account : List UInt8) : Prop :=
  ∃ literals : List (List UInt8), literals ≠ [] ∧ literals.flatten = account ∧
    (lexer.tokens text = some (selectTokens ++ literals.map Sql.Token.string) ∨
      lexer.tokens text = some (selectTokens ++ literals.map Sql.Token.string ++ [.symbol 59]))

/-! ### Reading the statement -/

/-- The text is long enough to be formatted as it is. -/
theorem queryPlayerList_eq (account : List UInt8) : queryPlayerList account = queryText account := by
  have hlong : 15 < (queryText account).length := by
    have hselect : selectText.length = 62 := by decide
    simp only [queryText, List.length_append, hselect]
    omega
  exact (format_of_long hlong).1

/-- **Up to the account**, the statement is read as it is meant. -/
theorem reads_selectText (lexer : Sql.Lexer) : lexer.Reads selectText selectTokens := by
  have hword (word : String) (h : Sql.IsName (ascii word)) :
      lexer.Reads (ascii word ++ [32]) [.word (ascii word)] := lexer.reads_word h
  have hitem (word : String) (h : Sql.IsName (ascii word)) :
      lexer.Reads (ascii word ++ [44, 32]) [.word (ascii word), .symbol 44] := lexer.reads_item h
  have hcolumns := ((((hword "select" (by decide)).append (hitem "sn" (by decide))).append
    (hitem "name" (by decide))).append (hitem "base" (by decide))).append (hitem "item" (by decide))
  have hcondition := ((((hword "misc" (by decide)).append (hword "from" (by decide))).append
    (hword "player" (by decide))).append (hword "where" (by decide))).append (hword "account" (by decide))
  exact (hcolumns.append hcondition).append lexer.reads_equals

/-- The literal follows. -/
theorem tokens_queryPlayerList (lexer : Sql.Lexer) (account : List UInt8) :
    lexer.tokens (queryPlayerList account) =
      (lexer.tokens (Sql.quote :: cStr account ++ [Sql.quote])).map (selectTokens ++ ·) := by
  rw [queryPlayerList_eq]
  exact reads_selectText lexer _

/-- What a statement about an account has behind the equals sign. -/
theorem tokens_of_selects {lexer : Sql.Lexer} {account : List UInt8}
    (h : SelectsAccount lexer (queryPlayerList account) account) :
    ∃ (literals : List (List UInt8)) (tail : List Sql.Token), literals ≠ [] ∧ literals.flatten = account ∧
      lexer.tokens (Sql.quote :: cStr account ++ [Sql.quote]) = some (literals.map Sql.Token.string ++ tail) := by
  obtain ⟨literals, hne, hflatten, htokens⟩ := h
  simp only [tokens_queryPlayerList, Option.map_eq_some_iff, List.append_assoc, List.append_cancel_left_eq,
    exists_eq_right] at htokens
  rcases htokens with htokens | htokens
  · exact ⟨literals, [], hne, hflatten, by rw [htokens, List.append_nil]⟩
  · exact ⟨literals, [.symbol 59], hne, hflatten, htokens⟩

/-- **When the statement is about the account.**  The text is a single statement that selects the players of the
account exactly if the account has no zeros and no quotes, and each backslash of it is in front of a wildcard. -/
theorem selectsAccount_iff (lexer : Sql.Lexer) (account : List UInt8) :
    SelectsAccount lexer (queryPlayerList account) account ↔ 0 ∉ account ∧ Sql.quote ∉ account ∧
      ∀ before after, account = before ++ Sql.backslash :: after → ∃ c ∈ after.head?, Sql.Wildcard c := by
  rw [← Sql.plain_iff]
  constructor
  · intro h
    obtain ⟨literals, tail, hne, hflatten, htokens⟩ := tokens_of_selects h
    have hle : (cStr account).length ≤ literals.flatten.length := by
      rw [hflatten]
      exact List.Sublist.length_le (List.takeWhile_sublist _)
    obtain ⟨rfl, hplain⟩ := Sql.Lexer.eq_of_strings htokens hne hle
    -- what is behind a zero is not in the text
    have hwhole : cStr account = account := (List.append_nil _).symm.trans hflatten
    rw [hwhole] at hplain
    exact ⟨(cStr_eq_iff account).1 hwhole, hplain⟩
  · rintro ⟨hzero, hplain⟩
    refine ⟨[account], List.cons_ne_nil _ _, List.append_nil _, Or.inl ?_⟩
    rw [tokens_queryPlayerList, (cStr_eq_iff account).2 hzero, Sql.Lexer.tokens_of_plain hplain]
    rfl

/-- **An account that ends with a quote**: the string does not end. -/
theorem not_selectsAccount :
    ¬ ∀ (lexer : Sql.Lexer) (account : List UInt8), 0 ∉ account →
      SelectsAccount lexer (queryPlayerList account) account := by
  intro h
  obtain ⟨literals, tail, hne, hflatten, htokens⟩ := tokens_of_selects (h Sql.scanner [97, 39] (by decide))
  have hnone : Sql.scanner.tokens (Sql.quote :: cStr [97, 39] ++ [Sql.quote]) = none := by decide
  rw [hnone] at htokens
  cases htokens

end MmoServer
