import LangBench.Proofs.Token.Reading

/-!
# Tokens and strings

A string is what stands between a quote and the next one that closes it on the same line, where a
backslash takes the next character with it, a line feed too.  It has no tokens, whatever stands
before it, since no step goes on with a quote.

* `Quoted`, `afterQuote_eq_some_iff`: what may stand between two quotes, and that a string is closed
  exactly behind it;
* `inside_quote`: no step in a plain text takes a quote with it;
* `scanAt_string`, `scan_string`: what stands behind a string, and before it;
* `string_literal`: a string has no tokens.
-/

namespace LangBench

open Text

namespace Token

/-- What may stand between two quotes: characters that neither close the string nor end the line,
and pairs of a backslash and any character. -/
inductive Quoted (quote : Char) : List Char → Prop
  | nil : Quoted quote []
  | char {c : Char} {body : List Char} : c ≠ quote → c ≠ '\\' → c ≠ '\n' → Quoted quote body →
      Quoted quote (c :: body)
  | escape (c : Char) {body : List Char} : Quoted quote body → Quoted quote ('\\' :: c :: body)

variable {quote : Char}

theorem isQuote_iff : isQuote quote = true ↔ quote = '"' ∨ quote = '\x27' := by
  rw [isQuote, Bool.or_eq_true, beq_iff_eq, beq_iff_eq]

/-- A quote is no backslash and no line feed, so it can close a string. -/
theorem isQuote_ne (h : isQuote quote = true) : quote ≠ '\\' ∧ quote ≠ '\n' := by
  constructor <;> rintro rfl <;> exact absurd h (by decide)

/-- What may stand between two quotes is gone through to the closing one. -/
theorem Quoted.afterQuote_append {body : List Char} (h : Quoted quote body)
    (closes : quote ≠ '\\' ∧ quote ≠ '\n') (rest : List Char) :
    afterQuote quote (body ++ quote :: rest) = some rest := by
  induction h with
  | nil => rw [List.nil_append, afterQuote_cons closes.1 closes.2, if_pos rfl]
  | char notQuote notSlash notFeed _ ih =>
    rw [List.cons_append, afterQuote_cons notSlash notFeed, if_neg notQuote, ih]
  | escape c _ ih => rw [List.cons_append, List.cons_append, afterQuote_escape, ih]

/-- A string is closed behind what may stand between two quotes, and nowhere else. -/
theorem afterQuote_eq_some_iff (closes : quote ≠ '\\' ∧ quote ≠ '\n') {cs rest : List Char} :
    afterQuote quote cs = some rest ↔ ∃ body, Quoted quote body ∧ cs = body ++ quote :: rest := by
  constructor
  · intro closed
    fun_induction afterQuote quote cs with
    | case1 => cases closed
    | case2 => cases closed
    | case3 c cs ih =>
      obtain ⟨body, quoted, rfl⟩ := ih closed
      exact ⟨'\\' :: c :: body, .escape c quoted, rfl⟩
    | case4 => cases closed
    | case5 cs =>
      obtain rfl := Option.some.inj closed
      exact ⟨[], .nil, rfl⟩
    | case6 c cs notSlash notFeed notQuote ih =>
      obtain ⟨body, quoted, rfl⟩ := ih closed
      exact ⟨c :: body, .char notQuote notSlash notFeed quoted, rfl⟩
  · rintro ⟨body, quoted, rfl⟩
    exact quoted.afterQuote_append closes rest

/-- What may stand between two quotes can be tested by closing it. -/
theorem quoted_iff (closes : quote ≠ '\\' ∧ quote ≠ '\n') {body : List Char} :
    Quoted quote body ↔ afterQuote quote (body ++ [quote]) = some [] := by
  rw [afterQuote_eq_some_iff closes]
  constructor
  · intro quoted
    exact ⟨body, quoted, rfl⟩
  · rintro ⟨body', quoted, same⟩
    rwa [List.append_cancel_right same]

/-- Behind a string no line starts. -/
theorem scanAt_string (isQuote : isQuote quote = true) {body : List Char}
    (quoted : Quoted quote body) (lineStart : Bool) (r : List Char) :
    scanAt lineStart (quote :: (body ++ quote :: r)) = scanAt false r := by
  have closed := quoted.afterQuote_append (isQuote_ne isQuote) r
  have string : ∀ cs, step lineStart quote cs = (none, (afterQuote quote cs).getD cs) := by
    intro cs
    rcases isQuote_iff.1 isQuote with rfl | rfl <;> cases lineStart <;> rfl
  have noFeed : (quote == '\n') = false := beq_false_of_ne (isQuote_ne isQuote).2
  rw [scanAt_cons, string, closed, noFeed]
  rfl

/-- No step in a plain text takes a quote with it. -/
theorem inside_quote (isQuote : isQuote quote = true) (c : Char) : inside c quote = false := by
  unfold inside
  rcases isQuote_iff.1 isQuote with rfl | rfl <;> split_ifs <;> decide

/-- A string behind a plain text has no tokens. -/
theorem scan_string (isQuote : isQuote quote = true) {p body r : List Char}
    (plain : ∀ d ∈ p, isPlain d = true) (quoted : Quoted quote body)
    (unmarked : ¬ ['#', '!'] <+: r) :
    scan (p ++ quote :: (body ++ quote :: r)) = scan p ++ scan r := by
  have apart : ∀ d, ∀ e ∈ (quote :: (body ++ quote :: r)).head?, inside d e = false := by
    rintro d _ ⟨⟩
    exact inside_quote isQuote d
  obtain ⟨lineStart, tokens⟩ := scanAt_append_of_apart plain fun {_ _ d _} _ => apart d
  rw [scan, tokens, scanAt_string isQuote quoted, scan, scan, scanAt_of_not_mark unmarked]

end Token

/-- **Strings.**  A string behind a text without quotes and without the characters that begin
comments and interpreter lines, and in front of a text that is no interpreter line, has no tokens,
whatever stands in it and whatever step it cuts off. -/
theorem string_literal {quote : Char} (isQuote : Token.isQuote quote = true) {p body r : List Char}
    (plain : ∀ d ∈ p, Token.isPlain d = true) (quoted : Token.Quoted quote body)
    (unmarked : ¬ ['#', '!'] <+: r)
    (read : (Utf8.encode (p ++ quote :: (body ++ quote :: r))).length ≤ 100000) :
    tokenize (Utf8.encode (p ++ quote :: (body ++ quote :: r))) =
      tokenize (Utf8.encode p) ++ tokenize (Utf8.encode r) := by
  obtain ⟨readBefore, readString⟩ := length_encode_le_of_append read
  have readBehind : (Utf8.encode r).length ≤ tokenLimit := by
    rw [← List.cons_append, List.append_cons] at readString
    exact (length_encode_le_of_append readString).2
  rw [tokenize_encode read, tokenize_encode readBefore, tokenize_encode readBehind,
    Token.scan_string isQuote plain quoted unmarked, List.map_append]

/-- A string that cuts off a number, with the other quote, an opener, escaped backslashes, an
escaped quote and an escaped line feed behind which an interpreter line seems to stand. -/
theorem string_literal_escaped :
    let p := "f(x1, 2.".toList
    let body := "it's /* \\\\ \\\" \\\n#!/bin/sh".toList
    let r := " // y\n+ z)".toList
    Token.isQuote '"' = true ∧ (∀ d ∈ p, Token.isPlain d = true) ∧ Token.Quoted '"' body ∧
    ¬ ['#', '!'] <+: r ∧ (Utf8.encode (p ++ '"' :: (body ++ '"' :: r))).length ≤ 100000 ∧
    tokenize (Utf8.encode (p ++ '"' :: (body ++ '"' :: r))) =
      tokenize (Utf8.encode p) ++ tokenize (Utf8.encode r) := by
  intro p body r
  have isQuote : Token.isQuote '"' = true := by decide
  have plain : ∀ d ∈ p, Token.isPlain d = true := List.all_eq_true.1 (by decide +kernel)
  have quoted : Token.Quoted '"' body := (Token.quoted_iff (by decide)).2 (by decide +kernel)
  have unmarked : ¬ ['#', '!'] <+: r := by decide +kernel
  have read : (Utf8.encode (p ++ '"' :: (body ++ '"' :: r))).length ≤ 100000 := by decide +kernel
  exact ⟨isQuote, plain, quoted, unmarked, read, string_literal isQuote plain quoted unmarked read⟩

end LangBench
