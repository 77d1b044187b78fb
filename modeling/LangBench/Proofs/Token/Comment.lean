import LangBench.Proofs.Token.Reading

/-!
# Tokens and comments

Comments have no tokens, where they are noticed.  A block comment is looked through for its end from
the star of its opener on, so a slash right behind the opener ends it.  A line comment is noticed
unless an operator stands before it, which takes the slashes with it.

* `afterMark_append`, `scanAt_blockComment`: what stands behind a block comment;
* `block_comment`: a block comment has no tokens, unless it begins with a slash;
* `scanAt_lineComment`: what stands behind a line comment;
* `EndsInOperator`, `not_endsInOperator`: texts at whose end an operator stands;
* `line_comment`: a line comment has no tokens if and only if the text before it is none of them.
-/

namespace LangBench

open Text

namespace Token

/-! ### Block comments -/

/-- The end of a block comment is found where it stands first. -/
theorem afterMark_append {x : List Char} (open_ : ¬ ['*', '/'] <:+: x) (r : List Char) :
    afterMark ['*', '/'] (x ++ ['*', '/'] ++ r) = r := by
  induction x with
  | nil => rfl
  | cons c x ih =>
    have notHere : ¬ ['*', '/'] <+: c :: (x ++ ['*', '/'] ++ r) := by
      rintro ⟨rest, here⟩
      cases x with
      | nil => simp at here
      | cons d x =>
        simp only [List.cons_append, List.cons.injEq] at here
        obtain ⟨rfl, rfl, -⟩ := here
        exact open_ ⟨[], x, rfl⟩
    rw [← List.isPrefixOf_iff_prefix] at notHere
    rw [List.cons_append, List.cons_append, afterMark, if_neg notHere]
    exact ih (mt List.infix_cons open_)

/-- Behind a block comment no line starts. -/
theorem scanAt_blockComment (lineStart : Bool) (cs : List Char) :
    scanAt lineStart ('/' :: '*' :: cs) = scanAt false (afterMark ['*', '/'] ('*' :: cs)) := by
  have comment : step lineStart '/' ('*' :: cs) = (none, afterMark ['*', '/'] ('*' :: cs)) := by
    cases lineStart <;> rfl
  rw [scanAt_cons, comment]
  rfl

/-- A block comment that does not begin with a slash has no tokens. -/
theorem scan_blockComment {x r : List Char} (open_ : ¬ ['*', '/'] <:+: x)
    (noSlash : x.head? ≠ some '/') (unmarked : ¬ ['#', '!'] <+: r) :
    scan (['/', '*'] ++ x ++ ['*', '/'] ++ r) = scan r := by
  have open' : ¬ ['*', '/'] <:+: '*' :: x := by
    rw [List.infix_cons_iff, not_or]
    refine ⟨?_, open_⟩
    rintro ⟨rest, here⟩
    rw [← (List.cons.inj here).2] at noSlash
    exact noSlash rfl
  have rest := afterMark_append open' r
  simp only [List.cons_append, List.nil_append, List.append_assoc] at rest ⊢
  rw [scan, scanAt_blockComment, rest, scan, scanAt_of_not_mark unmarked]

/-- A block comment that begins with a slash ends there. -/
theorem scan_slashComment {y : List Char} (unmarked : ¬ ['#', '!'] <+: y) :
    scan (['/', '*', '/'] ++ y) = scan y := by
  have rest : afterMark ['*', '/'] ('*' :: '/' :: y) = y := rfl
  simp only [List.cons_append, List.nil_append]
  rw [scan, scanAt_blockComment, rest, scan, scanAt_of_not_mark unmarked]

/-- The end of a comment makes no interpreter line of the text before it. -/
theorem not_mark_append {y r : List Char} (unmarked : ¬ ['#', '!'] <+: y) :
    ¬ ['#', '!'] <+: y ++ ['*', '/'] ++ r := by
  rintro ⟨rest, here⟩
  match y, unmarked with
  | [], _ => simp at here
  | [c], _ => simp at here
  | c :: d :: y, unmarked =>
    simp only [List.cons_append, List.cons.injEq] at here
    obtain ⟨rfl, rfl, -⟩ := here
    exact unmarked ⟨y, rfl⟩

/-! ### Line comments -/

/-- Behind a line comment a line starts. -/
theorem scanAt_lineComment (lineStart : Bool) {c : List Char} (oneLine : '\n' ∉ c) (r : List Char) :
    scanAt lineStart (['/', '/'] ++ c ++ '\n' :: r) = scan r := by
  have comment : ∀ cs, step lineStart '/' ('/' :: cs) = (none, fromLineEnd ('/' :: cs)) := by
    intro cs
    cases lineStart <;> rfl
  have line : ∀ d ∈ '/' :: c, (d != '\n') = true :=
    List.forall_mem_cons.2 ⟨rfl, ne_lineFeed_of_notMem oneLine⟩
  have rest : fromLineEnd ('/' :: (c ++ '\n' :: r)) = '\n' :: r := by
    rw [fromLineEnd, ← List.cons_append, List.dropWhile_append_of_pos line]
    rfl
  simp only [List.cons_append, List.nil_append]
  rw [scanAt_cons, comment, rest, scanAt_lineFeed]
  rfl

/-- Whether an operator stands at the end of a text: the last step finds one. -/
def EndsInOperator (p : List Char) : Prop :=
  ∃ found lineStart c tail, EndsIn true p found lineStart c tail ∧
    (step lineStart c tail).1 = some (.operator (c :: tail))

/-- A text at whose end an operator stands ends with an operator character. -/
theorem not_endsInOperator {p : List Char} (plain : ∀ d ∈ p, isPlain d = true)
    (last : ∀ d ∈ p.getLast?, isOperatorChar d = false) : ¬ EndsInOperator p := by
  rintro ⟨found, lineStart, c, tail, ends, operator⟩
  rw [ends.token_eq plain] at operator
  obtain ⟨isOperator, takes, -⟩ := of_begun_operator (ends.isPlain_head plain) operator
  have all : ∀ d ∈ c :: tail, isOperatorChar d = true := by
    have inner := ends.inside_of_mem plain
    rw [takes] at inner
    exact List.forall_mem_cons.2 ⟨isOperator, inner⟩
  exact absurd (all _ (List.getLast_mem _)) (Bool.eq_false_iff.1 (last _ ends.getLast?_eq))

/-- A line comment has no tokens if no operator stands before it. -/
theorem scan_lineComment {p c : List Char} (plain : ∀ d ∈ p, isPlain d = true)
    (noOperator : ¬ EndsInOperator p) (oneLine : '\n' ∉ c) (r : List Char) :
    scan (p ++ (['/', '/'] ++ c ++ '\n' :: r)) = scan p ++ scan r := by
  have apart : ∀ {found lineStart d tail}, EndsIn true p found lineStart d tail →
      inside d '/' = false := by
    intro found lineStart d tail ends
    by_contra takes
    rw [Bool.not_eq_false] at takes
    have operator := begun_of_inside (by decide) (by decide) takes tail
    rw [← ends.token_eq plain] at operator
    exact noOperator ⟨found, lineStart, d, tail, ends, operator⟩
  have slash : ∀ d ∈ (['/', '/'] ++ c ++ '\n' :: r).head?, d = '/' := by
    rintro _ ⟨⟩
    rfl
  obtain ⟨lineStart, tokens⟩ := scanAt_append_of_apart plain fun ends d head => by
    rw [slash d head]
    exact apart ends
  rw [scan, tokens, scanAt_lineComment lineStart oneLine]
  rfl

/-- An operator before a line comment takes its slashes. -/
theorem scan_lineComment_of_operator {p : List Char} (plain : ∀ d ∈ p, isPlain d = true)
    (operator : EndsInOperator p) (s : List Char) : ∃ found w more rest,
      scan p = found ++ [.operator w] ∧
      scan (p ++ '/' :: s) = found ++ .operator (w ++ '/' :: more) :: rest := by
  obtain ⟨found, lineStart, c, tail, ends, operator⟩ := operator
  rw [ends.token_eq plain] at operator
  obtain ⟨-, takes, begins⟩ := of_begun_operator (ends.isPlain_head plain) operator
  have slash : isOperatorChar '/' = true := by decide
  have longer := ends.scanAt_append plain ('/' :: s)
  rw [takes, List.takeWhile_cons_of_pos slash, begins, Option.toList_some, List.append_assoc,
    List.singleton_append] at longer
  refine ⟨found, c :: tail, _, _, ?_, longer⟩
  rw [scan, ends.scanAt_eq plain, operator, Option.toList_some]

end Token

/-- **Block comments.**  A block comment in front of a text that is no interpreter line has no
tokens if it does not begin with a slash.  If it does, it ends there, and what was meant to be in it
has tokens. -/
theorem block_comment {x r : List Char} (open_ : ¬ ['*', '/'] <:+: x)
    (unmarked : ¬ ['#', '!'] <+: r)
    (read : (Utf8.encode (['/', '*'] ++ x ++ ['*', '/'] ++ r)).length ≤ 100000) :
    (x.head? ≠ some '/' →
      tokenize (Utf8.encode (['/', '*'] ++ x ++ ['*', '/'] ++ r)) = tokenize (Utf8.encode r)) ∧
    ∀ y, x = '/' :: y → ¬ ['#', '!'] <+: y →
      tokenize (Utf8.encode (['/', '*'] ++ x ++ ['*', '/'] ++ r)) =
        tokenize (Utf8.encode (y ++ ['*', '/'] ++ r)) := by
  constructor
  · intro noSlash
    have read' := (length_encode_le_of_append read).2
    rw [tokenize_encode read, tokenize_encode read', Token.scan_blockComment open_ noSlash unmarked]
  · rintro y rfl unmarked'
    have text : ['/', '*'] ++ '/' :: y ++ ['*', '/'] ++ r =
        ['/', '*', '/'] ++ (y ++ ['*', '/'] ++ r) := by
      simp only [List.cons_append, List.nil_append, List.append_assoc]
    rw [text] at read ⊢
    have read' := (length_encode_le_of_append read).2
    rw [tokenize_encode read, tokenize_encode read',
      Token.scan_slashComment (Token.not_mark_append unmarked')]

/-- Stars, a quote, another opener and a line that looks like an interpreter line, before a call. -/
theorem block_comment_starred :
    ¬ ['*', '/'] <:+: "*\n#!/bin/sh \"a /**".toList ∧ ¬ ['#', '!'] <+: "f()".toList ∧
    (Utf8.encode
      (['/', '*'] ++ "*\n#!/bin/sh \"a /**".toList ++ ['*', '/'] ++ "f()".toList)).length ≤ 100000 ∧
    tokenize (Utf8.encode
        (['/', '*'] ++ "*\n#!/bin/sh \"a /**".toList ++ ['*', '/'] ++ "f()".toList)) =
      tokenize (Utf8.encode "f()".toList) := by
  have open_ : ¬ ['*', '/'] <:+: "*\n#!/bin/sh \"a /**".toList := by decide +kernel
  have unmarked : ¬ ['#', '!'] <+: "f()".toList := by decide +kernel
  have read : (Utf8.encode (['/', '*'] ++ "*\n#!/bin/sh \"a /**".toList ++ ['*', '/'] ++
      "f()".toList)).length ≤ 100000 := by decide +kernel
  exact ⟨open_, unmarked, read, (block_comment open_ unmarked read).1 (by decide)⟩

/-- A comment that begins with a slash is over before its text. -/
theorem block_comment_slashed :
    ¬ ['*', '/'] <:+: ['/', ' ', 'a', ' '] ∧ ¬ ['#', '!'] <+: [' ', 'b'] ∧
    (Utf8.encode (['/', '*'] ++ ['/', ' ', 'a', ' '] ++ ['*', '/'] ++ [' ', 'b'])).length ≤ 100000 ∧
    tokenize (Utf8.encode (['/', '*'] ++ ['/', ' ', 'a', ' '] ++ ['*', '/'] ++ [' ', 'b'])) =
      ["a", "*/", "b"] ∧
    tokenize (Utf8.encode [' ', 'b']) = ["b"] := by
  decide +kernel

/-- **Line comments.**  Behind a text without quotes and without the characters that begin comments
and interpreter lines, a line comment has no tokens, if and only if no operator stands right before
it. -/
theorem line_comment {p c r : List Char} (plain : ∀ d ∈ p, Token.isPlain d = true)
    (oneLine : '\n' ∉ c)
    (read : (Utf8.encode (p ++ (['/', '/'] ++ c ++ '\n' :: r))).length ≤ 100000) :
    tokenize (Utf8.encode (p ++ (['/', '/'] ++ c ++ '\n' :: r))) =
        tokenize (Utf8.encode p) ++ tokenize (Utf8.encode r) ↔
      ¬ Token.EndsInOperator p := by
  obtain ⟨readBefore, readComment⟩ := length_encode_le_of_append read
  rw [List.append_cons] at readComment
  have readAfter := (length_encode_le_of_append readComment).2
  rw [tokenize_encode read, tokenize_encode readBefore, tokenize_encode readAfter]
  constructor
  · intro same operator
    obtain ⟨found, w, more, rest, before, whole⟩ :=
      Token.scan_lineComment_of_operator plain operator ('/' :: (c ++ '\n' :: r))
    simp only [List.cons_append, List.nil_append] at same
    rw [before, whole, List.map_append, List.map_append, List.append_assoc] at same
    -- the operator is longer than the one it should be
    have token := (List.cons.inj (List.append_cancel_left same)).1
    have spelling := congrArg String.length token
    simp [Token.text] at spelling
  · intro apart
    rw [Token.scan_lineComment plain apart oneLine, List.map_append]

/-- Behind a bracket, a comment with a quote, an opener and a word. -/
theorem line_comment_bracketed :
    (∀ d ∈ "x1 = f(a)".toList, Token.isPlain d = true) ∧ '\n' ∉ " it's /* b".toList ∧
    (Utf8.encode ("x1 = f(a)".toList ++
      (['/', '/'] ++ " it's /* b".toList ++ '\n' :: "#!y".toList))).length ≤ 100000 ∧
    tokenize (Utf8.encode ("x1 = f(a)".toList ++
      (['/', '/'] ++ " it's /* b".toList ++ '\n' :: "#!y".toList))) =
        tokenize (Utf8.encode "x1 = f(a)".toList) ++ tokenize (Utf8.encode "#!y".toList) := by
  have plain : ∀ d ∈ "x1 = f(a)".toList, Token.isPlain d = true :=
    List.all_eq_true.1 (by decide +kernel)
  have oneLine : '\n' ∉ " it's /* b".toList := by decide +kernel
  have read : (Utf8.encode ("x1 = f(a)".toList ++
      (['/', '/'] ++ " it's /* b".toList ++ '\n' :: "#!y".toList))).length ≤ 100000 := by
    decide +kernel
  have last : ∀ d ∈ "x1 = f(a)".toList.getLast?, Token.isOperatorChar d = false := by
    rintro _ ⟨⟩
    decide
  exact ⟨plain, oneLine, read, (line_comment plain oneLine read).2
    (Token.not_endsInOperator plain last)⟩

/-- An operator takes the slashes of the comment right behind it, so the comment has tokens. -/
theorem line_comment_glued :
    (∀ d ∈ ['x', '+'], Token.isPlain d = true) ∧ '\n' ∉ [' ', 'a'] ∧
    (Utf8.encode (['x', '+'] ++ (['/', '/'] ++ [' ', 'a'] ++ '\n' :: ['y']))).length ≤ 100000 ∧
    tokenize (Utf8.encode (['x', '+'] ++ (['/', '/'] ++ [' ', 'a'] ++ '\n' :: ['y']))) =
      ["x", "+//", "a", "y"] ∧
    tokenize (Utf8.encode ['x', '+']) ++ tokenize (Utf8.encode ['y']) = ["x", "+", "y"] := by
  refine ⟨List.all_eq_true.1 (by decide), ?_⟩
  decide +kernel

end LangBench
