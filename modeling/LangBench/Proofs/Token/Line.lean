import LangBench.Proofs.Token.Reading

/-!
# Tokens line by line

The end of a line and the end of a text stop a step alike.  So the tokens of a text are those of the
part before a line feed and then those of the part behind it, unless a comment that may go on over
lines begins in the first part, or a backslash at its end takes the line feed with it.

* `takeWhile_append_lineFeed`, `head?_append_lineFeed`, `isPrefixOf_append_lineFeed`: looking ahead
  in a text and in the same text with a line feed behind it;
* `Token.StaysInLine`: texts in which nothing begins that goes on behind their end;
* `Token.step_append_lineFeed`: a step in such a text, with a line feed behind it or not;
* `Token.scanAt_append_lineFeed`: its tokens in front of another line;
* `line_by_line`: so it is in files that are read as a whole.
-/

namespace LangBench

open Text

namespace Text

/-! ### A line feed behind a text -/

variable (cs rest : List Char)

theorem takeWhile_append_lineFeed {p : Char → Bool} (stops : p '\n' = false) :
    (cs ++ '\n' :: rest).takeWhile p = cs.takeWhile p := by
  induction cs with
  | nil => simp [stops]
  | cons c cs ih => simp only [List.cons_append, List.takeWhile_cons, ih]

theorem dropWhile_append_lineFeed {p : Char → Bool} (stops : p '\n' = false) :
    (cs ++ '\n' :: rest).dropWhile p = cs.dropWhile p ++ '\n' :: rest := by
  induction cs with
  | nil => simp [stops]
  | cons c cs ih =>
    by_cases hc : p c = true
    · simp [hc, ih]
    · simp [hc]

/-- A line feed is not looked for at the head of a text. -/
theorem head?_append_lineFeed {c : Char} (notFeed : c ≠ '\n') :
    ((cs ++ '\n' :: rest).head? == some c) = (cs.head? == some c) := by
  cases cs with
  | nil => simp [Ne.symm notFeed]
  | cons d cs => rfl

/-- A mark without line feed does not reach over one. -/
theorem isPrefixOf_append_lineFeed (mark : List Char) (noFeed : '\n' ∉ mark) :
    mark.isPrefixOf (cs ++ '\n' :: rest) = mark.isPrefixOf cs := by
  induction mark generalizing cs with
  | nil => simp
  | cons m mark ih =>
    rw [List.mem_cons, not_or] at noFeed
    cases cs with
    | nil => simp [List.isPrefixOf, Ne.symm noFeed.1]
    | cons c cs => rw [List.cons_append, List.isPrefixOf, List.isPrefixOf, ih cs noFeed.2]

end Text

namespace Token

/-! ### Comments and strings -/

variable (cs rest : List Char)

/-- A line feed is a blank, as is the end of a text. -/
theorem atBlank_append_lineFeed : atBlank (cs ++ '\n' :: rest) = atBlank cs := by
  cases cs with
  | nil => rfl
  | cons c cs => rfl

theorem isLineComment_append_lineFeed (c : Char) :
    isLineComment c (cs ++ '\n' :: rest) = isLineComment c cs := by
  have slash := head?_append_lineFeed cs rest (c := '/') (by decide)
  cases cs with
  | nil => simp [isLineComment, atBlank, isBlank, blankRanges, inRanges]
  | cons d cs =>
    have behind : atBlank ((d :: cs ++ '\n' :: rest).drop 1) = atBlank ((d :: cs).drop 1) :=
      atBlank_append_lineFeed cs rest
    rw [isLineComment, isLineComment, slash, atBlank_append_lineFeed, behind]
    rfl

variable {cs}

/-- The program of an interpreter line is looked for in that line. -/
theorem firstLine_append_lineFeed {c : Char} (head : cs.head? = some c) :
    ((cs ++ '\n' :: rest).drop 1).takeWhile (· != '\n') = (cs.drop 1).takeWhile (· != '\n') := by
  obtain ⟨tail, rfl⟩ := List.head?_eq_some_iff.1 head
  exact takeWhile_append_lineFeed tail rest rfl

/-- A string that is not closed in its line is not closed at all. -/
theorem afterQuote_append_lineFeed (quote : Char) (noEscape : cs.getLast? ≠ some '\\') :
    afterQuote quote (cs ++ '\n' :: rest) = (afterQuote quote cs).map (· ++ '\n' :: rest) := by
  have later : ∀ {c : Char} {cs : List Char}, (c :: cs).getLast? ≠ some '\\' →
      cs.getLast? ≠ some '\\' := by
    intro c cs noEscape last
    simp [List.getLast?_cons, last] at noEscape
  fun_induction afterQuote quote cs with
  | case1 => rw [List.nil_append, afterQuote_lineFeed]; rfl
  | case2 => exact absurd rfl noEscape
  | case3 d cs ih =>
    rw [List.cons_append, List.cons_append, afterQuote_escape, ih (later (later noEscape))]
  | case4 cs => rw [List.cons_append, afterQuote_lineFeed]; rfl
  | case5 cs notSlash notFeed =>
    rw [List.cons_append, afterQuote_cons notSlash notFeed, if_pos rfl]
    rfl
  | case6 c cs notSlash notFeed notQuote ih =>
    rw [List.cons_append, afterQuote_cons notSlash notFeed, if_neg notQuote, ih (later noEscape)]

/-! ### Steps -/

/-- Nothing begins in the text that goes on behind its end when a line feed follows: no comment over
several lines, and no pair of a backslash and the line feed. -/
structure StaysInLine (cs : List Char) : Prop where
  noBlock : ¬ ['/', '*'] <:+: cs
  noMarkup : ¬ ['<', '!', '-', '-'] <:+: cs
  noEscape : cs.getLast? ≠ some '\\'

theorem StaysInLine.suffix {ds : List Char} (h : StaysInLine cs) (part : ds <:+ cs) :
    StaysInLine ds where
  noBlock inside := h.noBlock (inside.trans part.isInfix)
  noMarkup inside := h.noMarkup (inside.trans part.isInfix)
  noEscape last := by
    obtain ⟨before, rfl⟩ := part
    exact h.noEscape (by rw [List.getLast?_append, last]; rfl)

/-- A step in a text is the same with a line feed behind the text. -/
theorem step_append_lineFeed {c : Char} (h : StaysInLine (c :: cs)) (lineStart : Bool) :
    step lineStart c (cs ++ '\n' :: rest) =
      ((step lineStart c cs).1, (step lineStart c cs).2 ++ '\n' :: rest) := by
  have bang := head?_append_lineFeed cs rest (c := '!') (by decide)
  have star := head?_append_lineFeed cs rest (c := '*') (by decide)
  have arrow := isPrefixOf_append_lineFeed cs rest ['!', '-', '-'] (by decide)
  have lineEnd : fromLineEnd (cs ++ '\n' :: rest) = fromLineEnd cs ++ '\n' :: rest :=
    dropWhile_append_lineFeed cs rest rfl
  show _ = Prod.map id (· ++ '\n' :: rest) (step lineStart c cs)
  unfold step
  rw [bang, star, arrow, lineEnd, isLineComment_append_lineFeed,
    dropWhile_append_lineFeed cs rest stops_numberPart.atFeed,
    takeWhile_append_lineFeed cs rest stops_wordPart.atFeed,
    dropWhile_append_lineFeed cs rest stops_wordPart.atFeed,
    takeWhile_append_lineFeed cs rest stops_operatorChar.atFeed,
    dropWhile_append_lineFeed cs rest stops_operatorChar.atFeed]
  simp only [apply_ite (Prod.map id (· ++ '\n' :: rest))]
  -- the tests are the same now, and are gone through in order
  refine ite_congr rfl (fun interpreter => ?_) fun _ => ?_
  · simp only [Bool.and_eq_true, beq_iff_eq] at interpreter
    rw [firstLine_append_lineFeed rest interpreter.2]
    rfl
  refine ite_congr rfl (fun blank => rfl) fun _ => ?_
  refine ite_congr rfl (fun lineComment => rfl) fun _ => ?_
  refine ite_congr rfl (fun block => ?_) fun _ => ?_
  · simp only [Bool.and_eq_true, beq_iff_eq] at block
    obtain ⟨rfl, next⟩ := block
    obtain ⟨tail, rfl⟩ := List.head?_eq_some_iff.1 next
    exact absurd ⟨[], tail, rfl⟩ h.noBlock
  refine ite_congr rfl (fun markup => ?_) fun _ => ?_
  · simp only [Bool.and_eq_true, beq_iff_eq, List.isPrefixOf_iff_prefix] at markup
    obtain ⟨rfl, tail, rfl⟩ := markup
    exact absurd ⟨[], tail, rfl⟩ h.noMarkup
  refine ite_congr rfl (fun quote => ?_) fun _ => ?_
  · have inner := (h.suffix (List.suffix_cons c cs)).noEscape
    rw [afterQuote_append_lineFeed rest c inner]
    cases afterQuote c cs with
    | none => rfl
    | some left => rfl
  refine ite_congr rfl (fun number => rfl) fun _ => ?_
  refine ite_congr rfl (fun word => rfl) fun _ => ?_
  refine ite_congr rfl (fun bracket => rfl) fun _ => ?_
  exact ite_congr rfl (fun operator => rfl) fun _ => rfl

/-! ### Runs -/

/-- The tokens of a text and then those of the lines behind it. -/
theorem scanAt_append_lineFeed (h : StaysInLine cs) (lineStart : Bool) :
    scanAt lineStart (cs ++ '\n' :: rest) = scanAt lineStart cs ++ scan rest := by
  induction lineStart, cs using scan_induct with
  | nil => rw [List.nil_append, scanAt_lineFeed, scanAt_nil, List.nil_append, scan]
  | cons lineStart c cs ih =>
    have left := h.suffix ((step_suffix lineStart c cs).trans (List.suffix_cons c cs))
    rw [List.cons_append, scanAt_cons, scanAt_cons, step_append_lineFeed rest h, ih left,
      List.append_assoc]

end Token

/-- **Line by line.**  A text in which no comment over several lines begins and which does not end
with a backslash has its own tokens in front of a line feed, and what stands behind that has its
own: no string, comment or interpreter line goes on there. -/
theorem line_by_line {a b : List Char} (noBlock : ¬ ['/', '*'] <:+: a)
    (noMarkup : ¬ ['<', '!', '-', '-'] <:+: a) (noEscape : a.getLast? ≠ some '\\')
    (read : (Utf8.encode (a ++ '\n' :: b)).length ≤ 100000) :
    tokenize (Utf8.encode (a ++ '\n' :: b)) =
      tokenize (Utf8.encode a) ++ tokenize (Utf8.encode b) := by
  have stays : Token.StaysInLine a := ⟨noBlock, noMarkup, noEscape⟩
  obtain ⟨readBefore, readLine⟩ := length_encode_le_of_append read
  have readBehind : (Utf8.encode b).length ≤ tokenLimit :=
    (length_encode_le_of_append (p := ['\n']) readLine).2
  rw [tokenize_encode read, tokenize_encode readBefore, tokenize_encode readBehind, Token.scan,
    Token.scanAt_append_lineFeed b stays, List.map_append, ← Token.scan]

/-- An interpreter line, a line comment and a string that is not closed, in which a backslash takes
a line feed with it; behind them the quote that would close it. -/
theorem line_by_line_unclosed :
    let a := "#!/bin/sh\nx = 'it -- y\n\"a \\\n#!z // b".toList
    let b := "#!/bin/awk\nc\" + d".toList
    ¬ ['/', '*'] <:+: a ∧ ¬ ['<', '!', '-', '-'] <:+: a ∧ a.getLast? ≠ some '\\' ∧
    (Utf8.encode (a ++ '\n' :: b)).length ≤ 100000 ∧
    tokenize (Utf8.encode (a ++ '\n' :: b)) =
      tokenize (Utf8.encode a) ++ tokenize (Utf8.encode b) := by
  intro a b
  have noBlock : ¬ ['/', '*'] <:+: a := by decide +kernel
  have noMarkup : ¬ ['<', '!', '-', '-'] <:+: a := by decide +kernel
  have noEscape : a.getLast? ≠ some '\\' := by decide +kernel
  have read : (Utf8.encode (a ++ '\n' :: b)).length ≤ 100000 := by decide +kernel
  exact ⟨noBlock, noMarkup, noEscape, read, line_by_line noBlock noMarkup noEscape read⟩

end LangBench
