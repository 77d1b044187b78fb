import LangBench.Proofs.Text.LineEnd
import LangBench.Token

/-!
# Tokens and line ends

A text and the same text with a carriage return before every line feed are read side by side.  After
each step what is left of them is alike, so they have the same tokens.  Only a backslash in quotes
tells the two line ends apart, since it takes one character with it.

* `step_suffix`: a step leaves a part of the text;
* `isLineComment_crlf`, `afterMark_crlf`, `afterQuote_crlf`: comments and strings end alike;
* `Alike`, `SameStep`, `step_crlf`: what one step leaves of both texts;
* `scanAt_crlf`: the same tokens are found in both;
* `tokenize_encode`, `tokenize_crlf`: so they are in files that are read as a whole.
-/

namespace LangBench

open Text

namespace Token

/-! ### What a step leaves -/

theorem afterMark_suffix (mark cs : List Char) : afterMark mark cs <:+ cs := by
  induction cs with
  | nil => exact List.suffix_refl []
  | cons c cs ih =>
    rw [afterMark]
    split
    · exact List.drop_suffix _ _
    · exact ih.trans (List.suffix_cons c cs)

theorem afterQuote_suffix {quote : Char} {cs rest : List Char}
    (h : afterQuote quote cs = some rest) : rest <:+ cs := by
  fun_induction afterQuote quote cs with
  | case1 => cases h
  | case2 => cases h
  | case3 d cs ih => exact (ih h).trans ((List.suffix_cons d cs).trans (List.suffix_cons _ _))
  | case4 => cases h
  | case5 cs =>
    obtain rfl := Option.some.inj h
    exact List.suffix_cons _ cs
  | case6 c cs _ _ _ ih => exact (ih h).trans (List.suffix_cons c cs)

/-- A step leaves a part of the text. -/
theorem step_suffix (lineStart : Bool) (c : Char) (cs : List Char) :
    (step lineStart c cs).2 <:+ cs := by
  fun_cases step lineStart c cs
  all_goals try exact List.suffix_refl _
  all_goals try exact List.dropWhile_suffix _
  all_goals try exact afterMark_suffix _ _
  cases found : afterQuote c cs with
  | none => exact List.suffix_refl cs
  | some rest => exact afterQuote_suffix found

/-! ### Comments and strings -/

theorem atBlank_crlf (cs : List Char) : atBlank (crlf cs) = atBlank cs := by
  cases cs with
  | nil => rfl
  | cons c cs =>
    by_cases hc : c = '\n'
    · subst hc
      rfl
    · rw [crlf_cons_of_ne hc]
      rfl

theorem isLineComment_crlf (c : Char) (cs : List Char) :
    isLineComment c (crlf cs) = isLineComment c cs := by
  cases cs with
  | nil => rfl
  | cons d cs =>
    by_cases hd : d = '\n'
    · subst hd
      simp [isLineComment, atBlank, isBlank, blankRanges, inRanges]
    · rw [crlf_cons_of_ne hd]
      simp only [isLineComment, List.head?_cons, List.drop_one, List.tail_cons, atBlank_crlf]
      rfl

/-- Past a mark that ends no line, both texts go on alike. -/
theorem afterMark_crlf (mark : List Char) (nonempty : mark ≠ []) (noReturn : '\r' ∉ mark)
    (noFeed : '\n' ∉ mark) (cs : List Char) :
    afterMark mark (crlf cs) = crlf (afterMark mark cs) := by
  have elsewhere : ∀ {c : Char} (cs : List Char), c ∉ mark → mark.isPrefixOf (c :: cs) = false := by
    intro c cs clear
    cases mark with
    | nil => exact absurd rfl nonempty
    | cons m mark =>
      rw [List.mem_cons, not_or] at clear
      rw [List.isPrefixOf, beq_false_of_ne (Ne.symm clear.1), Bool.false_and]
  induction cs with
  | nil => rfl
  | cons c cs ih =>
    by_cases hc : c = '\n'
    · subst hc
      rw [crlf_lineFeed, afterMark, afterMark, afterMark, elsewhere _ noReturn, elsewhere _ noFeed,
        elsewhere _ noFeed]
      exact ih
    · have same := isPrefixOf_crlf mark noReturn noFeed (c :: cs)
      rw [crlf_cons_of_ne hc] at same ⊢
      rw [afterMark, afterMark, same]
      split
      · rename_i found
        obtain ⟨rest, text_eq⟩ := List.isPrefixOf_iff_prefix.1 found
        rw [← crlf_cons_of_ne hc, ← text_eq, crlf_append, crlf_of_notMem noFeed, List.drop_left,
          List.drop_left]
      · exact ih

theorem afterQuote_escape (quote d : Char) (cs : List Char) :
    afterQuote quote ('\\' :: d :: cs) = afterQuote quote cs := by
  rw [afterQuote.eq_def]
  exact if_pos rfl

theorem afterQuote_lineFeed (quote : Char) (cs : List Char) :
    afterQuote quote ('\n' :: cs) = none := by
  rw [afterQuote.eq_def]
  rfl

theorem afterQuote_cons {c : Char} (notSlash : c ≠ '\\') (notFeed : c ≠ '\n') (quote : Char)
    (cs : List Char) :
    afterQuote quote (c :: cs) = if c = quote then some cs else afterQuote quote cs := by
  rw [afterQuote.eq_def]
  simp only [if_neg notSlash, if_neg notFeed]

/-- A string ends alike in both texts, unless a backslash stands right before a line feed. -/
theorem afterQuote_crlf {quote : Char} (notReturn : quote ≠ '\r') {cs : List Char}
    (clear : ¬ ['\\', '\n'] <:+: cs) :
    afterQuote quote (crlf cs) = (afterQuote quote cs).map crlf := by
  fun_induction afterQuote quote cs with
  | case1 => rfl
  | case2 => rfl
  | case3 d rest ih =>
    have hd : d ≠ '\n' := by
      rintro rfl
      exact clear ⟨[], rest, rfl⟩
    rw [crlf_cons_of_ne (by decide), crlf_cons_of_ne hd, afterQuote_escape]
    exact ih (mt List.infix_cons (mt List.infix_cons clear))
  | case4 rest =>
    rw [crlf_lineFeed, afterQuote_cons (by decide) (by decide), if_neg (Ne.symm notReturn),
      afterQuote_lineFeed]
    rfl
  | case5 rest notSlash notFeed =>
    rw [crlf_cons_of_ne notFeed, afterQuote_cons notSlash notFeed, if_pos rfl]
    rfl
  | case6 c rest notSlash notFeed notQuote ih =>
    rw [crlf_cons_of_ne notFeed, afterQuote_cons notSlash notFeed, if_neg notQuote]
    exact ih (mt List.infix_cons clear)

/-! ### Steps -/

/-- A line that begins with another character ends where the rest of it does. -/
theorem fromLineEnd_cons {c : Char} (notFeed : c ≠ '\n') (cs : List Char) :
    fromLineEnd (c :: cs) = fromLineEnd cs :=
  List.dropWhile_cons_of_pos (bne_iff_ne.2 notFeed)

theorem stops_numberPart : StopsAtEnd isNumberPart := ⟨rfl, rfl⟩

theorem stops_wordPart : StopsAtEnd isWordPart := ⟨rfl, rfl⟩

theorem stops_operatorChar : StopsAtEnd isOperatorChar := ⟨rfl, rfl⟩

/-- What is left of a text and of the same text with carriage returns: the carriage return of the
line end before which it was cut may be gone. -/
inductive Alike : List Char → List Char → Prop
  | whole (cs : List Char) : Alike cs (crlf cs)
  | lineEnd (cs : List Char) : Alike ('\n' :: cs) ('\n' :: crlf cs)

/-- The end of the first line is cut alike. -/
theorem alike_fromLineEnd (cs : List Char) : Alike (fromLineEnd cs) (fromLineEnd (crlf cs)) := by
  induction cs with
  | nil => exact .whole []
  | cons c cs ih =>
    by_cases hc : c = '\n'
    · subst hc
      exact .lineEnd cs
    · rw [crlf_cons_of_ne hc, fromLineEnd_cons hc, fromLineEnd_cons hc]
      exact ih

/-- The program of an interpreter line is the same. -/
theorem scriptOf_crlf {cs : List Char} (h : (cs.head? == some '!') = true) :
    Shebang.scriptOf (((crlf cs).drop 1).takeWhile (· != '\n')) =
      Shebang.scriptOf ((cs.drop 1).takeWhile (· != '\n')) := by
  cases cs with
  | nil => rfl
  | cons c cs =>
    obtain rfl : c = '!' := by simpa using h
    rw [crlf_cons_of_ne (by decide), List.drop_one, List.tail_cons, List.drop_one, List.tail_cons,
      Shebang.scriptOf, words_firstLine_crlf, ← Shebang.scriptOf]

/-- Two steps find the same token and leave texts that are alike. -/
structure SameStep (x x' : Option Token × List Char) : Prop where
  token : x'.1 = x.1
  left : Alike x.2 x'.2

/-- Steps that are chosen by the same test are the same if they are in both cases. -/
theorem SameStep.ite {p : Prop} [Decidable p] {x x' y y' : Option Token × List Char}
    (pos : p → SameStep x x') (neg : SameStep y y') :
    SameStep (if p then x else y) (if p then x' else y') := by
  by_cases h : p
  · rw [if_pos h, if_pos h]
    exact pos h
  · rw [if_neg h, if_neg h]
    exact neg

/-- A step finds the same token in both texts and leaves texts that are alike. -/
theorem step_crlf (lineStart : Bool) (c : Char) {cs : List Char} (clear : ¬ ['\\', '\n'] <:+: cs) :
    SameStep (step lineStart c cs) (step lineStart c (crlf cs)) := by
  have bang := head?_crlf (c := '!') (by decide) (by decide) cs
  have star := head?_crlf (c := '*') (by decide) (by decide) cs
  have arrow := isPrefixOf_crlf ['!', '-', '-'] (by decide) (by decide) cs
  have drops : SameStep (none, cs) (none, crlf cs) := ⟨rfl, .whole cs⟩
  unfold step
  rw [bang, star, arrow, isLineComment_crlf, stops_numberPart.dropWhile_crlf,
    stops_wordPart.takeWhile_crlf, stops_wordPart.dropWhile_crlf,
    stops_operatorChar.takeWhile_crlf, stops_operatorChar.dropWhile_crlf,
    afterMark_crlf ['*', '/'] (by decide) (by decide) (by decide),
    afterMark_crlf ['-', '-', '>'] (by decide) (by decide) (by decide)]
  -- the tests are the same now, and are gone through in order
  apply SameStep.ite
  · intro interpreter
    simp only [Bool.and_eq_true] at interpreter
    exact ⟨by rw [scriptOf_crlf interpreter.2], alike_fromLineEnd cs⟩
  apply SameStep.ite
  · intro blank
    exact drops
  apply SameStep.ite
  · intro lineComment
    exact ⟨rfl, alike_fromLineEnd cs⟩
  apply SameStep.ite
  · intro blockComment
    exact ⟨rfl, .whole _⟩
  apply SameStep.ite
  · intro markupComment
    exact ⟨rfl, .whole _⟩
  apply SameStep.ite
  · intro quote
    have notReturn : c ≠ '\r' := by
      rintro rfl
      exact absurd quote (by decide)
    refine ⟨rfl, ?_⟩
    rw [afterQuote_crlf notReturn clear]
    cases afterQuote c cs with
    | none => exact .whole cs
    | some rest => exact .whole rest
  apply SameStep.ite
  · intro number
    exact ⟨rfl, .whole _⟩
  apply SameStep.ite
  · intro word
    exact ⟨rfl, .whole _⟩
  apply SameStep.ite
  · intro bracket
    exact ⟨rfl, .whole cs⟩
  apply SameStep.ite
  · intro operator
    exact ⟨rfl, .whole _⟩
  exact drops

/-! ### Runs -/

/-- A line end has no token, and what follows it starts a line. -/
theorem scanAt_lineFeed (lineStart : Bool) (cs : List Char) :
    scanAt lineStart ('\n' :: cs) = scanAt true cs := by
  have blank : step lineStart '\n' cs = (none, cs) := by
    cases lineStart <;> rfl
  rw [scanAt_cons, blank]
  rfl

theorem scanAt_carriageReturn (lineStart : Bool) (cs : List Char) :
    scanAt lineStart ('\r' :: cs) = scanAt false cs := by
  have blank : step lineStart '\r' cs = (none, cs) := by
    cases lineStart <;> rfl
  rw [scanAt_cons, blank]
  rfl

/-- The same tokens are found in both texts. -/
theorem scanAt_crlf (lineStart : Bool) {cs : List Char} (clear : ¬ ['\\', '\n'] <:+: cs) :
    scanAt lineStart (crlf cs) = scanAt lineStart cs := by
  generalize hn : cs.length = n
  induction n using Nat.strongRecOn generalizing lineStart cs with
  | _ n ih =>
    cases cs with
    | nil => rfl
    | cons c cs =>
      rw [List.length_cons] at hn
      have clear' : ¬ ['\\', '\n'] <:+: cs := mt List.infix_cons clear
      by_cases hc : c = '\n'
      · subst hc
        rw [crlf_lineFeed, scanAt_carriageReturn, scanAt_lineFeed, scanAt_lineFeed]
        exact ih cs.length (by omega) true clear' rfl
      · obtain ⟨token, left⟩ := step_crlf lineStart c clear'
        have part := step_suffix lineStart c cs
        have shorter := part.length_le
        have clearLeft : ¬ ['\\', '\n'] <:+: (step lineStart c cs).2 :=
          fun inside => clear' (inside.trans part.isInfix)
        rw [crlf_cons_of_ne hc, scanAt_cons, scanAt_cons, token]
        congr 1
        -- the texts that are left are shorter, and of two kinds
        generalize (step lineStart c (crlf cs)).2 = rest' at left
        generalize (step lineStart c cs).2 = rest at left shorter clearLeft
        cases left with
        | whole => exact ih rest.length (by omega) _ clearLeft rfl
        | lineEnd rest =>
          rw [scanAt_lineFeed, scanAt_lineFeed]
          rw [List.length_cons] at shorter
          exact ih rest.length (by omega) true (mt List.infix_cons clearLeft) rfl

end Token

/-- The tokens of a file that is read as a whole. -/
theorem tokenize_encode {t : List Char} (read : (Utf8.encode t).length ≤ tokenLimit) :
    tokenize (Utf8.encode t) = (Token.scan t).map fun x => String.ofList x.text := by
  rw [tokenize, List.take_of_length_le read, Utf8.decodeLossy_encode]

/-- A file that is read as a whole has the same tokens, however its lines end. -/
theorem tokenize_crlf {t : List Char} (read : (Utf8.encode (crlf t)).length ≤ tokenLimit)
    (clear : ¬ ['\\', '\n'] <:+: t) :
    tokenize (Utf8.encode (crlf t)) = tokenize (Utf8.encode t) := by
  have read' : (Utf8.encode t).length ≤ tokenLimit :=
    Nat.le_trans (length_encode_le_crlf t) read
  rw [tokenize_encode read, tokenize_encode read', Token.scan, Token.scan,
    Token.scanAt_crlf true clear]

end LangBench
