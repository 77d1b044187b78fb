import LangBench.Proofs.Token.Literal
import LangBench.Proofs.Token.Shape

/-!
# Tokens by position

A text may also be read by position: a step begins where a character stands and says at which
position the next one begins.  Who reads so can go wrong in two ways: reach for something outside of
the text, or never come to its end.  Here both are failures, and neither happens.

* `part?`, `lineStartAt?`, `lineEndAt?`, `runAt?`: what is read inside of the text only;
* `standsAt`, `blankAt`, `behindMark`, `behindQuote?`: what is looked for ahead, which may be beyond
  the text;
* `stepAt?`, `scanWithin?`: one step at a position, and a run of so many steps at most;
* `Leads`: a position further on in the text, and what is left there;
* `stepAt?_agrees`: a step at a position is the step in the rest of the text;
* `KeepsLine`, `keepsLine_step`: behind a step that does not come to the end, a line starts if and
  only if the step began with a line feed;
* `scanWithin?_eq`: a run by position finds the tokens of the rest of the text;
* `positions`: every step goes on inside of the text, and a run has no more steps than characters.
-/

namespace LangBench

open Text

namespace Token

/-! ### Reading by position -/

section Reading

variable (text : List Char)

/-- The part of a text from position `i` up to position `j`.  There is none if they are in the wrong
order or the second one is beyond the text. -/
def part? (i j : Nat) : Option (List Char) :=
  if i ≤ j ∧ j ≤ text.length then some ((text.drop i).take (j - i)) else none

/-- Whether a line starts at a position, which the character before it tells. -/
def lineStartAt? (i : Nat) : Option Bool :=
  if i = 0 then some true else text[i - 1]?.map (· == '\n')

/-- The position where the line ends that `i` is in. -/
def lineEndAt? (i : Nat) : Option Nat :=
  (part? text i text.length).map fun rest =>
    (rest.findIdx? (· == '\n')).elim text.length (i + ·)

/-- The position behind the characters from `i` on that are kept. -/
def runEnd (keep : Char → Bool) (i : Nat) : Nat :=
  match h : text[i]? with
  | none => i
  | some c => if keep c then runEnd keep (i + 1) else i
termination_by text.length - i
decreasing_by
  have := (List.getElem?_eq_some_iff.1 h).1
  omega

/-- The characters from `i` on that are kept, and the position behind them. -/
def runAt? (keep : Char → Bool) (i : Nat) : Option (List Char × Nat) :=
  (part? text i (runEnd text keep i)).map (·, runEnd text keep i)

/-- Whether a mark stands at a position. -/
def standsAt : List Char → Nat → Bool
  | [], _ => true
  | m :: mark, i => text[i]? == some m && standsAt mark (i + 1)

/-- Whether a blank stands at a position, or nothing. -/
def blankAt (i : Nat) : Bool :=
  text[i]?.all isBlank

/-- The position behind the first mark from `i` on; the end of the text if there is none. -/
def behindMark (mark : List Char) (i : Nat) : Nat :=
  if i < text.length ∧ standsAt text mark i = false then behindMark mark (i + 1)
  else min (i + mark.length) text.length
termination_by text.length - i

/-- The position behind the closing quote from `i` on, if there is one on the same line.  A backslash
takes the next character with it, if there is one or not. -/
def behindQuote? (quote : Char) (i : Nat) : Option Nat :=
  match h : text[i]? with
  | none => none
  | some c =>
    if c = '\\' then behindQuote? quote (i + 2)
    else if c = '\n' then none
    else if c = quote then some (i + 1)
    else behindQuote? quote (i + 1)
termination_by text.length - i
decreasing_by
  all_goals
    have := (List.getElem?_eq_some_iff.1 h).1
    omega

/-- The token at position `i`, where `c` stands, if it is not dropped, and the position behind it;
nothing if something outside of the text is read. -/
def stepAt? (c : Char) (i : Nat) : Option (Option Token × Nat) := do
  let lineStart ← lineStartAt? text i
  if lineStart && standsAt text ['#', '!'] i then
    let stop ← lineEndAt? text i
    let line ← part? text i stop
    return ((Shebang.scriptOf (line.drop 2)).map .script, stop)
  else if isBlank c then return (none, i + 1)
  else if standsAt text ['/', '/'] i || (c == '#' && blankAt text (i + 1)) ||
      (standsAt text ['-', '-'] i && blankAt text (i + 2)) then
    return (none, ← lineEndAt? text i)
  else if standsAt text ['/', '*'] i then return (none, behindMark text ['*', '/'] i)
  else if standsAt text ['<', '!', '-', '-'] i then
    return (none, behindMark text ['-', '-', '>'] i)
  else if isQuote c then return (none, (behindQuote? text c (i + 1)).getD (i + 1))
  else if c.isDigit then
    let (_, stop) ← runAt? text isNumberPart i
    return (none, stop)
  else if isWordStart c then
    let (chars, stop) ← runAt? text isWordPart i
    return (some (.word chars), stop)
  else if isBracket c then return (some (.bracket c), i + 1)
  else if isAsciiPunct c then
    let (chars, stop) ← runAt? text isOperatorChar i
    return (some (.operator chars), stop)
  else return (none, i + 1)

/-- The tokens from position `i` on, read in `n` steps at most; nothing if there are more steps, or
something outside of the text is read. -/
def scanWithin? (n i : Nat) : Option (List Token) :=
  match text[i]? with
  | none => some []
  | some c =>
    match n with
    | 0 => none
    | n + 1 => do
      let (token, next) ← stepAt? text c i
      return token.toList ++ (← scanWithin? n next)

end Reading

/-! ### Positions further on -/

/-- Position `j` is not before `i` and not beyond the text, and `rest` is left there. -/
structure Leads (text : List Char) (i j : Nat) (rest : List Char) : Prop where
  le : i ≤ j
  le_length : j ≤ text.length
  drop_eq : text.drop j = rest

section Leads

variable {text : List Char} {i j : Nat} {c : Char} {cs rest : List Char}

/-- What is left at the position of a character begins with it. -/
theorem drop_eq_cons (here : text[i]? = some c) : text.drop i = c :: text.drop (i + 1) := by
  obtain ⟨inside, rfl⟩ := List.getElem?_eq_some_iff.1 here
  exact List.drop_eq_getElem_cons inside

theorem drop_eq_nil (here : text[i]? = none) : text.drop i = [] := by
  rwa [← List.head?_drop, List.head?_eq_none_iff] at here

theorem lt_length (here : text[i]? = some c) : i < text.length :=
  (List.getElem?_eq_some_iff.1 here).1

namespace Leads

theorem refl (le : i ≤ text.length) : Leads text i i (text.drop i) :=
  ⟨Nat.le_refl i, le, rfl⟩

/-- Behind what is taken the rest is left. -/
theorem of_split {taken : List Char} (split : text.drop i = taken ++ rest)
    (le : i ≤ text.length) : Leads text i (i + taken.length) rest where
  le := Nat.le_add_right _ _
  le_length := by
    have lengths := congrArg List.length split
    rw [List.length_append, List.length_drop] at lengths
    omega
  drop_eq := by rw [← List.drop_drop, split, List.drop_left]

/-- What is behind a later position is behind this one. -/
theorem of_add {k : Nat} (h : Leads text (i + k) j rest) : Leads text i j rest where
  le := by
    have := h.le
    omega
  le_length := h.le_length
  drop_eq := h.drop_eq

theorem rel_of_add {k : Nat} {found : Option Nat} {left : Option (List Char)}
    (h : Option.Rel (Leads text (i + k)) found left) : Option.Rel (Leads text i) found left := by
  cases h with
  | some leads => exact .some leads.of_add
  | none => exact .none

/-- A part is what stands in front of what is left. -/
theorem part?_eq (h : Leads text i j rest) {taken : List Char}
    (split : text.drop i = taken ++ rest) : part? text i j = some taken := by
  have long : taken.length = j - i := by
    have lengths := congrArg List.length split
    have left := congrArg List.length h.drop_eq
    have := h.le_length
    rw [List.length_append, ← left, List.length_drop, List.length_drop] at lengths
    omega
  rw [part?, if_pos ⟨h.le, h.le_length⟩, split, ← long, List.take_left]

end Leads

theorem leads_runEnd (keep : Char → Bool) (le : i ≤ text.length) :
    Leads text i (runEnd text keep i) ((text.drop i).dropWhile keep) := by
  fun_induction runEnd text keep i with
  | case1 i beyond =>
    rw [drop_eq_nil beyond]
    exact ⟨Nat.le_refl i, le, drop_eq_nil beyond⟩
  | case2 i c here kept ih =>
    rw [drop_eq_cons here, List.dropWhile_cons_of_pos kept]
    exact (ih (lt_length here)).of_add
  | case3 i c here dropped =>
    rw [drop_eq_cons here, List.dropWhile_cons_of_neg dropped, ← drop_eq_cons here]
    exact .refl le

/-- A run is read inside of the text. -/
theorem runAt?_eq (keep : Char → Bool) (le : i ≤ text.length) :
    runAt? text keep i = some ((text.drop i).takeWhile keep, runEnd text keep i) := by
  have split : text.drop i = (text.drop i).takeWhile keep ++ (text.drop i).dropWhile keep :=
    List.takeWhile_append_dropWhile.symm
  rw [runAt?, (leads_runEnd keep le).part?_eq split]
  rfl

/-- What stands before the first line feed, counted. -/
theorem elim_findIdx?_lineFeed (cs : List Char) (i : Nat) :
    (cs.findIdx? (· == '\n')).elim (i + cs.length) (i + ·) =
      i + (cs.takeWhile (· != '\n')).length := by
  induction cs generalizing i with
  | nil => rfl
  | cons c cs ih =>
    by_cases feed : c = '\n'
    · subst feed
      rfl
    · have next := ih (i + 1)
      rw [List.findIdx?_cons, if_neg (by simpa using feed), Option.elim_map,
        List.takeWhile_cons_of_pos (by simpa using feed), List.length_cons, List.length_cons]
      simp only [Function.comp_def, Nat.add_assoc, Nat.add_comm 1] at next ⊢
      exact next

/-- The end of a line is looked for inside of the text. -/
theorem lineEndAt?_eq (le : i ≤ text.length) :
    ∃ j, lineEndAt? text i = some j ∧ Leads text i j (fromLineEnd (text.drop i)) := by
  have whole : part? text i text.length = some (text.drop i) := by
    rw [part?, if_pos ⟨le, Nat.le_refl _⟩, List.take_of_length_le (by rw [List.length_drop])]
  have split : text.drop i =
      (text.drop i).takeWhile (· != '\n') ++ fromLineEnd (text.drop i) :=
    List.takeWhile_append_dropWhile.symm
  have length : i + (text.drop i).length = text.length := by
    rw [List.length_drop]
    omega
  have found := elim_findIdx?_lineFeed (text.drop i) i
  rw [length] at found
  exact ⟨_, by rw [lineEndAt?, whole, Option.map_some, found], .of_split split le⟩

theorem standsAt_eq (mark : List Char) (i : Nat) :
    standsAt text mark i = mark.isPrefixOf (text.drop i) := by
  induction mark generalizing i with
  | nil => rw [standsAt, List.isPrefixOf_nil_left]
  | cons m mark ih =>
    rw [standsAt, ih]
    cases here : text[i]? with
    | none =>
      rw [drop_eq_nil here]
      rfl
    | some c =>
      rw [drop_eq_cons here, List.isPrefixOf_cons_cons, BEq.comm]
      rfl

/-- A mark is looked for up to the end of the text. -/
theorem leads_behindMark (mark : List Char) (le : i ≤ text.length) :
    Leads text i (behindMark text mark i) (afterMark mark (text.drop i)) := by
  fun_induction behindMark text mark i with
  | case1 i more ih =>
    obtain ⟨inside, elsewhere⟩ := more
    rw [standsAt_eq, drop_eq_cons (List.getElem?_eq_getElem inside)] at elsewhere
    rw [drop_eq_cons (List.getElem?_eq_getElem inside), afterMark, elsewhere]
    exact (ih inside).of_add
  | case2 i last =>
    by_cases inside : i < text.length
    · have here : standsAt text mark i = true := by
        simpa [inside] using last
      rw [standsAt_eq] at here
      obtain ⟨rest, split⟩ := List.isPrefixOf_iff_prefix.1 here
      have leads := Leads.of_split split.symm le
      have after : afterMark mark (text.drop i) = rest := by
        rw [drop_eq_cons (List.getElem?_eq_getElem inside)] at here split ⊢
        rw [afterMark, if_pos here, ← split, List.drop_left]
      rwa [Nat.min_eq_left leads.le_length, after]
    · have atEnd : i = text.length := Nat.le_antisymm le (Nat.le_of_not_lt inside)
      subst atEnd
      rw [Nat.min_eq_right (Nat.le_add_right _ _), List.drop_length]
      exact ⟨Nat.le_refl _, Nat.le_refl _, List.drop_length⟩

/-- A backslash takes the next character with it, if there is one. -/
theorem afterQuote_slash (quote : Char) (cs : List Char) :
    afterQuote quote ('\\' :: cs) = afterQuote quote (cs.drop 1) := by
  cases cs with
  | nil => rfl
  | cons d cs => exact afterQuote_escape quote d cs

/-- The closing quote is found by position where it is found in the rest of the text. -/
theorem leads_behindQuote? (quote : Char) (i : Nat) :
    Option.Rel (Leads text i) (behindQuote? text quote i) (afterQuote quote (text.drop i)) := by
  fun_induction behindQuote? text quote i with
  | case1 i beyond =>
    rw [drop_eq_nil beyond]
    exact .none
  | case2 i here ih =>
    rw [drop_eq_cons here, afterQuote_slash, List.drop_drop]
    exact Leads.rel_of_add ih
  | case3 i here notSlash =>
    rw [drop_eq_cons here, afterQuote_lineFeed]
    exact .none
  | case4 i here notSlash notFeed =>
    rw [drop_eq_cons here, afterQuote_cons notSlash notFeed, if_pos rfl]
    exact .some (Leads.of_add (Leads.refl (lt_length here)))
  | case5 i c here notSlash notFeed notQuote ih =>
    rw [drop_eq_cons here, afterQuote_cons notSlash notFeed, if_neg notQuote]
    exact Leads.rel_of_add ih

/-! ### One step -/

theorem blankAt_eq (text : List Char) (i : Nat) : blankAt text i = atBlank (text.drop i) := by
  rw [blankAt, atBlank, List.head?_drop]

/-- A mark stands at a position if its first character does and the others behind it. -/
theorem standsAt_cons (here : text[i]? = some c) (m : Char) (mark : List Char) :
    standsAt text (m :: mark) i = (c == m && mark.isPrefixOf (text.drop (i + 1))) := by
  rw [standsAt, here, standsAt_eq]
  rfl

theorem isPrefixOf_singleton (m : Char) (cs : List Char) :
    [m].isPrefixOf cs = (cs.head? == some m) := by
  cases cs with
  | nil => rfl
  | cons c cs =>
    rw [List.isPrefixOf_cons_cons, List.isPrefixOf_nil_left, Bool.and_true, BEq.comm]
    rfl

/-- A line comment is seen by position where it is seen in the rest of the text. -/
theorem isLineComment_eq (here : text[i]? = some c) :
    (standsAt text ['/', '/'] i || (c == '#' && blankAt text (i + 1)) ||
      (standsAt text ['-', '-'] i && blankAt text (i + 2))) =
        isLineComment c (text.drop (i + 1)) := by
  have second : text.drop (i + 2) = (text.drop (i + 1)).drop 1 := by rw [List.drop_drop]
  rw [standsAt_cons here, standsAt_cons here, isPrefixOf_singleton, isPrefixOf_singleton,
    blankAt_eq, blankAt_eq, second, isLineComment]

/-- A step by position succeeds and comes to where a step in the rest of the text comes. -/
def Agrees (text : List Char) (byPosition : Option (Option Token × Nat))
    (byRest : Option Token × List Char) : Prop :=
  ∃ token j, byPosition = some (token, j) ∧ j ≤ text.length ∧ byRest = (token, text.drop j)

namespace Agrees

theorem of_leads (h : Leads text i j rest) (token : Option Token) :
    Agrees text (some (token, j)) (token, rest) :=
  ⟨token, j, rfl, h.le_length, by rw [h.drop_eq]⟩

theorem ite {p : Prop} [Decidable p] {x x' : Option (Option Token × Nat)}
    {y y' : Option Token × List Char} (pos : p → Agrees text x y) (neg : ¬p → Agrees text x' y') :
    Agrees text (if p then x else x') (if p then y else y') := by
  by_cases h : p
  · rw [if_pos h, if_pos h]
    exact pos h
  · rw [if_neg h, if_neg h]
    exact neg h

end Agrees

/-- The text of an interpreter line behind its mark. -/
theorem drop_takeWhile_mark (bang : cs.head? = some '!') :
    (('#' :: cs).takeWhile (· != '\n')).drop 2 = (cs.drop 1).takeWhile (· != '\n') := by
  obtain ⟨rest, rfl⟩ := List.head?_eq_some_iff.1 bang
  rfl

/-- A mark that begins otherwise is looked for behind a character. -/
theorem afterMark_cons {m : Char} (different : (m == c) = false) (mark cs : List Char) :
    afterMark (m :: mark) (c :: cs) = afterMark (m :: mark) cs := by
  rw [afterMark, List.isPrefixOf_cons_cons, different, Bool.false_and]
  rfl

/-- What begins a line comment is no line feed. -/
theorem ne_lineFeed_of_isLineComment (h : isLineComment c cs = true) : c ≠ '\n' := by
  rintro rfl
  exact Bool.false_ne_true h

/-- A step at a position is the step in the rest of the text. -/
theorem stepAt?_agrees {lineStart : Bool} (here : text[i]? = some c)
    (start : lineStartAt? text i = some lineStart) :
    Agrees text (stepAt? text c i) (step lineStart c (text.drop (i + 1))) := by
  have le : i ≤ text.length := (lt_length here).le
  have next : Leads text (i + 1) (i + 1) (text.drop (i + 1)) := .refl (lt_length here)
  obtain ⟨stop, found, line⟩ := lineEndAt?_eq le
  have cut : part? text i stop = some ((text.drop i).takeWhile (· != '\n')) :=
    line.part?_eq List.takeWhile_append_dropWhile.symm
  have run : ∀ keep, Leads text i (runEnd text keep i)
      ((c :: text.drop (i + 1)).dropWhile keep) := by
    rw [← drop_eq_cons here]
    exact fun keep => leads_runEnd keep le
  have marked : ∀ mark, Leads text i (behindMark text mark i)
      (afterMark mark (c :: text.drop (i + 1))) := by
    rw [← drop_eq_cons here]
    exact fun mark => leads_behindMark mark le
  unfold stepAt? step
  rw [isLineComment_eq here, standsAt_cons here, standsAt_cons here, standsAt_cons here,
    isPrefixOf_singleton, isPrefixOf_singleton, start]
  simp only [Option.bind_eq_bind, Option.bind_some, Option.pure_def, found, runAt?_eq _ le]
  rw [← Bool.and_assoc]
  rw [drop_eq_cons here] at line cut ⊢
  -- the tests are the same now; where a helper begins at `c` itself, the test tells that it takes it
  apply Agrees.ite
  · intro interpreter
    simp only [Bool.and_eq_true, beq_iff_eq] at interpreter
    obtain ⟨⟨-, rfl⟩, bang⟩ := interpreter
    rw [cut, Option.bind_some, drop_takeWhile_mark bang, ← fromLineEnd_cons (c := '#') (by decide)]
    exact .of_leads line _
  intro _
  apply Agrees.ite
  · intro blank
    exact .of_leads next _
  intro notBlank
  apply Agrees.ite
  · intro lineComment
    rw [fromLineEnd_cons (ne_lineFeed_of_isLineComment lineComment)] at line
    exact .of_leads line _
  intro _
  apply Agrees.ite
  · intro blockComment
    simp only [Bool.and_eq_true, beq_iff_eq] at blockComment
    obtain ⟨rfl, -⟩ := blockComment
    rw [← afterMark_cons (c := '/') (by decide)]
    exact .of_leads (marked _) _
  intro _
  apply Agrees.ite
  · intro markupComment
    simp only [Bool.and_eq_true, beq_iff_eq] at markupComment
    obtain ⟨rfl, -⟩ := markupComment
    rw [← afterMark_cons (c := '<') (by decide)]
    exact .of_leads (marked _) _
  intro _
  apply Agrees.ite
  · intro quote
    have closed : Option.Rel (Leads text (i + 1)) _ _ := leads_behindQuote? c (i + 1)
    generalize behindQuote? text c (i + 1) = position at closed ⊢
    generalize afterQuote c (text.drop (i + 1)) = left at closed ⊢
    cases closed with
    | some leads => exact .of_leads leads _
    | none => exact .of_leads next _
  intro notQuote
  apply Agrees.ite
  · intro digit
    have kept : isNumberPart c = true := by simp [isNumberPart, Char.isAlphanum, digit]
    rw [← List.dropWhile_cons_of_pos kept]
    exact .of_leads (run _) _
  intro _
  apply Agrees.ite
  · intro word
    have kept := isWordPart_of_isWordStart word
    rw [List.takeWhile_cons_of_pos kept, ← List.dropWhile_cons_of_pos kept]
    exact .of_leads (run _) _
  intro _
  apply Agrees.ite
  · intro bracket
    exact .of_leads next _
  intro notBracket
  apply Agrees.ite
  · intro operator
    have kept : isOperatorChar c = true := by
      rw [Bool.not_eq_true] at notBracket notQuote
      rw [isOperatorChar, operator, notBracket, notQuote]
      rfl
    rw [List.takeWhile_cons_of_pos kept, ← List.dropWhile_cons_of_pos kept]
    exact .of_leads (run _) _
  intro _
  exact .of_leads next _

/-! ### Where lines start -/

/-- What is taken behind `c` to leave `rest` ends in a line feed if and only if `c` is one. -/
def KeepsLine (c : Char) (cs rest : List Char) : Prop :=
  ∃ taken, cs = taken ++ rest ∧ ∀ d ∈ (c :: taken).getLast?, (d == '\n') = (c == '\n')

namespace KeepsLine

/-- A step that takes only `c`. -/
theorem refl (c : Char) (cs : List Char) : KeepsLine c cs cs := by
  refine ⟨[], rfl, ?_⟩
  rintro d ⟨⟩
  rfl

/-- A step that takes no line feeds. -/
theorem dropWhile {p : Char → Bool} (notFeed : c ≠ '\n') (stops : p '\n' = false)
    (cs : List Char) : KeepsLine c cs (cs.dropWhile p) := by
  refine ⟨cs.takeWhile p, List.takeWhile_append_dropWhile.symm, fun d last => ?_⟩
  have other : d ≠ '\n' := by
    rintro rfl
    rcases List.mem_cons.1 (List.mem_of_mem_getLast? last) with head | inner
    · exact notFeed head.symm
    · exact absurd (List.mem_takeWhile_imp inner) (Bool.eq_false_iff.1 stops)
  rw [beq_false_of_ne other, beq_false_of_ne notFeed]

/-- A step whose last character is known. -/
theorem of_last {d : Char} {before : List Char} (split : cs = before ++ d :: rest)
    (alike : (d == '\n') = (c == '\n')) : KeepsLine c cs rest := by
  refine ⟨before ++ [d], by rw [split, List.append_assoc, List.singleton_append], fun e last => ?_⟩
  rw [← List.cons_append, List.getLast?_concat] at last
  obtain rfl := Option.some.inj last
  exact alike

end KeepsLine

/-- A mark that is found is taken as a whole. -/
theorem exists_afterMark {mark : List Char} (more : afterMark mark cs ≠ []) :
    ∃ before, cs = before ++ (mark ++ afterMark mark cs) := by
  induction cs with
  | nil => exact absurd rfl more
  | cons c cs ih =>
    rw [afterMark] at more ⊢
    split at more
    · next here =>
      rw [if_pos here]
      exact ⟨[], (List.prefix_iff_eq_append.1 (List.isPrefixOf_iff_prefix.1 here)).symm⟩
    · next elsewhere =>
      rw [if_neg elsewhere]
      obtain ⟨before, split⟩ := ih more
      exact ⟨c :: before, congrArg (c :: ·) split⟩

/-- Behind a step that does not come to the end of the text a line starts if and only if the step
began with a line feed. -/
theorem keepsLine_step (lineStart : Bool) (c : Char) (cs : List Char)
    (more : (step lineStart c cs).2 ≠ []) : KeepsLine c cs (step lineStart c cs).2 := by
  have notFeed : isBlank c ≠ true → c ≠ '\n' := by
    rintro notBlank rfl
    exact notBlank rfl
  revert more
  fun_cases step lineStart c cs with
  | case1 interpreter =>
    intro _
    simp only [Bool.and_eq_true, beq_iff_eq] at interpreter
    obtain ⟨⟨-, rfl⟩, -⟩ := interpreter
    exact .dropWhile (by decide) rfl cs
  | case3 _ _ comment =>
    intro _
    exact .dropWhile (ne_lineFeed_of_isLineComment comment) rfl cs
  | case4 _ _ _ block =>
    intro more
    obtain ⟨before, split⟩ := exists_afterMark more
    simp only [Bool.and_eq_true, beq_iff_eq] at block
    obtain ⟨rfl, -⟩ := block
    have last : cs = (before ++ ['*']) ++ '/' :: afterMark ['*', '/'] cs := by
      rwa [List.append_assoc]
    exact .of_last last rfl
  | case5 _ _ _ _ markup =>
    intro more
    obtain ⟨before, split⟩ := exists_afterMark more
    simp only [Bool.and_eq_true, beq_iff_eq] at markup
    obtain ⟨rfl, -⟩ := markup
    have last : cs = (before ++ ['-', '-']) ++ '>' :: afterMark ['-', '-', '>'] cs := by
      rwa [List.append_assoc]
    exact .of_last last rfl
  | case6 _ _ _ _ _ quote =>
    intro _
    cases closed : afterQuote c cs with
    | none => exact .refl c cs
    | some rest =>
      obtain ⟨body, -, split⟩ := (afterQuote_eq_some_iff (isQuote_ne quote)).1 closed
      exact .of_last split rfl
  | case7 _ notBlank =>
    intro _
    exact .dropWhile (notFeed notBlank) rfl cs
  | case8 _ notBlank =>
    intro _
    exact .dropWhile (notFeed notBlank) rfl cs
  | case10 _ notBlank =>
    intro _
    exact .dropWhile (notFeed notBlank) rfl cs
  | _ =>
    intro _
    exact .refl c cs

/-- Where a line starts is told inside of the text. -/
theorem exists_lineStartAt? (le : i ≤ text.length) : ∃ b, lineStartAt? text i = some b := by
  cases i with
  | zero => exact ⟨true, rfl⟩
  | succ i =>
    rw [lineStartAt?, if_neg (Nat.succ_ne_zero i), Nat.add_sub_cancel, List.getElem?_eq_getElem le,
      Option.map_some]
    exact ⟨_, rfl⟩

/-- A step at a position goes on, and not beyond the text. -/
theorem exists_stepAt? {lineStart : Bool} (here : text[i]? = some c)
    (start : lineStartAt? text i = some lineStart) :
    ∃ token next, stepAt? text c i = some (token, next) ∧ i < next ∧ next ≤ text.length ∧
      step lineStart c (text.drop (i + 1)) = (token, text.drop next) := by
  obtain ⟨token, next, found, le, same⟩ := stepAt?_agrees here start
  have taken := length_step_le lineStart c (text.drop (i + 1))
  have inside := lt_length here
  rw [same, List.length_drop, List.length_drop] at taken
  exact ⟨token, next, found, by omega, le, same⟩

/-- Behind a step a line starts by position where it does in the rest of the text. -/
theorem lineStartAt?_next {lineStart : Bool} {token : Option Token} (here : text[i]? = some c)
    (same : step lineStart c (text.drop (i + 1)) = (token, text.drop j)) (le : j < text.length) :
    lineStartAt? text j = some (c == '\n') := by
  have more : (step lineStart c (text.drop (i + 1))).2 ≠ [] := by
    rw [same, Ne, List.drop_eq_nil_iff]
    omega
  obtain ⟨taken, split, last⟩ := keepsLine_step lineStart c _ more
  rw [same] at split
  have inside := lt_length here
  have position : j = i + (taken.length + 1) := by
    have lengths := congrArg List.length split
    rw [List.length_append, List.length_drop, List.length_drop] at lengths
    omega
  -- the character before `j` is the last one that was taken
  have before : text[j - 1]? = (c :: taken).getLast? := by
    rw [position, ← Nat.add_assoc, Nat.add_sub_cancel, ← List.getElem?_drop, drop_eq_cons here,
      split, ← List.cons_append, List.getElem?_append_left (Nat.lt_succ_self _),
      List.getLast?_eq_getElem?]
    rfl
  obtain ⟨d, found⟩ : ∃ d, (c :: taken).getLast? = some d :=
    ⟨_, List.getLast?_eq_some_getLast (List.cons_ne_nil c taken)⟩
  rw [lineStartAt?, if_neg (by omega), before, found, Option.map_some, last d found]

/-- A run that may take as many steps as there are characters left finds the tokens of what is
left. -/
theorem scanWithin?_eq {n : Nat} {lineStart : Bool} (enough : text.length ≤ i + n)
    (le : i ≤ text.length) (start : i < text.length → lineStartAt? text i = some lineStart) :
    scanWithin? text n i = some (scanAt lineStart (text.drop i)) := by
  induction n generalizing i lineStart with
  | zero =>
    have beyond : text[i]? = none := List.getElem?_eq_none enough
    rw [scanWithin?, beyond, drop_eq_nil beyond, scanAt_nil]
  | succ n ih =>
    rw [scanWithin?]
    cases here : text[i]? with
    | none => rw [drop_eq_nil here, scanAt_nil]
    | some c =>
      obtain ⟨token, next, found, further, inside, same⟩ :=
        exists_stepAt? here (start (lt_length here))
      have rest : scanWithin? text n next = some (scanAt (c == '\n') (text.drop next)) :=
        ih (by omega) inside (lineStartAt?_next here same)
      rw [drop_eq_cons here, scanAt_cons, same]
      simp only [found, Option.bind_eq_bind, Option.bind_some, rest, Option.pure_def]

end Leads

/-- **Progress and bounds.**  At every position where a character stands, a step reads nothing
outside of the text, goes on at least one character, never beyond the end of the text, and finds
what a step in the rest of the text finds; lines and runs are read inside of the text from every
position of it, the end too; and a run takes no more steps than there are characters. -/
theorem positions (text : List Char) :
    (∀ i c, text[i]? = some c → ∃ lineStart token next,
      lineStartAt? text i = some lineStart ∧ stepAt? text c i = some (token, next) ∧
      i < next ∧ next ≤ text.length ∧
      step lineStart c (text.drop (i + 1)) = (token, text.drop next)) ∧
    (∀ i ≤ text.length, (∃ lineStart, lineStartAt? text i = some lineStart) ∧
      (∃ j, lineEndAt? text i = some j ∧ i ≤ j ∧ j ≤ text.length) ∧
      ∀ keep, ∃ chars j, runAt? text keep i = some (chars, j) ∧ i ≤ j ∧ j ≤ text.length) ∧
    ∀ n, text.length ≤ n → scanWithin? text n 0 = some (scan text) := by
  refine ⟨fun i c here => ?_, fun i le => ⟨exists_lineStartAt? le, ?_, fun keep => ?_⟩,
    fun n enough => ?_⟩
  · obtain ⟨lineStart, start⟩ := exists_lineStartAt? (lt_length here).le
    obtain ⟨token, next, found⟩ := exists_stepAt? here start
    exact ⟨lineStart, token, next, start, found⟩
  · obtain ⟨j, found, leads⟩ := lineEndAt?_eq le
    exact ⟨j, found, leads.le, leads.le_length⟩
  · have leads := leads_runEnd keep le
    exact ⟨_, _, runAt?_eq keep le, leads.le, leads.le_length⟩
  · rw [scanWithin?_eq (by rwa [Nat.zero_add]) (Nat.zero_le _) fun _ => rfl]
    rfl

/-- A quote and a comment that are not closed: behind the backslash a closing quote is looked for
beyond the text, and so is the end of the comment. -/
theorem positions_unclosed :
    let text := "'/*\\".toList
    text[0]? = some '\x27' ∧ text[1]? = some '/' ∧
    stepAt? text '\x27' 0 = some (none, 1) ∧ stepAt? text '/' 1 = some (none, 4) ∧
    (∃ lineStart token next,
      lineStartAt? text 1 = some lineStart ∧ stepAt? text '/' 1 = some (token, next) ∧
      1 < next ∧ next ≤ text.length ∧
      step lineStart '/' (text.drop 2) = (token, text.drop next)) ∧
    (∃ j, lineEndAt? text 4 = some j ∧ 4 ≤ j ∧ j ≤ text.length) ∧
    (∃ chars j, runAt? text isWordPart 4 = some (chars, j) ∧ 4 ≤ j ∧ j ≤ text.length) ∧
    scanWithin? text 4 0 = some (scan text) ∧ scanWithin? text 1 0 = none := by
  intro text
  obtain ⟨steps, reads, run⟩ := positions text
  have here : text[1]? = some '/' := by decide
  obtain ⟨-, line, runs⟩ := reads 4 (by decide)
  exact ⟨by decide, here, by decide +kernel, by decide +kernel, steps 1 '/' here, line,
    runs isWordPart, run 4 (by decide), by decide +kernel⟩

end Token

end LangBench
