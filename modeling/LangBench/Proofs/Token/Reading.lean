import LangBench.Proofs.Text.Word
import LangBench.Proofs.Token.LineEnd

/-!
# Reading on in a text

A text is read step by step, and what stands at its end may or may not go on in what follows.  In a
plain text, without quotes and without characters that begin a comment or an interpreter line, a
step takes a first character and then all characters of one class.

* `Reads`, `Reads.scanAt_eq`: a run of steps, and the tokens it finds;
* `isPlain`, `inside`, `begun`, `step_of_plain`: the steps in a plain text;
* `Reads.append`: a run in a plain text is the same in a longer one, unless it comes to the end;
* `EndsIn`, `EndsIn.scanAt_append`, `scanAt_append_of_apart`: the last step in a plain text, and
  when it does not go on in what follows;
* `exists_step_of_mem_scanAt`, `mem_of_mem_scanAt`: where tokens are found, and that those of a
  plain text are made of its characters.
-/

namespace LangBench

open Text

namespace Token

/-! ### Runs of steps -/

/-- Steps lead from the text `cs`, where a line starts or not, to its end part `rest`, where a line
starts or not, and find some tokens. -/
inductive Reads : Bool → List Char → List Token → Bool → List Char → Prop
  | here (lineStart : Bool) (cs : List Char) : Reads lineStart cs [] lineStart cs
  | step {lineStart : Bool} {c : Char} {cs : List Char} {found : List Token} {lineStart' : Bool}
      {rest : List Char} :
      Reads (c == '\n') (step lineStart c cs).2 found lineStart' rest →
        Reads lineStart (c :: cs) ((step lineStart c cs).1.toList ++ found) lineStart' rest

variable {lineStart lineStart' : Bool} {cs rest : List Char} {found : List Token}

namespace Reads

/-- The tokens of a text are those that are found and those of the rest. -/
theorem scanAt_eq (h : Reads lineStart cs found lineStart' rest) :
    scanAt lineStart cs = found ++ scanAt lineStart' rest := by
  induction h with
  | here => rfl
  | step _ ih => rw [scanAt_cons, ih, List.append_assoc]

/-- What is left is an end part of the text. -/
theorem suffix (h : Reads lineStart cs found lineStart' rest) : rest <:+ cs := by
  induction h with
  | here => exact List.suffix_refl _
  | step _ ih => exact ih.trans ((step_suffix _ _ _).trans (List.suffix_cons _ _))

/-- At the end of a text there is nothing more to read. -/
theorem eq_nil (h : Reads lineStart [] found lineStart' rest) : rest = [] :=
  List.suffix_nil.1 h.suffix

end Reads

/-- Where a line starts matters only to an interpreter line. -/
theorem scanAt_of_not_mark (h : ¬ ['#', '!'] <+: cs) (lineStart lineStart' : Bool) :
    scanAt lineStart cs = scanAt lineStart' cs := by
  cases cs with
  | nil => rw [scanAt_nil, scanAt_nil]
  | cons c cs =>
    have unmarked : (c == '#' && cs.head? == some '!') = false := by
      rw [Bool.eq_false_iff, Ne, Bool.and_eq_true, beq_iff_eq, beq_iff_eq]
      rintro ⟨rfl, next⟩
      obtain ⟨tail, rfl⟩ := List.head?_eq_some_iff.1 next
      exact h ⟨tail, rfl⟩
    have same : step lineStart c cs = step lineStart' c cs := by
      simp only [step, Bool.and_assoc, unmarked, Bool.and_false]
    rw [scanAt_cons, scanAt_cons, same]

/-! ### Plain texts -/

/-- Whether a character neither begins a comment or an interpreter line nor is a quote. -/
def isPlain (c : Char) : Bool :=
  !(['"', '\x27', '/', '#', '-', '<'].contains c)

theorem isPlain_iff {c : Char} : isPlain c = true ↔
    c ≠ '"' ∧ c ≠ '\x27' ∧ c ≠ '/' ∧ c ≠ '#' ∧ c ≠ '-' ∧ c ≠ '<' := by
  simp [isPlain]

/-- The characters that a step which begins with `c` takes with it. -/
def inside (c : Char) : Char → Bool :=
  if isBlank c then fun _ => false
  else if c.isDigit then isNumberPart
  else if isWordStart c then isWordPart
  else if isBracket c then fun _ => false
  else if isAsciiPunct c then isOperatorChar
  else fun _ => false

/-- The token that begins with `c` and goes on with `part`. -/
def begun (c : Char) (part : List Char) : Option Token :=
  if isBlank c then none
  else if c.isDigit then none
  else if isWordStart c then some (.word (c :: part))
  else if isBracket c then some (.bracket c)
  else if isAsciiPunct c then some (.operator (c :: part))
  else none

variable {c : Char}

/-- What takes a character that can stand neither in a number nor in a word is an operator. -/
theorem begun_of_inside {d : Char} (notNumber : isNumberPart d = false)
    (notWord : isWordPart d = false) (h : inside c d = true) (part : List Char) :
    begun c part = some (.operator (c :: part)) := by
  unfold inside at h
  unfold begun
  split_ifs at h ⊢ <;> simp_all

/-- An operator begins with an operator character and takes all of them with it. -/
theorem of_begun_operator (plain : isPlain c = true) {part cs : List Char}
    (h : begun c part = some (.operator cs)) : isOperatorChar c = true ∧
      inside c = isOperatorChar ∧ ∀ part', begun c part' = some (.operator (c :: part')) := by
  obtain ⟨quote, apostrophe, -⟩ := isPlain_iff.1 plain
  have notQuote : isQuote c = false := by simp [isQuote, quote, apostrophe]
  unfold begun at h ⊢
  unfold inside
  split_ifs at h ⊢ with blank digit word bracket punct
  · cases h
  · cases h
  · exact ⟨by simp [isOperatorChar, punct, bracket, notQuote], rfl, fun _ => rfl⟩

theorem dropWhile_never (cs : List Char) : cs.dropWhile (fun _ => false) = cs := by
  cases cs <;> rfl

/-- A step in a plain text. -/
theorem step_of_plain (plain : isPlain c = true) (lineStart : Bool) (cs : List Char) :
    step lineStart c cs = (begun c (cs.takeWhile (inside c)), cs.dropWhile (inside c)) := by
  obtain ⟨quote, apostrophe, slash, sharp, dash, angle⟩ := isPlain_iff.1 plain
  simp only [step, isLineComment, isQuote, beq_false_of_ne quote, beq_false_of_ne apostrophe,
    beq_false_of_ne slash, beq_false_of_ne sharp, beq_false_of_ne dash, beq_false_of_ne angle,
    Bool.false_and, Bool.and_false, Bool.or_false, Bool.false_eq_true, if_false]
  unfold begun inside
  split_ifs <;> simp only [dropWhile_never]

/-- A step that does not come to the end of a plain text is the same in a longer text. -/
theorem step_append_of_ne_nil (plain : isPlain c = true) (more : (step lineStart c cs).2 ≠ [])
    (ds : List Char) : step lineStart c (cs ++ ds) =
      ((step lineStart c cs).1, (step lineStart c cs).2 ++ ds) := by
  rw [step_of_plain plain] at more ⊢
  rw [step_of_plain plain]
  have stops : ¬ (cs.takeWhile (inside c)).length = cs.length := by
    intro all
    have whole := (List.takeWhile_prefix (inside c)).eq_of_length all
    exact more (List.dropWhile_eq_nil_iff.2 (List.takeWhile_eq_self_iff.1 whole))
  rw [List.takeWhile_append, if_neg stops, List.dropWhile_append, if_neg (by simpa using more)]

/-- A run in a plain text is the same in a longer one, unless it comes to the end. -/
theorem Reads.append (h : Reads lineStart cs found lineStart' rest) (more : rest ≠ [])
    (plain : ∀ d ∈ cs, isPlain d = true) (ds : List Char) :
    Reads lineStart (cs ++ ds) found lineStart' (rest ++ ds) := by
  induction h with
  | here => exact .here _ _
  | @step lineStart c cs found lineStart' rest inner ih =>
    rw [List.forall_mem_cons] at plain
    have left : (Token.step lineStart c cs).2 ≠ [] := by
      intro none
      rw [none] at inner
      exact more inner.eq_nil
    have longer := step_append_of_ne_nil plain.1 left ds
    have token : (Token.step lineStart c cs).1 = (Token.step lineStart c (cs ++ ds)).1 := by
      rw [longer]
    rw [List.cons_append, token]
    refine .step ?_
    rw [longer]
    exact ih more fun d mem => plain.2 d ((step_suffix _ _ _).subset mem)

/-! ### The end of a text -/

/-- Reading comes to `c :: tail`, which one step takes as a whole. -/
structure EndsIn (lineStart : Bool) (cs : List Char) (found : List Token) (lineStart' : Bool)
    (c : Char) (tail : List Char) : Prop where
  reads : Reads lineStart cs found lineStart' (c :: tail)
  last : (step lineStart' c tail).2 = []

/-- The last step in a text. -/
theorem exists_endsIn (nonempty : cs ≠ []) (lineStart : Bool) :
    ∃ found lineStart' c tail, EndsIn lineStart cs found lineStart' c tail := by
  induction lineStart, cs using scan_induct with
  | nil => exact absurd rfl nonempty
  | cons lineStart c cs ih =>
    by_cases last : (step lineStart c cs).2 = []
    · exact ⟨[], lineStart, c, cs, .here _ _, last⟩
    · obtain ⟨found, lineStart', d, tail, reads, ends⟩ := ih last
      exact ⟨_, lineStart', d, tail, .step reads, ends⟩

namespace EndsIn

variable {tail : List Char}

theorem suffix (h : EndsIn lineStart cs found lineStart' c tail) : c :: tail <:+ cs :=
  h.reads.suffix

/-- The last step takes the last character. -/
theorem getLast?_eq (h : EndsIn lineStart cs found lineStart' c tail) :
    cs.getLast? = some ((c :: tail).getLast (List.cons_ne_nil c tail)) := by
  obtain ⟨before, rfl⟩ := h.suffix
  rw [List.getLast?_append_of_ne_nil _ (List.cons_ne_nil c tail)]
  exact List.getLast?_eq_some_getLast (List.cons_ne_nil c tail)

variable (plain : ∀ d ∈ cs, isPlain d = true)
include plain

theorem isPlain_head (h : EndsIn lineStart cs found lineStart' c tail) : isPlain c = true :=
  plain c (h.suffix.subset List.mem_cons_self)

/-- The last step in a plain text goes on to its end. -/
theorem inside_of_mem (h : EndsIn lineStart cs found lineStart' c tail) :
    ∀ d ∈ tail, inside c d = true := by
  have last := h.last
  rw [step_of_plain (h.isPlain_head plain), List.dropWhile_eq_nil_iff] at last
  exact last

/-- What the last step in a plain text finds. -/
theorem token_eq (h : EndsIn lineStart cs found lineStart' c tail) :
    (step lineStart' c tail).1 = begun c tail := by
  rw [step_of_plain (h.isPlain_head plain), List.takeWhile_eq_self_iff.2 (h.inside_of_mem plain)]

/-- The tokens of a plain text, in front of another text. -/
theorem scanAt_append (h : EndsIn lineStart cs found lineStart' c tail) (ds : List Char) :
    scanAt lineStart (cs ++ ds) =
      found ++ (begun c (tail ++ ds.takeWhile (inside c))).toList ++
        scanAt (c == '\n') (ds.dropWhile (inside c)) := by
  have all := h.inside_of_mem plain
  rw [(h.reads.append (List.cons_ne_nil c tail) plain ds).scanAt_eq, List.cons_append,
    scanAt_cons, step_of_plain (h.isPlain_head plain), List.takeWhile_append_of_pos all,
    List.dropWhile_append_of_pos all, List.append_assoc]

/-- The tokens of a plain text. -/
theorem scanAt_eq (h : EndsIn lineStart cs found lineStart' c tail) :
    scanAt lineStart cs = found ++ (begun c tail).toList := by
  simpa using h.scanAt_append plain []

/-- What does not go on with that step is read apart. -/
theorem scanAt_append_of_apart (h : EndsIn lineStart cs found lineStart' c tail) {ds : List Char}
    (apart : ∀ d ∈ ds.head?, inside c d = false) :
    scanAt lineStart (cs ++ ds) = scanAt lineStart cs ++ scanAt (c == '\n') ds := by
  have nothing : ∀ e ∈ ([] : List Char), inside c e = true := by simp
  obtain ⟨taken, left⟩ := takeWhile_append_of_apart nothing apart
  rw [List.nil_append] at taken left
  rw [h.scanAt_append plain, h.scanAt_eq plain, taken, left, List.append_nil]

end EndsIn

/-- What the last step in a plain text does not go on with is read apart. -/
theorem scanAt_append_of_apart (plain : ∀ d ∈ cs, isPlain d = true) {ds : List Char}
    (apart : ∀ {found lineStart' c tail}, EndsIn lineStart cs found lineStart' c tail →
      ∀ d ∈ ds.head?, inside c d = false) :
    ∃ lineStart', scanAt lineStart (cs ++ ds) = scanAt lineStart cs ++ scanAt lineStart' ds := by
  by_cases empty : cs = []
  · subst empty
    exact ⟨lineStart, by rw [scanAt_nil, List.nil_append, List.nil_append]⟩
  · obtain ⟨found, lineStart', c, tail, ends⟩ := exists_endsIn empty lineStart
    exact ⟨_, ends.scanAt_append_of_apart plain (apart ends)⟩

theorem text_begun_subset {part : List Char} {t : Token} (h : t ∈ begun c part) :
    t.text ⊆ c :: part := by
  unfold begun at h
  split_ifs at h
  all_goals cases h
  · exact List.Subset.refl _
  · exact List.cons_subset_cons c (List.nil_subset part)
  · exact List.Subset.refl _

/-- Every token of a text is found by a step somewhere in it. -/
theorem exists_step_of_mem_scanAt {t : Token} (h : t ∈ scanAt lineStart cs) :
    ∃ lineStart' c tail, c :: tail <:+ cs ∧ t ∈ (step lineStart' c tail).1 := by
  induction lineStart, cs using scan_induct with
  | nil =>
    rw [scanAt_nil] at h
    cases h
  | cons lineStart c cs ih =>
    rw [scanAt_cons, List.mem_append, Option.mem_toList] at h
    rcases h with here | later
    · exact ⟨lineStart, c, cs, List.suffix_refl _, here⟩
    · obtain ⟨lineStart', d, tail, part, found⟩ := ih later
      have left := (step_suffix lineStart c cs).trans (List.suffix_cons c cs)
      exact ⟨lineStart', d, tail, part.trans left, found⟩

/-- Tokens of a plain text are made of its characters. -/
theorem mem_of_mem_scanAt (plain : ∀ d ∈ cs, isPlain d = true) {t : Token}
    (found : t ∈ scanAt lineStart cs) : ∀ d ∈ t.text, d ∈ cs := by
  obtain ⟨lineStart', c, tail, part, here⟩ := exists_step_of_mem_scanAt found
  rw [step_of_plain (plain c (part.subset List.mem_cons_self))] at here
  have taken := List.cons_subset_cons c (List.takeWhile_subset (inside c) (l := tail))
  exact fun d mem => part.subset (taken (text_begun_subset here mem))

end Token

/-- A file that is read as a whole is so in parts. -/
theorem length_encode_le_of_append {p r : List Char}
    (read : (Utf8.encode (p ++ r)).length ≤ tokenLimit) :
    (Utf8.encode p).length ≤ tokenLimit ∧ (Utf8.encode r).length ≤ tokenLimit := by
  rw [Utf8.encode_append, List.length_append] at read
  omega

end LangBench
