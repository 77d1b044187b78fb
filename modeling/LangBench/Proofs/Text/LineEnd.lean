import LangBench.Proofs.Text.Line
import LangBench.Proofs.Text.Utf8
import LangBench.Proofs.Text.Word

/-!
# Line ends of two characters

A line may end with a line feed alone or with a carriage return before it.  What reads a text line
by line, or stops at both characters, does not tell one from the other.

* `crlf`: a text with a carriage return before every line feed;
* `lines_crlf`: its lines are those of the text;
* `Cut.firstLine_eq`, `words_firstLine_crlf`: its first line has the same words;
* `StopsAtEnd`: classes of characters that skip no line end, and what they take and leave;
* `head?_crlf`, `isPrefixOf_crlf`: a mark without line end is found in both or in neither.
-/

namespace LangBench.Text

/-- A text with a carriage return before every line feed. -/
def crlf (cs : List Char) : List Char :=
  cs.flatMap fun c => if c = '\n' then ['\r', '\n'] else [c]

@[simp] theorem crlf_nil : crlf [] = [] := rfl

@[simp] theorem crlf_lineFeed (cs : List Char) : crlf ('\n' :: cs) = '\r' :: '\n' :: crlf cs := rfl

theorem crlf_cons_of_ne {c : Char} (hc : c ≠ '\n') (cs : List Char) :
    crlf (c :: cs) = c :: crlf cs := by
  rw [crlf, List.flatMap_cons, if_neg hc]
  rfl

theorem crlf_append (cs ds : List Char) : crlf (cs ++ ds) = crlf cs ++ crlf ds :=
  List.flatMap_append

/-- Nothing changes where no line ends. -/
theorem crlf_of_notMem {cs : List Char} (h : '\n' ∉ cs) : crlf cs = cs := by
  induction cs with
  | nil => rfl
  | cons c cs ih =>
    rw [List.mem_cons, not_or] at h
    rw [crlf_cons_of_ne (Ne.symm h.1), ih h.2]

theorem mem_crlf {c : Char} {cs : List Char} (h : c ∈ crlf cs) : c ∈ cs ∨ c = '\r' := by
  obtain ⟨d, mem, here⟩ := List.mem_flatMap.1 h
  split_ifs at here with end_
  · subst end_
    rw [List.mem_cons, List.mem_singleton] at here
    rcases here with rfl | rfl
    · exact .inr rfl
    · exact .inl mem
  · rw [List.mem_singleton] at here
    exact .inl (here ▸ mem)

/-- No byte of a text is lost. -/
theorem length_encode_le_crlf (cs : List Char) :
    (Utf8.encode cs).length ≤ (Utf8.encode (crlf cs)).length := by
  induction cs with
  | nil => exact Nat.le_refl 0
  | cons c cs ih =>
    by_cases hc : c = '\n'
    · subst hc
      rw [crlf_lineFeed]
      simp only [Utf8.encode_cons, List.length_append]
      omega
    · rw [crlf_cons_of_ne hc]
      simp only [Utf8.encode_cons, List.length_append]
      omega

/-! ### Lines -/

theorem dropCarriageReturn_append (l : List Char) : dropCarriageReturn (l ++ ['\r']) = l := by
  rw [dropCarriageReturn, List.getLast?_concat, if_pos rfl, List.dropLast_concat]

theorem dropCarriageReturn_of_notMem {l : List Char} (h : '\r' ∉ l) : dropCarriageReturn l = l := by
  rw [dropCarriageReturn, if_neg]
  intro last
  exact h (List.mem_of_getLast? last)

/-- Every line that ends gets a carriage return at its end. -/
theorem Cut.crlf {cs tail : List Char} {ended : List (List Char)} (h : Cut cs ended tail) :
    Cut (crlf cs) (ended.map (· ++ ['\r'])) tail := by
  obtain ⟨rfl, ended_clear, tail_clear⟩ := h
  refine ⟨?_, ?_, tail_clear⟩
  · rw [crlf_append, crlf_of_notMem tail_clear]
    congr 1
    induction ended with
    | nil => rfl
    | cons l ls ih =>
      rw [List.forall_mem_cons] at ended_clear
      rw [List.flatMap_cons, List.map_cons, List.flatMap_cons, crlf_append, crlf_append,
        crlf_of_notMem ended_clear.1, ih ended_clear.2, List.append_assoc (l ++ ['\r']),
        List.append_assoc l, List.append_assoc l]
      rfl
  · intro l mem
    obtain ⟨m, member, rfl⟩ := List.mem_map.1 mem
    rw [List.mem_append, not_or]
    exact ⟨ended_clear m member, by decide⟩

/-- The lines of a text do not depend on how they end. -/
theorem lines_crlf {cs : List Char} (h : '\r' ∉ cs) : lines (crlf cs) = lines cs := by
  obtain ⟨ended, tail, cut⟩ := exists_cut cs
  have same : (ended.map (· ++ ['\r'])).map dropCarriageReturn = ended.map dropCarriageReturn := by
    rw [List.map_map]
    apply List.map_congr_left
    intro l mem
    have clear : '\r' ∉ l := by
      intro member
      apply h
      rw [cut.text_eq, List.mem_append, List.mem_flatMap]
      exact .inl ⟨l, mem, List.mem_append_left _ member⟩
    show dropCarriageReturn (l ++ ['\r']) = dropCarriageReturn l
    rw [dropCarriageReturn_append, dropCarriageReturn_of_notMem clear]
  rw [cut.crlf.lines_eq, cut.lines_eq, same]

/-! ### Words -/

/-- A blank at the end of a text adds no word. -/
theorem words_append_blank {c : Char} (hc : isBlank c = true) (cs : List Char) :
    words (cs ++ [c]) = words cs := by
  rw [words_append_blank_cons hc, words_nil, List.append_nil]

/-- The first line of a text is its first part, or its tail if no line ends. -/
theorem Cut.firstLine_eq {cs tail : List Char} {ended : List (List Char)} (h : Cut cs ended tail) :
    cs.takeWhile (· != '\n') = ended.head?.getD tail := by
  obtain ⟨rfl, ended_clear, tail_clear⟩ := h
  cases ended with
  | nil => exact List.takeWhile_eq_self_iff.2 (ne_lineFeed_of_notMem tail_clear)
  | cons l ls =>
    have inLine := ne_lineFeed_of_notMem (ended_clear l List.mem_cons_self)
    rw [List.flatMap_cons, List.append_assoc, List.append_assoc,
      List.takeWhile_append_of_pos inLine]
    exact List.append_nil l

/-- The first line of a text has the same words, however it ends. -/
theorem words_firstLine_crlf (cs : List Char) :
    words ((crlf cs).takeWhile (· != '\n')) = words (cs.takeWhile (· != '\n')) := by
  obtain ⟨ended, tail, cut⟩ := exists_cut cs
  rw [cut.firstLine_eq, cut.crlf.firstLine_eq]
  cases ended with
  | nil => rfl
  | cons l ls => exact words_append_blank (by decide) l

/-! ### Characters that end no line -/

/-- What satisfies `p` stops at both characters of a line end. -/
structure StopsAtEnd (p : Char → Bool) : Prop where
  atReturn : p '\r' = false
  atFeed : p '\n' = false

theorem StopsAtEnd.takeWhile_crlf {p : Char → Bool} (h : StopsAtEnd p) (cs : List Char) :
    (crlf cs).takeWhile p = cs.takeWhile p := by
  induction cs with
  | nil => rfl
  | cons c cs ih =>
    by_cases hc : c = '\n'
    · subst hc
      simp [h.atReturn, h.atFeed]
    · rw [crlf_cons_of_ne hc, List.takeWhile_cons, List.takeWhile_cons, ih]

theorem StopsAtEnd.dropWhile_crlf {p : Char → Bool} (h : StopsAtEnd p) (cs : List Char) :
    (crlf cs).dropWhile p = crlf (cs.dropWhile p) := by
  induction cs with
  | nil => rfl
  | cons c cs ih =>
    by_cases hc : c = '\n'
    · subst hc
      simp [h.atReturn, h.atFeed]
    · rw [crlf_cons_of_ne hc, List.dropWhile_cons, List.dropWhile_cons, ih]
      split
      · rfl
      · rw [crlf_cons_of_ne hc]

/-- A text begins with another character than those of a line end in both forms or in neither. -/
theorem head?_crlf {c : Char} (notReturn : c ≠ '\r') (notFeed : c ≠ '\n') (cs : List Char) :
    ((crlf cs).head? == some c) = (cs.head? == some c) := by
  cases cs with
  | nil => rfl
  | cons d cs =>
    by_cases hd : d = '\n'
    · subst hd
      simp [Ne.symm notReturn, Ne.symm notFeed]
    · rw [crlf_cons_of_ne hd]
      rfl

/-- A text begins with a mark that ends no line, however its lines end. -/
theorem isPrefixOf_crlf (mark : List Char) (noReturn : '\r' ∉ mark) (noFeed : '\n' ∉ mark)
    (cs : List Char) : mark.isPrefixOf (crlf cs) = mark.isPrefixOf cs := by
  induction mark generalizing cs with
  | nil => simp
  | cons m mark ih =>
    rw [List.mem_cons, not_or] at noReturn noFeed
    cases cs with
    | nil => rfl
    | cons c cs =>
      by_cases hc : c = '\n'
      · subst hc
        rw [crlf_lineFeed, List.isPrefixOf, List.isPrefixOf, beq_false_of_ne (Ne.symm noReturn.1),
          beq_false_of_ne (Ne.symm noFeed.1), Bool.false_and, Bool.false_and]
      · rw [crlf_cons_of_ne hc, List.isPrefixOf, List.isPrefixOf, ih noReturn.2 noFeed.2]

end LangBench.Text
