import LangBench.Text.Line
import Mathlib.Data.List.Basic

/-!
# Texts and their lines

A text is made of what stands before each line feed and what stands after the last one.

* `Cut`: what a text is made of;
* `exists_cut`: every text is made of something;
* `Cut.lines_eq`: the lines of a text, from what it is made of;
* `lineFeed_notMem_of_mem_lines`: none of them holds a line feed.
-/

namespace LangBench.Text

/-- The text `cs` is made of the parts `ended`, each with a line feed after it, and of `tail`. -/
structure Cut (cs : List Char) (ended : List (List Char)) (tail : List Char) : Prop where
  text_eq : cs = ended.flatMap (· ++ ['\n']) ++ tail
  ended_clear : ∀ l ∈ ended, '\n' ∉ l
  tail_clear : '\n' ∉ tail

namespace Cut

variable {cs tail : List Char} {ended : List (List Char)}

theorem nil : Cut [] [] [] :=
  ⟨rfl, by simp, by simp⟩

/-- A line feed in front of a text ends an empty part. -/
theorem cons_lineFeed (h : Cut cs ended tail) : Cut ('\n' :: cs) ([] :: ended) tail := by
  refine ⟨?_, ?_, h.tail_clear⟩
  · rw [h.text_eq]
    rfl
  · rw [List.forall_mem_cons]
    exact ⟨by simp, h.ended_clear⟩

/-- Any other character in front of a text belongs to its first part. -/
theorem cons_of_ne {c : Char} (hc : c ≠ '\n') (h : Cut cs ended tail) :
    ∃ ended' tail', Cut (c :: cs) ended' tail' := by
  obtain ⟨text_eq, ended_clear, tail_clear⟩ := h
  cases ended with
  | nil =>
    refine ⟨[], c :: tail, ?_, by simp, ?_⟩
    · rw [text_eq]
      rfl
    · simp [Ne.symm hc, tail_clear]
  | cons l ls =>
    refine ⟨(c :: l) :: ls, tail, ?_, ?_, tail_clear⟩
    · rw [text_eq]
      rfl
    · rw [List.forall_mem_cons] at ended_clear ⊢
      exact ⟨by simp [Ne.symm hc, ended_clear.1], ended_clear.2⟩

end Cut

/-- Every text is made of something. -/
theorem exists_cut (cs : List Char) : ∃ ended tail, Cut cs ended tail := by
  induction cs with
  | nil => exact ⟨[], [], .nil⟩
  | cons c cs ih =>
    obtain ⟨ended, tail, cut⟩ := ih
    by_cases hc : c = '\n'
    · subst hc
      exact ⟨[] :: ended, tail, cut.cons_lineFeed⟩
    · exact cut.cons_of_ne hc

theorem isLineFeed_of_notMem {l : List Char} (h : '\n' ∉ l) : ∀ c ∈ l, isLineFeed c = false :=
  beq_eq_false_of_notMem h

theorem ne_lineFeed_of_notMem {l : List Char} (h : '\n' ∉ l) : ∀ c ∈ l, (c != '\n') = true := by
  intro c mem
  rw [bne, beq_eq_false_of_notMem h c mem, Bool.not_false]

/-- The lines of a text are its parts, each without one carriage return at its end, and what stands
after the last line feed, unless that is empty. -/
theorem Cut.lines_eq {cs tail : List Char} {ended : List (List Char)} (h : Cut cs ended tail) :
    lines cs = ended.map dropCarriageReturn ++ if tail = [] then [] else [tail] := by
  obtain ⟨rfl, ended_clear, tail_clear⟩ := h
  induction ended with
  | nil =>
    rw [List.flatMap_nil, List.nil_append, lines_of_forall (isLineFeed_of_notMem tail_clear)]
    cases tail <;> rfl
  | cons l ls ih =>
    rw [List.forall_mem_cons] at ended_clear
    have first := lines_append_lineFeed (isLineFeed_of_notMem ended_clear.1)
      (ls.flatMap (· ++ ['\n']) ++ tail)
    rw [ih ended_clear.2] at first
    simpa using first

/-- No line holds a line feed. -/
theorem lineFeed_notMem_of_mem_lines {cs l : List Char} (h : l ∈ lines cs) : '\n' ∉ l := by
  obtain ⟨ended, tail, cut⟩ := exists_cut cs
  rw [cut.lines_eq, List.mem_append, List.mem_map] at h
  rcases h with ⟨part, mem, rfl⟩ | last
  · have clear := cut.ended_clear part mem
    unfold dropCarriageReturn
    split_ifs
    · exact fun inside => clear ((List.dropLast_sublist part).subset inside)
    · exact clear
  · split_ifs at last
    · cases last
    · rw [List.mem_singleton.1 last]
      exact cut.tail_clear

end LangBench.Text
