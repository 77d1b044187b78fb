import LangBench.Text.Blank
import Mathlib.Data.List.TakeWhile

/-!
# Words between blanks

A text is cut into words at its blanks, so words that are set side by side with blanks between them
are read back one by one.

* `takeWhile_append_of_apart`, `append_inj_of_apart`: a class of characters, and what does not go on
  with it;
* `words_append_blank_cons`: a blank cuts a text wherever it stands;
* `words_padding`, `words_word`: the words of a text that begins with blanks, or with a word;
* `spaced`, `words_spaced`: words with blanks in front of each.
-/

namespace LangBench.Text

/-- What is taken together, and what does not go on with it. -/
theorem takeWhile_append_of_apart {α : Type _} {p : α → Bool} {cs ds : List α}
    (all : ∀ c ∈ cs, p c = true) (apart : ∀ d ∈ ds.head?, p d = false) :
    (cs ++ ds).takeWhile p = cs ∧ (cs ++ ds).dropWhile p = ds := by
  rw [List.takeWhile_append_of_pos all, List.dropWhile_append_of_pos all]
  cases ds with
  | nil => exact ⟨List.append_nil cs, rfl⟩
  | cons d ds =>
    have stops : ¬ p d = true := Bool.eq_false_iff.1 (apart d rfl)
    rw [List.takeWhile_cons_of_neg stops, List.dropWhile_cons_of_neg stops]
    exact ⟨List.append_nil cs, rfl⟩

/-- Where a class of characters ends, a text is cut in one way only. -/
theorem append_inj_of_apart {α : Type _} {p : α → Bool} {u v s t : List α}
    (all : ∀ c ∈ u, p c = true) (all' : ∀ c ∈ v, p c = true) (apart : ∀ d ∈ s.head?, p d = false)
    (apart' : ∀ d ∈ t.head?, p d = false) (h : u ++ s = v ++ t) : u = v ∧ s = t := by
  obtain ⟨taken, left⟩ := takeWhile_append_of_apart all apart
  obtain ⟨taken', left'⟩ := takeWhile_append_of_apart all' apart'
  rw [h] at taken left
  exact ⟨taken.symm.trans taken', left.symm.trans left'⟩

variable {cs w rest : List Char}

/-- A blank cuts a text into what has its words before it and what has them after it. -/
theorem words_append_blank_cons {c : Char} (hc : isBlank c = true) (cs ds : List Char) :
    words (cs ++ c :: ds) = words cs ++ words ds := by
  simp only [words, pieces_append hc, List.filter_append]

/-- Blanks in front of a text are in none of its words. -/
theorem words_padding {pad : List Char} (blank : ∀ c ∈ pad, isBlank c = true) (cs : List Char) :
    words (pad ++ cs) = words cs := by
  induction pad with
  | nil => rfl
  | cons c pad ih =>
    rw [List.forall_mem_cons] at blank
    rw [List.cons_append, ← ih blank.2]
    exact words_append_blank_cons blank.1 [] _

/-- What begins with a word, up to a blank or to its end, has it as its first one. -/
theorem words_word (nonempty : w ≠ []) (noBlank : ∀ c ∈ w, isBlank c = false)
    (ends : ∀ c ∈ rest.head?, isBlank c = true) : words (w ++ rest) = w :: words rest := by
  have single : words w = [w] := by
    rw [words, pieces_of_forall noBlank]
    simp [nonempty]
  cases rest with
  | nil => rw [List.append_nil, single, words_nil]
  | cons c rest =>
    have blank : isBlank c = true := ends c rfl
    have behind : words (c :: rest) = words rest := words_append_blank_cons blank [] rest
    rw [words_append_blank_cons blank, single, behind, List.singleton_append]

/-- Words with blanks in front of each. -/
def spaced (ps : List (List Char × List Char)) : List Char :=
  ps.flatMap fun p => p.1 ++ p.2

/-- A word with blanks in front of it. -/
structure IsSpaced (gap word : List Char) : Prop where
  gap_ne_nil : gap ≠ []
  gap_blank : ∀ c ∈ gap, isBlank c = true
  word_ne_nil : word ≠ []
  word_noBlank : ∀ c ∈ word, isBlank c = false

theorem spaced_cons (gap word : List Char) (ps : List (List Char × List Char)) :
    spaced ((gap, word) :: ps) = gap ++ (word ++ spaced ps) := by
  rw [spaced, List.flatMap_cons, List.append_assoc, ← spaced]

/-- What is spaced begins with a blank. -/
theorem isBlank_head?_spaced {ps : List (List Char × List Char)}
    (each : ∀ p ∈ ps, IsSpaced p.1 p.2) (ends : ∀ c ∈ rest.head?, isBlank c = true) :
    ∀ c ∈ (spaced ps ++ rest).head?, isBlank c = true := by
  cases ps with
  | nil => exact ends
  | cons p ps =>
    obtain ⟨gap, word⟩ := p
    have first := each _ List.mem_cons_self
    obtain ⟨b, gap, rfl⟩ := List.exists_cons_of_ne_nil first.gap_ne_nil
    rintro c head
    obtain rfl : b = c := Option.some.inj head
    exact first.gap_blank b List.mem_cons_self

/-- Words with blanks in front of each are read back. -/
theorem words_spaced {ps : List (List Char × List Char)} (each : ∀ p ∈ ps, IsSpaced p.1 p.2)
    (ends : ∀ c ∈ rest.head?, isBlank c = true) :
    words (spaced ps ++ rest) = ps.map Prod.snd ++ words rest := by
  induction ps with
  | nil => rfl
  | cons p ps ih =>
    obtain ⟨gap, word⟩ := p
    rw [List.forall_mem_cons] at each
    obtain ⟨first, each⟩ := each
    rw [spaced_cons, List.append_assoc, List.append_assoc, words_padding first.gap_blank,
      words_word first.word_ne_nil first.word_noBlank (isBlank_head?_spaced each ends), ih each,
      List.map_cons, List.cons_append]

end LangBench.Text
