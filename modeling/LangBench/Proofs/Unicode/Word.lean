import LangBench.Text.Blank
import LangBench.Unicode.Word
import Mathlib.Data.List.Basic

/-!
# Blanks and word characters

No blank is a word character.  The word characters come from tables whose ranges are joined, so a
code point that the ranges of no table hold is in no set that is made of them.

* `CharSet.Misses`: no range of a set holds a code point;
* `CharSet.misses_unions`, `CharSet.misses_union`: joining ranges keeps out what each of them keeps
  out;
* `CharSet.read_ofList`: the ranges of a table, from its characters;
* `isWordChar_of_isBlank`: no blank is a word character.
-/

namespace LangBench

open Text Unicode

/-- A code point that is found lies in one of the ranges. -/
theorem Text.exists_of_inRanges {rs : List (Nat × Nat)} {n : Nat} (found : inRanges rs n = true) :
    ∃ r ∈ rs, r.1 ≤ n ∧ n ≤ r.2 := by
  induction rs with
  | nil => cases found
  | cons r rs ih =>
    simp only [inRanges, Bool.and_eq_true, Bool.or_eq_true, decide_eq_true_eq] at found
    obtain ⟨low, high | later⟩ := found
    · exact ⟨r, List.mem_cons_self, low, high⟩
    · obtain ⟨q, mem, within⟩ := ih later
      exact ⟨q, List.mem_cons_of_mem r mem, within⟩

namespace CharSet

/-- No range of a set holds the code point `n`. -/
def Misses (s : CharSet) (n : Nat) : Prop :=
  ∀ r ∈ s.ranges, n < r.1 ∨ r.2 < n

variable {s t : CharSet} {n : Nat}

theorem Misses.contains_eq_false {c : Char} (h : s.Misses c.toNat) : s.contains c = false := by
  by_contra found
  rw [Bool.not_eq_false] at found
  obtain ⟨r, mem, low, high⟩ := exists_of_inRanges found
  rcases h r mem with below | above
  · omega
  · omega

/-- Ranges that overlap or touch hold together what each of them holds. -/
theorem misses_joinFrom {r : Nat × Nat} {rs : List (Nat × Nat)} (first : n < r.1 ∨ r.2 < n)
    (others : ∀ q ∈ rs, n < q.1 ∨ q.2 < n) : ∀ q ∈ joinFrom r rs, n < q.1 ∨ q.2 < n := by
  induction rs generalizing r with
  | nil =>
    rw [joinFrom, List.forall_mem_singleton]
    exact first
  | cons s rs ih =>
    rw [List.forall_mem_cons] at others
    rw [joinFrom]
    split_ifs with touch
    · refine ih ?_ others.2
      have second := others.1
      show n < r.1 ∨ max r.2 s.2 < n
      omega
    · rw [List.forall_mem_cons]
      exact ⟨first, ih others.1 others.2⟩

theorem misses_ofRanges {rs : List (Nat × Nat)} (h : ∀ r ∈ rs, n < r.1 ∨ r.2 < n) :
    (ofRanges rs).Misses n := by
  have sorted : ∀ r ∈ rs.mergeSort precedes, n < r.1 ∨ r.2 < n :=
    fun r mem => h r (List.mem_mergeSort.1 mem)
  unfold Misses ofRanges
  cases inOrder : rs.mergeSort precedes with
  | nil => simp [join]
  | cons r rest =>
    rw [inOrder, List.forall_mem_cons] at sorted
    exact misses_joinFrom sorted.1 sorted.2

theorem misses_unions {sets : List CharSet} (h : ∀ s ∈ sets, s.Misses n) :
    (unions sets).Misses n := by
  refine misses_ofRanges fun r mem => ?_
  obtain ⟨s, member, inside⟩ := List.mem_flatMap.1 mem
  exact h s member r inside

theorem misses_union (hs : s.Misses n) (ht : t.Misses n) : (s.union t).Misses n := by
  refine misses_ofRanges fun r mem => ?_
  rcases List.mem_append.1 mem with first | second
  · exact hs r first
  · exact ht r second

/-! ### Tables -/

/-- The ranges of the characters of a table. -/
def rangesOf (cs : List Char) : List (Nat × Nat) :=
  ((pieces (fun c => c == ' ' || c == '\n') cs).filter (!List.isEmpty ·)).flatMap readWord

theorem read_ofList (cs : List Char) : read (String.ofList cs) = ⟨rangesOf cs⟩ := by
  rw [read, entries, String.toList_ofList, rangesOf]

/-- Whether no range holds a blank. -/
def holdNoBlank (rs : List (Nat × Nat)) : Bool :=
  rs.all fun r => blankRanges.all fun b => b.2 < r.1 || r.2 < b.1

theorem misses_read {cs : List Char} (checked : holdNoBlank (rangesOf cs) = true) {c : Char}
    (blank : isBlank c = true) : (read (String.ofList cs)).Misses c.toNat := by
  obtain ⟨b, mem, low, high⟩ := exists_of_inRanges blank
  rw [read_ofList]
  intro r inTable
  have apart := List.all_eq_true.1 (List.all_eq_true.1 checked r inTable) b mem
  rw [Bool.or_eq_true, decide_eq_true_iff, decide_eq_true_iff] at apart
  rcases apart with below | above
  · exact .inl (by omega)
  · exact .inr (by omega)

end CharSet

namespace Unicode

open CharSet

variable {c : Char}

/-- A category whose row in the table holds no blank. -/
theorem misses_category {name : String} {cs : List Char}
    (row : row? categoryTable name = some (String.ofList cs))
    (checked : holdNoBlank (rangesOf cs) = true) (blank : isBlank c = true) :
    (category name).Misses c.toNat := by
  rw [category, row]
  exact misses_read checked blank

theorem misses_flag {name : String} {cs : List Char}
    (row : row? flagTable name = some (String.ofList cs))
    (checked : holdNoBlank (rangesOf cs) = true) (blank : isBlank c = true) :
    (flag name).Misses c.toNat := by
  rw [flag, row]
  exact misses_read checked blank

-- A table is a literal of some thousand characters.
set_option maxRecDepth 40000 in
/-- The categories of letters, marks and decimal digits, and of connecting punctuation. -/
theorem misses_categories (blank : isBlank c = true) :
    ∀ name ∈ ["lu", "ll", "lt", "lm", "lo", "nl", "mn", "mc", "me", "nd", "pc"],
      (category name).Misses c.toNat := by
  simp only [List.forall_mem_cons, List.not_mem_nil, false_implies, implies_true, and_true]
  refine ⟨?_, ?_, ?_, ?_, ?_, ?_, ?_, ?_, ?_, ?_, ?_⟩
  all_goals exact misses_category rfl (by decide +kernel) blank

set_option maxRecDepth 40000 in
theorem misses_flags (blank : isBlank c = true) :
    ∀ name ∈ ["otheralphabetic", "joincontrol"], (flag name).Misses c.toNat := by
  simp only [List.forall_mem_cons, List.not_mem_nil, false_implies, implies_true, and_true]
  constructor
  all_goals exact misses_flag rfl (by decide +kernel) blank

/-- No blank is in one of the tables of word characters. -/
theorem misses_wordChars (blank : isBlank c = true) : wordChars.Misses c.toNat := by
  have categories : ∀ names ⊆ ["lu", "ll", "lt", "lm", "lo", "nl", "mn", "mc", "me", "nd", "pc"],
      (Unicode.categories names).Misses c.toNat := by
    intro names listed
    refine misses_unions fun s mem => ?_
    obtain ⟨name, inNames, rfl⟩ := List.mem_map.1 mem
    exact misses_categories blank name (listed inNames)
  refine misses_unions ?_
  simp only [List.forall_mem_cons, List.not_mem_nil, false_implies, implies_true, and_true]
  refine ⟨misses_union (categories _ (by simp)) (misses_flags blank _ (by simp)),
    categories _ (by simp), misses_flags blank _ (by simp)⟩

/-- No blank is a word character. -/
theorem isWordChar_of_isBlank (blank : isBlank c = true) : isWordChar c = false := by
  by_cases ascii : c.toNat < 0x80
  · have checked : ∀ n < 0x80, inRanges blankRanges n = true →
        ((Char.ofNat n).isAlphanum || Char.ofNat n == '_') = false := by decide +kernel
    have here := checked c.toNat ascii blank
    rwa [Char.ofNat_toNat, ← isWordChar_of_ascii ascii] at here
  · rw [isWordChar, if_neg ascii, (misses_wordChars blank).contains_eq_false]

end Unicode

end LangBench
