import LangBench.Proofs.Text.Trim
import LangBench.Report.Basic
import LangBench.Sample
import Mathlib.Data.Bool.AllAny
import Mathlib.Data.List.Basic

/-!
# Labels of reports

The label of a report is read back from its ends: the strategy stands before the first pair of
parentheses, the number of repetitions after the last blank, and the target between them.

* `Target.part`: how a label names a target, which it does in one way only;
* `Report.toList_labelFor`: what a label is made of;
* `Report.labelFor_inj`: what it is read back to;
* `Report.labelFor_decodes`: labels are read back, and the only blank in the label of a report on a
  sample stands in front of the number.
-/

namespace LangBench

open Text

/-! ### Separators -/

section Separators

variable {α : Type} {u v s t : List α}

/-- What stands around the last separator, if what stands after it has none. -/
theorem append_cons_inj_of_notMem_right {x : α} (hs : x ∉ s) (ht : x ∉ t)
    (h : u ++ x :: s = v ++ x :: t) : u = v ∧ s = t := by
  rcases List.append_eq_append_iff.1 h with ⟨m, rfl, rest⟩ | ⟨m, rfl, rest⟩
  · cases m with
    | nil => exact ⟨(List.append_nil u).symm, (List.cons.inj rest).2⟩
    | cons y m =>
      obtain ⟨-, rfl⟩ := List.cons.inj rest
      exact absurd (List.mem_append_right m List.mem_cons_self) hs
  · cases m with
    | nil => exact ⟨List.append_nil v, (List.cons.inj rest).2.symm⟩
    | cons y m =>
      obtain ⟨-, rfl⟩ := List.cons.inj rest
      exact absurd (List.mem_append_right m List.mem_cons_self) ht

/-- What stands around the first separator of two different letters, if what stands before it has
none. -/
theorem append_pair_inj {x y : α} (different : x ≠ y) (hu : ¬ [x, y] <:+: u)
    (hv : ¬ [x, y] <:+: v) (h : u ++ x :: y :: s = v ++ x :: y :: t) : u = v ∧ s = t := by
  -- if one of `u` and `v` were longer, it would have the separator, or a letter of it would be both
  have longer : ∀ {u v s t : List α} (m : List α), ¬ [x, y] <:+: v → v = u ++ m →
      x :: y :: s = m ++ x :: y :: t → m = [] := by
    rintro u v s t m none rfl rest
    rcases m with _ | ⟨a, _ | ⟨b, m⟩⟩
    · rfl
    · obtain ⟨-, second⟩ := List.cons.inj rest
      exact absurd (List.cons.inj second).1.symm different
    · obtain ⟨rfl, second⟩ := List.cons.inj rest
      obtain ⟨rfl, -⟩ := List.cons.inj second
      exact absurd ⟨u, m, by simp⟩ none
  rcases List.append_eq_append_iff.1 h with ⟨m, split, rest⟩ | ⟨m, split, rest⟩
  · obtain rfl := longer m hv split rest
    refine ⟨(split.trans (List.append_nil u)).symm, ?_⟩
    simpa using rest
  · obtain rfl := longer m hu split rest
    refine ⟨split.trans (List.append_nil v), ?_⟩
    simpa using rest.symm

end Separators

/-! ### Labels -/

/-- How a label names a target. -/
def Target.part : Target → List Char
  | .sample label => ['_', 'S', 'A', 'M', 'P', 'L', 'E', '_'] ++ label.toList
  | .total => ['_', 'T', 'O', 'T', 'A', 'L']

theorem Target.part_injective : Function.Injective Target.part := by
  intro t t' h
  cases t with
  | sample label =>
    cases t' with
    | sample label' =>
      have same : label.toList = label'.toList := List.append_cancel_left h
      rw [String.toList_inj.1 same]
    | total => simp [part] at h
  | total =>
    cases t' with
    | sample label => simp [part] at h
    | total => rfl

namespace Report

/-- A number is written without blanks. -/
theorem isBlank_of_mem_toDigits {c : Char} {n : Nat} (h : c ∈ Nat.toDigits 10 n) :
    isBlank c = false :=
  isBlank_of_isDigit (Nat.isDigit_of_mem_toDigits (by decide) (by decide) h)

/-- What a label is made of. -/
theorem toList_labelFor (strategy : String) (target : Target) (n : Nat) :
    (labelFor strategy target n).toList =
      strategy.toList ++ '(' :: ')' :: (target.part ++ ' ' :: Nat.toDigits 10 n) := by
  cases target with
  | sample label =>
    have text : labelFor strategy (.sample label) n =
        strategy ++ "()_SAMPLE_" ++ label ++ " " ++ n.repr := rfl
    have mark : "()_SAMPLE_".toList = ['(', ')', '_', 'S', 'A', 'M', 'P', 'L', 'E', '_'] := rfl
    have blank : " ".toList = [' '] := rfl
    rw [text]
    simp only [String.toList_append, mark, blank, Nat.toList_repr, Target.part, List.append_assoc,
      List.cons_append, List.nil_append]
  | total =>
    have text : labelFor strategy .total n = strategy ++ "()_TOTAL " ++ n.repr := rfl
    have mark : "()_TOTAL ".toList = ['(', ')', '_', 'T', 'O', 'T', 'A', 'L', ' '] := rfl
    rw [text]
    simp only [String.toList_append, mark, Nat.toList_repr, Target.part, List.append_assoc,
      List.cons_append, List.nil_append]

/-- A label tells its strategy, its target and the number of repetitions, if no strategy has a pair
of parentheses in its own label. -/
theorem labelFor_inj {strategy strategy' : String} {target target' : Target} {n n' : Nat}
    (plain : ¬ ['(', ')'] <:+: strategy.toList) (plain' : ¬ ['(', ')'] <:+: strategy'.toList) :
    labelFor strategy target n = labelFor strategy' target' n' ↔
      strategy = strategy' ∧ target = target' ∧ n = n' := by
  constructor
  · intro same
    have letters := congrArg String.toList same
    rw [toList_labelFor, toList_labelFor] at letters
    obtain ⟨names, rest⟩ := append_pair_inj (by decide) plain plain' letters
    have noBlank : ∀ k, ' ' ∉ Nat.toDigits 10 k := fun k mem =>
      absurd (isBlank_of_mem_toDigits mem) (by decide)
    obtain ⟨parts, digits⟩ := append_cons_inj_of_notMem_right (noBlank n) (noBlank n') rest
    refine ⟨String.toList_inj.1 names, Target.part_injective parts, ?_⟩
    have value := congrArg (Nat.ofDigitChars 10 · 0) digits
    simpa using value
  · rintro ⟨rfl, rfl, rfl⟩
    rfl

/-- The label of a report on a sample in front of the blank that the number stands behind: there is
no other blank in it, unless the strategy has one in its own label. -/
theorem exists_front {strategy : String} (plain : ∀ c ∈ strategy.toList, isBlank c = false)
    (sample : Sample) (n : Nat) : ∃ front : List Char, (∀ c ∈ front, isBlank c = false) ∧
      (labelFor strategy (.sample sample.label) n).toList = front ++ ' ' :: Nat.toDigits 10 n := by
  have mark : ∀ c ∈ ['_', 'S', 'A', 'M', 'P', 'L', 'E', '_'], isBlank c = false :=
    List.all_iff_forall_prop.1 (by decide)
  refine ⟨strategy.toList ++ '(' :: ')' :: (Target.sample sample.label).part, ?_, ?_⟩
  · intro c mem
    rw [List.mem_append, List.mem_cons, List.mem_cons, Target.part, List.mem_append] at mem
    rcases mem with name | rfl | rfl | mid | label
    · exact plain c name
    · rfl
    · rfl
    · exact mark c mid
    · exact Path.not_isBlank_of_mem_label label
  · rw [toList_labelFor, List.append_assoc, List.cons_append, List.cons_append]

/-- **Labels.**  If no pair of parentheses stands in the label of the strategy, the label of a report
tells the strategy, the target and the number of repetitions, whatever the target is called.  If the
target is a sample, whatever its path, and the strategy has no blank in its own label, the only
blank in the label of the report is the one in front of the number. -/
theorem labelFor_decodes :
    (∀ (strategy strategy' : String) (target target' : Target) (n n' : Nat),
      ¬ ['(', ')'] <:+: strategy.toList → ¬ ['(', ')'] <:+: strategy'.toList →
      labelFor strategy target n = labelFor strategy' target' n' →
      strategy = strategy' ∧ target = target' ∧ n = n') ∧
    ∀ (strategy : String) (sample : Sample) (n : Nat),
      (∀ c ∈ strategy.toList, isBlank c = false) →
      ∃ front : String, labelFor strategy (.sample sample.label) n = front ++ " " ++ toString n ∧
        (∀ c ∈ front.toList, isBlank c = false) ∧
        (labelFor strategy (.sample sample.label) n).toList.countP isBlank = 1 := by
  constructor
  · intro strategy strategy' target target' n n' plain plain'
    exact (labelFor_inj plain plain').1
  · intro strategy sample n plain
    obtain ⟨front, clear, letters⟩ := exists_front plain sample n
    refine ⟨String.ofList front, ?_, ?_, ?_⟩
    · have blank : " ".toList = [' '] := rfl
      have digits : (toString n).toList = Nat.toDigits 10 n := Nat.toList_repr
      rw [← String.toList_inj, letters, String.toList_append, String.toList_append,
        String.toList_ofList, blank, digits, List.append_assoc, List.singleton_append]
    · rwa [String.toList_ofList]
    · have before : front.countP isBlank = 0 := by
        simpa [List.countP_eq_zero] using clear
      have after : (Nat.toDigits 10 n).countP isBlank = 0 := by
        rw [List.countP_eq_zero]
        intro c mem
        rw [isBlank_of_mem_toDigits mem]
        exact Bool.false_ne_true
      rw [letters, List.countP_append, List.countP_cons, before, after]
      rfl

/-- A strategy whose label ends in an opening parenthesis, and a file whose name reads like the end
of a label. -/
theorem labelFor_decodes_lookalike :
    let file := Sample.new (.ofString "()_TOTAL 7") []
    (¬ ['(', ')'] <:+: "Guess(".toList) ∧ (∀ c ∈ "Guess(".toList, isBlank c = false) ∧
    labelFor "Guess(" (.sample file.label) 7 = "Guess(()_SAMPLE_()_TOTAL_7 7" ∧
    labelFor "Guess(" (.sample file.label) 7 ≠ labelFor "Guess(" .total 7 ∧
    (labelFor "Guess(" (.sample file.label) 7).toList.countP isBlank = 1 := by
  intro file
  have single : ¬ ['(', ')'] <:+: "Guess(".toList := by decide
  have plain : ∀ c ∈ "Guess(".toList, isBlank c = false := List.all_iff_forall_prop.1 (by decide)
  obtain ⟨decoded, blanks⟩ := labelFor_decodes
  obtain ⟨-, -, -, once⟩ := blanks "Guess(" file 7 plain
  refine ⟨single, plain, by decide +kernel, ?_, once⟩
  intro same
  obtain ⟨-, target, -⟩ := decoded _ _ _ _ _ _ single single same
  cases target

end Report

end LangBench
