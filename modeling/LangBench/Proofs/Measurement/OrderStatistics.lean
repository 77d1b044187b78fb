import Mathlib.Data.List.Sort
import LangBench.Measurement

/-!
# The figures of laps in order

The figures are computed from the laps in order, so the order in which they were measured does not
matter.  The least, the greatest and the middle one of them are laps: they stand first, last and in
the middle, and no lap before another one is longer.

* `sorted_eq_of_perm`: there is one way to put laps in order;
* `IsSorted.getElem_le`: what stands earlier is not longer;
* `IsSorted.lt_countP_le`, `IsSorted.le_countP_ge`: how many laps are not longer, or not shorter,
  than the one at a place;
* `min_ofLaps`, `max_ofLaps`, `median_ofLaps`: the places of the figures;
* `Measurement.order_statistics`: what the figures say about the laps.
-/

namespace LangBench

namespace LapStatistics

open Duration

variable {laps laps' xs : List Duration}

/-- Laps from the shortest to the longest. -/
abbrev IsSorted (xs : List Duration) : Prop :=
  xs.Pairwise (· ≤ ·)

theorem isSorted_sorted (laps : List Duration) : IsSorted (sorted laps) := by
  refine (List.pairwise_mergeSort ?_ ?_ laps).imp of_decide_eq_true
  · intro a b c hab hbc
    rw [decide_eq_true_iff] at *
    exact Nat.le_trans hab hbc
  · intro a b
    rw [Bool.or_eq_true, decide_eq_true_iff, decide_eq_true_iff]
    exact Nat.le_total a.nanos b.nanos

/-- There is one way to put laps in order. -/
theorem sorted_eq_of_perm (same : laps.Perm laps') : sorted laps = sorted laps' := by
  refine List.Perm.eq_of_pairwise (fun a b _ _ hab hba => ?_) (isSorted_sorted laps)
    (isSorted_sorted laps') (((sorted_perm laps).trans same).trans (sorted_perm laps').symm)
  obtain ⟨a⟩ := a
  obtain ⟨b⟩ := b
  exact congrArg Duration.mk (Nat.le_antisymm hab hba)

theorem length_sorted (laps : List Duration) : (sorted laps).length = laps.length :=
  (sorted_perm laps).length_eq

theorem length_sorted_pos (nonempty : laps ≠ []) : 0 < (sorted laps).length := by
  rw [length_sorted]
  exact List.length_pos_iff.2 nonempty

/-! ### Laps by their place -/

/-- What stands earlier is not longer. -/
theorem IsSorted.getElem_le (h : IsSorted xs) {i j : Nat} (le : i ≤ j) (hj : j < xs.length) :
    xs[i] ≤ xs[j] := by
  rcases Nat.eq_or_lt_of_le le with rfl | lt
  · exact Nat.le_refl _
  · exact List.pairwise_iff_getElem.1 h i j (by omega) hj lt

/-- The laps up to a place are not longer than the one there. -/
theorem IsSorted.lt_countP_le (h : IsSorted xs) {i : Nat} (hi : i < xs.length) :
    i < xs.countP (· ≤ xs[i]) := by
  have all : ∀ x ∈ xs.take (i + 1), decide (x ≤ xs[i]) = true := by
    intro x mem
    obtain ⟨j, hj, rfl⟩ := List.mem_take_iff_getElem.1 mem
    exact decide_eq_true (h.getElem_le (by omega) hi)
  calc i
    _ < (xs.take (i + 1)).length := by rw [List.length_take]; omega
    _ = (xs.take (i + 1)).countP (· ≤ xs[i]) := (List.countP_eq_length.2 all).symm
    _ ≤ xs.countP (· ≤ xs[i]) := (List.take_sublist _ _).countP_le

/-- The laps from a place on are not shorter than the one there. -/
theorem IsSorted.le_countP_ge (h : IsSorted xs) {i : Nat} (hi : i < xs.length) :
    xs.length - i ≤ xs.countP (xs[i] ≤ ·) := by
  have all : ∀ x ∈ xs.drop i, decide (xs[i] ≤ x) = true := by
    intro x mem
    obtain ⟨j, hj, rfl⟩ := List.mem_drop_iff_getElem.1 mem
    exact decide_eq_true (h.getElem_le (by omega) (by omega))
  calc xs.length - i
    _ = (xs.drop i).length := List.length_drop.symm
    _ = (xs.drop i).countP (xs[i] ≤ ·) := (List.countP_eq_length.2 all).symm
    _ ≤ xs.countP (xs[i] ≤ ·) := (List.drop_sublist _ _).countP_le

/-! ### The places of the figures -/

theorem ofLaps_eq (pos : 0 < (sorted laps).length) : ofLaps laps = ofSorted (sorted laps) := by
  refine if_neg ?_
  rintro rfl
  exact absurd pos (by simp [length_sorted])

theorem min_ofLaps (pos : 0 < (sorted laps).length) : (ofLaps laps).min = (sorted laps)[0] := by
  rw [ofLaps_eq pos, ofSorted, List.headD_eq_head?_getD, List.head?_eq_getElem?,
    List.getElem?_eq_getElem pos, Option.getD_some]

theorem max_ofLaps (pos : 0 < (sorted laps).length) :
    (ofLaps laps).max = (sorted laps)[(sorted laps).length - 1] := by
  rw [ofLaps_eq pos, ofSorted, List.getLastD_eq_getLast?, List.getLast?_eq_getElem?,
    List.getElem?_eq_getElem (by omega), Option.getD_some]

theorem median_ofLaps (pos : 0 < (sorted laps).length) :
    (ofLaps laps).median = (sorted laps)[(sorted laps).length / 2] := by
  rw [ofLaps_eq pos, ofSorted, List.getD_eq_getElem?_getD, List.getElem?_eq_getElem (by omega),
    Option.getD_some]

/-- No lap is shorter than the least or longer than the greatest. -/
theorem bounds_ofLaps (pos : 0 < (sorted laps).length) {lap : Duration} (mem : lap ∈ laps) :
    (ofLaps laps).min ≤ lap ∧ lap ≤ (ofLaps laps).max := by
  obtain ⟨i, hi, rfl⟩ := List.getElem_of_mem ((sorted_perm laps).mem_iff.2 mem)
  rw [min_ofLaps pos, max_ofLaps pos]
  exact ⟨(isSorted_sorted laps).getElem_le (Nat.zero_le i) hi,
    (isSorted_sorted laps).getElem_le (by omega) (by omega)⟩

/-- The figures do not depend on the order of the laps. -/
theorem ofLaps_eq_of_perm (same : laps.Perm laps') : ofLaps laps = ofLaps laps' := by
  have none : laps = [] ↔ laps' = [] := by
    rw [← List.length_eq_zero_iff, same.length_eq, List.length_eq_zero_iff]
  simp only [ofLaps, none, sorted_eq_of_perm same]

end LapStatistics

namespace Duration

variable {ds ds' : List Duration}

/-- The sum of durations does not depend on their order. -/
theorem totalNanos_eq_of_perm (same : ds.Perm ds') : totalNanos ds = totalNanos ds' := by
  induction same with
  | nil => rfl
  | cons d _ ih => rw [totalNanos_cons, totalNanos_cons, ih]
  | swap a b ds =>
    simp only [totalNanos_cons]
    omega
  | trans _ _ ih ih' => exact ih.trans ih'

end Duration

namespace Measurement

open Duration

@[simp] theorem statistics_ofLaps (laps : List Duration) :
    (ofLaps laps).statistics = .ofLaps laps := rfl

/-- Laps whose sum fits are measured. -/
theorem ofLaps?_eq_some {laps : List Duration} (fits : totalNanos laps < limit) :
    ofLaps? laps = some (ofLaps laps) := by
  rw [ofLaps?, sum?, if_pos fits]
  rfl

/-- **Order statistics.**  Laps whose sum fits are measured, and if there are any, the least, the
greatest and the middle one of the figures are laps; no lap is shorter than the least or longer than
the greatest; of `n` laps at least `n / 2 + 1` are not longer than the middle one and at least
`n - n / 2` are not shorter.  The same laps in another order are measured too and have the same
figures, the standard deviation included. -/
theorem order_statistics {laps : List Duration} (nonempty : laps ≠ [])
    (fits : totalNanos laps < limit) :
    ∃ m, ofLaps? laps = some m ∧ m.statistics = LapStatistics.ofLaps laps ∧
      m.statistics.min ∈ laps ∧ m.statistics.max ∈ laps ∧ m.statistics.median ∈ laps ∧
      (∀ lap ∈ laps, m.statistics.min ≤ lap ∧ lap ≤ m.statistics.max) ∧
      laps.length / 2 + 1 ≤ laps.countP (· ≤ m.statistics.median) ∧
      laps.length - laps.length / 2 ≤ laps.countP (m.statistics.median ≤ ·) ∧
      ∀ laps', laps.Perm laps' →
        ∃ m', ofLaps? laps' = some m' ∧ m'.statistics = m.statistics := by
  have pos := LapStatistics.length_sorted_pos nonempty
  have kept := LapStatistics.sorted_perm laps
  have inOrder := LapStatistics.isSorted_sorted laps
  refine ⟨ofLaps laps, ofLaps?_eq_some fits, rfl, ?_, ?_, ?_, ?_, ?_, ?_, ?_⟩
  all_goals rw [statistics_ofLaps]
  · rw [LapStatistics.min_ofLaps pos]
    exact kept.mem_iff.1 (List.getElem_mem _)
  · rw [LapStatistics.max_ofLaps pos]
    exact kept.mem_iff.1 (List.getElem_mem _)
  · rw [LapStatistics.median_ofLaps pos]
    exact kept.mem_iff.1 (List.getElem_mem _)
  · exact fun lap mem => LapStatistics.bounds_ofLaps pos mem
  · rw [LapStatistics.median_ofLaps pos, ← kept.countP_eq, ← kept.length_eq]
    exact inOrder.lt_countP_le (by omega)
  · rw [LapStatistics.median_ofLaps pos, ← kept.countP_eq, ← kept.length_eq]
    exact inOrder.le_countP_ge (by omega)
  · intro laps' same
    rw [Duration.totalNanos_eq_of_perm same] at fits
    refine ⟨ofLaps laps', ofLaps?_eq_some fits, ?_⟩
    rw [statistics_ofLaps, LapStatistics.ofLaps_eq_of_perm same]

/-- Four laps, two of which are equal. -/
def fourLaps : List Duration :=
  [⟨5⟩, ⟨1⟩, ⟨5⟩, ⟨2⟩]

theorem order_statistics_fourLaps : fourLaps ≠ [] ∧ totalNanos fourLaps < limit ∧
    3 ≤ fourLaps.countP (· ≤ (ofLaps fourLaps).statistics.median) ∧
    2 ≤ fourLaps.countP ((ofLaps fourLaps).statistics.median ≤ ·) ∧
    (ofLaps fourLaps.reverse).statistics = (ofLaps fourLaps).statistics := by
  have nonempty : fourLaps ≠ [] := by decide
  have fits : totalNanos fourLaps < limit := by decide
  obtain ⟨m, measured, -, -, -, -, -, notLonger, notShorter, anyOrder⟩ :=
    order_statistics nonempty fits
  obtain ⟨m', measured', same⟩ := anyOrder _ (List.reverse_perm fourLaps).symm
  obtain rfl := eq_ofLaps_of_ofLaps? measured
  obtain rfl := eq_ofLaps_of_ofLaps? measured'
  exact ⟨nonempty, fits, notLonger, notShorter, same⟩

end Measurement

end LangBench
