import Mathlib.Algebra.Group.Nat.Defs
import LangBench.Proofs.Measurement.OrderStatistics

/-!
# The mean of laps

The mean is the sum of the laps over their number in whole nanoseconds, of which the last 64 bits
are kept.  If nothing is lost it lies between the least and the greatest lap.  Otherwise it is still
not above the greatest, but it can be below the least.

* `Duration.length_mul_le_totalNanos`, `Duration.totalNanos_le_length_mul`: bounds of a sum;
* `LapStatistics.mean_ofLaps`: the mean of laps, whatever their order;
* `Measurement.mean_kept`: when the mean is exact, and where it lies;
* `Measurement.mean_lost`: a mean below the only lap.
-/

namespace LangBench

namespace Duration

variable {ds : List Duration} {n : Nat}

theorem length_mul_le_totalNanos (h : ∀ d ∈ ds, n ≤ d.nanos) : ds.length * n ≤ totalNanos ds := by
  induction ds with
  | nil => simp
  | cons d ds ih =>
    rw [List.forall_mem_cons] at h
    rw [List.length_cons, totalNanos_cons, Nat.succ_mul, Nat.add_comm]
    exact Nat.add_le_add h.1 (ih h.2)

theorem totalNanos_le_length_mul (h : ∀ d ∈ ds, d.nanos ≤ n) : totalNanos ds ≤ ds.length * n := by
  induction ds with
  | nil => simp
  | cons d ds ih =>
    rw [List.forall_mem_cons] at h
    rw [List.length_cons, totalNanos_cons, Nat.succ_mul, Nat.add_comm]
    exact Nat.add_le_add (ih h.2) h.1

theorem wordSize_eq : wordSize = 2 ^ 64 := rfl

end Duration

namespace LapStatistics

open Duration

variable {laps : List Duration}

theorem mean_ofLaps (pos : 0 < (sorted laps).length) :
    (ofLaps laps).mean.nanos = totalNanos laps / laps.length % 2 ^ 64 := by
  rw [ofLaps_eq pos, ofSorted, meanOf, totalNanos_eq_of_perm (sorted_perm laps), length_sorted,
    wordSize_eq]

/-- The exact mean lies between the least and the greatest lap. -/
theorem average_bounds (pos : 0 < (sorted laps).length) :
    (ofLaps laps).min.nanos ≤ totalNanos laps / laps.length ∧
      totalNanos laps / laps.length ≤ (ofLaps laps).max.nanos := by
  have some : 0 < laps.length := length_sorted laps ▸ pos
  constructor
  · rw [Nat.le_div_iff_mul_le some, Nat.mul_comm]
    exact length_mul_le_totalNanos fun lap mem => (bounds_ofLaps pos mem).1
  · refine Nat.div_le_of_le_mul ?_
    exact totalNanos_le_length_mul fun lap mem => (bounds_ofLaps pos mem).2

end LapStatistics

namespace Measurement

open Duration

/-- **The mean.**  Laps whose sum fits are measured.  If there are any, the exact mean, the sum of
their nanoseconds over their number, rounded down, lies between the least and the greatest lap, and
the mean of the figures is what 64 bits keep of it.  So it is never above the greatest lap; it is
exact if and only if 64 bits hold it, and then it is not below the least lap either. -/
theorem mean_kept {laps : List Duration} (nonempty : laps ≠ []) (fits : totalNanos laps < limit) :
    ∃ m, ofLaps? laps = some m ∧
      m.statistics.mean.nanos = totalNanos laps / laps.length % 2 ^ 64 ∧
      m.statistics.min.nanos ≤ totalNanos laps / laps.length ∧
      totalNanos laps / laps.length ≤ m.statistics.max.nanos ∧
      m.statistics.mean ≤ m.statistics.max ∧
      (m.statistics.mean.nanos = totalNanos laps / laps.length ↔
        totalNanos laps / laps.length < 2 ^ 64) ∧
      (totalNanos laps / laps.length < 2 ^ 64 → m.statistics.min ≤ m.statistics.mean) := by
  have pos := LapStatistics.length_sorted_pos nonempty
  have mean := LapStatistics.mean_ofLaps pos
  obtain ⟨least, greatest⟩ := LapStatistics.average_bounds pos
  refine ⟨ofLaps laps, ofLaps?_eq_some fits, mean, least, greatest, ?_, ?_, ?_⟩
  · show (LapStatistics.ofLaps laps).mean.nanos ≤ (LapStatistics.ofLaps laps).max.nanos
    rw [mean]
    exact (Nat.mod_le _ _).trans greatest
  · rw [statistics_ofLaps, mean]
    exact Nat.mod_eq_iff_lt (by decide)
  · intro held
    show (LapStatistics.ofLaps laps).min.nanos ≤ (LapStatistics.ofLaps laps).mean.nanos
    rw [mean, Nat.mod_eq_of_lt held]
    exact least

/-- A lap that 64 bits do not hold, and a short one. -/
def unevenLaps : List Duration :=
  [⟨2 ^ 64 + 1⟩, ⟨1⟩]

theorem mean_kept_unevenLaps : unevenLaps ≠ [] ∧ totalNanos unevenLaps < limit ∧
    (ofLaps unevenLaps).statistics.mean.nanos = 2 ^ 63 + 1 ∧
    (ofLaps unevenLaps).statistics.min ≤ (ofLaps unevenLaps).statistics.mean := by
  have nonempty : unevenLaps ≠ [] := by decide
  have fits : totalNanos unevenLaps < limit := by decide
  obtain ⟨m, measured, mean, -, -, -, -, notBelow⟩ := mean_kept nonempty fits
  obtain rfl := eq_ofLaps_of_ofLaps? measured
  exact ⟨nonempty, fits, mean, notBelow (by decide)⟩

/-- The first length of time that 64 bits do not hold, as the only lap. -/
def longLap : List Duration :=
  [⟨2 ^ 64⟩]

/-- Nothing is left of the mean of the only lap. -/
theorem mean_lost : longLap ≠ [] ∧ totalNanos longLap < limit ∧
    (LapStatistics.ofLaps longLap).mean.nanos ≠ totalNanos longLap / longLap.length ∧
    ¬ (LapStatistics.ofLaps longLap).min ≤ (LapStatistics.ofLaps longLap).mean := by
  decide +kernel

end Measurement

end LangBench
