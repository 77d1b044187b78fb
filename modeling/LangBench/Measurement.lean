import LangBench.Duration

/-!
# Measurements

* `Measurement`: the durations of the repetitions of a block, its laps, and their sum;
* `LapStatistics.ofLaps`: mean, standard deviation, extremes and median of laps;
* `Measurement.statistics?`: these figures, unless the laps are too long together to be added up.
-/

namespace LangBench

/-- Figures that sum up some laps. -/
structure LapStatistics where
  mean : Duration := .zero
  stdDev : Duration := .zero
  min : Duration := .zero
  max : Duration := .zero
  median : Duration := .zero
  deriving DecidableEq, Repr

namespace LapStatistics

/-- Laps from the shortest to the longest. -/
def sorted (laps : List Duration) : List Duration :=
  laps.mergeSort fun a b => decide (a ≤ b)

/-- The mean of laps in whole nanoseconds, as far as 64 bits hold it. -/
def meanOf (laps : List Duration) : Duration :=
  ⟨Duration.totalNanos laps / laps.length % Duration.wordSize⟩

/-- The square of the distance between two durations. -/
def squaredDistance (a b : Duration) : Float :=
  let distance := Float.ofNat a.nanos - Float.ofNat b.nanos
  distance * distance

/-- The standard deviation of laps from `mean`, in whole nanoseconds. -/
def stdDevOf (mean : Duration) (laps : List Duration) : Duration :=
  let sum := laps.foldl (fun sum lap => sum + squaredDistance lap mean) 0
  ⟨(sum / Float.ofNat laps.length).sqrt.toUInt64.toNat⟩

/-- The figures of laps that are in order. -/
def ofSorted (laps : List Duration) : LapStatistics :=
  let mean := meanOf laps
  { mean
    stdDev := stdDevOf mean laps
    min := laps.headD .zero
    max := laps.getLastD .zero
    median := laps.getD (laps.length / 2) .zero }

/-- The figures of some laps, where these can be added up; all are zero if there are no laps. -/
def ofLaps (laps : List Duration) : LapStatistics :=
  if laps = [] then {} else ofSorted (sorted laps)

@[simp] theorem ofLaps_nil : ofLaps [] = {} := rfl

theorem sorted_perm (laps : List Duration) : (sorted laps).Perm laps :=
  List.mergeSort_perm _ _

end LapStatistics

/-- The laps of a measured block and their sum. -/
structure Measurement where
  total : Duration := .zero
  laps : List Duration := []
  deriving DecidableEq, Repr

namespace Measurement

/-- The measurement of some laps. -/
def ofLaps (laps : List Duration) : Measurement :=
  ⟨Duration.sum laps, laps⟩

/-- The measurement of some laps, unless they are too long together. -/
def ofLaps? (laps : List Duration) : Option Measurement :=
  (Duration.sum? laps).map (⟨·, laps⟩)

/-- The number of repetitions. -/
def iterations (m : Measurement) : Nat :=
  m.laps.length

/-- The figures of a measurement. -/
def statistics (m : Measurement) : LapStatistics :=
  .ofLaps m.laps

/-- The figures of a measurement, unless its laps are too long together. -/
def statistics? (m : Measurement) : Option LapStatistics :=
  (Duration.sum? m.laps).map fun _ => m.statistics

/-- The mean of the laps. -/
def mean (m : Measurement) : Duration :=
  m.statistics.mean

/-- Where a sum can be measured, both ways to form a measurement agree. -/
theorem eq_ofLaps_of_ofLaps? {laps : List Duration} {m : Measurement}
    (h : ofLaps? laps = some m) : m = ofLaps laps := by
  simp only [ofLaps?, Duration.sum?] at h
  split at h
  · simpa [ofLaps] using h.symm
  · simp at h

end Measurement

end LangBench
