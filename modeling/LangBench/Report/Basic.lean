import LangBench.Config
import LangBench.Measurement

/-!
# Reports

* `Kind`, `Target`, `Outcome`: what a report is about and how it ended;
* `Report`: the report on a strategy and a target, with its label;
* `RunSummary`: how many reports a run gave and how many of them failed.
-/

namespace LangBench

/-- What a strategy is given: a sample, or its bare content. -/
inductive Kind where
  | sample
  | classifier
  deriving DecidableEq, Repr

/-- The name of a kind. -/
def Kind.name : Kind → String
  | .sample => "sample"
  | .classifier => "classifier"

/-- What was measured. -/
inductive Target where
  /-- One sample, known by its label. -/
  | sample (label : String)
  /-- The whole corpus. -/
  | total
  deriving DecidableEq, Repr

/-- The name of a target. -/
def Target.name : Target → String
  | .sample label => label
  | .total => "total"

/-- How a strategy did on a target. -/
inductive Outcome where
  /-- Every repetition returned. -/
  | completed (rehearsal : Option Duration) (measurement : Measurement)
  /-- A repetition failed. -/
  | failed (reason : String)
  deriving DecidableEq, Repr

/-- A report on a strategy and a target. -/
structure Report where
  label : String
  strategy : String
  kind : Kind
  mode : Mode
  target : Target
  iterations : Nat
  outcome : Outcome
  deriving DecidableEq, Repr

namespace Report

/-- The label of a report. -/
def labelFor (strategy : String) (target : Target) (iterations : Nat) : String :=
  match target with
  | .sample label => s!"{strategy}()_SAMPLE_{label} {iterations}"
  | .total => s!"{strategy}()_TOTAL {iterations}"

/-- The report on a strategy and a target, with the label that goes with them. -/
def make (strategy : String) (kind : Kind) (mode : Mode) (target : Target) (iterations : Nat)
    (outcome : Outcome) : Report where
  label := labelFor strategy target iterations
  strategy
  kind
  mode
  target
  iterations
  outcome

/-- The reason of a failure. -/
def failure? (r : Report) : Option String :=
  match r.outcome with
  | .failed reason => some reason
  | .completed _ _ => none

/-- Whether the strategy failed. -/
def isFailed (r : Report) : Bool :=
  r.failure?.isSome

/-- What was measured, if the strategy did not fail. -/
def measurement? (r : Report) : Option Measurement :=
  match r.outcome with
  | .completed _ measurement => some measurement
  | .failed _ => none

/-- How long the rehearsal took, if there was one. -/
def rehearsal? (r : Report) : Option Duration :=
  match r.outcome with
  | .completed rehearsal _ => rehearsal
  | .failed _ => none

/-- The figures of the laps; all are zero for a failure. -/
def statistics (r : Report) : LapStatistics :=
  (r.measurement?.map Measurement.statistics).getD {}

end Report

/-- The reports of a run in numbers. -/
structure RunSummary where
  /-- The number of reports. -/
  reports : Nat := 0
  /-- How many of them failed. -/
  failed : Nat := 0
  /-- How long the run took. -/
  elapsed : Duration := .zero
  deriving DecidableEq, Repr

namespace RunSummary

/-- One more report. -/
def record (s : RunSummary) (r : Report) : RunSummary :=
  { s with reports := s.reports + 1, failed := if r.isFailed then s.failed + 1 else s.failed }

/-- The number of reports that did not fail. -/
def succeeded (s : RunSummary) : Nat :=
  s.reports - s.failed

end RunSummary

end LangBench
