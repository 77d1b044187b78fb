import LangBench.Error
import LangBench.Report.Basic

/-!
# Sinks for reports

* `Sink`: where the reports of a run go, as soon as they are there;
* `SinkCall`: the calls that a sink receives;
* `MemorySink`: what a sink keeps that refuses nothing.
-/

namespace LangBench

/-- Where the reports of a run go.  Each call may fail. -/
structure Sink (m : Type → Type) where
  /-- A mode with this number of repetitions begins. -/
  begin : Mode → Nat → m (Except BenchError Unit)
  /-- A report is there. -/
  emit : Report → m (Except BenchError Unit)
  /-- The run is over. -/
  finish : RunSummary → m (Except BenchError Unit)

/-- A call that a sink receives. -/
inductive SinkCall where
  | begin (mode : Mode) (iterations : Nat)
  | emit (report : Report)
  | finish (summary : RunSummary)
  deriving DecidableEq, Repr

/-- Reports kept in memory. -/
structure MemorySink where
  /-- The modes that began. -/
  modes : List Mode := []
  reports : List Report := []
  summary : Option RunSummary := none
  deriving DecidableEq, Repr

namespace MemorySink

/-- The sink after a call. -/
def receive (s : MemorySink) : SinkCall → MemorySink
  | .begin mode _ => { s with modes := s.modes ++ [mode] }
  | .emit report => { s with reports := s.reports ++ [report] }
  | .finish summary => { s with summary := some summary }

/-- The reports of a mode. -/
def reportsFor (s : MemorySink) (mode : Mode) : List Report :=
  s.reports.filter fun r => r.mode == mode

/-- The labels of the reports. -/
def labels (s : MemorySink) : List String :=
  s.reports.map Report.label

end MemorySink

namespace Sink

/-- The sink that passes every call on. -/
def ofReceive {m : Type → Type} (receive : SinkCall → m (Except BenchError Unit)) : Sink m where
  begin mode iterations := receive (.begin mode iterations)
  emit report := receive (.emit report)
  finish summary := receive (.finish summary)

/-- The call passed on to a sink. -/
def receive {m : Type → Type} (s : Sink m) : SinkCall → m (Except BenchError Unit)
  | .begin mode iterations => s.begin mode iterations
  | .emit report => s.emit report
  | .finish summary => s.finish summary

end Sink

end LangBench
