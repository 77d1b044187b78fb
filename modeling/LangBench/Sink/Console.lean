import LangBench.Call
import LangBench.Sink.Basic

/-!
# Reports as text

* `Console.lines`: the lines that a call to a sink is shown as;
* `Console.sink`: the sink that writes these lines one after the other, until one cannot be
  written;
* `Console.receive`: the same, but a call panics that has laps too long together to be added up;
* `LimitedWriter`: a writer that has room for so many bytes only.
-/

namespace LangBench

namespace Console

/-- The number of characters of a rule across the page. -/
def width : Nat := 80

/-- A rule made of one character. -/
def rule (c : Char) : String :=
  String.ofList (List.replicate width c)

/-- The lines that open a mode. -/
def beginLines (mode : Mode) (iterations : Nat) : List String :=
  ["\n" ++ rule '=' ++ "\n", s!"MODE: {mode.name} ({iterations} iterations)\n", rule '=' ++ "\n"]

/-- The line of a rehearsal. -/
def rehearsalLine (d : Duration) : String :=
  s!"  rehearsal  {d.display}\n"

/-- The line of a measurement. -/
def realLine (m : Measurement) : String :=
  let s := m.statistics
  s!"  real       {m.total.display} (mean {s.mean.display}, min {s.min.display}, " ++
    s!"max {s.max.display})\n"

/-- The lines of an outcome. -/
def outcomeLines : Outcome → List String
  | .completed rehearsal measurement =>
    (rehearsal.map rehearsalLine).toList ++ [realLine measurement]
  | .failed reason => [s!"  FAILED     {reason}\n"]

/-- The lines of a report. -/
def reportLines (r : Report) : List String :=
  (r.label ++ "\n") :: outcomeLines r.outcome

/-- The lines that close a run. -/
def finishLines (s : RunSummary) : List String :=
  ["\n" ++ rule '-' ++ "\n",
   s!"Reports: {s.reports}, failed: {s.failed}, elapsed: {s.elapsed.display}\n"]

/-- The lines that a call is shown as, each with the line feed that ends it. -/
def lines : SinkCall → List String
  | .begin mode iterations => beginLines mode iterations
  | .emit report => reportLines report
  | .finish summary => finishLines summary

/-- The text that a call is shown as. -/
def text (call : SinkCall) : String :=
  String.join (lines call)

/-- Writes texts one after the other until one cannot be written. -/
def writeAll {m : Type → Type} [Monad m] (write : String → m (Except String Unit)) :
    List String → m (Except BenchError Unit)
  | [] => pure (.ok ())
  | t :: ts => do
    match ← write t with
    | .ok () => writeAll write ts
    | .error reason => return .error (.report reason)

/-- The sink that shows every call as text; `write` may fail with a reason. -/
def sink {m : Type → Type} [Monad m] (write : String → m (Except String Unit)) : Sink m :=
  .ofReceive fun call => writeAll write (lines call)

/-! ### Laps that are too long together -/

/-- What a panic carries when durations are too long together. -/
def overflow : Payload := .text "overflow in iter::sum over durations"

/-- The lines of an outcome that can be shown.  There are no figures of laps that are too long
together. -/
def reachedLines : Outcome → List String
  | .completed rehearsal measurement =>
    (rehearsal.map rehearsalLine).toList ++
      (measurement.statistics?.map fun _ => realLine measurement).toList
  | .failed reason => outcomeLines (.failed reason)

/-- The lines of a call that can be shown. -/
def reached : SinkCall → List String
  | .emit report => (report.label ++ "\n") :: reachedLines report.outcome
  | call => lines call

/-- How a call ends behind the lines that can be shown. -/
def ending : SinkCall → Call BenchError Unit
  | .emit report =>
    if report.measurement?.all fun m => m.statistics?.isSome then .returned ()
    else .panicked overflow
  | _ => .returned ()

/-- Shows a call as text, as far as it can be shown; `write` may fail with a reason. -/
def receive {m : Type → Type} [Monad m] (write : String → m (Except String Unit))
    (call : SinkCall) : m (Call BenchError Unit) := do
  match ← writeAll write (reached call) with
  | .ok () => return ending call
  | .error e => return .error e

end Console

/-- A writer that has room for so many bytes only. -/
structure LimitedWriter where
  /-- The room there is in all; without a limit there is always room. -/
  limit : Option Nat := none
  /-- What it says when it is full. -/
  fullMessage : String := "sink full"
  /-- The bytes written. -/
  written : List UInt8 := []
  deriving DecidableEq, Repr

namespace LimitedWriter

/-- Writes bytes as far as there is room. -/
def writeBytes (w : LimitedWriter) (bytes : List UInt8) : Except String Unit × LimitedWriter :=
  match w.limit with
  | none => (.ok (), { w with written := w.written ++ bytes })
  | some limit =>
    let room := limit - w.written.length
    (if bytes.length ≤ room then .ok () else .error w.fullMessage,
      { w with written := w.written ++ bytes.take room })

/-- Writes a text as far as there is room. -/
def write (t : String) : StateM LimitedWriter (Except String Unit) :=
  fun w => w.writeBytes (Text.Utf8.encode t.toList)

end LimitedWriter

end LangBench
