import LangBench.Proofs.Run.Schedule
import LangBench.Strategy.Scripted
import Mathlib.Data.List.Forall2

/-!
# What a run tells its sink

A run goes through its modes, in each mode through the pairs that the mode reports on, and tells
the sink of each pair when it is done.

* `Part`, `Section`: what is written down of a pair, and of a mode with all its pairs;
* `Runner.Delivered`: the pairs were measured and reported one after the other;
* `Runner.walk_run`: what happens in a run walks from the samples before it to those after it,
  whatever the sink says;
* `Runner.finished_run`: with a sink that never fails, every pair of every mode is reported.
-/

namespace LangBench

open Watched

/-- What is written down of a pair, and the report on it. -/
structure Part where
  log : List Event
  report : Report

/-- A pair is measured first, then the sink is told. -/
def Part.events (part : Part) : List Event :=
  part.log ++ [.told (.emit part.report)]

/-- What is written down of a mode. -/
structure Section where
  mode : Mode
  parts : List Part

/-- The sink is told of a mode, then of its pairs. -/
def Section.events (iterations : Nat) (sec : Section) : List Event :=
  .told (.begin sec.mode iterations) :: sec.parts.flatMap Part.events

/-- The reports of a mode. -/
def Section.reports (sec : Section) : List Report :=
  sec.parts.map Part.report

variable {W : Type}

/-- A sink that never fails. -/
def Sink.Infallible (sink : Sink (StateM W)) : Prop :=
  ∀ call w, ((sink.receive call).run w).1 = .ok ()

/-- The sink that accepts every call. -/
def Sink.accepting : Sink (StateM W) :=
  .ofReceive fun _ => pure (.ok ())

theorem Sink.infallible_accepting : (Sink.accepting : Sink (StateM W)).Infallible := by
  intro call w
  cases call <;> rfl

theorem Sink.ensures_receive (sink : Sink (StateM W)) (call : SinkCall) :
    Ensures (sink.watched.receive call) fun answer log =>
      log = [.told call] ∧ (sink.Infallible → answer = .ok ()) := by
  intro w
  cases call with
  | begin mode iterations => exact ⟨rfl, fun infallible => infallible (.begin mode iterations) w⟩
  | emit report => exact ⟨rfl, fun infallible => infallible (.emit report) w⟩
  | finish summary => exact ⟨rfl, fun infallible => infallible (.finish summary) w⟩

namespace Runner

variable {r : Runner (StateM W)} {s : Registered (StateM W)} {sink : Sink (StateM W)}

/-- Some pairs were measured and reported one after the other, and counted. -/
structure Delivered (r : Runner (StateM W)) (pairs : List (Pair W)) (parts : List Part)
    (before : RunSummary) (result : Except BenchError RunSummary) (log : List Event) : Prop where
  reported : List.Forall₂ (fun p part => r.Reported p part.log part.report) pairs parts
  log_eq : log = parts.flatMap Part.events
  result_eq : result = .ok ((parts.map Part.report).foldl RunSummary.record before)

namespace Delivered

theorem nil (summary : RunSummary) : r.Delivered [] [] summary (.ok summary) [] :=
  ⟨.nil, rfl, rfl⟩

theorem single {p : Pair W} {part : Part} {before : RunSummary}
    (h : r.Reported p part.log part.report) :
    r.Delivered [p] [part] before (.ok (before.record part.report)) part.events :=
  ⟨.cons h .nil, by simp, rfl⟩

theorem append {ps qs : List (Pair W)} {parts parts' : List Part} {before between : RunSummary}
    {result : Except BenchError RunSummary} {log log' : List Event}
    (h : r.Delivered ps parts before (.ok between) log)
    (h' : r.Delivered qs parts' between result log') :
    r.Delivered (ps ++ qs) (parts ++ parts') before result (log ++ log') where
  reported := List.rel_append h.reported h'.reported
  log_eq := by rw [h.log_eq, h'.log_eq, List.flatMap_append]
  result_eq := by
    have counted := h.result_eq
    simp only [Except.ok.injEq] at counted
    rw [h'.result_eq, counted, List.map_append, List.foldl_append]

end Delivered

theorem ensures_deliver (summary : RunSummary) (report : Report) :
    Ensures (deliver sink.watched summary report) fun answer log =>
      log = [.told (.emit report)] ∧
      (sink.Infallible → answer = .ok (summary.record report)) := by
  refine (sink.ensures_receive (.emit report)).bind ?_
  rintro answer log ⟨rfl, told⟩
  cases answer with
  | ok _ => exact .pure ⟨rfl, fun _ => rfl⟩
  | error e => exact .pure ⟨rfl, fun infallible => nomatch told infallible⟩

/-- The samples that were reported already stand in `seen`, the last one first. -/
theorem ensures_eachSample (hs : s ∈ r.registry) (summary : RunSummary) (seen xs : List Sample) :
    Ensures (r.watched.eachSample sink.watched s.watched summary seen xs) fun p log =>
      Walk r (seen.reverse ++ xs) log p.2 ∧
      (sink.Infallible → ∃ parts,
        r.Delivered ((xs.map Sample.toBlob).map (Pair.ofSample s)) parts summary p.1 log) := by
  induction xs generalizing summary seen with
  | nil => exact .pure ⟨by simpa using Walk.nil _, fun _ => ⟨[], .nil summary⟩⟩
  | cons x xs ih =>
    refine (ensures_benchSample hs seen.reverse xs x).bind ?_
    rintro ⟨report, y⟩ log ⟨walk, reported⟩
    refine (ensures_deliver summary report).bind ?_
    rintro answer log' ⟨rfl, told⟩
    have walked : Walk r (seen.reverse ++ x :: xs) (log ++ [.told (.emit report)])
        (seen.reverse ++ y :: xs) := walk.append (.single (.tell _ _))
    cases answer with
    | error e =>
      exact .pure ⟨by simpa using walked, fun infallible => nomatch told infallible⟩
    | ok counted =>
      refine (ih counted (y :: seen)).imp ?_
      rintro p log'' ⟨rest, delivered⟩
      refine ⟨?_, fun infallible => ?_⟩
      · simp only [List.reverse_cons, List.append_assoc, List.singleton_append] at rest
        rw [← List.append_assoc]
        exact walked.append rest
      · obtain ⟨parts, delivered⟩ := delivered infallible
        have first : r.Delivered [.ofSample s x.toBlob] [⟨log, report⟩] summary (.ok counted)
            (log ++ [.told (.emit report)]) := by
          rw [told infallible]
          exact .single reported
        refine ⟨⟨log, report⟩ :: parts, ?_⟩
        rw [← List.append_assoc]
        exact first.append delivered

theorem ensures_perSample (rest : Registry (StateM W)) (hrest : ∀ s ∈ rest, s ∈ r.registry)
    (summary : RunSummary) (xs : List Sample) :
    Ensures (r.watched.perSample sink.watched (rest.map Registered.watched) summary xs)
      fun p log => Walk r xs log p.2 ∧ (sink.Infallible → ∃ parts,
        r.Delivered (rest.pairs (xs.map Sample.toBlob) .perSample) parts summary p.1 log) := by
  induction rest generalizing summary xs with
  | nil => exact .pure ⟨.nil xs, fun _ => ⟨[], .nil summary⟩⟩
  | cons s rest ih =>
    refine (ensures_eachSample (hrest s (by simp)) summary [] xs).bind ?_
    rintro ⟨counted, ys⟩ log ⟨walk, first⟩
    cases counted with
    | error e =>
      refine .pure ⟨by simpa using walk, fun infallible => ?_⟩
      obtain ⟨parts, delivered⟩ := first infallible
      cases delivered.result_eq
    | ok counted =>
      refine (ih (fun t ht => hrest t (by simp [ht])) counted ys).imp ?_
      rintro p log' ⟨walk', others⟩
      refine ⟨walk.append walk', fun infallible => ?_⟩
      obtain ⟨parts, delivered⟩ := first infallible
      obtain ⟨parts', delivered'⟩ := others infallible
      rw [walk.map_toBlob] at delivered'
      exact ⟨parts ++ parts', delivered.append delivered'⟩

theorem ensures_total (rest : Registry (StateM W)) (hrest : ∀ s ∈ rest, s ∈ r.registry)
    (summary : RunSummary) (xs : List Sample) :
    Ensures (r.watched.total sink.watched (rest.map Registered.watched) summary xs)
      fun p log => Walk r xs log p.2 ∧ (sink.Infallible → ∃ parts,
        r.Delivered (rest.pairs (xs.map Sample.toBlob) .total) parts summary p.1 log) := by
  induction rest generalizing summary xs with
  | nil => exact .pure ⟨.nil xs, fun _ => ⟨[], .nil summary⟩⟩
  | cons s rest ih =>
    refine (ensures_benchCorpus (hrest s (by simp)) xs).bind ?_
    rintro ⟨report, ys⟩ log ⟨walk, reported⟩
    refine (ensures_deliver summary report).bind ?_
    rintro answer log' ⟨rfl, told⟩
    have walked : Walk r xs (log ++ [.told (.emit report)]) ys :=
      walk.append (.single (.tell _ _))
    cases answer with
    | error e => exact .pure ⟨by simpa using walked, fun infallible => nomatch told infallible⟩
    | ok counted =>
      refine (ih (fun t ht => hrest t (by simp [ht])) counted ys).imp ?_
      rintro p log'' ⟨walk', others⟩
      rw [← List.append_assoc]
      refine ⟨walked.append walk', fun infallible => ?_⟩
      obtain ⟨parts, delivered⟩ := others infallible
      rw [walk.map_toBlob] at delivered
      have first : r.Delivered [.ofCorpus s (xs.map Sample.toBlob)] [⟨log, report⟩] summary
          (.ok counted) (log ++ [.told (.emit report)]) := by
        rw [told infallible]
        exact .single reported
      exact ⟨⟨log, report⟩ :: parts, first.append delivered⟩

/-! ### Modes -/

/-- Some modes were gone through one after the other, and all their reports were counted. -/
structure Completed (r : Runner (StateM W)) (bs : List Blob) (modes : List Mode)
    (secs : List Section) (before : RunSummary) (result : Except BenchError RunSummary)
    (log : List Event) : Prop where
  modes_eq : secs.map Section.mode = modes
  reported : ∀ sec ∈ secs, List.Forall₂ (fun p part => r.Reported p part.log part.report)
    (r.registry.pairs bs sec.mode) sec.parts
  log_eq : log = secs.flatMap (Section.events r.config.iterations)
  result_eq : result = .ok ((secs.flatMap Section.reports).foldl RunSummary.record before)

theorem ensures_inMode (mode : Mode) (summary : RunSummary) (xs : List Sample) :
    Ensures (r.watched.inMode sink.watched mode summary xs) fun p log =>
      Walk r xs log p.2 ∧ (sink.Infallible → ∃ sec,
        r.Completed (xs.map Sample.toBlob) [mode] [sec] summary p.1 log) := by
  refine (sink.ensures_receive (.begin mode r.config.iterations)).bind ?_
  rintro answer log ⟨rfl, told⟩
  have begun : Walk r xs [.told (.begin mode r.config.iterations)] xs := .single (.tell _ _)
  cases answer with
  | error e => exact .pure ⟨begun, fun infallible => nomatch told infallible⟩
  | ok _ =>
    -- the same ending for both modes
    have ending : ∀ (p : Except BenchError RunSummary × List Sample) (log : List Event),
        (Walk r xs log p.2 ∧ (sink.Infallible → ∃ parts,
          r.Delivered (r.registry.pairs (xs.map Sample.toBlob) mode) parts summary p.1 log)) →
        Walk r xs ([.told (.begin mode r.config.iterations)] ++ log) p.2 ∧
          (sink.Infallible → ∃ sec, r.Completed (xs.map Sample.toBlob) [mode] [sec] summary p.1
            ([.told (.begin mode r.config.iterations)] ++ log)) := by
      rintro p log ⟨walk, delivered⟩
      refine ⟨begun.append walk, fun infallible => ?_⟩
      obtain ⟨parts, reported, rfl, counted⟩ := delivered infallible
      refine ⟨⟨mode, parts⟩, rfl, by simpa using reported, ?_, ?_⟩
      · simp [Section.events]
      · simpa [Section.reports] using counted
    cases mode with
    | perSample => exact (ensures_perSample r.registry (fun _ h => h) summary xs).imp ending
    | total => exact (ensures_total r.registry (fun _ h => h) summary xs).imp ending

theorem ensures_inModes (modes : List Mode) (summary : RunSummary) (xs : List Sample) :
    Ensures (r.watched.inModes sink.watched modes summary xs) fun p log =>
      Walk r xs log p.2 ∧ (sink.Infallible → ∃ secs,
        r.Completed (xs.map Sample.toBlob) modes secs summary p.1 log) := by
  induction modes generalizing summary xs with
  | nil => exact .pure ⟨.nil xs, fun _ => ⟨[], rfl, by simp, rfl, rfl⟩⟩
  | cons mode rest ih =>
    refine (ensures_inMode mode summary xs).bind ?_
    rintro ⟨counted, ys⟩ log ⟨walk, first⟩
    cases counted with
    | error e =>
      refine .pure ⟨by simpa using walk, fun infallible => ?_⟩
      obtain ⟨sec, completed⟩ := first infallible
      cases completed.result_eq
    | ok counted =>
      refine (ih counted ys).imp ?_
      rintro p log' ⟨walk', others⟩
      refine ⟨walk.append walk', fun infallible => ?_⟩
      obtain ⟨sec, mode_eq, reported, rfl, counted_eq⟩ := first infallible
      obtain ⟨secs, modes_eq, reported', rfl, result_eq⟩ := others infallible
      refine ⟨sec :: secs, ?_, ?_, ?_, ?_⟩
      · simpa [modes_eq] using mode_eq
      · rw [walk.map_toBlob] at reported'
        simpa using ⟨by simpa using reported, reported'⟩
      · simp
      · simp only [Except.ok.injEq, List.flatMap_cons, List.flatMap_nil, List.append_nil]
          at counted_eq
        rw [result_eq, counted_eq, List.flatMap_cons, List.foldl_append]

/-! ### The whole run -/

/-- A run with a sink that never fails: every mode, then the end. -/
structure Finished (r : Runner (StateM W)) (bs : List Blob) (secs : List Section)
    (summary : RunSummary) (log : List Event) : Prop where
  modes_eq : secs.map Section.mode = Mode.all.filter r.config.runs
  reported : ∀ sec ∈ secs, List.Forall₂ (fun p part => r.Reported p part.log part.report)
    (r.registry.pairs bs sec.mode) sec.parts
  log_eq : log = secs.flatMap (Section.events r.config.iterations) ++ [.told (.finish summary)]
  summary_eq : summary = { (secs.flatMap Section.reports).foldl RunSummary.record {} with
    elapsed := summary.elapsed }

theorem ensures_runSamples (xs : List Sample) :
    Ensures (r.watched.runSamples sink.watched xs) fun p log =>
      Walk r xs log p.2 ∧ (sink.Infallible → ∃ secs summary,
        p.1 = .ok summary ∧ r.Finished (xs.map Sample.toBlob) secs summary log) := by
  refine (Ensures.liftM r.clock).bind ?_
  rintro start log rfl
  refine (ensures_inModes (Mode.all.filter r.config.runs) {} xs).bind ?_
  rintro ⟨counted, ys⟩ log ⟨walk, completed⟩
  cases counted with
  | error e =>
    refine .pure ⟨by simpa using walk, fun infallible => ?_⟩
    obtain ⟨secs, failed⟩ := completed infallible
    cases failed.result_eq
  | ok counted =>
    refine (Ensures.liftM r.clock).bind ?_
    rintro stop log' rfl
    refine (sink.ensures_receive (.finish { counted with elapsed := stop.since start })).bind ?_
    rintro answer log' ⟨rfl, told⟩
    have walked := walk.append (.single (.tell ys
      (.finish { counted with elapsed := stop.since start })))
    cases answer with
    | error e => exact .pure ⟨by simpa using walked, fun infallible => nomatch told infallible⟩
    | ok _ =>
      refine .pure ⟨by simpa using walked, fun infallible => ?_⟩
      obtain ⟨secs, modes_eq, reported, rfl, result_eq⟩ := completed infallible
      simp only [Except.ok.injEq] at result_eq
      refine ⟨secs, _, rfl, modes_eq, reported, by simp, ?_⟩
      rw [result_eq]

theorem ensures_run (corpus : Corpus) :
    Ensures (r.watched.run sink.watched corpus) fun p log =>
      p.2.root = corpus.root ∧ Walk r corpus.samples log p.2.samples ∧
      (sink.Infallible → ∃ secs summary,
        p.1 = .ok summary ∧ r.Finished (corpus.samples.map Sample.toBlob) secs summary log) := by
  refine (ensures_runSamples corpus.samples).bind ?_
  rintro ⟨result, ys⟩ log ⟨walk, finished⟩
  rw [← List.append_nil log] at walk finished
  exact .pure ⟨rfl, walk, finished⟩

/-- What happens in a run leads from the samples before it to those after it. -/
theorem walk_run (r : Runner (StateM W)) (sink : Sink (StateM W)) (corpus : Corpus) (w : W) :
    Walk r corpus.samples (r.trace sink corpus w) ((r.run sink corpus).run w).1.2.samples :=
  (of_ensures (ensures_run corpus) w).2.1

theorem root_run (r : Runner (StateM W)) (sink : Sink (StateM W)) (corpus : Corpus) (w : W) :
    ((r.run sink corpus).run w).1.2.root = corpus.root :=
  (of_ensures (ensures_run corpus) w).1

/-- A run with a sink that never fails ends well, and reports on every pair of every mode. -/
theorem finished_run (r : Runner (StateM W)) {sink : Sink (StateM W)}
    (infallible : sink.Infallible) (corpus : Corpus) (w : W) :
    ∃ secs summary, ((r.run sink corpus).run w).1.1 = .ok summary ∧
      r.Finished (corpus.samples.map Sample.toBlob) secs summary (r.trace sink corpus w) :=
  (of_ensures (ensures_run corpus) w).2.2 infallible

/-! ### Runs with faults -/

/-- Two strategies, one that fails when it is called for the second time and one that always
panics, in modes that are named twice and in the wrong order. -/
def faulty : Runner (StateM CallLog) where
  config := { iterations := 2, modes := [.total, .perSample, .total] }
  registry :=
    [⟨"Second", Script.detector ⟨modifyGet⟩ 0 { deed := .fail, at_ := 2 }⟩,
      ⟨"Panics", Script.detector ⟨modifyGet⟩ 1 { deed := .panic .other, classifier := true }⟩]
  context := { languages := .empty, statistics := {} }
  clock := pure .zero

/-- Two files of the same content. -/
def twins : Corpus where
  root := .ofString "samples"
  samples :=
    [.new (.ofString "samples/a.py") [0x31, 0x0A], .new (.ofString "samples/b.py") [0x31, 0x0A]]

end Runner

end LangBench
