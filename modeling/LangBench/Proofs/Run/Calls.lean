import LangBench.Proofs.Run.Delivery

/-!
# The calls that a sink receives

A sink that never fails is told of every mode that the configuration names, per-sample mode
first, of every pair of each mode in order, and of the end.

* `Report.IsOn`: a report is on a pair, and has all laps if it is on one that did not fail;
* `RunSummary.reports_foldl`, `RunSummary.failed_foldl`: what counting some reports comes to;
* `Runner.calls_run`: the calls of a run.
-/

namespace LangBench

/-- The call of the sink that an event is, if it is one. -/
def Event.call? : Event → Option SinkCall
  | .called _ _ _ => none
  | .told call => some call

namespace RunSummary

theorem reports_foldl (reports : List Report) (s : RunSummary) :
    (reports.foldl record s).reports = s.reports + reports.length := by
  induction reports generalizing s with
  | nil => rfl
  | cons report reports ih =>
    rw [List.foldl_cons, ih, List.length_cons]
    simp only [record]
    omega

theorem failed_foldl (reports : List Report) (s : RunSummary) :
    (reports.foldl record s).failed = s.failed + reports.countP Report.isFailed := by
  induction reports generalizing s with
  | nil => rfl
  | cons report reports ih =>
    rw [List.foldl_cons, ih, List.countP_cons]
    simp only [record]
    split <;> omega

end RunSummary

variable {W : Type}

/-- A report on a pair that was to be repeated `n` times. -/
structure Report.IsOn (report : Report) (p : Pair W) (n : Nat) : Prop where
  label : report.label = Report.labelFor p.strategy.label p.target n
  strategy : report.strategy = p.strategy.label
  kind : report.kind = p.strategy.kind
  mode : report.mode = p.mode
  target : report.target = p.target
  iterations : report.iterations = n
  laps : ∀ measurement, report.measurement? = some measurement → measurement.laps.length = n

/-- A report has as many laps as its outcome tells. -/
theorem Outcome.Tells.length_laps {n : Nat} {rehearsed : Bool} {fault : Option BenchError}
    {report : Report} (h : report.outcome.Tells n rehearsed fault) {measurement : Measurement}
    (measured : report.measurement? = some measurement) : measurement.laps.length = n := by
  generalize ho : report.outcome = outcome at h
  unfold Report.measurement? at measured
  rw [ho] at measured
  cases h with
  | completed _ length =>
    obtain rfl := Option.some.inj measured
    exact length
  | failed e => cases measured

namespace Runner

variable {r : Runner (StateM W)} {p : Pair W} {log : List Event} {report : Report}

theorem Reported.isOn (h : r.Reported p log report) : report.IsOn p r.config.iterations where
  label := congrArg Report.label h.heading
  strategy := congrArg Report.strategy h.heading
  kind := congrArg Report.kind h.heading
  mode := congrArg Report.mode h.heading
  target := congrArg Report.target h.heading
  iterations := congrArg Report.iterations h.heading
  laps := by
    obtain ⟨fault, -, tells⟩ := h.outcome
    intro measurement measured
    exact tells.length_laps measured

theorem calls_flatMap_events {pairs : List (Pair W)} {parts : List Part}
    (h : List.Forall₂ (fun p part => r.Reported p part.log part.report) pairs parts) :
    (parts.flatMap Part.events).filterMap Event.call? =
      (parts.map Part.report).map SinkCall.emit := by
  induction h with
  | nil => rfl
  | @cons p part pairs parts reported _ ih =>
    rw [List.flatMap_cons, List.filterMap_append, ih, Part.events, List.filterMap_append,
      reported.filterMap_log fun _ _ _ => rfl]
    rfl

theorem calls_flatMap_section {bs : List Blob} {secs : List Section}
    (h : ∀ sec ∈ secs, List.Forall₂ (fun p part => r.Reported p part.log part.report)
      (r.registry.pairs bs sec.mode) sec.parts) :
    (secs.flatMap (Section.events r.config.iterations)).filterMap Event.call? =
      secs.flatMap fun sec =>
        .begin sec.mode r.config.iterations :: sec.reports.map SinkCall.emit := by
  rw [List.filterMap_flatMap]
  refine List.flatMap_congr fun sec mem => ?_
  have begun : Event.call? (.told (.begin sec.mode r.config.iterations)) =
      some (.begin sec.mode r.config.iterations) := rfl
  rw [Section.events, List.filterMap_cons_some begun, calls_flatMap_events (h sec mem)]
  rfl

/-- **The calls of a run.**  Of each mode the sink is told once, and then of each of its pairs. -/
theorem calls_run (r : Runner (StateM W)) {sink : Sink (StateM W)} (infallible : sink.Infallible)
    (corpus : Corpus) (w : W) :
    ∃ (secs : List (Mode × List Report)) (summary : RunSummary),
      ((r.run sink corpus).run w).1.1 = .ok summary ∧
      secs.map Prod.fst = [Mode.perSample, Mode.total].filter (· ∈ r.config.modes) ∧
      (r.trace sink corpus w).filterMap Event.call? =
        secs.flatMap (fun sec => .begin sec.1 r.config.iterations :: sec.2.map .emit) ++
          [.finish summary] ∧
      (∀ sec ∈ secs, List.Forall₂ (fun p report => report.IsOn p r.config.iterations)
        (r.registry.pairs (corpus.samples.map Sample.toBlob) sec.1) sec.2) ∧
      summary.reports = (secs.flatMap Prod.snd).length ∧
      summary.failed = (secs.flatMap Prod.snd).countP Report.isFailed ∧
      summary.succeeded + summary.failed = summary.reports := by
  obtain ⟨secs, summary, result, modes_eq, reported, log_eq, summary_eq⟩ :=
    r.finished_run infallible corpus w
  have runs : r.config.runs = fun mode => decide (mode ∈ r.config.modes) := by
    funext mode
    simp [Config.runs]
  have reports : (secs.map fun sec => (sec.mode, sec.reports)).flatMap Prod.snd =
      secs.flatMap Section.reports := by
    rw [List.flatMap_map]
  have counted : summary.reports = (secs.flatMap Section.reports).length := by
    rw [summary_eq, RunSummary.reports_foldl]
    exact Nat.zero_add _
  have failures : summary.failed = (secs.flatMap Section.reports).countP Report.isFailed := by
    rw [summary_eq, RunSummary.failed_foldl]
    exact Nat.zero_add _
  refine ⟨secs.map fun sec => (sec.mode, sec.reports), summary, result, ?_, ?_, ?_, ?_⟩
  · rw [List.map_map, ← runs]
    exact modes_eq
  · rw [log_eq, List.filterMap_append, calls_flatMap_section reported, List.flatMap_map]
    rfl
  · rintro _ told
    obtain ⟨sec, mem, rfl⟩ := List.mem_map.1 told
    exact List.forall₂_map_right_iff.2 ((reported sec mem).imp fun p part h => h.isOn)
  · rw [reports]
    refine ⟨counted, failures, ?_⟩
    have bound := List.countP_le_length (p := Report.isFailed) (l := secs.flatMap Section.reports)
    rw [RunSummary.succeeded]
    omega

theorem calls_faulty_twins : (Sink.accepting : Sink (StateM CallLog)).Infallible ∧
    ∃ (perSample total : List Report) (summary : RunSummary),
      ((faulty.run .accepting twins).run {}).1.1 = .ok summary ∧
      (faulty.trace .accepting twins {}).filterMap Event.call? =
        .begin .perSample 2 :: perSample.map .emit ++ .begin .total 2 :: total.map .emit ++
          [.finish summary] ∧
      perSample.length = 4 ∧ total.length = 2 ∧ summary.reports = 6 := by
  obtain ⟨secs, summary, result, modes_eq, calls, reported, count, -, -⟩ :=
    faulty.calls_run Sink.infallible_accepting twins {}
  have modes : secs.map Prod.fst = [.perSample, .total] := modes_eq
  obtain ⟨⟨_, perSample⟩, rest, rfl, rfl, others⟩ := List.map_eq_cons_iff.1 modes
  obtain ⟨⟨_, total⟩, rest, rfl, rfl, none⟩ := List.map_eq_cons_iff.1 others
  obtain rfl := List.map_eq_nil_iff.1 none
  have four : perSample.length = 4 := (reported (.perSample, perSample) (by simp)).length_eq.symm
  have two : total.length = 2 := (reported (.total, total) (by simp)).length_eq.symm
  refine ⟨Sink.infallible_accepting, perSample, total, summary, result, ?_, four, two, ?_⟩
  · have repetitions : faulty.config.iterations = 2 := rfl
    simpa [repetitions] using calls
  · simpa [four, two] using count

end Runner

end LangBench
