import LangBench.Proofs.Run.Isolation
import LangBench.Proofs.Run.Refusal

/-!
# Both modes agree

The report on a strategy and the whole corpus tells what the first failed report on the strategy
and a single sample told, if there was one.

* `nthRow`: the reports on one strategy among those on all pairs of a strategy and a sample;
* `InBothModes`: what the reports on a strategy in both modes have in common;
* `Runner.reportsIn_perSample_eq`: once a report on the whole corpus is there, all reports on
  samples are;
* `Runner.modes_agree`: the reports of a run, whether its sink fails or not.
-/

namespace LangBench

variable {W : Type}

/-! ### Rows of a table -/

/-- The row with number `i` of a table with `n` columns, whose rows are written one after the
other. -/
def nthRow {α : Type} (n i : Nat) (table : List α) : List α :=
  (table.drop (i * n)).take n

theorem nthRow_flatMap {α β : Type} {f : α → List β} {n : Nat} (columns : ∀ a, (f a).length = n)
    {xs : List α} {i : Nat} {a : α} (h : xs[i]? = some a) : nthRow n i (xs.flatMap f) = f a := by
  induction xs generalizing i with
  | nil => cases h
  | cons b xs ih =>
    unfold nthRow at ih ⊢
    rw [List.flatMap_cons]
    cases i with
    | zero =>
      obtain rfl : b = a := Option.some.inj h
      rw [Nat.zero_mul, List.drop_zero]
      exact List.take_left' (columns b)
    | succ i =>
      rw [Nat.succ_mul, Nat.add_comm, ← List.drop_drop, List.drop_left' (columns b)]
      exact ih h

theorem forall₂_nthRow {α β : Type} {R : α → β → Prop} {xs : List α} {ys : List β} (n i : Nat)
    (h : List.Forall₂ R xs ys) : List.Forall₂ R (nthRow n i xs) (nthRow n i ys) :=
  List.forall₂_take n (List.forall₂_drop (i * n) h)

theorem map_nthRow {α β : Type} (f : α → β) (n i : Nat) (xs : List α) :
    (nthRow n i xs).map f = nthRow n i (xs.map f) := by
  rw [nthRow, nthRow, List.map_take, List.map_drop]

/-- What is found first in two lists that are alike. -/
theorem findSome?_eq_of_forall₂ {α β γ : Type} {f : α → Option γ} {g : β → Option γ} {xs : List α}
    {ys : List β} (h : List.Forall₂ (fun a b => g b = f a) xs ys) :
    ys.findSome? g = xs.findSome? f := by
  induction h with
  | nil => rfl
  | cons first _ ih => rw [List.findSome?_cons, List.findSome?_cons, first, ih]

/-- The reports on a strategy in both modes: `total` on all files, `own` on each of them. -/
structure InBothModes (s : Registered (StateM W)) (bs : List Blob) (n : Nat) (total : Report)
    (own : List Report) : Prop where
  total_isOn : total.IsOn (.ofCorpus s bs) n
  own_isOn : List.Forall₂ (fun b report => report.IsOn (.ofSample s b) n) bs own
  /-- Both modes fail or none does. -/
  isFailed_iff : total.isFailed = true ↔ ∃ report ∈ own, report.isFailed = true
  /-- The reason is that of the first sample that fails. -/
  failure?_eq : total.failure? = own.findSome? Report.failure?

namespace Runner

variable {r : Runner (StateM W)} {sink : Sink (StateM W)}

/-! ### Reports of a run that is seen to its end -/

theorem inBothModes_of_infallible (infallible : sink.Infallible) {corpus : Corpus}
    (clean : ∀ x ∈ corpus.samples, x.isClean = true) (repeated : 1 ≤ r.config.iterations)
    (perSample : Mode.perSample ∈ r.config.modes) (total : Mode.total ∈ r.config.modes)
    {i : Nat} {s : Registered (StateM W)} (hs : r.registry[i]? = some s)
    (steady : s.Steady r.context) (w : W) :
    ∃ report, (reportsIn .total (r.trace sink corpus w))[i]? = some report ∧
      InBothModes s (corpus.samples.map Sample.toBlob) r.config.iterations report
        (nthRow corpus.samples.length i (reportsIn .perSample (r.trace sink corpus w))) := by
  obtain ⟨parts, reported, reports, events⟩ := r.reportsIn_run infallible corpus w perSample
  obtain ⟨parts', reported', reports', events'⟩ := r.reportsIn_run infallible corpus w total
  have never : r.config.iterations ≠ 0 := Nat.one_le_iff_ne_zero.1 repeated
  -- the report on the whole corpus
  have pair : (r.registry.pairs (corpus.samples.map Sample.toBlob) .total)[i]? =
      some (.ofCorpus s (corpus.samples.map Sample.toBlob)) := by
    rw [Registry.pairs, List.getElem?_map, hs]
    rfl
  obtain ⟨part, hpart, whole⟩ := exists_getElem?_of_forall₂ reported' pair
  have failure := whole.failure?_eq
    (isEmpty_of_mem_trace clean (events' part (List.mem_of_getElem? hpart))) steady w
  rw [if_neg never] at failure
  -- the reports on the samples
  have rows := forall₂_nthRow corpus.samples.length i reported
  have row : nthRow corpus.samples.length i
      (r.registry.pairs (corpus.samples.map Sample.toBlob) .perSample) =
      (corpus.samples.map Sample.toBlob).map (Pair.ofSample s) :=
    nthRow_flatMap (fun s => by rw [List.length_map, List.length_map]) hs
  rw [row, List.forall₂_map_left_iff] at rows
  have inRow : ∀ part ∈ nthRow corpus.samples.length i parts, part ∈ parts := fun part mem =>
    List.mem_of_mem_drop (List.mem_of_mem_take mem)
  have own : List.Forall₂ (fun b report => report.IsOn (.ofSample s b) r.config.iterations ∧
      report.failure? = (s.faultOn r.context w b).map BenchError.message)
      (corpus.samples.map Sample.toBlob)
      (nthRow corpus.samples.length i (reportsIn .perSample (r.trace sink corpus w))) := by
    rw [reports, ← map_nthRow, List.forall₂_map_right_iff]
    refine (forall₂_and_mem rows).imp ?_
    rintro b part ⟨mem, reported⟩
    have failure := reported.failure?_eq
      (isEmpty_of_mem_trace clean (events part (inRow part mem))) steady w
    rw [if_neg never] at failure
    refine ⟨reported.isOn, failure.trans ?_⟩
    simp [Pair.ofSample]
  have found := findSome?_eq_of_forall₂ (own.imp fun _ _ h => h.2)
  have same : part.report.failure? =
      (nthRow corpus.samples.length i (reportsIn .perSample (r.trace sink corpus w))).findSome?
        Report.failure? := by
    rw [found, failure]
    exact List.map_findSome?
  refine ⟨part.report, ?_, whole.isOn, own.imp fun _ _ h => h.1, ?_, same⟩
  · rw [reports', List.getElem?_map, hpart]
    rfl
  · unfold Report.isFailed
    rw [same, List.findSome?_isSome_iff]

/-! ### Reports of a run that may be broken off -/

/-- The reports on samples come before those on the whole corpus. -/
theorem Finished.perSample_first {bs : List Blob} {secs : List Section} {summary : RunSummary}
    {log : List Event} (h : r.Finished bs secs summary log)
    (perSample : Mode.perSample ∈ r.config.modes) (total : Mode.total ∈ r.config.modes) :
    ∃ first rest, log = first ++ rest ∧ reportsIn .total first = [] ∧
      reportsIn .perSample rest = [] := by
  have modes : secs.map Section.mode = [.perSample, .total] := by
    rw [h.modes_eq]
    simp [Mode.all, Config.runs, perSample, total]
  obtain ⟨first, others, rfl, mode, more⟩ := List.map_eq_cons_iff.1 modes
  obtain ⟨second, none, rfl, mode', last⟩ := List.map_eq_cons_iff.1 more
  obtain rfl := List.map_eq_nil_iff.1 last
  refine ⟨first.events r.config.iterations,
    second.events r.config.iterations ++ [.told (.finish summary)], ?_, ?_, ?_⟩
  · rw [h.log_eq]
    simp
  · rw [h.reportsIn_section .total (by simp), mode, if_neg (by decide)]
  · have told : reportsIn .perSample [.told (.finish summary)] = [] := rfl
    rw [reportsIn, List.filterMap_append, ← reportsIn, ← reportsIn, told,
      h.reportsIn_section .perSample (by simp), mode', if_neg (by decide), List.append_nil]

/-- Once a report on the whole corpus is there, all reports on samples are. -/
theorem reportsIn_perSample_eq (corpus : Corpus) (w : W)
    (perSample : Mode.perSample ∈ r.config.modes) (total : Mode.total ∈ r.config.modes)
    (begun : reportsIn .total (r.trace sink corpus w) ≠ []) :
    reportsIn .perSample (r.trace sink corpus w) =
      reportsIn .perSample (r.trace sink.pardoned corpus w) := by
  obtain ⟨secs, summary, -, finished⟩ := r.finished_run sink.infallible_pardoned corpus w
  obtain ⟨first, rest, log, noTotal, noSample⟩ := finished.perSample_first perSample total
  obtain ⟨future, whole⟩ := r.trace_pardoned sink corpus w
  rw [log] at whole
  rcases List.append_eq_append_iff.1 whole with ⟨more, part, -⟩ | ⟨more, part, others⟩
  · -- the run was broken off among the reports on samples
    rw [part, reportsIn, List.filterMap_append, List.append_eq_nil_iff] at noTotal
    exact absurd noTotal.1 begun
  · unfold reportsIn at noSample ⊢
    have noMore := noSample
    rw [others, List.filterMap_append, List.append_eq_nil_iff] at noMore
    rw [log, part, List.filterMap_append, List.filterMap_append, noMore.1, noSample]

/-- The reports of a run are the first ones of the same run with the sink pardoned. -/
theorem reportsIn_pardoned (r : Runner (StateM W)) (sink : Sink (StateM W)) (corpus : Corpus)
    (w : W) (mode : Mode) : reportsIn mode (r.trace sink corpus w) <+:
      reportsIn mode (r.trace sink.pardoned corpus w) :=
  (r.trace_pardoned sink corpus w).filterMap _

/-- A pair that is never called does not fail. -/
theorem isFailed_of_never (never : r.config.iterations = 0) {mode : Mode}
    (runs : mode ∈ r.config.modes) {corpus : Corpus} {w : W} {report : Report}
    (mem : report ∈ reportsIn mode (r.trace sink corpus w)) : report.isFailed = false := by
  obtain ⟨parts, reported, reports, -⟩ := r.reportsIn_run sink.infallible_pardoned corpus w runs
  have whole := (r.reportsIn_pardoned sink corpus w mode).subset mem
  rw [reports] at whole
  obtain ⟨part, hpart, rfl⟩ := List.mem_map.1 whole
  obtain ⟨i, hi⟩ := List.mem_iff_getElem?.1 hpart
  obtain ⟨p, -, reported⟩ := exists_getElem?_of_forall₂ reported.flip hi
  obtain ⟨fault, tried, tells⟩ := reported.outcome
  have nothing : r.passes = 0 := by simp [passes, never]
  rw [nothing, rounds_zero] at tried
  generalize part.log = log at tried
  cases tried
  rw [Report.isFailed, tells.failure?_eq]
  rfl

/-- **Both modes agree.**  In a run from clean samples, the report on a steady strategy and the
whole corpus fails if and only if one of the reports on the strategy and a single sample does, for
the reason of the first of them.  Where nothing is repeated, no report fails.  A sink that fails
may keep reports from being made, but not from agreeing. -/
theorem modes_agree (r : Runner (StateM W)) (sink : Sink (StateM W)) (corpus : Corpus) (w : W) :
    (Mode.perSample ∈ r.config.modes → Mode.total ∈ r.config.modes → 1 ≤ r.config.iterations →
      (∀ x ∈ corpus.samples, x.isClean = true) →
      ∀ (i : Nat) (s : Registered (StateM W)), r.registry[i]? = some s → s.Steady r.context →
        (∀ report, (reportsIn .total (r.trace sink corpus w))[i]? = some report →
          InBothModes s (corpus.samples.map Sample.toBlob) r.config.iterations report
            (nthRow corpus.samples.length i (reportsIn .perSample (r.trace sink corpus w)))) ∧
        (sink.Infallible →
          ∃ report, (reportsIn .total (r.trace sink corpus w))[i]? = some report)) ∧
    (r.config.iterations = 0 → ∀ mode ∈ r.config.modes,
      (∀ report ∈ reportsIn mode (r.trace sink corpus w), report.isFailed = false) ∧
      (sink.Infallible → List.Forall₂ (fun p report => report.IsOn p 0)
        (r.registry.pairs (corpus.samples.map Sample.toBlob) mode)
        (reportsIn mode (r.trace sink corpus w)))) := by
  constructor
  · intro perSample total repeated clean i s hs steady
    constructor
    · intro report at_i
      have begun : reportsIn .total (r.trace sink corpus w) ≠ [] :=
        List.ne_nil_of_mem (List.mem_of_getElem? at_i)
      obtain ⟨report', at_i', agree⟩ := inBothModes_of_infallible sink.infallible_pardoned clean
        repeated perSample total hs steady w
      -- the report that was made is the one that would have been made
      obtain ⟨future, whole⟩ := r.reportsIn_pardoned sink corpus w .total
      obtain ⟨hi, -⟩ := List.getElem?_eq_some_iff.1 at_i
      rw [← whole, List.getElem?_append_left hi, at_i] at at_i'
      obtain rfl := Option.some.inj at_i'
      rw [reportsIn_perSample_eq corpus w perSample total begun]
      exact agree
    · intro infallible
      obtain ⟨report, at_i, -⟩ := inBothModes_of_infallible infallible clean repeated perSample
        total hs steady w
      exact ⟨report, at_i⟩
  · intro never mode runs
    constructor
    · intro report mem
      exact isFailed_of_never never runs mem
    · intro infallible
      obtain ⟨parts, reported, reports, -⟩ := r.reportsIn_run infallible corpus w runs
      rw [reports, List.forall₂_map_right_iff, ← never]
      exact reported.imp fun p part h => h.isOn

/-- The strategy among the faulty ones that always panics. -/
theorem steady_panics : ∃ s, faulty.registry[1]? = some s ∧ s.Steady faulty.context :=
  ⟨_, rfl, fun _ _ _ => rfl⟩

theorem modes_agree_faulty_twins : ∃ s report, faulty.registry[1]? = some s ∧
    (reportsIn .total (faulty.trace .accepting twins {}))[1]? = some report ∧
    report.failure? =
      some "Panics failed on samples/a.py: panicked: panic with non-string payload" ∧
    InBothModes s (twins.samples.map Sample.toBlob) 2 report
      (nthRow 2 1 (reportsIn .perSample (faulty.trace .accepting twins {}))) := by
  obtain ⟨s, hs, steady⟩ := steady_panics
  have clean : ∀ x ∈ twins.samples, x.isClean = true := by simp [twins]
  obtain ⟨agree, exist⟩ := (faulty.modes_agree .accepting twins {}).1 (by decide) (by decide)
    (by decide) clean 1 s hs steady
  obtain ⟨report, at_1⟩ := exist Sink.infallible_accepting
  have reason : ((reportsIn .total (faulty.trace .accepting twins {}))[1]?).bind Report.failure? =
      some "Panics failed on samples/a.py: panicked: panic with non-string payload" := by
    decide +kernel
  rw [at_1] at reason
  exact ⟨s, report, hs, at_1, reason, agree report at_1⟩

end Runner

end LangBench
