import LangBench.Proofs.Run.Calls
import LangBench.Proofs.Sample.Views
import Mathlib.Data.List.Nodup

/-!
# Pairs do not disturb each other

Whether a pair fails, and why, does not depend on what surrounds it in a run.

* `Registered.Steady`: on a clean sample the answer depends on the sample only;
* `Registered.Stateless`: it depends on the path and the bytes only;
* `Method.stateless`: the strategies that detection has by itself are such;
* `Runner.Reported.failure?_of_answers`: what a report says, from the answers to its calls;
* `reportsIn`, `Runner.reportsIn_run`: the reports of a mode in a trace, and that they are those on
  its pairs;
* `Setting`: a run from clean samples in which every pair is repeated and the sink never fails;
* `Setting.failure?_report`: the failure of a stateless strategy is that of the first blob on which
  a single call fails;
* `Setting.isolated`: two runs agree on the failure of a pair that they have in common.
-/

namespace LangBench

variable {W : Type}

/-- A call has no failure if and only if it returned. -/
theorem Call.failure?_eq_none_iff {ε α : Type} {c : Call ε α} :
    c.failure? = none ↔ ∃ a, c = .returned a := by
  cases c <;> simp [Call.failure?]

namespace Registered

/-- On a clean sample, the answer depends on nothing but its path and its bytes. -/
def Stateless (s : Registered (StateM W)) (context : Context) : Prop :=
  ∀ b b' : Blob, b.path = b'.path → b.data = b'.data →
    ∀ w w', s.answer context ⟨b, {}⟩ w = s.answer context ⟨b', {}⟩ w'

/-- On a clean sample, the answer depends on nothing but the sample. -/
def Steady (s : Registered (StateM W)) (context : Context) : Prop :=
  ∀ (b : Blob) (w w' : W), s.answer context ⟨b, {}⟩ w = s.answer context ⟨b, {}⟩ w'

theorem Stateless.steady {s : Registered (StateM W)} {context : Context}
    (h : s.Stateless context) : s.Steady context :=
  fun b w w' => h b b rfl rfl w w'

/-- The failure of a single call on a clean sample. -/
def failureOn (s : Registered (StateM W)) (context : Context) (w : W) (b : Blob) :
    Option (CallFailure DetectError) :=
  (s.answer context ⟨b, {}⟩ w).failure?

/-- What a single call on a clean sample does to the report. -/
def faultOn (s : Registered (StateM W)) (context : Context) (w : W) (b : Blob) :
    Option BenchError :=
  (s.failureOn context w b).map (Runner.strategyError s b)

/-- The answer on a sample is that on a clean one, if a strategy that sees the cache sees none. -/
theorem answer_eq (s : Registered (StateM W)) (context : Context) {x : Sample}
    (empty : ∀ b c, s.given x = .sample b c → c.isEmpty = true) (w : W) :
    s.answer context x w = s.answer context ⟨x.toBlob, {}⟩ w := by
  obtain ⟨label, detector⟩ := s
  cases detector with
  | classifier call => rfl
  | sample call =>
    have clean : x.isClean = true := empty x.toBlob x.cache rfl
    rw [← Sample.reset_of_isClean clean]
    rfl

/-- The fault of a stateless strategy depends on path and bytes only. -/
theorem Stateless.faultOn_eq {s : Registered (StateM W)} {context : Context}
    (h : s.Stateless context) {b b' : Blob} (path : b.path = b'.path) (data : b.data = b'.data)
    (w w' : W) : s.faultOn context w b = s.faultOn context w' b' := by
  have labels : b.label = b'.label := by rw [Blob.label, path, Blob.label]
  have errors : Runner.strategyError s b = Runner.strategyError s b' := by
    funext f
    rw [Runner.strategyError, labels, Runner.strategyError]
  rw [faultOn, failureOn, h b b' path data w w', errors]
  rfl

/-- A stateless strategy has no fault on a blob if and only if it returns on a fresh copy of it. -/
theorem Stateless.faultOn_eq_none_iff {s : Registered (StateM W)} {context : Context}
    (h : s.Stateless context) (w : W) (b : Blob) : s.faultOn context w b = none ↔
      ∀ w', ∃ names, s.answer context (.new b.path b.data) w' = .returned names := by
  have fresh : ∀ w', s.answer context (.new b.path b.data) w' = s.answer context ⟨b, {}⟩ w :=
    fun w' => h (Sample.new b.path b.data).toBlob b rfl rfl w' w
  rw [faultOn, Option.map_eq_none_iff, failureOn, Call.failure?_eq_none_iff]
  constructor
  · rintro ⟨names, returned⟩ w'
    exact ⟨names, (fresh w').trans returned⟩
  · intro returns
    obtain ⟨names, returned⟩ := returns w
    exact ⟨names, (fresh w).symm.trans returned⟩

end Registered

/-- In any world, and whatever is kept, the strategies that detection has by itself answer as
without a cache. -/
theorem Method.answer_of_holds (rules : RuleBook) (context : Context) (m : Method) {x : Sample}
    (holds : ∀ b c, (m.registered rules : Registered (StateM W)).given x = .sample b c →
      c.Holds b) (w : W) :
    (m.registered rules : Registered (StateM W)).answer context x w =
      m.answer rules context x.toBlob := by
  have answered : ∀ m : Method, x.cache.Holds x.toBlob →
      (View.run ((m.registered rules).invoke context) x.toBlob x.cache).1 =
        m.answer rules context x.toBlob := by
    intro m kept
    obtain ⟨c, run, -⟩ := m.computes rules context x.toBlob x.cache kept
    rw [run]
  cases m with
  | naiveBayes => rfl
  | modeline => exact answered .modeline (holds _ _ rfl)
  | filename => exact answered .filename (holds _ _ rfl)
  | shebang => exact answered .shebang (holds _ _ rfl)
  | extension => exact answered .extension (holds _ _ rfl)
  | content => exact answered .content (holds _ _ rfl)

theorem Method.answer_of_kept (rules : RuleBook) (context : Context) (m : Method) {x : Sample}
    (kept : x.cache.Holds x.toBlob) (w : W) :
    (m.registered rules : Registered (StateM W)).answer context x w =
      m.answer rules context x.toBlob := by
  refine m.answer_of_holds rules context (fun b c given => ?_) w
  cases m <;> cases given <;> exact kept

/-- On clean samples in particular. -/
theorem Method.answer_registered (rules : RuleBook) (context : Context) (b : Blob) (m : Method)
    (w : W) : (m.registered rules : Registered (StateM W)).answer context ⟨b, {}⟩ w =
      m.answer rules context b := by
  refine m.answer_of_holds rules context (x := ⟨b, {}⟩) (fun b' c given => ?_) w
  cases m <;> cases given <;> exact .empty

/-- The strategies that detection has by itself are stateless. -/
theorem Method.stateless (rules : RuleBook) (context : Context) (m : Method) :
    (m.registered rules : Registered (StateM W)).Stateless context := by
  rintro ⟨path, relative, data⟩ ⟨_, relative', _⟩ rfl rfl w w'
  rw [m.answer_registered, m.answer_registered]
  cases m <;> rfl

/-- The same strategy, on files of the same paths and bytes. -/
structure Pair.Alike (p q : Pair W) : Prop where
  strategy : p.strategy = q.strategy
  files : List.Forall₂ (fun x y : Blob => x.path = y.path ∧ x.data = y.data) p.blobs q.blobs

/-- The first fault of a stateless strategy depends on the paths and bytes of the files only. -/
theorem Registered.Stateless.findSome?_faultOn_eq {s : Registered (StateM W)} {context : Context}
    (h : s.Stateless context) {xs ys : List Blob}
    (files : List.Forall₂ (fun x y : Blob => x.path = y.path ∧ x.data = y.data) xs ys) (w w' : W) :
    xs.findSome? (s.faultOn context w) = ys.findSome? (s.faultOn context w') := by
  induction files with
  | nil => rfl
  | cons file _ ih => rw [List.findSome?_cons, List.findSome?_cons, ih, h.faultOn_eq file.1 file.2]

/-- What an outcome tells of a fault is the failure of the report. -/
theorem Outcome.Tells.failure?_eq {n : Nat} {rehearsed : Bool} {fault : Option BenchError}
    {report : Report} (h : report.outcome.Tells n rehearsed fault) :
    report.failure? = fault.map BenchError.message := by
  generalize ho : report.outcome = outcome at h
  unfold Report.failure?
  rw [ho]
  cases h <;> rfl

namespace Runner

variable {r : Runner (StateM W)}

theorem passes_ne_zero (h : 1 ≤ r.config.iterations) : r.passes ≠ 0 := by
  unfold passes
  split <;> omega

/-- The failure of a strategy whose answers in this run depend on the blobs only. -/
theorem Reported.failure?_of_answers {p : Pair W} {log : List Event} {report : Report}
    (h : r.Reported p log report) {g : Blob → Option (CallFailure DetectError)}
    (answers : ∀ x w, r.callEvent p.strategy x w ∈ log →
      (r.answerAt p.strategy x w).failure? = g x.toBlob) :
    report.failure? = if r.config.iterations = 0 then none else
      (p.blobs.findSome? fun b => (g b).map (strategyError p.strategy b)).map
        BenchError.message := by
  obtain ⟨fault, tried, tells⟩ := h.outcome
  rw [tells.failure?_eq, tried.fault_eq answers]
  split
  case isTrue never =>
    have none : r.passes = 0 := by simp [passes, never]
    rw [none, rounds_zero]
    rfl
  case isFalse repeated =>
    rw [findSome?_rounds _ _ (passes_ne_zero (Nat.one_le_iff_ne_zero.2 repeated))]

/-- The failure of a steady strategy whose calls met clean samples. -/
theorem Reported.failure?_eq {p : Pair W} {log : List Event} {report : Report}
    (h : r.Reported p log report)
    (empty : ∀ strategy b c answer,
      .called strategy (.sample b c) answer ∈ log → c.isEmpty = true)
    (steady : p.strategy.Steady r.context) (w : W) :
    report.failure? = if r.config.iterations = 0 then none else
      (p.blobs.findSome? (p.strategy.faultOn r.context w)).map BenchError.message := by
  refine h.failure?_of_answers fun x v called => ?_
  have clean : ∀ b c, p.strategy.given x = .sample b c → c.isEmpty = true := by
    intro b c given
    rw [callEvent, given] at called
    exact empty _ b c _ called
  rw [answerAt, p.strategy.answer_eq r.context clean, steady x.toBlob _ w]
  rfl

/-- Every pair that a mode reports on is one of that mode. -/
theorem mode_of_mem_pairs {registry : Registry (StateM W)} {bs : List Blob} {mode : Mode}
    {p : Pair W} (h : p ∈ registry.pairs bs mode) : p.mode = mode := by
  cases mode with
  | perSample =>
    obtain ⟨s, -, hp⟩ := List.mem_flatMap.1 h
    obtain ⟨b, -, rfl⟩ := List.mem_map.1 hp
    rfl
  | total =>
    obtain ⟨s, -, rfl⟩ := List.mem_map.1 h
    rfl

/-- What is written down of a pair is written down of the run. -/
theorem Finished.mem_of_mem_log {bs : List Blob} {secs : List Section} {summary : RunSummary}
    {log : List Event} (h : r.Finished bs secs summary log) {sec : Section} (hsec : sec ∈ secs)
    {part : Part} (hpart : part ∈ sec.parts) {e : Event} (he : e ∈ part.log) : e ∈ log := by
  have inPart : e ∈ part.events := List.mem_append_left _ he
  have inSection : e ∈ sec.events r.config.iterations :=
    List.mem_cons_of_mem _ (List.mem_flatMap.2 ⟨part, hpart, inPart⟩)
  rw [h.log_eq]
  exact List.mem_append_left _ (List.mem_flatMap.2 ⟨sec, hsec, inSection⟩)

end Runner

/-! ### The reports of a mode -/

/-- The report that an event gives the sink, if it is one of this mode. -/
def Event.reportIn? (mode : Mode) : Event → Option Report
  | .told (.emit report) => if report.mode = mode then some report else none
  | _ => none

/-- The reports of a mode in a trace. -/
def reportsIn (mode : Mode) (log : List Event) : List Report :=
  log.filterMap (Event.reportIn? mode)

namespace Runner

variable {r : Runner (StateM W)}

theorem Reported.reportsIn_events {p : Pair W} {part : Part}
    (h : r.Reported p part.log part.report) (mode : Mode) :
    reportsIn mode part.events = if p.mode = mode then [part.report] else [] := by
  have same : part.report.mode = p.mode := congrArg Report.mode h.heading
  rw [reportsIn, Part.events, List.filterMap_append, h.filterMap_log fun _ _ _ => rfl]
  by_cases hp : p.mode = mode <;> simp [Event.reportIn?, same, hp]

theorem reportsIn_flatMap_events {pairs : List (Pair W)} {parts : List Part} {m : Mode}
    (h : List.Forall₂ (fun p part => r.Reported p part.log part.report) pairs parts)
    (modes : ∀ p ∈ pairs, p.mode = m) (mode : Mode) :
    reportsIn mode (parts.flatMap Part.events) =
      if m = mode then parts.map Part.report else [] := by
  induction h with
  | nil => simp [reportsIn]
  | @cons p part pairs parts reported _ ih =>
    have first := reported.reportsIn_events mode
    have others := ih fun q mem => modes q (List.mem_cons_of_mem _ mem)
    rw [modes p (by simp)] at first
    rw [List.flatMap_cons, reportsIn, List.filterMap_append, ← reportsIn, ← reportsIn, first,
      others]
    split <;> rfl

theorem Finished.reportsIn_section {bs : List Blob} {secs : List Section} {summary : RunSummary}
    {log : List Event} (h : r.Finished bs secs summary log) (mode : Mode) {sec : Section}
    (mem : sec ∈ secs) : reportsIn mode (sec.events r.config.iterations) =
      if sec.mode = mode then sec.reports else [] :=
  reportsIn_flatMap_events (h.reported sec mem) (fun _ hp => mode_of_mem_pairs hp) mode

/-- In a trace, the reports of a mode are those of its section. -/
theorem Finished.reportsIn_eq {bs : List Blob} {secs : List Section} {summary : RunSummary}
    {log : List Event} (h : r.Finished bs secs summary log) {sec : Section} (mem : sec ∈ secs) :
    reportsIn sec.mode log = sec.reports := by
  have sections : reportsIn sec.mode log =
      secs.flatMap fun other => if other.mode = sec.mode then other.reports else [] := by
    rw [h.log_eq, reportsIn, List.filterMap_append, List.filterMap_flatMap]
    have none : [Event.told (.finish summary)].filterMap (Event.reportIn? sec.mode) = [] := rfl
    rw [none, List.append_nil]
    exact List.flatMap_congr fun other hother => h.reportsIn_section sec.mode hother
  -- no other section has this mode, so only this one is left of the sum
  have distinct : (secs.map Section.mode).Nodup := by
    rw [h.modes_eq]
    exact List.Nodup.filter _ (by decide)
  obtain ⟨before, after, rfl⟩ := List.append_of_mem mem
  have others : ∀ other, other ∈ before ∨ other ∈ after → other.mode ≠ sec.mode := by
    rw [List.map_append, List.map_cons, List.nodup_middle, List.nodup_cons] at distinct
    intro other hother same
    refine distinct.1 ?_
    rw [← same, ← List.map_append]
    exact List.mem_map_of_mem (List.mem_append.2 hother)
  have noneBefore : before.flatMap (fun other =>
      if other.mode = sec.mode then other.reports else []) = [] :=
    List.flatMap_eq_nil_iff.2 fun other hother => if_neg (others other (.inl hother))
  have noneAfter : after.flatMap (fun other =>
      if other.mode = sec.mode then other.reports else []) = [] :=
    List.flatMap_eq_nil_iff.2 fun other hother => if_neg (others other (.inr hother))
  rw [sections, List.flatMap_append, List.flatMap_cons, noneBefore, noneAfter, if_pos rfl,
    List.nil_append, List.append_nil]

/-- In a run from clean samples, whatever was measured before, calls meet empty caches. -/
theorem isEmpty_of_mem_trace {sink : Sink (StateM W)} {corpus : Corpus}
    (clean : ∀ x ∈ corpus.samples, x.isClean = true) {w : W} {log : List Event}
    (events : ∀ e ∈ log, e ∈ r.trace sink corpus w) (strategy : String) (b : Blob) (c : Cache)
    (answer : Answer) (called : .called strategy (.sample b c) answer ∈ log) :
    c.isEmpty = true :=
  (r.walk_run sink corpus w).isEmpty_of_isClean clean (events _ called)

/-- With a sink that never fails, the reports of a mode that runs are those on its pairs. -/
theorem reportsIn_run (r : Runner (StateM W)) {sink : Sink (StateM W)}
    (infallible : sink.Infallible) (corpus : Corpus) (w : W) {mode : Mode}
    (runs : mode ∈ r.config.modes) :
    ∃ parts, List.Forall₂ (fun p part => r.Reported p part.log part.report)
        (r.registry.pairs (corpus.samples.map Sample.toBlob) mode) parts ∧
      reportsIn mode (r.trace sink corpus w) = parts.map Part.report ∧
      ∀ part ∈ parts, ∀ e ∈ part.log, e ∈ r.trace sink corpus w := by
  obtain ⟨secs, summary, -, finished⟩ := r.finished_run infallible corpus w
  have named : mode ∈ secs.map Section.mode := by
    rw [finished.modes_eq, List.mem_filter]
    exact ⟨by cases mode <;> decide, by simpa [Config.runs] using runs⟩
  obtain ⟨sec, mem, rfl⟩ := List.mem_map.1 named
  exact ⟨sec.parts, finished.reported sec mem, finished.reportsIn_eq mem,
    fun part hpart e he => finished.mem_of_mem_log mem hpart he⟩

end Runner

/-! ### Two runs -/

/-- What stands at an index of a list has a partner at that index. -/
theorem exists_getElem?_of_forall₂ {α β : Type} {R : α → β → Prop} {xs : List α} {ys : List β}
    (h : List.Forall₂ R xs ys) {i : Nat} {x : α} (hx : xs[i]? = some x) :
    ∃ y, ys[i]? = some y ∧ R x y := by
  obtain ⟨hi, rfl⟩ := List.getElem?_eq_some_iff.1 hx
  have hj : i < ys.length := h.length_eq ▸ hi
  exact ⟨ys[i], List.getElem?_eq_getElem hj, h.get hi hj⟩

/-- Partners are elements of the second list. -/
theorem forall₂_and_mem {α β : Type} {R : α → β → Prop} {xs : List α} {ys : List β}
    (h : List.Forall₂ R xs ys) : List.Forall₂ (fun a b => b ∈ ys ∧ R a b) xs ys := by
  induction h with
  | nil => exact .nil
  | cons first _ ih =>
    refine .cons ⟨List.mem_cons_self, first⟩ (ih.imp ?_)
    rintro a b ⟨mem, related⟩
    exact ⟨List.mem_cons_of_mem _ mem, related⟩

/-- A run from clean samples in which every pair is repeated and the sink never fails. -/
structure Setting (W : Type) where
  runner : Runner (StateM W)
  sink : Sink (StateM W)
  corpus : Corpus
  start : W
  repeated : 1 ≤ runner.config.iterations
  infallible : sink.Infallible
  clean : ∀ x ∈ corpus.samples, x.isClean = true

namespace Setting

/-- The pairs of a mode, in their order. -/
def pairs (a : Setting W) (mode : Mode) : List (Pair W) :=
  a.runner.registry.pairs (a.corpus.samples.map Sample.toBlob) mode

/-- The reports of a mode, in the order in which the sink gets them. -/
def reports (a : Setting W) (mode : Mode) : List Report :=
  reportsIn mode (a.runner.trace a.sink a.corpus a.start)

/-- **A pair on its own.**  The failure of a stateless strategy is that of the first blob on which
a single call fails. -/
theorem failure?_report (a : Setting W) {mode : Mode} (runs : mode ∈ a.runner.config.modes)
    {i : Nat} {p : Pair W} (hp : (a.pairs mode)[i]? = some p)
    (stateless : p.strategy.Stateless a.runner.context) (w : W) :
    ∃ report, (a.reports mode)[i]? = some report ∧
      report.IsOn p a.runner.config.iterations ∧ report.failure? =
        (p.blobs.findSome? (p.strategy.faultOn a.runner.context w)).map BenchError.message := by
  obtain ⟨parts, reported, reports, events⟩ :=
    a.runner.reportsIn_run a.infallible a.corpus a.start runs
  obtain ⟨part, hpart, reported⟩ := exists_getElem?_of_forall₂ reported hp
  have failure := reported.failure?_eq
    (Runner.isEmpty_of_mem_trace a.clean (events part (List.mem_of_getElem? hpart))) stateless.steady w
  rw [if_neg (Nat.one_le_iff_ne_zero.1 a.repeated)] at failure
  refine ⟨part.report, ?_, reported.isOn, failure⟩
  rw [Setting.reports, reports, List.getElem?_map, hpart]
  rfl

/-- **Pairs do not disturb each other.**  Two runs report the same failure, or none, of a stateless
strategy on files of the same paths and bytes, wherever the pair stands in each of them and
whatever else is measured there; there is none if and only if the strategy returns on a fresh copy
of every file. -/
theorem isolated (a b : Setting W) (same : a.runner.context = b.runner.context) {mode : Mode}
    (runs : mode ∈ a.runner.config.modes) (runs' : mode ∈ b.runner.config.modes) {i j : Nat}
    {p q : Pair W} (hp : (a.pairs mode)[i]? = some p) (hq : (b.pairs mode)[j]? = some q)
    (alike : p.Alike q) (stateless : p.strategy.Stateless a.runner.context) :
    ∃ report report',
      ((a.reports mode)[i]? = some report ∧ report.IsOn p a.runner.config.iterations) ∧
      ((b.reports mode)[j]? = some report' ∧ report'.IsOn q b.runner.config.iterations) ∧
      report.failure? = report'.failure? ∧
      (report.failure? = none ↔ ∀ file ∈ p.blobs, ∀ w, ∃ names,
        p.strategy.answer a.runner.context (.new file.path file.data) w = .returned names) := by
  obtain ⟨report, at_i, on, failure⟩ := a.failure?_report runs hp stateless a.start
  have stateless' := stateless
  rw [alike.strategy, same] at stateless'
  obtain ⟨report', at_j, on', failure'⟩ := b.failure?_report runs' hq stateless' a.start
  refine ⟨report, report', ⟨at_i, on⟩, ⟨at_j, on'⟩, ?_, ?_⟩
  · rw [failure, failure', ← same, ← alike.strategy,
      stateless.findSome?_faultOn_eq alike.files a.start a.start]
  · rw [failure, Option.map_eq_none_iff, List.findSome?_eq_none_iff]
    exact forall₂_congr fun file _ => stateless.faultOn_eq_none_iff a.start file

/-- Looking for modelines in the corpus of twins, between strategies that fail. -/
def crowded : Setting CallLog where
  runner := { Runner.faulty with
    registry := Runner.faulty.registry.intersperse (Method.modeline.registered ⟨[]⟩) }
  sink := .accepting
  corpus := Runner.twins
  start := {}
  repeated := by decide
  infallible := Sink.infallible_accepting
  clean := by simp [Runner.twins]

/-- Looking for modelines in one of the twins alone. -/
def lonely : Setting CallLog where
  runner := { Runner.faulty with
    config := { iterations := 1, modes := [.perSample] }
    registry := [Method.modeline.registered ⟨[]⟩] }
  sink := .accepting
  corpus := { root := .ofString "", samples := Runner.twins.samples.drop 1 }
  start := {}
  repeated := by decide
  infallible := Sink.infallible_accepting
  clean := by simp [Runner.twins]

theorem isolated_crowded_lonely : ∃ report report',
    (crowded.reports .perSample)[3]? = some report ∧
    (lonely.reports .perSample)[0]? = some report' ∧ report.failure? = report'.failure? := by
  have runs : Mode.perSample ∈ crowded.runner.config.modes := by decide
  have runs' : Mode.perSample ∈ lonely.runner.config.modes := by decide
  have third : (crowded.pairs .perSample)[3]? = some (.ofSample (Method.modeline.registered ⟨[]⟩)
      (Sample.new (.ofString "samples/b.py") [0x31, 0x0A]).toBlob) := rfl
  have first : (lonely.pairs .perSample)[0]? = some (.ofSample (Method.modeline.registered ⟨[]⟩)
      (Sample.new (.ofString "samples/b.py") [0x31, 0x0A]).toBlob) := rfl
  obtain ⟨report, report', ⟨at_3, -⟩, ⟨at_0, -⟩, agree, -⟩ :=
    crowded.isolated lonely rfl runs runs' third first ⟨rfl, .cons ⟨rfl, rfl⟩ .nil⟩
      (Method.modeline.stateless ⟨[]⟩ crowded.runner.context)
  exact ⟨report, report', at_3, at_0, agree⟩

end Setting

end LangBench
