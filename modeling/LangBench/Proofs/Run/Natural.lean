import LangBench.Runner

/-!
# Runs in other monads

The monad in which strategies, sink and clock act is not looked into by a run: carrying all of
them over to another monad carries the run over.

* `MonadHom`: a map between monads that keeps `pure` and `bind`;
* `Registered.map`, `Sink.map`, `Runner.map`: strategies, sinks and runners carried over;
* `Runner.run_map`: a run of what was carried over is the run carried over.

There is one lemma for each function of the runner, in the order in which they use each other.
-/

namespace LangBench

/-- A map from one monad to another that keeps `pure` and `bind`. -/
structure MonadHom (m n : Type → Type) [Monad m] [Monad n] where
  app : {α : Type} → m α → n α
  app_pure : ∀ {α : Type} (a : α), app (pure a : m α) = pure a
  app_bind : ∀ {α β : Type} (x : m α) (f : α → m β),
    app (x >>= f) = app x >>= fun a => app (f a)

attribute [simp] MonadHom.app_pure MonadHom.app_bind

variable {m n : Type → Type} [Monad m] [Monad n] (h : MonadHom m n)

/-- A strategy carried over to another monad. -/
def Registered.map (s : Registered m) : Registered n where
  label := s.label
  detector :=
    match s.detector with
    | .sample call => .sample fun languages b c => h.app (call languages b c)
    | .classifier call => .classifier fun statistics data => h.app (call statistics data)

/-- A sink carried over to another monad. -/
def Sink.map (sink : Sink m) : Sink n :=
  .ofReceive fun call => h.app (sink.receive call)

/-- A runner carried over to another monad. -/
def Runner.map (r : Runner m) : Runner n where
  config := r.config
  registry := r.registry.map (Registered.map h)
  context := r.context
  clock := h.app r.clock

@[simp] theorem Registered.label_map (s : Registered m) : (s.map h).label = s.label := rfl

@[simp] theorem Registered.kind_map (s : Registered m) : (s.map h).kind = s.kind := by
  obtain ⟨label, detector⟩ := s
  cases detector <;> rfl

theorem Registered.invoke_map (s : Registered m) (context : Context) (b : Blob) (c : Cache) :
    (s.map h).invoke context b c = h.app (s.invoke context b c) := by
  obtain ⟨label, detector⟩ := s
  cases detector with
  | sample call => rfl
  | classifier call =>
    -- a classifier is called after the blob was read, which is a step of its own
    show (do
        let p ← pure (b, c)
        let answer ← h.app (call context.statistics p.1.data)
        pure (answer, p.2)) =
      h.app do
        let p ← pure (b, c)
        let answer ← call context.statistics p.1.data
        pure (answer, p.2)
    simp only [h.app_bind, h.app_pure]

namespace Runner

variable (r : Runner m) (sink : Sink m)

/-! ### Calls and their repetitions -/

theorem invokeOnce_map (s : Registered m) (x : Sample) :
    (r.map h).invokeOnce (s.map h) x = h.app (r.invokeOnce s x) := by
  have invoked : ∀ c, (s.map h).invoke r.context x.toBlob c =
      h.app (s.invoke r.context x.toBlob c) := s.invoke_map h r.context x.toBlob
  simp only [invokeOnce, map, ReaderT.run, StateT.run, invoked, h.app_bind]
  refine bind_congr fun start => bind_congr fun p => bind_congr fun stop => ?_
  obtain ⟨answer, cache⟩ := p
  cases answer <;> simp [Call.failure?] <;> rfl

theorem sampleLaps_map (s : Registered m) (k : Nat) (laps : List Duration) (x : Sample) :
    (r.map h).sampleLaps (s.map h) k laps x = h.app (r.sampleLaps s k laps x) := by
  induction k generalizing laps x with
  | zero => simp [sampleLaps]
  | succ k ih =>
    simp only [sampleLaps, invokeOnce_map, h.app_bind]
    refine bind_congr fun p => ?_
    obtain ⟨lap, x⟩ := p
    cases lap <;> simp [ih]

theorem corpusLap_map (s : Registered m) (lap : Duration) (seen xs : List Sample) :
    (r.map h).corpusLap (s.map h) lap seen xs = h.app (r.corpusLap s lap seen xs) := by
  induction xs generalizing lap seen with
  | nil => simp [corpusLap]
  | cons x xs ih =>
    simp only [corpusLap, invokeOnce_map, h.app_bind]
    refine bind_congr fun p => ?_
    obtain ⟨time, x⟩ := p
    cases time <;> simp [ih]

theorem corpusLaps_map (s : Registered m) (k : Nat) (laps : List Duration) (xs : List Sample) :
    (r.map h).corpusLaps (s.map h) k laps xs = h.app (r.corpusLaps s k laps xs) := by
  induction k generalizing laps xs with
  | zero => simp [corpusLaps]
  | succ k ih =>
    simp only [corpusLaps, corpusLap_map, h.app_bind]
    refine bind_congr fun p => ?_
    obtain ⟨lap, xs⟩ := p
    cases lap <;> simp [ih]

/-! ### Pairs -/

theorem measure_map {σ : Type} (block : σ → m (Except BenchError (List Duration) × σ))
    (rehearsal : Option Duration) (x : σ) :
    measure (fun y => h.app (block y)) rehearsal x = h.app (measure block rehearsal x) := by
  simp only [measure, h.app_bind]
  refine bind_congr fun p => ?_
  obtain ⟨laps, x⟩ := p
  cases laps <;> simp

theorem measurePair_map {σ : Type} (warmup : Bool)
    (block : σ → m (Except BenchError (List Duration) × σ)) (x : σ) :
    measurePair warmup (fun y => h.app (block y)) x = h.app (measurePair warmup block x) := by
  cases warmup with
  | false => simp [measurePair, measure_map]
  | true =>
    simp only [measurePair, if_true, h.app_bind]
    refine bind_congr fun p => ?_
    obtain ⟨laps, x⟩ := p
    cases laps <;> simp [measure_map]

theorem benchSample_map (s : Registered m) (x : Sample) :
    (r.map h).benchSample (s.map h) x = h.app (r.benchSample s x) := by
  have block : (r.map h).sampleBlock (s.map h) = fun y => h.app (r.sampleBlock s y) :=
    funext fun y => r.sampleLaps_map h s r.config.iterations [] y
  have warmup : (r.map h).config.warmup = r.config.warmup := rfl
  simp only [benchSample, block, warmup, measurePair_map, h.app_bind, h.app_pure]
  refine bind_congr fun p => ?_
  simp [report, map]

theorem benchCorpus_map (s : Registered m) (xs : List Sample) :
    (r.map h).benchCorpus (s.map h) xs = h.app (r.benchCorpus s xs) := by
  have block : (r.map h).corpusBlock (s.map h) = fun ys => h.app (r.corpusBlock s ys) :=
    funext fun ys => r.corpusLaps_map h s r.config.iterations [] ys
  have warmup : (r.map h).config.warmup = r.config.warmup := rfl
  simp only [benchCorpus, block, warmup, measurePair_map, h.app_bind, h.app_pure]
  refine bind_congr fun p => ?_
  simp [report, map]

/-! ### The whole run -/

theorem deliver_map (summary : RunSummary) (report : Report) :
    deliver (sink.map h) summary report = h.app (deliver sink summary report) := by
  have told : (sink.map h).emit report = h.app (sink.emit report) := rfl
  simp only [deliver, told, h.app_bind]
  refine bind_congr fun answer => ?_
  cases answer <;> simp

theorem eachSample_map (s : Registered m) (summary : RunSummary) (seen xs : List Sample) :
    (r.map h).eachSample (sink.map h) (s.map h) summary seen xs =
      h.app (r.eachSample sink s summary seen xs) := by
  induction xs generalizing summary seen with
  | nil => simp [eachSample]
  | cons x xs ih =>
    simp only [eachSample, benchSample_map, deliver_map, h.app_bind]
    refine bind_congr fun p => bind_congr fun answer => ?_
    cases answer <;> simp [ih]

theorem perSample_map (registry : Registry m) (summary : RunSummary) (xs : List Sample) :
    (r.map h).perSample (sink.map h) (registry.map (Registered.map h)) summary xs =
      h.app (r.perSample sink registry summary xs) := by
  induction registry generalizing summary xs with
  | nil => simp [perSample]
  | cons s rest ih =>
    simp only [List.map_cons, perSample, eachSample_map, h.app_bind]
    refine bind_congr fun p => ?_
    obtain ⟨summary, xs⟩ := p
    cases summary <;> simp [ih]

theorem total_map (registry : Registry m) (summary : RunSummary) (xs : List Sample) :
    (r.map h).total (sink.map h) (registry.map (Registered.map h)) summary xs =
      h.app (r.total sink registry summary xs) := by
  induction registry generalizing summary xs with
  | nil => simp [total]
  | cons s rest ih =>
    simp only [List.map_cons, total, benchCorpus_map, deliver_map, h.app_bind]
    refine bind_congr fun p => bind_congr fun answer => ?_
    cases answer <;> simp [ih]

theorem inMode_map (mode : Mode) (summary : RunSummary) (xs : List Sample) :
    (r.map h).inMode (sink.map h) mode summary xs = h.app (r.inMode sink mode summary xs) := by
  have told : (sink.map h).begin mode (r.map h).config.iterations =
      h.app (sink.begin mode r.config.iterations) := rfl
  simp only [inMode, told, h.app_bind]
  refine bind_congr fun answer => ?_
  cases answer with
  | error e => simp
  | ok _ =>
    cases mode with
    | perSample => exact r.perSample_map h sink r.registry summary xs
    | total => exact r.total_map h sink r.registry summary xs

theorem inModes_map (modes : List Mode) (summary : RunSummary) (xs : List Sample) :
    (r.map h).inModes (sink.map h) modes summary xs = h.app (r.inModes sink modes summary xs) := by
  induction modes generalizing summary xs with
  | nil => simp [inModes]
  | cons mode rest ih =>
    simp only [inModes, inMode_map, h.app_bind]
    refine bind_congr fun p => ?_
    obtain ⟨summary, xs⟩ := p
    cases summary <;> simp [ih]

theorem runSamples_map (xs : List Sample) :
    (r.map h).runSamples (sink.map h) xs = h.app (r.runSamples sink xs) := by
  have clock : (r.map h).clock = h.app r.clock := rfl
  have config : (r.map h).config = r.config := rfl
  simp only [runSamples, clock, config, inModes_map, h.app_bind]
  refine bind_congr fun start => bind_congr fun p => ?_
  obtain ⟨summary, xs⟩ := p
  cases summary with
  | error e => simp
  | ok summary =>
    have told : ∀ s, (sink.map h).finish s = h.app (sink.finish s) := fun _ => rfl
    simp only [told, h.app_bind]
    refine bind_congr fun stop => bind_congr fun answer => ?_
    cases answer <;> simp

/-- A run in another monad is the run carried over to it. -/
theorem run_map (corpus : Corpus) :
    (r.map h).run (sink.map h) corpus = h.app (r.run sink corpus) := by
  simp [run, runSamples_map]

end Runner

end LangBench
