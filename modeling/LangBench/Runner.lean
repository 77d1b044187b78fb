import LangBench.Corpus.Basic
import LangBench.Registry
import LangBench.Sink.Basic

/-!
# Running strategies over a corpus

A pair of a strategy and a target is called as often as the configuration says, once more before
that as a rehearsal if it says so, and reported.  In per-sample mode a target is a sample, in
total mode it is the whole corpus.

* `Runner.invokeOnce`: a single call, timed; the sample is clean after it;
* `Runner.sampleBlock`, `Runner.corpusBlock`: the repetitions on a sample and on a corpus;
* `Runner.benchSample`, `Runner.benchCorpus`: the report on a pair;
* `Runner.run`: the whole run.

A strategy that fails spoils only the report on its own pair; a sink that fails ends the run.
-/

namespace LangBench

/-- The time from one moment to a later one. -/
def Duration.since (later earlier : Duration) : Duration :=
  ⟨later.nanos - earlier.nanos⟩

/-- What runs strategies in the monad `m`. -/
structure Runner (m : Type → Type) where
  config : Config
  registry : Registry m
  context : Context
  /-- The time that has passed since some moment in the past. -/
  clock : m Duration

namespace Runner

variable {m : Type → Type} [Monad m]

/-- Why a call failed, told of the strategy and the blob. -/
def strategyError (s : Registered m) (b : Blob) (f : CallFailure DetectError) : BenchError :=
  .strategy s.label b.label (f.reason DetectError.message)

/-- Calls a strategy once on a sample and takes the time.  The sample is clean after it, also
when the call failed. -/
def invokeOnce (r : Runner m) (s : Registered m) (x : Sample) :
    m (Except BenchError Duration × Sample) := do
  let start ← r.clock
  let (answer, cache) ← (ReaderT.run (s.invoke r.context) x.toBlob).run x.cache
  let stop ← r.clock
  let x := { x with cache }.reset
  match answer.failure? with
  | none => return (.ok (stop.since start), x)
  | some f => return (.error (strategyError s x.toBlob f), x)

/-- Calls a strategy `n` times on a sample, or until it fails; `laps` are the laps before,
backwards. -/
def sampleLaps (r : Runner m) (s : Registered m) :
    Nat → List Duration → Sample → m (Except BenchError (List Duration) × Sample)
  | 0, laps, x => pure (.ok laps.reverse, x)
  | n + 1, laps, x => do
    let (lap, x) ← r.invokeOnce s x
    match lap with
    | .ok lap => sampleLaps r s n (lap :: laps) x
    | .error e => return (.error e, x)

/-- The repetitions of a strategy on a sample. -/
def sampleBlock (r : Runner m) (s : Registered m) (x : Sample) :
    m (Except BenchError (List Duration) × Sample) :=
  r.sampleLaps s r.config.iterations [] x

/-- Calls a strategy on each of some samples, or until it fails.  `lap` is the time so far and
`seen` are the samples before, backwards. -/
def corpusLap (r : Runner m) (s : Registered m) :
    Duration → List Sample → List Sample → m (Except BenchError Duration × List Sample)
  | lap, seen, [] => pure (.ok lap, seen.reverse)
  | lap, seen, x :: xs => do
    let (time, x) ← r.invokeOnce s x
    match time with
    | .ok time => corpusLap r s (lap + time) (x :: seen) xs
    | .error e => return (.error e, (x :: seen).reverse ++ xs)

/-- Goes `n` times through some samples, or until the strategy fails; `laps` are the laps before,
backwards. -/
def corpusLaps (r : Runner m) (s : Registered m) :
    Nat → List Duration → List Sample → m (Except BenchError (List Duration) × List Sample)
  | 0, laps, xs => pure (.ok laps.reverse, xs)
  | n + 1, laps, xs => do
    let (lap, xs) ← r.corpusLap s .zero [] xs
    match lap with
    | .ok lap => corpusLaps r s n (lap :: laps) xs
    | .error e => return (.error e, xs)

/-- The repetitions of a strategy on all samples. -/
def corpusBlock (r : Runner m) (s : Registered m) (xs : List Sample) :
    m (Except BenchError (List Duration) × List Sample) :=
  r.corpusLaps s r.config.iterations [] xs

/-- The outcome of a measured block after its rehearsal. -/
def measure {σ : Type} (block : σ → m (Except BenchError (List Duration) × σ))
    (rehearsal : Option Duration) (x : σ) : m (Outcome × σ) := do
  let (laps, x) ← block x
  match laps with
  | .ok laps => return (.completed rehearsal (.ofLaps laps), x)
  | .error e => return (.failed e.message, x)

/-- The outcome of a block, rehearsed first if `warmup` says so. -/
def measurePair {σ : Type} (warmup : Bool) (block : σ → m (Except BenchError (List Duration) × σ))
    (x : σ) : m (Outcome × σ) := do
  if warmup then
    let (laps, x) ← block x
    match laps with
    | .ok laps => measure block (some (.sum laps)) x
    | .error e => return (.failed e.message, x)
  else measure block none x

/-- The report on a pair. -/
def report (r : Runner m) (s : Registered m) (mode : Mode) (target : Target) (outcome : Outcome) :
    Report :=
  .make s.label s.kind mode target r.config.iterations outcome

/-- The report on a strategy and a sample. -/
def benchSample (r : Runner m) (s : Registered m) (x : Sample) : m (Report × Sample) := do
  let (outcome, x') ← measurePair r.config.warmup (r.sampleBlock s) x
  return (r.report s .perSample (.sample x.label) outcome, x')

/-- The report on a strategy and the whole corpus. -/
def benchCorpus (r : Runner m) (s : Registered m) (xs : List Sample) :
    m (Report × List Sample) := do
  let (outcome, xs) ← measurePair r.config.warmup (r.corpusBlock s) xs
  return (r.report s .total .total outcome, xs)

/-- Counts a report and gives it to the sink. -/
def deliver (sink : Sink m) (summary : RunSummary) (report : Report) :
    m (Except BenchError RunSummary) := do
  match ← sink.emit report with
  | .ok () => return .ok (summary.record report)
  | .error e => return .error e

/-- Reports on a strategy and each of some samples; `seen` are the samples before, backwards. -/
def eachSample (r : Runner m) (sink : Sink m) (s : Registered m) :
    RunSummary → List Sample → List Sample → m (Except BenchError RunSummary × List Sample)
  | summary, seen, [] => pure (.ok summary, seen.reverse)
  | summary, seen, x :: xs => do
    let (report, x) ← r.benchSample s x
    match ← deliver sink summary report with
    | .ok summary => eachSample r sink s summary (x :: seen) xs
    | .error e => return (.error e, (x :: seen).reverse ++ xs)

/-- Reports on each of some strategies and each sample. -/
def perSample (r : Runner m) (sink : Sink m) :
    Registry m → RunSummary → List Sample → m (Except BenchError RunSummary × List Sample)
  | [], summary, xs => pure (.ok summary, xs)
  | s :: rest, summary, xs => do
    let (summary, xs) ← r.eachSample sink s summary [] xs
    match summary with
    | .ok summary => perSample r sink rest summary xs
    | .error e => return (.error e, xs)

/-- Reports on each of some strategies and the whole corpus. -/
def total (r : Runner m) (sink : Sink m) :
    Registry m → RunSummary → List Sample → m (Except BenchError RunSummary × List Sample)
  | [], summary, xs => pure (.ok summary, xs)
  | s :: rest, summary, xs => do
    let (report, xs) ← r.benchCorpus s xs
    match ← deliver sink summary report with
    | .ok summary => total r sink rest summary xs
    | .error e => return (.error e, xs)

/-- Reports in one mode. -/
def inMode (r : Runner m) (sink : Sink m) (mode : Mode) (summary : RunSummary)
    (xs : List Sample) : m (Except BenchError RunSummary × List Sample) := do
  match ← sink.begin mode r.config.iterations with
  | .error e => return (.error e, xs)
  | .ok () =>
    match mode with
    | .perSample => r.perSample sink r.registry summary xs
    | .total => r.total sink r.registry summary xs

/-- Reports in each of some modes. -/
def inModes (r : Runner m) (sink : Sink m) :
    List Mode → RunSummary → List Sample → m (Except BenchError RunSummary × List Sample)
  | [], summary, xs => pure (.ok summary, xs)
  | mode :: rest, summary, xs => do
    let (summary, xs) ← r.inMode sink mode summary xs
    match summary with
    | .ok summary => inModes r sink rest summary xs
    | .error e => return (.error e, xs)

/-- Reports in every mode of the configuration, in the order of `Mode.all`, and tells the sink
when it is over. -/
def runSamples (r : Runner m) (sink : Sink m) (xs : List Sample) :
    m (Except BenchError RunSummary × List Sample) := do
  let start ← r.clock
  let (summary, xs) ← r.inModes sink (Mode.all.filter r.config.runs) {} xs
  match summary with
  | .error e => return (.error e, xs)
  | .ok summary =>
    let stop ← r.clock
    let summary := { summary with elapsed := stop.since start }
    match ← sink.finish summary with
    | .ok () => return (.ok summary, xs)
    | .error e => return (.error e, xs)

/-- Runs every strategy over a corpus. -/
def run (r : Runner m) (sink : Sink m) (corpus : Corpus) :
    m (Except BenchError RunSummary × Corpus) := do
  let (summary, samples) ← r.runSamples sink corpus.samples
  return (summary, { corpus with samples })

end Runner

end LangBench
