import LangBench.Catalogue.Standard
import LangBench.Disk
import LangBench.RuleBook.Standard
import LangBench.Runner

/-!
# A standard run

* `DetectionData`: the languages and the rules that detection rests on;
* `Bench.runWith`: the standard strategies over a corpus, with the classifier trained on the corpus
  itself;
* `Bench.runAt`: the same over the corpus that a config names, which is loaded first.

What cannot be loaded ends the run before the sink hears of it.
-/

namespace LangBench

/-- The languages and the rules that detection rests on, as they are written down. -/
structure DetectionData where
  /-- The languages, or why they cannot be read. -/
  languages : Except DetectError (List Language)
  /-- The rules, or why they cannot be read. -/
  rules : Except DetectError (List RuleGroupText)
  /-- What reads the patterns of the rules. -/
  patterns : PatternReader

namespace DetectionData

/-- What detection knows by itself. -/
def standard : DetectionData where
  languages := .ok Language.standard
  rules := .ok RuleGroupText.standard
  patterns := Pattern.reader

/-- The catalogue of the languages, or what is wrong with them. -/
def catalogue (data : DetectionData) : Except DetectError Catalogue := do
  Catalogue.ofList (← data.languages)

/-- The rule book of the rules, or what is wrong with them. -/
def ruleBook (data : DetectionData) : Except DetectError RuleBook := do
  RuleBook.compileWith data.patterns (← data.rules)

end DetectionData

namespace Bench

/-- The runner of the standard strategies, trained on a corpus. -/
def runner {m : Type → Type} [Monad m] (config : Config) (languages : Catalogue) (rules : RuleBook)
    (clock : m Duration) (corpus : Corpus) : Runner m where
  config
  registry := Registry.standard rules
  context := { languages, statistics := corpus.statistics languages }
  clock

/-- Everything a standard run rests on, or the first part of it that is wrong. -/
def prepare {m : Type → Type} [Monad m] (data : DetectionData) (config : Config)
    (clock : m Duration) (corpus : Except BenchError Corpus) :
    Except BenchError (Runner m × Corpus) := do
  let corpus ← corpus
  let languages ← data.catalogue.mapError BenchError.detect
  let rules ← data.ruleBook.mapError BenchError.detect
  return (runner config languages rules clock corpus, corpus)

/-- Runs the standard strategies over what the load of a corpus gave, with the given data. -/
def runWith {m : Type → Type} [Monad m] (data : DetectionData) (config : Config)
    (clock : m Duration) (sink : Sink m) (corpus : Except BenchError Corpus) :
    m (Except BenchError RunSummary) := do
  match prepare data config clock corpus with
  | .error e => return .error e
  | .ok (runner, corpus) => return (← runner.run sink corpus).1

/-- Loads the corpus that a config names in the directory `cwd`, and runs the standard strategies
over it, with the given data. -/
def runAt {m : Type → Type} [Monad m] (data : DetectionData) (cwd : Disk.Spot) (config : Config)
    (clock : m Duration) (sink : Sink m) : m (Except BenchError RunSummary) :=
  runWith data config clock sink (Corpus.load cwd config.corpusRoot)

/-- Runs the standard strategies over what the load of a corpus gave. -/
def run {m : Type → Type} [Monad m] (config : Config) (clock : m Duration) (sink : Sink m)
    (corpus : Except BenchError Corpus) : m (Except BenchError RunSummary) :=
  runWith .standard config clock sink corpus

/-- What the command line says of a run that did not end well. -/
def errorLines : Except BenchError RunSummary → List String
  | .ok _ => []
  | .error e => ["Error: " ++ e.message]

/-- The exit code of the command line. -/
def exitCode : Except BenchError RunSummary → Nat
  | .ok _ => 0
  | .error _ => 1

end Bench

end LangBench
