import LangBench.Path

/-!
# Configuration of a run

* `Mode`: the two ways to report, for each sample or for the whole corpus;
* `Config`: how often each pair is repeated, whether it is rehearsed, which files and which modes;
* `parseIterations`: the number of repetitions from the command line.
-/

namespace LangBench

/-- A way to report. -/
inductive Mode where
  /-- A report for each strategy and sample. -/
  | perSample
  /-- A report for each strategy. -/
  | total
  deriving DecidableEq, Repr

namespace Mode

/-- Both modes in the order in which they run. -/
def all : List Mode := [.perSample, .total]

/-- The name of a mode. -/
def name : Mode → String
  | .perSample => "per-sample"
  | .total => "total"

end Mode

/-- The number of repetitions if none is given. -/
def defaultIterations : Nat := 1

/-- Where the samples are if nothing else is said. -/
def defaultRoot : Path :=
  .ofString ".linguist/samples"

/-- The first number that is too large for a number of repetitions. -/
def iterationLimit : Nat := 18446744073709551616

/-- A text without the plus sign that it may begin with. -/
def dropPlus : List Char → List Char
  | '+' :: rest => rest
  | cs => cs

/-- A number with one more decimal digit behind it, unless it is too large then. -/
def appendDigit? (n : Nat) (c : Char) : Option Nat :=
  let longer := 10 * n + (c.toNat - '0'.toNat)
  if c.isDigit ∧ longer < iterationLimit then some longer else none

/-- The number that a text stands for, read digit by digit: an optional plus sign and decimal
digits, below the limit. -/
def parseCount? (cs : List Char) : Option Nat :=
  match dropPlus cs with
  | [] => none
  | digits => digits.foldlM appendDigit? 0

/-- The number of repetitions that an argument asks for; one that is no number counts as none. -/
def parseIterations (arg : Option String) : Nat :=
  (arg.bind fun s => parseCount? (Text.trim s.toList)).getD defaultIterations

/-- How to run. -/
structure Config where
  /-- Repetitions of each pair. -/
  iterations : Nat := defaultIterations
  /-- Whether each pair is rehearsed before it is measured. -/
  warmup : Bool := true
  /-- The directory of the samples. -/
  corpusRoot : Path := defaultRoot
  /-- The modes that run, whatever their order. -/
  modes : List Mode := Mode.all
  deriving DecidableEq, Repr

namespace Config

/-- The configuration with this number of repetitions and nothing else said. -/
def new (iterations : Nat) : Config := { iterations }

/-- The configuration that command-line arguments ask for; only the first one counts. -/
def ofArgs (args : List (List UInt8)) : Config :=
  new (parseIterations (args.head?.bind Path.text?))

/-- Whether a mode runs. -/
def runs (c : Config) (mode : Mode) : Bool :=
  c.modes.contains mode

/-- Whether two configurations mean the same. -/
def SameAs (c d : Config) : Prop :=
  c.iterations = d.iterations ∧ c.warmup = d.warmup ∧ c.corpusRoot.SameAs d.corpusRoot ∧
    c.modes = d.modes

instance (c d : Config) : Decidable (c.SameAs d) :=
  inferInstanceAs (Decidable (_ ∧ _))

end Config

end LangBench
