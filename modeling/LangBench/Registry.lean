import LangBench.Call
import LangBench.Classifier.NaiveBayes
import LangBench.Report.Basic
import LangBench.Strategy.Basic
import LangBench.Text.Printable

/-!
# Registered strategies

* `Detector`: a strategy, either for a sample and a catalogue or for content and statistics;
* `Registered`: a strategy with the label that reports give it;
* `Method`: the strategies that detection has by itself, and `Registry.standard` their registry;
* `Registry.describe`: a registry as text.

Strategies run in any monad `m`, so they may keep a state of their own or act on the world.
-/

namespace LangBench

/-- How a strategy's call ended. -/
abbrev Answer := Call DetectError (List String)

/-- What every call of a strategy may read. -/
structure Context where
  languages : Catalogue
  statistics : Statistics

/-- A strategy in the monad `m`. -/
inductive Detector (m : Type → Type) where
  /-- It is given a sample and the catalogue. -/
  | sample (call : Catalogue → ViewT m Answer)
  /-- It is given the statistics and the bytes of a sample. -/
  | classifier (call : Statistics → List UInt8 → m Answer)

/-- A strategy and the label that reports give it. -/
structure Registered (m : Type → Type) where
  label : String
  detector : Detector m

namespace Registered

variable {m : Type → Type}

/-- What the strategy is given. -/
def kind (s : Registered m) : Kind :=
  match s.detector with
  | .sample _ => .sample
  | .classifier _ => .classifier

/-- Calls the strategy on a blob with its cache. -/
def invoke [Monad m] (s : Registered m) (context : Context) : ViewT m Answer :=
  match s.detector with
  | .sample call => call context.languages
  | .classifier call => do
    let b ← read
    call context.statistics b.data

end Registered

/-- Strategies in the order in which they run. -/
abbrev Registry (m : Type → Type) := List (Registered m)

/-- The strategies that detection has by itself. -/
inductive Method where
  | naiveBayes
  | modeline
  | filename
  | shebang
  | extension
  | content
  deriving DecidableEq, Repr

namespace Method

/-- The strategies in the order in which they run. -/
def all : List Method :=
  [.naiveBayes, .modeline, .filename, .shebang, .extension, .content]

/-- The short name of a strategy. -/
def name : Method → String
  | .naiveBayes => "naive-bayes"
  | .modeline => "modeline"
  | .filename => "filename"
  | .shebang => "shebang"
  | .extension => "extension"
  | .content => "heuristics"

/-- The label of a strategy in reports. -/
def label : Method → String
  | .naiveBayes => "Classify"
  | .modeline => "GetLanguagesByModeline"
  | .filename => "GetLanguagesByFilename"
  | .shebang => "GetLanguagesByShebang"
  | .extension => "GetLanguagesByExtension"
  | .content => "GetLanguagesByContent"

/-- A view as a strategy. -/
def ofView {m : Type → Type} [Monad m] (view : Catalogue → View Verdict) : Detector m :=
  .sample fun languages => View.lift do return Call.ofExcept (← view languages)

/-- The strategy itself, with these content rules. -/
def detector {m : Type → Type} [Monad m] (rules : RuleBook) : Method → Detector m
  | .naiveBayes => .classifier fun s data => pure (.returned (NaiveBayes.classify s data))
  | .modeline => ofView Strategy.modeline
  | .filename => ofView Strategy.filename
  | .shebang => ofView Strategy.shebang
  | .extension => ofView Strategy.extension
  | .content => ofView (Strategy.content rules)

/-- The strategy under its usual label. -/
def registered {m : Type → Type} [Monad m] (rules : RuleBook) (method : Method) : Registered m :=
  ⟨method.label, method.detector rules⟩

end Method

namespace Registry

variable {m : Type → Type}

/-- The strategies that detection has by itself, with these content rules. -/
def standard [Monad m] (rules : RuleBook) : Registry m :=
  Method.all.map (Method.registered rules)

/-- The labels in the order in which the strategies run. -/
def labels (r : Registry m) : List String :=
  r.map Registered.label

/-- The hexadecimal digits of a number. -/
def hexDigits (n : Nat) : String :=
  String.ofList (Nat.toDigits 16 n)

/-- A character in a quoted label. -/
def quoteChar (c : Char) : String :=
  match c with
  | '"' => "\\\""
  | '\\' => "\\\\"
  | '\n' => "\\n"
  | '\r' => "\\r"
  | '\t' => "\\t"
  | '\x00' => "\\0"
  | c =>
    if Text.isGraphemeExtend c || !Text.isPrintable c then
      "\\u\x7b" ++ hexDigits c.toNat ++ "\x7d"
    else String.singleton c

/-- A label in quotes. -/
def quoteLabel (label : String) : String :=
  "\"" ++ String.join (label.toList.map quoteChar) ++ "\""

/-- The name of a kind in the text of a registry. -/
def kindName : Kind → String
  | .sample => "Sample"
  | .classifier => "Classifier"

/-- A strategy as text. -/
def describeEntry (s : Registered m) : String :=
  "RegisteredStrategy \x7b label: " ++ quoteLabel s.label ++ ", kind: " ++ kindName s.kind ++
    " \x7d"

/-- A registry as text. -/
def describe (r : Registry m) : String :=
  "Registry \x7b strategies: [" ++ ", ".intercalate (r.map describeEntry) ++ "] \x7d"

@[simp] theorem labels_standard [Monad m] (rules : RuleBook) :
    (standard rules : Registry m).labels = Method.all.map Method.label := rfl

end Registry

end LangBench
