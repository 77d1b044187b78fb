import LangBench.Catalogue.Basic
import LangBench.Classifier.Statistics
import LangBench.Sample

/-!
# Corpora

* `Corpus`: samples in a fixed order, and where they come from;
* `Corpus.statistics`: what the samples teach about languages.  A sample below a directory that
  is named like a language is an example of that language.
-/

namespace LangBench

/-- Samples in a fixed order. -/
structure Corpus where
  root : Path
  samples : List Sample

namespace Corpus

/-- The number of samples. -/
def size (c : Corpus) : Nat :=
  c.samples.length

/-- The language after which the first directory of a path is named.  A path of a single component
has no directory. -/
def languageOf? (languages : Catalogue) (relative : Path) : Option String :=
  match relative.components with
  | .normal directory :: _ :: _ =>
    ((Path.text? directory).bind languages.get?).map Language.name
  | _ => none

/-- The samples that are examples of a language, with that language. -/
def training (c : Corpus) (languages : Catalogue) : List (String × List UInt8) :=
  c.samples.filterMap fun s => (languageOf? languages s.relative).map fun name => (name, s.data)

/-- What the samples teach about languages. -/
def statistics (c : Corpus) (languages : Catalogue) : Statistics :=
  .train (c.training languages)

end Corpus

end LangBench
