import Std.Data.TreeMap
import Std.Data.TreeSet
import LangBench.Token

/-!
# Statistics of a training corpus

* `Tally`: how often each token occurs in the samples of one language;
* `Statistics`: the tallies of all languages and the tokens met in any of them;
* `Statistics.add`, `Statistics.train`: the effect of one sample and of many.
-/

namespace LangBench

/-- What was counted in the samples of one language. -/
structure Tally where
  /-- The number of samples. -/
  samples : Nat := 0
  /-- The number of tokens. -/
  total : Nat := 0
  /-- How often each token occurred. -/
  counts : Std.TreeMap String Nat := ∅

namespace Tally

/-- How often a token occurred. -/
def count (t : Tally) (token : String) : Nat :=
  t.counts.getD token 0

/-- One more occurrence of a token. -/
def increment (counts : Std.TreeMap String Nat) (token : String) : Std.TreeMap String Nat :=
  counts.insert token (counts.getD token 0 + 1)

/-- One more sample, with these tokens. -/
def add (t : Tally) (tokens : List String) : Tally where
  samples := t.samples + 1
  total := t.total + tokens.length
  counts := tokens.foldl increment t.counts

end Tally

/-- What was counted in all samples. -/
structure Statistics where
  /-- The tally of each language, in the order of their names. -/
  languages : Std.TreeMap String Tally := ∅
  /-- The tokens met in any sample. -/
  vocabulary : Std.TreeSet String := ∅
  /-- The number of samples. -/
  samples : Nat := 0

namespace Statistics

/-- The statistics of no sample. -/
def empty : Statistics := {}

/-- The tally of a language; nothing was counted for one that is not there. -/
def tally (s : Statistics) (language : String) : Tally :=
  s.languages.getD language {}

/-- One more sample, given by its tokens. -/
def addTokens (s : Statistics) (language : String) (tokens : List String) : Statistics where
  languages := s.languages.insert language ((s.tally language).add tokens)
  vocabulary := tokens.foldl Std.TreeSet.insert s.vocabulary
  samples := s.samples + 1

/-- One more sample. -/
def add (s : Statistics) (language : String) (data : List UInt8) : Statistics :=
  s.addTokens language (tokenize data)

/-- The statistics of a list of samples, each with its language. -/
def train (samples : List (String × List UInt8)) : Statistics :=
  samples.foldl (fun s (language, data) => s.add language data) empty

/-- Whether there was no sample. -/
def isEmpty (s : Statistics) : Bool :=
  s.samples == 0

/-- The languages that have samples, in order. -/
def languageNames (s : Statistics) : List String :=
  s.languages.keys

/-- How often a token occurred in the samples of a language. -/
def tokenCount (s : Statistics) (language token : String) : Nat :=
  (s.tally language).count token

/-- The number of different tokens. -/
def vocabularySize (s : Statistics) : Nat :=
  s.vocabulary.size

@[simp] theorem train_nil : train [] = empty := rfl

theorem train_append_singleton (samples : List (String × List UInt8)) (language : String)
    (data : List UInt8) :
    train (samples ++ [(language, data)]) = (train samples).add language data := by
  simp [train]

@[simp] theorem samples_add (s : Statistics) (language : String) (data : List UInt8) :
    (s.add language data).samples = s.samples + 1 := rfl

/-- Every sample is counted. -/
theorem samples_train (samples : List (String × List UInt8)) :
    (train samples).samples = samples.length := by
  have h : ∀ s : Statistics,
      (samples.foldl (fun s (language, data) => s.add language data) s).samples =
        s.samples + samples.length := by
    induction samples with
    | nil => simp
    | cons x xs ih =>
      intro s
      rw [List.foldl_cons, ih, List.length_cons, samples_add]
      omega
  rw [train, h]
  simp [empty]

end Statistics

end LangBench
