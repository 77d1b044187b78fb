import LangBench.Classifier.Statistics

/-!
# Naive Bayes classification

A language is the likelier the more of its samples there are and the more often the tokens of
the content occur in them; each token of the vocabulary is counted once more than it occurred.

* `NaiveBayes.scores`: the logarithm of each language's likelihood;
* `NaiveBayes.rank`: names ordered by score, the highest first, equal ones by name;
* `NaiveBayes.classify`: the languages for a content, the likeliest first.
-/

namespace LangBench.NaiveBayes

/-- One more than how often a token occurred. -/
def weight (t : Tally) (token : String) : Nat :=
  t.count token + 1

/-- What the weights of a language are divided by. -/
def denominator (s : Statistics) (t : Tally) : Nat :=
  t.total + max s.vocabularySize 1

/-- The logarithm of a token's share among the tokens of a language. -/
def logWeight (s : Statistics) (t : Tally) (token : String) : Float :=
  (Float.ofNat (weight t token) / Float.ofNat (denominator s t)).log

/-- What the samples of a language are divided by. -/
def sampleTotal (s : Statistics) : Nat :=
  max s.samples 1

/-- The logarithm of a language's share among the samples. -/
def logPrior (s : Statistics) (t : Tally) : Float :=
  (Float.ofNat t.samples / Float.ofNat (sampleTotal s)).log

/-- The score of a language: its prior and, added up from left to right, the weights of the
tokens. -/
def score (s : Statistics) (t : Tally) (tokens : List String) : Float :=
  logPrior s t + tokens.foldl (fun sum token => sum + logWeight s t token) 0

/-- The scores of all languages, in the order of their names. -/
def scores (s : Statistics) (tokens : List String) : List (String × Float) :=
  s.languages.toList.map fun (name, t) => (name, score s t tokens)

/-- Whether one scored name may stand before another: its score is higher, or not lower and its
name not greater. -/
def mayPrecede {σ : Type _} [LT σ] [DecidableLT σ] (a b : String × σ) : Bool :=
  if b.2 < a.2 then true
  else if a.2 < b.2 then false
  else decide (a.1 ≤ b.1)

/-- Names ordered by score, the highest first, equal ones by name. -/
def rank {σ : Type _} [LT σ] [DecidableLT σ] (scored : List (String × σ)) : List String :=
  (scored.mergeSort mayPrecede).map Prod.fst

/-- The languages for some tokens, the likeliest first; none before any training. -/
def classifyTokens (s : Statistics) (tokens : List String) : List String :=
  if s.isEmpty then [] else rank (scores s tokens)

/-- The languages for a content, the likeliest first. -/
def classify (s : Statistics) (data : List UInt8) : List String :=
  classifyTokens s (tokenize data)

@[simp] theorem classify_empty (data : List UInt8) : classify .empty data = [] := rfl

/-- Ranking keeps every name, as often as it is scored. -/
theorem rank_perm {σ : Type _} [LT σ] [DecidableLT σ] (scored : List (String × σ)) :
    (rank scored).Perm (scored.map Prod.fst) :=
  (List.mergeSort_perm _ _).map _

end LangBench.NaiveBayes
