import Mathlib.Algebra.Order.Field.Basic
import Mathlib.Algebra.Order.Field.Rat
import LangBench.Proofs.Classifier.Training

/-!
# The smoothed model is a distribution

Scores are logarithms of shares: of a language among the samples, and of a token among the tokens of
a language when every token of the vocabulary counts once more than it occurred.  Computed exactly,
shares of either kind are positive, at most one, and add up to one.

* `NaiveBayes.prior`, `NaiveBayes.likelihood`: the shares, as exact fractions;
* `NaiveBayes.sum_labelled`, `NaiveBayes.sum_weight`: what the numerators add up to;
* `NaiveBayes.smoothing`: the shares of every trained model.
-/

namespace LangBench.NaiveBayes

open Statistics

/-- The share of a language among the samples, which `logPrior` takes the logarithm of. -/
def prior (s : Statistics) (t : Tally) : ℚ :=
  t.samples / sampleTotal s

/-- The share of a token among the tokens of a language, which `logWeight` takes the logarithm
of. -/
def likelihood (s : Statistics) (t : Tally) (token : String) : ℚ :=
  weight t token / denominator s t

/-- Fractions of one denominator are added by their numerators. -/
theorem sum_map_div (keys : List String) (f : String → Nat) (n : Nat) :
    (keys.map fun k => (f k / n : ℚ)).sum = ((keys.map f).sum : Nat) / n := by
  induction keys with
  | nil => simp
  | cons k keys ih =>
    rw [List.map_cons, List.sum_cons, ih, List.map_cons, List.sum_cons, Nat.cast_add, add_div]

/-- A positive numerator that is not above its denominator. -/
theorem share_bounds {m n : Nat} (pos : 0 < m) (le : m ≤ n) :
    0 < (m / n : ℚ) ∧ (m / n : ℚ) ≤ 1 := by
  have posQ : (0 : ℚ) < m := Nat.cast_pos.2 pos
  have leQ : (m : ℚ) ≤ n := Nat.cast_le.2 le
  have below : (0 : ℚ) < n := posQ.trans_le leQ
  exact ⟨div_pos posQ below, (div_le_one below).2 leQ⟩

variable {s : Statistics} {samples : List (String × List UInt8)}

/-- Every sample belongs to one of the languages. -/
theorem sum_labelled (h : s.Counts samples) :
    (s.languageNames.map fun l => (s.tally l).samples).sum = s.samples := by
  have all : ∀ l ∈ samples.map Prod.fst, l ∈ s.languageNames := fun l => (h.mem_languageNames l).2
  calc (s.languageNames.map fun l => (s.tally l).samples).sum
    _ = (s.languageNames.map fun l => (samples.map Prod.fst).count l).sum := by
      simp only [h.labelled]
    _ = (samples.map Prod.fst).length := sum_map_count s.languages.nodup_keys all
    _ = s.samples := by rw [List.length_map, h.size]

/-- A language is there because it has samples. -/
theorem samples_pos (h : s.Counts samples) {l : String} (trained : l ∈ s.languageNames) :
    0 < (s.tally l).samples := by
  rw [h.labelled]
  exact List.count_pos_iff.2 ((h.mem_languageNames l).1 trained)

theorem samples_le (h : s.Counts samples) (l : String) : (s.tally l).samples ≤ s.samples := by
  rw [h.labelled, h.size, ← List.length_map Prod.fst]
  exact List.count_le_length

/-- The weights of a language over the vocabulary: a token of a language is in the vocabulary, so
each of its occurrences counts, and each token of the vocabulary once more. -/
theorem sum_weight (h : s.Counts samples) (l : String) :
    (s.vocabulary.toList.map (weight (s.tally l))).sum =
      (s.tally l).total + s.vocabularySize := by
  have distinct : s.vocabulary.toList.Nodup :=
    s.vocabulary.distinct_toList.imp fun ne same => ne (Std.LawfulEqCmp.compare_eq_iff_eq.2 same)
  have all : ∀ t ∈ tokensOf samples l, t ∈ s.vocabulary.toList := by
    intro t mem
    obtain ⟨x, listed, occurs⟩ := List.mem_flatMap.1 mem
    rw [Std.TreeSet.mem_toList, h.mem_vocabulary]
    exact ⟨x, (List.mem_filter.1 listed).1, occurs⟩
  have weigh : weight (s.tally l) = fun t => (tokensOf samples l).count t + 1 :=
    funext fun t => congrArg (· + 1) (h.count l t)
  calc (s.vocabulary.toList.map (weight (s.tally l))).sum
    _ = (s.vocabulary.toList.map fun t => (tokensOf samples l).count t).sum +
        s.vocabulary.toList.length := by
      rw [weigh, List.sum_map_add]
      simp
    _ = (s.tally l).total + s.vocabularySize := by
      rw [sum_map_count distinct all, h.total, Std.TreeSet.length_toList, vocabularySize]

/-- No weight is above the denominator. -/
theorem weight_le (h : s.Counts samples) (l t : String) :
    weight (s.tally l) t ≤ denominator s (s.tally l) := by
  have counted : (tokensOf samples l).count t ≤ (tokensOf samples l).length :=
    List.count_le_length
  rw [weight, denominator, h.count, h.total]
  omega

/-- **The smoothed model is a distribution.**  In all statistics that samples were added to, each
language has at least one sample and at most all of them, and together they have all; so the shares
of the languages are positive, at most one, and add up to one.  For any token, in the vocabulary or
not, the weight in a language is positive and not above the denominator, so the share is positive
and at most one; and if there is any token, the weights over the vocabulary add up to the total of
the language and the size of the vocabulary, so the shares add up to one. -/
theorem smoothing (trained : s.Trained) :
    (∀ l ∈ s.languageNames, 0 < (s.tally l).samples ∧ (s.tally l).samples ≤ s.samples ∧
      0 < prior s (s.tally l) ∧ prior s (s.tally l) ≤ 1) ∧
    (s.languageNames.map fun l => (s.tally l).samples).sum = s.samples ∧
    (s.isEmpty = false → (s.languageNames.map fun l => prior s (s.tally l)).sum = 1) ∧
    (∀ l t, 0 < weight (s.tally l) t ∧ weight (s.tally l) t ≤ denominator s (s.tally l) ∧
      0 < likelihood s (s.tally l) t ∧ likelihood s (s.tally l) t ≤ 1) ∧
    (s.vocabulary.isEmpty = false → ∀ l,
      (s.vocabulary.toList.map (weight (s.tally l))).sum =
        (s.tally l).total + s.vocabularySize ∧
      (s.vocabulary.toList.map (likelihood s (s.tally l))).sum = 1) := by
  obtain ⟨samples, h⟩ := trained.exists_counts
  refine ⟨?_, sum_labelled h, ?_, ?_, ?_⟩
  · intro l listed
    have pos := samples_pos h listed
    have le := samples_le h l
    exact ⟨pos, le, share_bounds pos (le.trans (le_max_left _ _))⟩
  · intro nonempty
    have pos : 0 < s.samples := Nat.pos_of_ne_zero (by simpa [isEmpty] using nonempty)
    have whole : sampleTotal s = s.samples := max_eq_left pos
    simp only [prior, whole]
    rw [sum_map_div, sum_labelled h, div_self (Nat.cast_ne_zero.2 pos.ne')]
  · intro l t
    have le := weight_le h l t
    exact ⟨Nat.succ_pos _, le, share_bounds (Nat.succ_pos _) le⟩
  · intro nonempty l
    have pos : 0 < s.vocabularySize := by
      rw [Std.TreeSet.isEmpty_eq_size_eq_zero, beq_eq_false_iff_ne] at nonempty
      exact Nat.pos_of_ne_zero nonempty
    have whole : denominator s (s.tally l) = (s.tally l).total + s.vocabularySize := by
      rw [denominator, max_eq_left pos]
    have shares : likelihood s (s.tally l) =
        fun t => (weight (s.tally l) t / denominator s (s.tally l) : ℚ) := rfl
    refine ⟨sum_weight h l, ?_⟩
    rw [shares, sum_map_div, sum_weight h l, whole, div_self (Nat.cast_ne_zero.2 (by omega))]

/-- A language that was trained on an empty text only, next to one that has tokens. -/
theorem smoothing_shellAndPerl : (train shellAndPerl).Trained ∧
    "Perl" ∈ (train shellAndPerl).languageNames ∧
    0 < prior (train shellAndPerl) ((train shellAndPerl).tally "Perl") ∧
    (train shellAndPerl).vocabulary.isEmpty = false ∧
    ((train shellAndPerl).vocabulary.toList.map
      (likelihood (train shellAndPerl) ((train shellAndPerl).tally "Perl"))).sum = 1 := by
  have trained : (train shellAndPerl).Trained := ((Trained.empty.add _ _).add _ _).add _ _
  have listed : "Perl" ∈ (train shellAndPerl).languageNames := by
    rw [(counts_train _).mem_languageNames]
    simp [shellAndPerl]
  have nonempty : (train shellAndPerl).vocabulary.isEmpty = false := by decide +kernel
  obtain ⟨languages, -, -, -, tokens⟩ := smoothing trained
  exact ⟨trained, listed, (languages "Perl" listed).2.2.1, nonempty, (tokens nonempty "Perl").2⟩

end LangBench.NaiveBayes
