import Mathlib.Algebra.BigOperators.Group.List.Basic
import Mathlib.Algebra.GroupWithZero.Nat
import Mathlib.Algebra.Order.BigOperators.Group.Finset
import Mathlib.Data.List.Induction
import Mathlib.Data.List.Sort
import Mathlib.Data.String.Basic
import LangBench.Classifier.NaiveBayes

/-!
# What training counts

Training looks at one sample after the other and keeps several counts.  In the end they are what
counting in all samples at once would give, so the order of the samples does not matter, nor does
it for the ranking that comes from them.

* `tokensOf`: the tokens of all samples of a language;
* `Statistics.Counts`: statistics hold what is in some samples;
* `Statistics.Counts.add`, `Statistics.counts_train`: so they do after each sample, and in the end;
* `Statistics.Agrees`: statistics that cannot be told apart, for which the ranking is the same;
* `Statistics.training`: what training counts, and that the order of the samples does not matter.
-/

namespace LangBench

/-- The tokens of all samples of a language, one after the other. -/
def tokensOf (samples : List (String × List UInt8)) (language : String) : List String :=
  (samples.filter (·.1 = language)).flatMap fun x => tokenize x.2

/-- The tokens of a language when there is one more sample. -/
theorem tokensOf_append_singleton (samples : List (String × List UInt8)) (l : String)
    (data : List UInt8) (language : String) :
    tokensOf (samples ++ [(l, data)]) language =
      tokensOf samples language ++ if l = language then tokenize data else [] := by
  by_cases same : l = language
  · simp [tokensOf, same]
  · simp [tokensOf, same]

/-- A list counted at keys that hold all its members. -/
theorem sum_map_count {keys tokens : List String} (distinct : keys.Nodup)
    (all : ∀ t ∈ tokens, t ∈ keys) : (keys.map fun t => tokens.count t).sum = tokens.length := by
  have counted := Multiset.sum_count_eq_card (s := keys.toFinset) (m := (tokens : Multiset String))
    fun t mem => List.mem_toFinset.2 (all t mem)
  rw [← List.sum_toFinset _ distinct]
  simpa using counted

namespace Tally

/-- A token that comes again is counted once more. -/
theorem getD_increment (counts : Std.TreeMap String Nat) (token t : String) :
    (increment counts token).getD t 0 = counts.getD t 0 + if token = t then 1 else 0 := by
  rw [increment, Std.TreeMap.getD_insert]
  by_cases same : token = t
  · subst same
    simp
  · simp [same]

variable (tally : Tally)

theorem count_add (tokens : List String) (t : String) :
    (tally.add tokens).count t = tally.count t + tokens.count t := by
  show (tokens.foldl increment tally.counts).getD t 0 = tally.counts.getD t 0 + tokens.count t
  generalize tally.counts = counts
  induction tokens generalizing counts with
  | nil => simp
  | cons token tokens ih =>
    rw [List.foldl_cons, ih, getD_increment, List.count_cons]
    simp only [beq_iff_eq]
    omega

theorem mem_counts_add (tokens : List String) (t : String) :
    t ∈ (tally.add tokens).counts ↔ t ∈ tally.counts ∨ t ∈ tokens := by
  show t ∈ tokens.foldl increment tally.counts ↔ t ∈ tally.counts ∨ t ∈ tokens
  generalize tally.counts = counts
  induction tokens generalizing counts with
  | nil => simp
  | cons token tokens ih =>
    rw [List.foldl_cons, ih, increment, Std.TreeMap.mem_insert, List.mem_cons]
    simp only [Std.LawfulEqCmp.compare_eq_iff_eq, eq_comm (a := token)]
    tauto

/-- The counts of a tally, added up. -/
theorem sum_counts (counts : Std.TreeMap String Nat) :
    (counts.toList.map Prod.snd).sum = (counts.keys.map fun t => counts.getD t 0).sum := by
  have entry : ∀ x ∈ counts.toList, x.2 = counts.getD x.1 0 := by
    rintro ⟨t, n⟩ mem
    rw [Std.TreeMap.getD_eq_getD_getElem?, Std.TreeMap.mem_toList_iff_getElem?_eq_some.1 mem]
    rfl
  rw [← Std.TreeMap.map_fst_toList_eq_keys, List.map_map, List.map_congr_left entry]
  rfl

end Tally

namespace Statistics

theorem mem_foldl_insert (set : Std.TreeSet String) (tokens : List String) (t : String) :
    t ∈ tokens.foldl Std.TreeSet.insert set ↔ t ∈ set ∨ t ∈ tokens := by
  induction tokens generalizing set with
  | nil => simp
  | cons token tokens ih =>
    rw [List.foldl_cons, ih, Std.TreeSet.mem_insert, List.mem_cons]
    simp only [Std.LawfulEqCmp.compare_eq_iff_eq, eq_comm (a := token)]
    tauto

/-- Only the tally of the sample's language changes. -/
theorem tally_add (s : Statistics) (l : String) (data : List UInt8) (language : String) :
    (s.add l data).tally language =
      if l = language then (s.tally l).add (tokenize data) else s.tally language := by
  show (s.languages.insert l ((s.tally l).add (tokenize data))).getD language {} = _
  rw [Std.TreeMap.getD_insert]
  simp only [Std.LawfulEqCmp.compare_eq_iff_eq]
  rfl

/-- The statistics `s` hold what is in some samples: which languages there are, how many samples
each has, which tokens there are and how many of each in each language. -/
structure Counts (s : Statistics) (samples : List (String × List UInt8)) : Prop where
  size : s.samples = samples.length
  mem_languages : ∀ l, l ∈ s.languages ↔ l ∈ samples.map Prod.fst
  labelled : ∀ l, (s.tally l).samples = (samples.map Prod.fst).count l
  total : ∀ l, (s.tally l).total = (tokensOf samples l).length
  count : ∀ l t, (s.tally l).count t = (tokensOf samples l).count t
  mem_counts : ∀ l t, t ∈ (s.tally l).counts ↔ t ∈ tokensOf samples l
  mem_vocabulary : ∀ t, t ∈ s.vocabulary ↔ ∃ x ∈ samples, t ∈ tokenize x.2

theorem counts_empty : Counts empty [] where
  size := rfl
  mem_languages _ := by simp [empty]
  labelled _ := rfl
  total _ := rfl
  count _ _ := rfl
  mem_counts l t := by simp [empty, tally, tokensOf]
  mem_vocabulary _ := by simp [empty]

variable {s s' : Statistics} {samples : List (String × List UInt8)}

/-- Statistics keep up with one more sample. -/
theorem Counts.add (h : s.Counts samples) (l : String) (data : List UInt8) :
    (s.add l data).Counts (samples ++ [(l, data)]) where
  size := by rw [samples_add, h.size, List.length_append, List.length_singleton]
  mem_languages language := by
    show language ∈ s.languages.insert l _ ↔ _
    rw [Std.TreeMap.mem_insert, h.mem_languages, List.map_append, List.mem_append]
    simp only [Std.LawfulEqCmp.compare_eq_iff_eq, List.map_singleton, List.mem_singleton,
      eq_comm (a := l)]
    tauto
  labelled language := by
    rw [tally_add, List.map_append, List.count_append, ← h.labelled]
    by_cases same : l = language
    · subst same
      simp [Tally.add]
    · simp [same]
  total language := by
    rw [tally_add, tokensOf_append_singleton, List.length_append, ← h.total]
    by_cases same : l = language
    · subst same
      simp [Tally.add]
    · simp [same]
  count language t := by
    rw [tally_add, tokensOf_append_singleton, List.count_append, ← h.count]
    by_cases same : l = language
    · subst same
      rw [if_pos rfl, if_pos rfl, Tally.count_add]
    · simp [same]
  mem_counts language t := by
    rw [tally_add, tokensOf_append_singleton, List.mem_append, ← h.mem_counts]
    by_cases same : l = language
    · subst same
      rw [if_pos rfl, if_pos rfl, Tally.mem_counts_add]
    · simp [same]
  mem_vocabulary t := by
    show t ∈ (tokenize data).foldl Std.TreeSet.insert s.vocabulary ↔ _
    rw [mem_foldl_insert, h.mem_vocabulary]
    simp [or_and_right, exists_or]

/-- What training counts is what is in the samples. -/
theorem counts_train (samples : List (String × List UInt8)) : (train samples).Counts samples := by
  induction samples using List.reverseRecOn with
  | nil => exact counts_empty
  | append_singleton samples x ih =>
    rw [train_append_singleton]
    exact ih.add x.1 x.2

/-- Statistics to which samples were added one by one. -/
inductive Trained : Statistics → Prop
  | empty : Trained empty
  | add {s : Statistics} (before : Trained s) (l : String) (data : List UInt8) :
      Trained (s.add l data)

theorem Trained.exists_counts (h : s.Trained) : ∃ samples, s.Counts samples := by
  induction h with
  | empty => exact ⟨[], counts_empty⟩
  | add before l data ih =>
    obtain ⟨samples, counts⟩ := ih
    exact ⟨samples ++ [(l, data)], counts.add l data⟩

/-! ### Statistics that cannot be told apart -/

/-- The languages come in the order of their names, each once. -/
theorem languageNames_sorted (s : Statistics) : s.languageNames.Pairwise (· < ·) :=
  s.languages.ordered_keys.imp compareOfLessAndEq_eq_lt.1

theorem Counts.mem_languageNames (h : s.Counts samples) (l : String) :
    l ∈ s.languageNames ↔ l ∈ samples.map Prod.fst := by
  rw [languageNames, Std.TreeMap.mem_keys, h.mem_languages]

/-- Two statistics hold the same, however their tables came to be. -/
structure Agrees (s s' : Statistics) : Prop where
  samples : s.samples = s'.samples
  languageNames : s.languageNames = s'.languageNames
  labelled : ∀ l, (s.tally l).samples = (s'.tally l).samples
  total : ∀ l, (s.tally l).total = (s'.tally l).total
  count : ∀ l t, (s.tally l).count t = (s'.tally l).count t
  vocabulary : s.vocabulary.toList = s'.vocabulary.toList

/-- Statistics of the same samples in another order agree. -/
theorem Counts.agrees {samples' : List (String × List UInt8)} (h : s.Counts samples)
    (h' : s'.Counts samples') (same : samples.Perm samples') : s.Agrees s' where
  samples := by rw [h.size, h'.size, same.length_eq]
  languageNames := by
    refine s.languageNames_sorted.eq_of_mem_iff s'.languageNames_sorted fun l => ?_
    rw [h.mem_languageNames, h'.mem_languageNames, (same.map Prod.fst).mem_iff]
  labelled l := by rw [h.labelled, h'.labelled, (same.map Prod.fst).count_eq]
  total l := by
    rw [h.total, h'.total]
    exact ((same.filter _).flatMap_right _).length_eq
  count l t := by
    rw [h.count, h'.count]
    exact ((same.filter _).flatMap_right _).count_eq t
  vocabulary := by
    refine Std.TreeSet.Equiv.toList_eq (Std.TreeSet.Equiv.of_forall_mem_iff fun t => ?_)
    simp only [h.mem_vocabulary, h'.mem_vocabulary, same.mem_iff]

end Statistics

namespace NaiveBayes

variable {s s' : Statistics}

/-- The scores in terms of the tally of each language. -/
theorem scores_eq (s : Statistics) (tokens : List String) :
    scores s tokens = s.languageNames.map fun l => (l, score s (s.tally l) tokens) := by
  have entry : ∀ x ∈ s.languages.toList,
      (x.1, score s x.2 tokens) = (x.1, score s (s.tally x.1) tokens) := by
    rintro ⟨l, t⟩ mem
    rw [Statistics.tally, Std.TreeMap.getD_eq_getD_getElem?,
      Std.TreeMap.mem_toList_iff_getElem?_eq_some.1 mem, Option.getD_some]
  rw [scores, List.map_congr_left entry, Statistics.languageNames,
    ← Std.TreeMap.map_fst_toList_eq_keys, List.map_map]
  rfl

theorem vocabularySize_eq (h : s.Agrees s') : s.vocabularySize = s'.vocabularySize := by
  rw [Statistics.vocabularySize, Statistics.vocabularySize, ← Std.TreeSet.length_toList,
    ← Std.TreeSet.length_toList, h.vocabulary]

/-- Statistics that agree give each language the same score. -/
theorem score_eq (h : s.Agrees s') (l : String) (tokens : List String) :
    score s (s.tally l) tokens = score s' (s'.tally l) tokens := by
  have prior : logPrior s (s.tally l) = logPrior s' (s'.tally l) := by
    rw [logPrior, logPrior, sampleTotal, sampleTotal, h.labelled, h.samples]
  have weights : ∀ t, logWeight s (s.tally l) t = logWeight s' (s'.tally l) t := by
    intro t
    rw [logWeight, logWeight, weight, weight, denominator, denominator, h.count, h.total,
      vocabularySize_eq h]
  simp only [score, prior, weights]

/-- Statistics that agree rank the languages alike. -/
theorem classify_eq (h : s.Agrees s') (data : List UInt8) : classify s data = classify s' data := by
  have same : scores s (tokenize data) = scores s' (tokenize data) := by
    simp only [scores_eq, h.languageNames, score_eq h]
  rw [classify, classify, classifyTokens, classifyTokens, Statistics.isEmpty, Statistics.isEmpty,
    h.samples, same]

end NaiveBayes

namespace Statistics

/-- **What training counts.**  For every list of samples, whether they are given at once or some of
them are added one by one later: every sample is counted; the languages are those of the samples,
sorted and each once; a token is counted for a language as often as it occurs in the samples of the
language; the total of a language is the sum of its counts; and the vocabulary is what occurs in any
sample.  The order of the samples matters neither for this nor for any ranking that rests on it. -/
theorem training (samples : List (String × List UInt8)) :
    (train samples).samples = samples.length ∧
    (train samples).languageNames.Pairwise (· < ·) ∧
    (∀ l, l ∈ (train samples).languageNames ↔ ∃ x ∈ samples, x.1 = l) ∧
    (∀ l t, (train samples).tokenCount l t =
      ((samples.filter (·.1 = l)).map fun x => (tokenize x.2).count t).sum) ∧
    (∀ l, ((train samples).tally l).total =
      (((train samples).tally l).counts.toList.map Prod.snd).sum) ∧
    (∀ t, t ∈ (train samples).vocabulary ↔ ∃ x ∈ samples, t ∈ tokenize x.2) ∧
    (∀ later, later.foldl (fun s x => s.add x.1 x.2) (train samples) = train (samples ++ later)) ∧
    ∀ samples', samples.Perm samples' → (train samples).Agrees (train samples') ∧
      ∀ data, NaiveBayes.classify (train samples) data =
        NaiveBayes.classify (train samples') data := by
  have h := counts_train samples
  refine ⟨h.size, languageNames_sorted _, ?_, ?_, ?_, h.mem_vocabulary, ?_, ?_⟩
  · intro l
    rw [h.mem_languageNames, List.mem_map]
  · intro l t
    show ((train samples).tally l).count t = _
    rw [h.count, tokensOf, List.count_flatMap]
    rfl
  · intro l
    have distinct := ((train samples).tally l).counts.nodup_keys
    have all : ∀ t ∈ tokensOf samples l, t ∈ ((train samples).tally l).counts.keys :=
      fun t mem => Std.TreeMap.mem_keys.2 ((h.mem_counts l t).2 mem)
    calc ((train samples).tally l).total
      _ = (tokensOf samples l).length := h.total l
      _ = (((train samples).tally l).counts.keys.map fun t => (tokensOf samples l).count t).sum :=
        (sum_map_count distinct all).symm
      _ = (((train samples).tally l).counts.keys.map fun t =>
          ((train samples).tally l).counts.getD t 0).sum :=
        congrArg List.sum (List.map_congr_left fun t _ => (h.count l t).symm)
      _ = _ := (Tally.sum_counts _).symm
  · intro later
    rw [train, train, List.foldl_append]
  · intro samples' same
    have agree := h.agrees (counts_train samples') same
    exact ⟨agree, NaiveBayes.classify_eq agree⟩

/-- The text `fi fi` and an empty text, in two languages, and the text `fi` in the first one. -/
def shellAndPerl : List (String × List UInt8) :=
  [("Shell", [0x66, 0x69, 0x20, 0x66, 0x69]), ("Perl", []), ("Shell", [0x66, 0x69])]

theorem training_shellAndPerl : shellAndPerl.Perm shellAndPerl.reverse ∧
    (train shellAndPerl).tokenCount "Shell" "fi" = 3 ∧
    (train shellAndPerl.reverse).languageNames = (train shellAndPerl).languageNames ∧
    "Perl" ∈ (train shellAndPerl).languageNames ∧
    ∀ data, NaiveBayes.classify (train shellAndPerl) data =
      NaiveBayes.classify (train shellAndPerl.reverse) data := by
  obtain ⟨-, -, languages, counts, -, -, -, order⟩ := training shellAndPerl
  have shuffled := (List.reverse_perm shellAndPerl).symm
  obtain ⟨agree, ranking⟩ := order shellAndPerl.reverse shuffled
  refine ⟨shuffled, ?_, agree.languageNames.symm, ?_, ranking⟩
  · rw [counts]
    decide +kernel
  · rw [languages]
    exact ⟨("Perl", []), by simp [shellAndPerl], rfl⟩

end Statistics

end LangBench
