import LangBench.Proofs.Classifier.Comparison
import LangBench.Proofs.Classifier.Training

/-!
# The ranking of languages

Ranking sorts the languages by their scores and, where these are equal, by their names.  As long as
every score is a number this is a linear order, so the scores and the names alone say which language
stands where.

* `rankBy`: the languages by scores of any origin; `classify_eq_rankBy`: those for a content;
* `Precedes`: what is true of two languages if the first one stands before the second;
* `sortKey`, `rank_eq_mergeSort`, `mayPrecede_iff`: ranking sorts by a linear order;
* `pairwise_rank`, `eq_of_pairwise_precedes`: a ranking is sorted, and nothing else is;
* `ranking`: each trained language once, in the one order that scores and names allow.
-/

namespace LangBench.NaiveBayes

open Statistics

/-- The languages of some statistics by scores that are given. -/
def rankBy (s : Statistics) (f : String → Float) : List String :=
  rank (s.languageNames.map fun l => (l, f l))

/-- `a` may stand before `b`: its score is not the lower one, and if the scores are equal its name
is the smaller one. -/
def Precedes (f : String → Float) (a b : String) : Prop :=
  f b ≤ f a ∧ ((f a == f b) = true → a < b)

/-- What languages are sorted by: the place of the score, the highest first, and the name. -/
def sortKey (f : String → Float) (l : String) : Placeᵒᵈ ×ₗ String :=
  toLex (.toDual (place (f l)), l)

variable {f : String → Float} {a b : String} {names names' : List String}

theorem sortKey_le_iff : sortKey f a ≤ sortKey f b ↔
    place (f b) < place (f a) ∨ place (f a) = place (f b) ∧ a ≤ b :=
  Prod.Lex.toLex_le_toLex

theorem mayPrecede_iff (ha : (f a).isNaN = false) (hb : (f b).isNaN = false) :
    mayPrecede (a, f a) (b, f b) = true ↔ sortKey f a ≤ sortKey f b := by
  rw [sortKey_le_iff]
  simp only [mayPrecede, lt_iff_place ha hb, lt_iff_place hb ha]
  rcases lt_trichotomy (place (f a)) (place (f b)) with lower | same | higher
  · simp [lower, lower.ne, lower.not_gt]
  · simp [same]
  · simp [higher]

/-- Names are ranked by sorting them. -/
theorem rank_eq_mergeSort (names : List String) (f : String → Float) :
    rank (names.map fun l => (l, f l)) =
      names.mergeSort fun a b => mayPrecede (a, f a) (b, f b) := by
  have sorted : (names.mergeSort fun a b => mayPrecede (a, f a) (b, f b)).map (fun l => (l, f l)) =
      (names.map fun l => (l, f l)).mergeSort mayPrecede :=
    List.map_mergeSort fun _ _ _ _ => rfl
  rw [rank, ← sorted, List.map_map]
  exact List.map_id _

/-- Ranking keeps every name. -/
theorem rank_perm_names (names : List String) (f : String → Float) :
    (rank (names.map fun l => (l, f l))).Perm names := by
  rw [rank_eq_mergeSort]
  exact List.mergeSort_perm _ _

/-- Ranked names are sorted by score and name. -/
theorem pairwise_sortKey_rank (numbers : ∀ l ∈ names, (f l).isNaN = false) :
    (rank (names.map fun l => (l, f l))).Pairwise fun a b => sortKey f a ≤ sortKey f b := by
  -- Only among numbers is the comparison transitive, so the order by keys takes its place.
  have byKey : names.mergeSort (fun a b => mayPrecede (a, f a) (b, f b)) =
      names.mergeSort fun a b => decide (sortKey f a ≤ sortKey f b) := by
    have same : ∀ a ∈ names, ∀ b ∈ names,
        mayPrecede (a, f a) (b, f b) = decide (sortKey f a ≤ sortKey f b) := by
      intro a ha b hb
      rw [Bool.eq_iff_iff, mayPrecede_iff (numbers a ha) (numbers b hb), decide_eq_true_iff]
    simpa using List.map_mergeSort (f := id) same
  rw [rank_eq_mergeSort, byKey]
  refine (List.pairwise_mergeSort ?_ ?_ names).imp of_decide_eq_true
  · intro a b c hab hbc
    rw [decide_eq_true_iff] at *
    exact hab.trans hbc
  · intro a b
    rw [Bool.or_eq_true, decide_eq_true_iff, decide_eq_true_iff]
    exact le_total _ _

/-- A ranking of different names is in order. -/
theorem pairwise_rank (numbers : ∀ l ∈ names, (f l).isNaN = false) (distinct : names.Nodup) :
    (rank (names.map fun l => (l, f l))).Pairwise (Precedes f) := by
  have kept := rank_perm_names names f
  have sorted := (pairwise_sortKey_rank numbers).and (kept.nodup_iff.2 distinct)
  refine sorted.imp_of_mem fun {a b} ha hb h => ?_
  have numberA := numbers a (kept.mem_iff.1 ha)
  have numberB := numbers b (kept.mem_iff.1 hb)
  obtain ⟨le, ne⟩ := h
  rw [sortKey_le_iff] at le
  constructor
  · rw [le_iff_place numberB numberA]
    rcases le with higher | ⟨same, -⟩
    · exact higher.le
    · exact same.ge
  · intro equal
    rw [beq_iff_place numberA numberB] at equal
    rcases le with higher | ⟨-, smaller⟩
    · exact absurd equal higher.ne'
    · exact lt_of_le_of_ne smaller ne

/-- Names can be in order in one way only. -/
theorem eq_of_pairwise_precedes (numbers : ∀ l ∈ names, (f l).isNaN = false)
    (same : names.Perm names') (h : names.Pairwise (Precedes f))
    (h' : names'.Pairwise (Precedes f)) : names = names' := by
  refine List.Perm.eq_of_pairwise (fun a b ha hb hab hba => ?_) h h' same
  have numberA := numbers a ha
  have numberB := numbers b (same.mem_iff.2 hb)
  have equal : place (f a) = place (f b) :=
    le_antisymm ((le_iff_place numberA numberB).1 hba.1) ((le_iff_place numberB numberA).1 hab.1)
  have smaller := hab.2 ((beq_iff_place numberA numberB).2 equal)
  have greater := hba.2 ((beq_iff_place numberB numberA).2 equal.symm)
  exact absurd greater smaller.not_gt

variable {s : Statistics} {samples : List (String × List UInt8)}

/-- Each language of some samples once, and nothing else. -/
structure ListsLanguages (names : List String) (samples : List (String × List UInt8)) : Prop where
  nodup : names.Nodup
  mem_iff : ∀ l, l ∈ names ↔ ∃ x ∈ samples, x.1 = l

theorem listsLanguages_iff (h : s.Counts samples) :
    ListsLanguages names samples ↔ names.Perm s.languageNames := by
  have trained : ∀ l, l ∈ s.languageNames ↔ ∃ x ∈ samples, x.1 = l := by
    intro l
    rw [h.mem_languageNames, List.mem_map]
  have distinct : s.languageNames.Nodup := s.languages.nodup_keys
  constructor
  · rintro ⟨nodup, mem⟩
    refine (List.perm_ext_iff_of_nodup nodup distinct).2 fun l => ?_
    rw [mem, trained]
  · intro same
    refine ⟨same.nodup_iff.2 distinct, fun l => ?_⟩
    rw [same.mem_iff, trained]

/-- The languages for a content are ranked by their scores, also if there are none. -/
theorem classify_eq_rankBy (h : s.Counts samples) (data : List UInt8) :
    classify s data = rankBy s fun l => score s (s.tally l) (tokenize data) := by
  rw [classify, classifyTokens, scores_eq, rankBy]
  split
  · next untrained =>
    have none : samples = [] := by
      rw [isEmpty, beq_iff_eq, h.size] at untrained
      exact List.eq_nil_of_length_eq_zero untrained
    have noNames : s.languageNames = [] := by
      refine List.eq_nil_iff_forall_not_mem.2 fun l listed => ?_
      rw [h.mem_languageNames, none] at listed
      cases listed
    rw [noNames, List.map_nil, rank, List.mergeSort_nil, List.map_nil]
  · rfl

/-- **The ranking of languages.**  In statistics of any samples, the languages for a content are
those of the samples, each once, and there are none exactly if there are no samples.  They are
ranked by score.  Whatever scores the languages have, provided that these are numbers: a list is the
ranking exactly if it has the languages of the samples, each once, and a language that stands before
another one has no lower score, and if the scores are equal, the smaller name. -/
theorem ranking (samples : List (String × List UInt8)) (data : List UInt8) :
    ListsLanguages (classify (train samples) data) samples ∧
    (classify (train samples) data = [] ↔ samples = []) ∧
    (classify (train samples) data = rankBy (train samples) fun l =>
      score (train samples) ((train samples).tally l) (tokenize data)) ∧
    ∀ f : String → Float, (∀ x ∈ samples, (f x.1).isNaN = false) → ∀ names : List String,
      names = rankBy (train samples) f ↔
        ListsLanguages names samples ∧ names.Pairwise (Precedes f) := by
  have h := counts_train samples
  have byScore := classify_eq_rankBy h data
  have complete : ListsLanguages (classify (train samples) data) samples := by
    rw [byScore, listsLanguages_iff h]
    exact rank_perm_names _ _
  refine ⟨complete, ?_, byScore, ?_⟩
  · constructor
    · intro none
      refine List.eq_nil_iff_forall_not_mem.2 fun x mem => ?_
      have listed := (complete.mem_iff x.1).2 ⟨x, mem, rfl⟩
      rw [none] at listed
      cases listed
    · rintro rfl
      rfl
  · intro f numbers names
    have numbers : ∀ l ∈ (train samples).languageNames, (f l).isNaN = false := by
      intro l listed
      rw [h.mem_languageNames, List.mem_map] at listed
      obtain ⟨x, mem, rfl⟩ := listed
      exact numbers x mem
    have sorted : (rankBy (train samples) f).Pairwise (Precedes f) :=
      pairwise_rank numbers (train samples).languages.nodup_keys
    rw [listsLanguages_iff h]
    constructor
    · rintro rfl
      exact ⟨rank_perm_names _ _, sorted⟩
    · rintro ⟨same, inOrder⟩
      refine eq_of_pairwise_precedes (fun l mem => numbers l (same.mem_iff.1 mem)) ?_ inOrder sorted
      exact same.trans (rank_perm_names _ _).symm

/-- Perl with the score `-0`, any other language with the score `0`. -/
def zeroScores (l : String) : Float :=
  if l = "Perl" then -0.0 else 0.0

/-- The two zeros are equal scores, so Perl stands before Shell because of its name. -/
theorem ranking_shellAndPerl : (∀ x ∈ shellAndPerl, (zeroScores x.1).isNaN = false) ∧
    ListsLanguages ["Perl", "Shell"] shellAndPerl ∧
    ["Perl", "Shell"].Pairwise (Precedes zeroScores) ∧
    rankBy (train shellAndPerl) zeroScores = ["Perl", "Shell"] := by
  have numbers : ∀ x ∈ shellAndPerl, (zeroScores x.1).isNaN = false := by decide +kernel
  have complete : ListsLanguages ["Perl", "Shell"] shellAndPerl :=
    ⟨by decide, by simp [shellAndPerl, or_comm, eq_comm]⟩
  have inOrder : ["Perl", "Shell"].Pairwise (Precedes zeroScores) := by
    refine List.pairwise_pair.2 ⟨?_, fun _ => ?_⟩
    · decide +kernel
    · decide
  obtain ⟨-, -, -, arranged⟩ := ranking shellAndPerl []
  exact ⟨numbers, complete, inOrder, ((arranged zeroScores numbers _).2 ⟨complete, inOrder⟩).symm⟩

end LangBench.NaiveBayes
