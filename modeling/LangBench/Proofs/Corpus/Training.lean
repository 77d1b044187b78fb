import LangBench.Corpus.Basic
import LangBench.Proofs.Catalogue.Lookup
import LangBench.Proofs.Classifier.Training
import LangBench.Proofs.Corpus.Below
import LangBench.Proofs.Text.WellFormed

/-!
# What a corpus teaches

A sample is an example of a language if it lies in a directory of the corpus that has the name of
the language, in whatever case.  Training counts just these samples, under the name that the
catalogue has for the language.

* `Path.components_eq_normal_cons_iff`: the spelling of a path that goes on from a directory;
* `IsExampleOf`: a sample is an example of a language;
* `Corpus.training_eq`: the examples among the samples, in order;
* `Corpus.study`: training by the views of the samples, which keeps nothing;
* `Corpus.learned`: what the statistics of a corpus hold.
-/

namespace LangBench

open Text

namespace Path

/-! ### The first directory -/

variable {p : Path} {directory : FileName}

theorem isSilent_eq_true_iff {piece : FileName} :
    isSilent piece = true ↔ piece = [] ∨ piece = [dot] := by
  simp [isSilent]

theorem isSilent_eq_false_iff {piece : FileName} :
    isSilent piece = false ↔ piece ≠ [] ∧ piece ≠ [dot] := by
  rw [← Bool.not_eq_true, isSilent_eq_true_iff, not_or]

/-- A path whose first piece says something has its pieces as components. -/
theorem components_of_slashPieces {piece : FileName} {rest : List FileName}
    (h : slashPieces p.bytes = piece :: rest) (spoken : isSilent piece = false) :
    p.components = (piece :: rest).filterMap Component.ofPiece? := by
  rw [components, cut_name h spoken]
  rfl

/-- A path whose first piece says nothing begins with no directory. -/
theorem components_ne_normal_cons {piece : FileName} {rest : List FileName}
    (h : slashPieces p.bytes = piece :: rest) (silent : isSilent piece = true)
    (later : List Component) : p.components ≠ .normal directory :: later := by
  rcases isSilent_eq_true_iff.1 silent with rfl | rfl
  · by_cases alone : rest = []
    · subst alone
      rw [components, cut, h]
      simp
    · rw [components, cut_root h alone]
      intro same
      cases (List.cons.inj same).1
  · rw [components, cut_current h]
    intro same
    cases (List.cons.inj same).1

theorem ofPiece?_eq_normal_iff {piece : FileName} :
    Component.ofPiece? piece = some (.normal directory) ↔
      piece = directory ∧ isSilent piece = false ∧ piece ≠ [dot, dot] := by
  unfold Component.ofPiece?
  split_ifs with silent parent
  · simp [silent]
  · simp [parent]
  · simp [silent, parent]

/-- A path begins with a directory if its first piece is the name of that directory. -/
theorem components_eq_iff_of_slashPieces {piece : FileName} {rest : List FileName}
    (h : slashPieces p.bytes = piece :: rest) {later : List Component} :
    p.components = .normal directory :: later ↔
      piece = directory ∧ isSilent piece = false ∧ piece ≠ [dot, dot] ∧
        rest.filterMap Component.ofPiece? = later := by
  by_cases silent : isSilent piece = true
  · simp [components_ne_normal_cons h silent, silent]
  · have spoken := Bool.not_eq_true _ ▸ silent
    obtain ⟨c, said⟩ := exists_ofPiece?_eq spoken
    rw [components_of_slashPieces h spoken, List.filterMap_cons, said, List.cons.injEq,
      ← Option.some_inj, ← said, ofPiece?_eq_normal_iff, and_assoc, and_assoc]

/-- There is a component behind a directory if some piece says something. -/
theorem filterMap_ofPiece?_ne_nil_iff {pieces : List FileName} :
    pieces.filterMap Component.ofPiece? ≠ [] ↔ ∃ piece ∈ pieces, piece ≠ [] ∧ piece ≠ [dot] := by
  simp only [← isSilent_eq_false_iff]
  constructor
  · intro more
    by_contra silent
    simp only [not_exists, not_and, Bool.not_eq_false] at silent
    exact more (filterMap_ofPiece?_silent silent)
  · rintro ⟨piece, inPieces, spoken⟩
    obtain ⟨c, said⟩ := exists_ofPiece?_eq spoken
    exact List.ne_nil_of_mem (List.mem_filterMap.2 ⟨piece, inPieces, said⟩)

/-- A path that goes on from a directory is spelled with the name of the directory, which is neither
empty nor `.` nor `..`, a slash, and something in which not all pieces between slashes are empty or
`.`. -/
theorem components_eq_normal_cons_iff :
    (∃ next rest, p.components = .normal directory :: next :: rest) ↔
      ∃ below, p.bytes = directory ++ slash :: below ∧ slash ∉ directory ∧
        directory ≠ [] ∧ directory ≠ [dot] ∧ directory ≠ [dot, dot] ∧
        ∃ piece ∈ slashPieces below, piece ≠ [] ∧ piece ≠ [dot] := by
  constructor
  · rintro ⟨next, later, split⟩
    by_cases slashed : slash ∈ p.bytes
    · obtain ⟨front, below, spelled, clear⟩ := List.eq_append_cons_of_mem slashed
      have first : slashPieces p.bytes = front :: slashPieces below := by
        rw [spelled, slashPieces_append_slash clear]
      obtain ⟨rfl, spoken, notParent, behind⟩ := (components_eq_iff_of_slashPieces first).1 split
      obtain ⟨notEmpty, notCurrent⟩ := isSilent_eq_false_iff.1 spoken
      have more : (slashPieces below).filterMap Component.ofPiece? ≠ [] :=
        behind ▸ List.cons_ne_nil next later
      exact ⟨below, spelled, clear, notEmpty, notCurrent, notParent,
        filterMap_ofPiece?_ne_nil_iff.1 more⟩
    · -- a single piece has nothing behind it
      have single := slashPieces_of_notMem slashed
      obtain ⟨-, -, -, behind⟩ := (components_eq_iff_of_slashPieces single).1 split
      cases behind
  · rintro ⟨below, spelled, clear, notEmpty, notCurrent, notParent, more⟩
    have first : slashPieces p.bytes = directory :: slashPieces below := by
      rw [spelled, slashPieces_append_slash clear]
    have spoken := isSilent_eq_false_iff.2 ⟨notEmpty, notCurrent⟩
    obtain ⟨next, rest, later⟩ :=
      List.exists_cons_of_ne_nil (filterMap_ofPiece?_ne_nil_iff.2 more)
    exact ⟨next, rest,
      (components_eq_iff_of_slashPieces first).2 ⟨rfl, spoken, notParent, later⟩⟩

theorem text?_eq_some_iff {bs : List UInt8} {text : String} :
    text? bs = some text ↔ Utf8.encode text.toList = bs := by
  rw [← Utf8.decode_eq_ok_iff, text?]
  cases Utf8.decode bs with
  | error fault => simp
  | ok cs =>
    simp only [Option.some.injEq, Except.ok.injEq]
    constructor
    · rintro rfl
      exact String.toList_ofList.symm
    · rintro rfl
      exact String.ofList_toList

/-- The first directory of a path, if it is UTF-8. -/
def directory? (p : Path) : Option String :=
  match p.components with
  | .normal directory :: _ :: _ => text? directory
  | _ => none

theorem directory?_eq_some_iff {text : String} : p.directory? = some text ↔
    ∃ next rest, p.components = .normal (Utf8.encode text.toList) :: next :: rest := by
  unfold directory?
  split
  · next directory next rest split =>
    rw [text?_eq_some_iff, split]
    simp [eq_comm]
  · next other =>
    simp only [reduceCtorEq, false_iff]
    rintro ⟨next, rest, split⟩
    exact other _ _ _ split

end Path

/-! ### Examples -/

/-- A blob lies in a directory that has the name of the language `l`, in whatever case. -/
def IsExampleOf (b : Blob) (l : Language) : Prop :=
  ∃ text next rest, b.relative.components = .normal (Utf8.encode text.toList) :: next :: rest ∧
    lower text = lower l.name

/-- Examples by the spelling of their paths. -/
theorem isExampleOf_iff_bytes {b : Blob} {l : Language} : IsExampleOf b l ↔
    ∃ text below, b.relative.bytes = Utf8.encode text.toList ++ Path.slash :: below ∧
      Path.slash ∉ Utf8.encode text.toList ∧ Utf8.encode text.toList ≠ [] ∧
      Utf8.encode text.toList ≠ [Path.dot] ∧ Utf8.encode text.toList ≠ [Path.dot, Path.dot] ∧
      (∃ piece ∈ Path.slashPieces below, piece ≠ [] ∧ piece ≠ [Path.dot]) ∧
      lower text = lower l.name := by
  constructor
  · rintro ⟨text, next, rest, split, same⟩
    obtain ⟨below, spelled, clear, notEmpty, notCurrent, notParent, more⟩ :=
      Path.components_eq_normal_cons_iff.1 ⟨next, rest, split⟩
    exact ⟨text, below, spelled, clear, notEmpty, notCurrent, notParent, more, same⟩
  · rintro ⟨text, below, spelled, clear, notEmpty, notCurrent, notParent, more, same⟩
    obtain ⟨next, rest, split⟩ := Path.components_eq_normal_cons_iff.2
      ⟨below, spelled, clear, notEmpty, notCurrent, notParent, more⟩
    exact ⟨text, next, rest, split, same⟩

theorem isExampleOf_iff {b : Blob} {l : Language} :
    IsExampleOf b l ↔ b.relative.directory?.map lower = some (lower l.name) := by
  simp only [IsExampleOf, Option.map_eq_some_iff, Path.directory?_eq_some_iff]
  constructor
  · rintro ⟨text, next, rest, split, same⟩
    exact ⟨text, ⟨next, rest, split⟩, same⟩
  · rintro ⟨text, ⟨next, rest, split⟩, same⟩
    exact ⟨text, next, rest, split, same⟩

instance (b : Blob) (l : Language) : Decidable (IsExampleOf b l) :=
  decidable_of_iff _ isExampleOf_iff.symm

namespace Catalogue

variable {languages : Catalogue} {ls : List Language}

/-- Reading through a list for all languages of a name finds one at most. -/
theorem filter_name_eq (distinct : (ls.map fun l => lower l.name).Nodup) (name : String) :
    ls.filter (fun l => name = lower l.name) = (ls.find? fun l => lower l.name = name).toList := by
  induction ls with
  | nil => rfl
  | cons l ls ih =>
    rw [List.map_cons, List.nodup_cons] at distinct
    by_cases named : lower l.name = name
    · have others : ls.filter (fun m => name = lower m.name) = [] := by
        rw [List.filter_eq_nil_iff]
        intro m mem same
        refine distinct.1 (List.mem_map.2 ⟨m, mem, ?_⟩)
        rw [named]
        exact (of_decide_eq_true same).symm
      rw [List.filter_cons_of_pos (by simp [named]), others,
        List.find?_cons_of_pos (by simp [named])]
      rfl
    · rw [List.filter_cons_of_neg (by simp [Ne.symm named]),
        List.find?_cons_of_neg (by simp [named]), ih distinct.2]

/-- The languages that a blob is an example of: one at most, which the catalogue finds. -/
theorem Indexes.filter_isExampleOf (h : languages.Indexes ls) (b : Blob) :
    ls.filter (fun l => IsExampleOf b l) = (b.relative.directory?.bind languages.get?).toList := by
  simp only [isExampleOf_iff]
  cases b.relative.directory? with
  | none => simp
  | some text =>
    rw [Option.bind_some, get?, h.byName, ← filter_name_eq h.distinct]
    simp only [Option.map_some, Option.some.injEq]

end Catalogue

namespace Corpus

variable {languages : Catalogue} {ls : List Language}

theorem languageOf?_eq (languages : Catalogue) (relative : Path) :
    languageOf? languages relative =
      (relative.directory?.bind languages.get?).map Language.name := by
  unfold languageOf? Path.directory?
  generalize relative.components = components
  rcases components with _ | ⟨_ | _ | _ | directory, _ | ⟨next, rest⟩⟩ <;> rfl

/-- The training data of a corpus: its examples in order, each under the catalogue's name of the
language. -/
theorem training_eq (h : languages.Indexes ls) (c : Corpus) : c.training languages =
    c.samples.flatMap fun s =>
      (ls.filter fun l => IsExampleOf s.toBlob l).map fun l => (l.name, s.data) := by
  rw [training, List.filterMap_eq_flatMap_toList]
  refine List.flatMap_congr fun s _ => ?_
  rw [h.filter_isExampleOf, languageOf?_eq]
  cases s.relative.directory?.bind languages.get? <;> rfl

/-! ### Kept views -/

/-- A sample as an example, read through its views. -/
def exampleView (languages : Catalogue) : View (Option (String × List UInt8)) := do
  match languageOf? languages (← read).relative with
  | none => return none
  | some name => return some (name, ← View.data)

/-- Training that reads the samples through their views: the statistics, and the corpus with what
the samples keep after that. -/
def study (c : Corpus) (languages : Catalogue) : Statistics × Corpus :=
  let read := c.samples.map fun s => s.view (exampleView languages)
  (.train (read.filterMap Prod.fst), { c with samples := read.map Prod.snd })

theorem view_exampleView (languages : Catalogue) (s : Sample) : s.view (exampleView languages) =
    ((languageOf? languages s.relative).map fun name => (name, s.data), s) := by
  have run : (exampleView languages).run s.toBlob s.cache =
      ((languageOf? languages s.relative).map fun name => (name, s.data), s.cache) := by
    show View.run (match languageOf? languages s.relative with
      | none => return none
      | some name => return some (name, ← View.data)) s.toBlob s.cache = _
    cases languageOf? languages s.relative <;> rfl
  rw [Sample.view, run]

/-- Training leaves every sample with what it keeps. -/
theorem study_eq (c : Corpus) (languages : Catalogue) :
    c.study languages = (c.statistics languages, c) := by
  have kept : (c.samples.map fun s => s.view (exampleView languages)).map Prod.snd = c.samples := by
    simp only [view_exampleView, List.map_map]
    exact List.map_id c.samples
  have read : (c.samples.map fun s => s.view (exampleView languages)).filterMap Prod.fst =
      c.training languages := by
    simp only [view_exampleView, List.filterMap_map]
    rfl
  simp only [study, kept, read, statistics]

/-! ### Statistics -/

theorem mem_training_iff (h : languages.Indexes ls) (c : Corpus) {name : String}
    {data : List UInt8} : (name, data) ∈ c.training languages ↔
      ∃ s ∈ c.samples, ∃ l ∈ ls, IsExampleOf s.toBlob l ∧ l.name = name ∧ s.data = data := by
  rw [training_eq h]
  simp only [List.mem_flatMap, List.mem_map, List.mem_filter, decide_eq_true_eq, Prod.mk.injEq,
    and_assoc]

/-- There are as many examples as samples that are examples of any language. -/
theorem length_training (h : languages.Indexes ls) (c : Corpus) : (c.training languages).length =
    c.samples.countP fun s => ls.any fun l => IsExampleOf s.toBlob l := by
  rw [training, List.length_filterMap_eq_countP]
  refine List.countP_congr fun s _ => ?_
  have listed := h.filter_isExampleOf s.toBlob
  rw [languageOf?_eq, Option.isSome_map, Option.isSome_map, List.any_eq_true]
  cases found : s.relative.directory?.bind languages.get? with
  | none =>
    rw [found, Option.toList_none, List.filter_eq_nil_iff] at listed
    simpa using listed
  | some l =>
    have mem : l ∈ ls.filter fun l => IsExampleOf s.toBlob l := by
      rw [listed, found]
      exact List.mem_singleton_self l
    exact iff_of_true rfl ⟨l, List.mem_filter.1 mem⟩

end Corpus

namespace NaiveBayes

/-- Only languages that have samples are ranked. -/
theorem mem_languageNames_of_mem_classify {s : Statistics} {data : List UInt8} {name : String}
    (ranked : name ∈ classify s data) : name ∈ s.languageNames := by
  unfold classify classifyTokens at ranked
  split_ifs at ranked with noSample
  · cases ranked
  · rw [(rank_perm _).mem_iff, scores_eq, List.map_map] at ranked
    obtain ⟨l, mem, rfl⟩ := List.mem_map.1 ranked
    exact mem

end NaiveBayes

/-- **What a corpus teaches.**  An example of a language is a sample whose path below the root goes
on from a first directory that has the name of the language, up to case, in UTF-8: before the first
slash of the path stands this name, which is none of the names that say something else, and some
piece behind it says something.  Whatever the samples and the languages are, no sample is an example
of two languages, and the statistics of a corpus are those of its examples, in order, each under the
name that the catalogue has for the language; reading them through their views leaves every sample
with what it keeps.  So there are as many samples in the statistics as there are examples, the
languages in them are those that have examples, and every name that is answered from them is the
name of a language of the catalogue. -/
theorem Corpus.learned {languages : Catalogue} {ls : List Language}
    (made : Catalogue.ofList ls = .ok languages) (c : Corpus) :
    (∀ b l, IsExampleOf b l ↔ ∃ text below,
      b.relative.bytes = Utf8.encode text.toList ++ Path.slash :: below ∧
      Path.slash ∉ Utf8.encode text.toList ∧ Utf8.encode text.toList ≠ [] ∧
      Utf8.encode text.toList ≠ [Path.dot] ∧ Utf8.encode text.toList ≠ [Path.dot, Path.dot] ∧
      (∃ piece ∈ Path.slashPieces below, piece ≠ [] ∧ piece ≠ [Path.dot]) ∧
      lower text = lower l.name) ∧
    (∀ b : Blob, (ls.filter fun l => IsExampleOf b l).length ≤ 1) ∧
    c.statistics languages = .train (c.samples.flatMap fun s =>
      (ls.filter fun l => IsExampleOf s.toBlob l).map fun l => (l.name, s.data)) ∧
    c.study languages = (c.statistics languages, c) ∧
    (c.statistics languages).samples =
      (c.samples.countP fun s => ls.any fun l => IsExampleOf s.toBlob l) ∧
    (∀ name, name ∈ (c.statistics languages).languageNames ↔
      ∃ s ∈ c.samples, ∃ l ∈ ls, IsExampleOf s.toBlob l ∧ l.name = name) ∧
    ∀ data, ∀ name ∈ NaiveBayes.classify (c.statistics languages) data,
      ∃ l ∈ ls, l.name = name := by
  have h := Catalogue.indexes_ofList made
  have named : ∀ name, name ∈ (c.statistics languages).languageNames ↔
      ∃ s ∈ c.samples, ∃ l ∈ ls, IsExampleOf s.toBlob l ∧ l.name = name := by
    intro name
    rw [Corpus.statistics, (Statistics.counts_train _).mem_languageNames, List.mem_map]
    constructor
    · rintro ⟨⟨name, data⟩, mem, rfl⟩
      obtain ⟨s, inCorpus, l, inList, example', rfl, -⟩ := (Corpus.mem_training_iff h c).1 mem
      exact ⟨s, inCorpus, l, inList, example', rfl⟩
    · rintro ⟨s, inCorpus, l, inList, example', rfl⟩
      exact ⟨(l.name, s.data), (Corpus.mem_training_iff h c).2
        ⟨s, inCorpus, l, inList, example', rfl, rfl⟩, rfl⟩
  refine ⟨fun b l => isExampleOf_iff_bytes, ?_, ?_, c.study_eq languages, ?_, named, ?_⟩
  · intro b
    rw [h.filter_isExampleOf]
    exact Option.length_toList_le
  · rw [Corpus.statistics, Corpus.training_eq h]
  · rw [Corpus.statistics, Statistics.samples_train, Corpus.length_training h]
  · intro data name ranked
    obtain ⟨s, -, l, inList, -, same⟩ :=
      (named name).1 (NaiveBayes.mem_languageNames_of_mem_classify ranked)
    exact ⟨l, inList, same⟩

namespace Corpus

/-- Two directories named like a language, in two spellings, and among other paths one that begins
with a full stop, one without a directory and one without a file. -/
def mixed : Corpus :=
  ⟨.ofString "", ["python/a.py", "PYTHON//b", "./Python/c", "/Python/d", "Python/.", "Python",
    "pythons/e"].map fun path => .new (.ofString path) []⟩

theorem learned_mixed : ∃ languages, Catalogue.ofList [{ name := "Python" }] = .ok languages ∧
    (mixed.statistics languages).samples = 2 ∧
    (∀ name ∈ (mixed.statistics languages).languageNames, name = "Python") ∧
    mixed.study languages = (mixed.statistics languages, mixed) := by
  obtain ⟨languages, made⟩ : ∃ languages, Catalogue.ofList [{ name := "Python" }] = .ok languages :=
    ⟨_, rfl⟩
  obtain ⟨-, -, -, study, count, named, -⟩ := learned made mixed
  refine ⟨languages, made, ?_, ?_, study⟩
  · rw [count]
    decide +kernel
  · intro name mem
    obtain ⟨-, -, l, inList, -, rfl⟩ := (named name).1 mem
    rw [List.mem_singleton.1 inList]

end Corpus

end LangBench
