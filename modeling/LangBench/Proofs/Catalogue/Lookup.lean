import Mathlib.Data.List.Induction
import Mathlib.Data.List.Nodup
import LangBench.Catalogue.Basic

/-!
# Looking languages up

A catalogue answers from indexes that grow with each language that joins it.  Whatever the
languages are, the answer is the one that reading through their list would give.

* `Index.getD_file`, `Index.getD_fileAll`: what filing one language changes in an index;
* `Catalogue.Indexes`: every index of a catalogue agrees with a list of languages;
* `Catalogue.Indexes.push`, `Catalogue.indexes_ofList`: so it is after each language that joins,
  and in the end;
* `Catalogue.lookups`: every way to look languages up.
-/

namespace LangBench

open Text

namespace Index

variable {l : Language} {index : Index}

/-- Filing a language that is not yet under a key puts it at the end there. -/
theorem getD_file {key : String} (new : l ∉ index.getD key []) (k : String) :
    (index.file l key).getD k [] = index.getD k [] ++ if k = key then [l] else [] := by
  have inserted : index.file l key = index.insert key (index.getD key [] ++ [l]) := by
    rw [file, if_neg (by simpa using new)]
  rw [inserted]
  by_cases same : k = key
  · subst same
    rw [Std.TreeMap.getD_insert_self, if_pos rfl]
  · have other : ¬compare key k = .eq := fun h => same (Std.LawfulEqCmp.eq_of_compare h).symm
    rw [Std.TreeMap.getD_insert, if_neg other, if_neg same, List.append_nil]

/-- Filing a language again under a key changes nothing. -/
theorem file_of_mem {key : String} (old : l ∈ index.getD key []) : index.file l key = index := by
  rw [file, if_pos (by simpa using old)]

/-- Filing a new language under some keys puts it at the end under each of them, once. -/
theorem getD_fileAll (new : ∀ k, l ∉ index.getD k []) (keys : List String) (k : String) :
    (index.fileAll l keys).getD k [] = index.getD k [] ++ if k ∈ keys then [l] else [] := by
  -- from the back, so that what was filed before is an index of this form
  induction keys using List.reverseRecOn generalizing k with
  | nil => simp [fileAll]
  | append_singleton keys key ih =>
    have step : index.fileAll l (keys ++ [key]) = (index.fileAll l keys).file l key := by
      rw [fileAll, List.foldl_append]
      rfl
    rw [step]
    by_cases repeated : key ∈ keys
    · have old : l ∈ (index.fileAll l keys).getD key [] := by
        rw [ih key, if_pos repeated]
        simp
      have same : k ∈ keys ++ [key] ↔ k ∈ keys := by
        simp only [List.mem_append, List.mem_singleton, or_iff_left_iff_imp]
        rintro rfl
        exact repeated
      rw [file_of_mem old, ih k]
      simp only [same]
    · have absent : l ∉ (index.fileAll l keys).getD key [] := by
        rw [ih key, if_neg repeated, List.append_nil]
        exact new key
      rw [getD_file absent k, ih k]
      by_cases last : k = key
      · subst last
        simp [repeated]
      · simp [last]

/-- Under every key of an index there are those languages of a list that have it among their
keys, in order. -/
def Scans (index : Index) (keysOf : Language → List String) (ls : List Language) : Prop :=
  ∀ key, index.getD key [] = ls.filter fun l => key ∈ keysOf l

/-- An index keeps up with a language that joins the list. -/
theorem Scans.fileAll {keysOf : Language → List String} {ls : List Language}
    (h : index.Scans keysOf ls) (new : l ∉ ls) :
    (index.fileAll l (keysOf l)).Scans keysOf (ls ++ [l]) := by
  intro key
  have unfiled : ∀ k, l ∉ index.getD k [] := by
    intro k filed
    rw [h k] at filed
    exact new (List.mem_filter.1 filed).1
  rw [getD_fileAll unfiled, h key, List.filter_append]
  by_cases listed : key ∈ keysOf l
  · simp [listed]
  · simp [listed]

end Index

namespace Catalogue

variable {c : Catalogue} {ls : List Language}

/-- Every index of the catalogue `c` agrees with the list `ls` of languages: the names are all
different, a name and an alias belong to the first language that has them, and under an extension,
a file name or an interpreter there are the languages that list it, in order. -/
structure Indexes (c : Catalogue) (ls : List Language) : Prop where
  languages : c.languages = ls
  distinct : (ls.map fun l => lower l.name).Nodup
  byName : ∀ key, c.byName[key]? = ls.find? fun l => lower l.name = key
  byAlias : ∀ key, c.byAlias[key]? = ls.find? fun l => key ∈ l.aliases.map lower
  byExtension : c.byExtension.Scans (fun l => l.extensions.map lower) ls
  byFilename : c.byFilename.Scans Language.filenames ls
  byInterpreter : c.byInterpreter.Scans Language.interpreters ls

theorem indexes_empty : Indexes empty [] where
  languages := rfl
  distinct := List.nodup_nil
  byName _ := rfl
  byAlias _ := rfl
  byExtension _ := rfl
  byFilename _ := rfl
  byInterpreter _ := rfl

/-- An alias stays with the language that had it first. -/
theorem getElem?_foldl_insertIfNew (index : Std.TreeMap String Language) (l : Language)
    (keys : List String) (k : String) :
    (keys.foldl (fun index key => index.insertIfNew key l) index)[k]? =
      index[k]?.or (if k ∈ keys then some l else none) := by
  induction keys generalizing index with
  | nil => simp
  | cons key keys ih =>
    rw [List.foldl_cons, ih, Std.TreeMap.getElem?_insertIfNew]
    by_cases first : key = k
    · subst first
      by_cases taken : key ∈ index
      · obtain ⟨other, had⟩ := Option.isSome_iff_exists.1
          (Std.TreeMap.mem_iff_isSome_getElem?.1 taken)
        rw [if_neg (by simp [taken]), had, Option.some_or, Option.some_or]
      · rw [if_pos ⟨by simp, taken⟩, Option.some_or, if_pos List.mem_cons_self,
          Std.TreeMap.getElem?_eq_none taken, Option.none_or]
    · have later : k ∈ key :: keys ↔ k ∈ keys := by simp [Ne.symm first]
      simp [first, later]

/-- A language joins if its name is not blank and not taken. -/
theorem fault?_eq_none_iff {l : Language} :
    c.fault? l = none ↔ isBlankName l.name = false ∧ c.byName[lower l.name]? = none := by
  rw [fault?, Std.TreeMap.contains_eq_isSome_getElem?]
  cases isBlankName l.name <;> cases c.byName[lower l.name]? <;> simp

namespace Indexes

/-- A language that joins has a name of its own. -/
theorem name_ne (h : Indexes c ls) {l : Language} (joins : c.fault? l = none) :
    ∀ other ∈ ls, lower other.name ≠ lower l.name := by
  have free := (fault?_eq_none_iff.1 joins).2
  rw [h.byName, List.find?_eq_none] at free
  simpa using free

/-- A language that joins is filed nowhere yet. -/
theorem notMem (h : Indexes c ls) {l : Language} (joins : c.fault? l = none) : l ∉ ls :=
  fun mem => h.name_ne joins l mem rfl

/-- The indexes keep up with a language that joins. -/
theorem push (h : Indexes c ls) {l : Language} (joins : c.fault? l = none) :
    Indexes (c.push l) (ls ++ [l]) where
  languages := by rw [languages_push, h.languages]
  distinct := by
    rw [List.map_append, List.nodup_append]
    refine ⟨h.distinct, List.nodup_singleton _, ?_⟩
    simp only [List.mem_map, List.map_singleton, List.mem_singleton]
    rintro _ ⟨other, mem, rfl⟩ _ rfl
    exact h.name_ne joins other mem
  byName key := by
    have free := (fault?_eq_none_iff.1 joins).2
    rw [List.find?_append, List.find?_singleton, ← h.byName]
    show (c.byName.insert (lower l.name) l)[key]? = _
    rw [Std.TreeMap.getElem?_insert]
    by_cases same : lower l.name = key
    · subst same
      simp [free]
    · simp [same]
  byAlias key := by
    rw [List.find?_append, List.find?_singleton, ← h.byAlias]
    exact (getElem?_foldl_insertIfNew c.byAlias l _ key).trans (by simp)
  byExtension := h.byExtension.fileAll (h.notMem joins)
  byFilename := h.byFilename.fileAll (h.notMem joins)
  byInterpreter := h.byInterpreter.fileAll (h.notMem joins)

end Indexes

/-- The last language of a list joins the catalogue of those before it. -/
theorem ofList_append_singleton (ls : List Language) (l : Language) :
    ofList (ls ++ [l]) = ofList ls >>= fun c => c.add l := by
  simp only [ofList, List.foldlM_append, List.foldlM_cons, List.foldlM_nil, bind_pure]

/-- The indexes of a catalogue agree with the list it was made of. -/
theorem indexes_ofList (h : ofList ls = .ok c) : c.Indexes ls := by
  induction ls using List.reverseRecOn generalizing c with
  | nil =>
    cases h
    exact indexes_empty
  | append_singleton ls l ih =>
    rw [ofList_append_singleton] at h
    cases before : ofList ls with
    | error e =>
      rw [before] at h
      cases h
    | ok c₀ =>
      have last : c₀.add l = .ok c := by rwa [before] at h
      cases joins : c₀.fault? l with
      | none =>
        rw [add_of_no_fault joins] at last
        cases last
        exact (ih before).push joins
      | some fault =>
        rw [add_of_fault joins] at last
        cases last

/-- Reading through a list for the only language of a name. -/
theorem find?_name_eq_some_iff (distinct : (ls.map fun l => lower l.name).Nodup) (name : String)
    (l : Language) :
    (ls.find? fun l => lower l.name = name) = some l ↔ l ∈ ls ∧ lower l.name = name := by
  constructor
  · intro found
    exact ⟨List.mem_of_find?_eq_some found, by simpa using List.find?_some found⟩
  · rintro ⟨mem, named⟩
    cases found : ls.find? fun l => lower l.name = name with
    | none =>
      rw [List.find?_eq_none] at found
      exact absurd named (by simpa using found l mem)
    | some other =>
      have mem' := List.mem_of_find?_eq_some found
      have named' : lower other.name = name := by simpa using List.find?_some found
      rw [List.inj_on_of_nodup_map distinct mem' mem (named'.trans named.symm)]

/-- **Looking languages up.**  Every look-up in the catalogue of a list gives what reading through
that list gives, where names, aliases and extensions count in lower case: the languages with an
extension, a file name or an interpreter, in order and each once; the only language of a name; and
the first language with an alias, if no language has it as its name.  So a language is always found
by its own name. -/
theorem lookups (h : ofList ls = .ok c) :
    c.languages = ls ∧ (ls.map fun l => lower l.name).Nodup ∧
    (∀ extension, c.withExtension extension =
      ls.filter fun l => ∃ x ∈ l.extensions, lower x = lower extension) ∧
    (∀ filename, c.withFilename filename = ls.filter fun l => filename ∈ l.filenames) ∧
    (∀ interpreter,
      c.withInterpreter interpreter = ls.filter fun l => interpreter ∈ l.interpreters) ∧
    (∀ name l, c.get? name = some l ↔ l ∈ ls ∧ lower l.name = lower name) ∧
    (∀ name, c.contains name = true ↔ ∃ l ∈ ls, lower l.name = lower name) ∧
    (∀ key, c.resolve? key = (ls.find? fun l => lower l.name = lower key).or
      (ls.find? fun l => ∃ x ∈ l.aliases, lower x = lower key)) ∧
    ∀ l ∈ ls, c.get? l.name = some l := by
  have indexes := indexes_ofList h
  have get : ∀ name l, c.get? name = some l ↔ l ∈ ls ∧ lower l.name = lower name := by
    intro name l
    rw [get?, indexes.byName, find?_name_eq_some_iff indexes.distinct]
  refine ⟨indexes.languages, indexes.distinct, ?_, indexes.byFilename, indexes.byInterpreter, get,
    ?_, ?_, fun l mem => (get l.name l).2 ⟨mem, rfl⟩⟩
  · intro extension
    rw [withExtension, indexes.byExtension (lower extension)]
    simp only [List.mem_map]
  · intro name
    rw [contains, Option.isSome_iff_exists]
    simp only [get]
  · intro key
    rw [resolve?, get?, indexes.byName, indexes.byAlias]
    simp only [List.mem_map]

/-- A language with a case variant of its own extension, and an alias that is the name of the next
language; the next has the same extension in another case, and an alias that is taken. -/
def shadowed : List Language :=
  [{ name := "C", aliases := ["CPP", "cee"], extensions := [".h", ".H"], filenames := ["m", "m"] },
   { name := "Cpp", aliases := ["CEE"], extensions := [".H"], filenames := ["m"] }]

theorem lookups_shadowed : ∃ c, ofList shadowed = .ok c ∧
    (c.withExtension ".H").map Language.name = ["C", "Cpp"] ∧
    (c.withFilename "m").map Language.name = ["C", "Cpp"] ∧
    (c.resolve? "cpp").map Language.name = some "Cpp" ∧
    (c.resolve? "cee").map Language.name = some "C" := by
  have joined : (ofList shadowed).isOk = true := by decide +kernel
  cases made : ofList shadowed with
  | error e =>
    rw [made] at joined
    cases joined
  | ok c =>
    obtain ⟨-, -, extension, filename, -, -, -, resolve, -⟩ := lookups made
    refine ⟨c, rfl, ?_, ?_, ?_, ?_⟩
    · rw [extension]
      decide +kernel
    · rw [filename]
      decide +kernel
    · rw [resolve]
      decide +kernel
    · rw [resolve]
      decide +kernel

end Catalogue

end LangBench
