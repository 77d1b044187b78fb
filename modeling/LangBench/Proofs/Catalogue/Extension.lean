import LangBench.Proofs.Catalogue.Answers
import LangBench.Proofs.Text.Case

/-!
# The longest extension

A file name may have several extensions.  They are tried from the longest one on, so what counts is
the longest that anything is known of.

* `IsExtension`, `mem_extensions`: the extensions of a file name;
* `IsLongest`, `exists_isLongest`: the longest one with a property, and when there is one;
* `exists_split_of_isLongest`: none that is tried before it has the property;
* `Language.Declares`, `Catalogue.Indexes.withExtension_eq`: the languages that list an extension;
* `Catalogue.longest_extension`: the languages of the longest extension that any language lists.
-/

namespace LangBench

open Text

/-! ### Extensions of a file name -/

/-- Whether a text is an extension of a file name: it ends the name in lower case, begins with a full
stop and goes on after it. -/
def IsExtension (name e : String) : Prop :=
  e.toList <:+ lowerList name.toList ∧ ∃ t, t ≠ [] ∧ e.toList = '.' :: t

theorem mem_extensions {name e : String} : e ∈ extensions name ↔ IsExtension name e := by
  rw [extensions, List.mem_map]
  constructor
  · rintro ⟨cs, mem, rfl⟩
    rw [IsExtension, String.toList_ofList]
    exact suffix_of_mem_dotSuffixes mem
  · rintro ⟨ends, t, nonempty, dotted⟩
    refine ⟨e.toList, ?_, String.ofList_toList⟩
    rw [dotted] at ends ⊢
    exact mem_dotSuffixes_of_suffix ends nonempty

/-- The longer parts of a text come first. -/
theorem pairwise_dotSuffixes (cs : List Char) :
    (dotSuffixes cs).Pairwise fun s t => t.length < s.length := by
  induction cs with
  | nil => exact .nil
  | cons c cs ih =>
    unfold dotSuffixes
    split_ifs
    · refine List.pairwise_cons.2 ⟨fun t mem => ?_, ih⟩
      have part := (suffix_of_mem_dotSuffixes mem).1.length_le
      rw [List.length_cons]
      omega
    · exact ih

theorem pairwise_extensions (name : String) :
    (extensions name).Pairwise fun s t => t.length < s.length := by
  rw [extensions, List.pairwise_map]
  simpa using pairwise_dotSuffixes (lowerList name.toList)

/-- An extension is in lower case already. -/
theorem IsExtension.lower_eq {name e : String} (h : IsExtension name e) : lower e = e :=
  lower_of_infix h.1.isInfix

/-- Whether a text is the longest extension of a file name with the property `p`. -/
structure IsLongest (name : String) (p : String → Prop) (e : String) : Prop where
  isExtension : IsExtension name e
  holds : p e
  longest : ∀ e', IsExtension name e' → p e' → e'.length ≤ e.length

section Longest

variable {name e : String} {p : String → Prop}

/-- Where any extension has a property, a longest one has it. -/
theorem exists_isLongest (h : ∃ e, IsExtension name e ∧ p e) : ∃ e, IsLongest name p e := by
  classical
  have found : ((extensions name).find? fun e => p e).isSome = true := by
    obtain ⟨e, isExtension, holds⟩ := h
    exact List.find?_isSome.2 ⟨e, mem_extensions.2 isExtension, by simpa using holds⟩
  obtain ⟨e, first⟩ := Option.isSome_iff_exists.1 found
  obtain ⟨holds, before, after, cut, none⟩ := List.find?_eq_some_iff_append.1 first
  have sorted := pairwise_extensions name
  rw [cut, List.pairwise_append, List.pairwise_cons] at sorted
  refine ⟨e, mem_extensions.1 (by simp [cut]), by simpa using holds, ?_⟩
  intro e' isExtension' holds'
  have mem := mem_extensions.2 isExtension'
  rw [cut, List.mem_append, List.mem_cons] at mem
  rcases mem with early | rfl | late
  · exact absurd holds' (by simpa using none e' early)
  · exact Nat.le_refl _
  · exact Nat.le_of_lt (sorted.2.1.1 e' late)

/-- The extensions that are tried before the longest one with a property do not have it. -/
theorem exists_split_of_isLongest (h : IsLongest name p e) :
    ∃ before after, extensions name = before ++ e :: after ∧ ∀ e' ∈ before, ¬ p e' := by
  obtain ⟨before, after, cut⟩ := List.append_of_mem (mem_extensions.2 h.isExtension)
  have sorted := pairwise_extensions name
  rw [cut, List.pairwise_append] at sorted
  refine ⟨before, after, cut, fun e' mem holds' => ?_⟩
  have isExtension' : IsExtension name e' := mem_extensions.1 (by simp [cut, mem])
  have shorter := sorted.2.2 e' mem e List.mem_cons_self
  have longer := h.longest e' isExtension' holds'
  omega

end Longest

/-! ### Languages that list an extension -/

/-- Whether a language lists an extension, which is in lower case. -/
def Language.Declares (l : Language) (e : String) : Prop :=
  ∃ x ∈ l.extensions, lower x = e

instance (l : Language) (e : String) : Decidable (l.Declares e) :=
  inferInstanceAs (Decidable (∃ x ∈ l.extensions, lower x = e))

namespace Catalogue

variable {c : Catalogue} {ls : List Language}

/-- The languages with an extension of a file name are those that list it. -/
theorem Indexes.withExtension_eq (h : c.Indexes ls) {name e : String} (he : IsExtension name e) :
    c.withExtension e = ls.filter fun l => l.Declares e := by
  rw [withExtension, he.lower_eq, h.byExtension e]
  exact List.filter_congr fun l _ => decide_eq_decide.2 List.mem_map

theorem Indexes.withExtension_isEmpty (h : c.Indexes ls) {name e : String}
    (he : IsExtension name e) :
    (c.withExtension e).isEmpty = true ↔ ¬ ∃ l ∈ ls, l.Declares e := by
  simp [h.withExtension_eq he]

/-- Where extensions are tried that no language lists, nothing is found. -/
theorem Indexes.find?_withExtension_eq_none (h : c.Indexes ls) {name : String} {es : List String}
    (areExtensions : ∀ e ∈ es, IsExtension name e)
    (undeclared : ∀ e ∈ es, ¬ ∃ l ∈ ls, l.Declares e) :
    (es.map c.withExtension).find? (!List.isEmpty ·) = none := by
  rw [List.find?_eq_none]
  intro found mem
  obtain ⟨e, tried, rfl⟩ := List.mem_map.1 mem
  rw [(h.withExtension_isEmpty (areExtensions e tried)).2 (undeclared e tried)]
  decide

theorem Indexes.byExtension_of_isLongest (h : c.Indexes ls) {name e : String}
    (longest : IsLongest name (fun e => ∃ l ∈ ls, l.Declares e) e) :
    Strategy.byExtension c name = Strategy.namesOf (ls.filter fun l => l.Declares e) := by
  obtain ⟨before, after, cut, undeclared⟩ := exists_split_of_isLongest longest
  have areExtensions : ∀ e' ∈ before, IsExtension name e' := by
    intro e' early
    apply mem_extensions.1
    rw [cut]
    exact List.mem_append_left _ early
  have some : (!(c.withExtension e).isEmpty) = true := by
    rw [Bool.not_eq_true', Bool.eq_false_iff, Ne, h.withExtension_isEmpty longest.isExtension,
      not_not]
    exact longest.holds
  rw [Strategy.byExtension, cut, List.map_append, List.find?_append,
    h.find?_withExtension_eq_none areExtensions undeclared, Option.none_or, List.map_cons,
    List.find?_cons_of_pos (p := (!List.isEmpty ·)) some, Option.getD_some,
    h.withExtension_eq longest.isExtension]

theorem Indexes.byExtension_of_forall (h : c.Indexes ls) {name : String}
    (undeclared : ∀ e, IsExtension name e → ¬ ∃ l ∈ ls, l.Declares e) :
    Strategy.byExtension c name = [] := by
  have areExtensions : ∀ e ∈ extensions name, IsExtension name e := fun _ => mem_extensions.1
  rw [Strategy.byExtension, h.find?_withExtension_eq_none areExtensions fun e tried =>
    undeclared e (areExtensions e tried)]
  rfl

/-- **The longest extension.**  For a file of any name, if a language lists one of its extensions,
then there is a longest one of those that any language lists, and the answer is the names of all
languages that list it: in the order of the catalogue and each once.  If no language lists any, the
answer is empty. -/
theorem longest_extension (made : ofList ls = .ok c) :
    (∀ (W : Type) (w : W) (rules : RuleBook) (statistics : Statistics) (x : Sample),
      (Method.extension.registered rules).answer ⟨c, statistics⟩ x w =
        .returned (Strategy.byExtension c x.name)) ∧
    ∀ name : String,
      (Strategy.byExtension c name).Nodup ∧
      ((∃ e, IsExtension name e ∧ ∃ l ∈ ls, l.Declares e) →
        ∃ e, IsLongest name (fun e => ∃ l ∈ ls, l.Declares e) e) ∧
      (∀ e, IsLongest name (fun e => ∃ l ∈ ls, l.Declares e) e →
        Strategy.byExtension c name = (ls.filter fun l => l.Declares e).map Language.name) ∧
      ((¬ ∃ e, IsExtension name e ∧ ∃ l ∈ ls, l.Declares e) →
        Strategy.byExtension c name = []) := by
  have indexes := indexes_ofList made
  refine ⟨fun W w rules statistics x => rfl, fun name => ⟨?_, exists_isLongest, ?_, ?_⟩⟩
  · exact (indexes.picked_byExtension name).nodup indexes.distinct
  · intro e longest
    exact indexes.byExtension_of_isLongest longest
  · intro undeclared
    refine indexes.byExtension_of_forall fun e isExtension declared => ?_
    exact undeclared ⟨e, isExtension, declared⟩

/-- Two languages that share an extension of two parts, in different case, and one that has its second
part. -/
def layered : List Language :=
  [{ name := "XML", extensions := [".ts"] },
   { name := "TypeScript", extensions := [".ts", ".D.TS"] },
   { name := "Types", extensions := [".d.ts", ".D.ts"] }]

theorem longest_extension_layered : ∃ c, ofList layered = .ok c ∧
    IsLongest "..İ.d.TS" (fun e => ∃ l ∈ layered, l.Declares e) ".d.ts" ∧
    Strategy.byExtension c "..İ.d.TS" = ["TypeScript", "Types"] ∧
    Strategy.byExtension c "x.d.Ts." = [] := by
  have joined : (ofList layered).isOk = true := by decide +kernel
  have longest : IsLongest "..İ.d.TS" (fun e => ∃ l ∈ layered, l.Declares e) ".d.ts" := by
    refine ⟨mem_extensions.1 (by decide +kernel), by decide +kernel, ?_⟩
    have all : ∀ e ∈ extensions "..İ.d.TS",
        (∃ l ∈ layered, l.Declares e) → e.length ≤ 5 := by decide +kernel
    exact fun e isExtension => all e (mem_extensions.2 isExtension)
  have undeclared : ∀ e ∈ extensions "x.d.Ts.", ¬ ∃ l ∈ layered, l.Declares e := by
    decide +kernel
  cases made : ofList layered with
  | error e =>
    rw [made] at joined
    cases joined
  | ok c =>
    obtain ⟨-, answers⟩ := longest_extension made
    refine ⟨c, rfl, longest, ((answers _).2.2.1 _ longest).trans (by decide +kernel), ?_⟩
    refine (answers "x.d.Ts.").2.2.2 ?_
    rintro ⟨e, isExtension, declared⟩
    exact undeclared e (mem_extensions.2 isExtension) declared

end Catalogue

end LangBench
