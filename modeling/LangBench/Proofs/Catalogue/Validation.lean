import LangBench.Proofs.Catalogue.Lookup

/-!
# Which lists make a catalogue

Languages join a catalogue one after the other, and the first one that cannot join ends it.  So a
list makes a catalogue if all of its names are good, and else it is told what is wrong with the
first language that has a bad one.

* `Catalogue.Valid`: the names are not blank, and all different in lower case;
* `Catalogue.IsAtFault`: a language that cannot join those before it;
* `Catalogue.ofList_of_valid`, `Catalogue.ofList_append_cons`: what becomes of a list;
* `Catalogue.validation`: which lists make a catalogue, and what is said of the others.
-/

namespace LangBench

open Text

namespace Catalogue

/-- Languages whose names all hold something that is no blank, and differ in lower case. -/
structure Valid (ls : List Language) : Prop where
  named : ∀ l ∈ ls, ∃ c ∈ l.name.toList, isBlank c = false
  distinct : (ls.map fun l => lower l.name).Nodup

/-- A language that cannot join those in `before`: its name is blank, or one of them has it, up to
case. -/
def IsAtFault (before : List Language) (l : Language) : Prop :=
  (∀ c ∈ l.name.toList, isBlank c = true) ∨ ∃ other ∈ before, lower other.name = lower l.name

variable {c : Catalogue} {ls before after : List Language} {l : Language}

theorem isBlankName_eq_false_iff {name : String} :
    isBlankName name = false ↔ ∃ c ∈ name.toList, isBlank c = false := by
  simp [isBlankName]

theorem valid_nil : Valid [] where
  named _ mem := absurd mem List.not_mem_nil
  distinct := List.nodup_nil

/-- One more language keeps a list valid if it is not at fault. -/
theorem valid_append_singleton_iff : Valid (ls ++ [l]) ↔ Valid ls ∧ ¬ IsAtFault ls l := by
  have named_iff : (∀ m ∈ ls ++ [l], ∃ c ∈ m.name.toList, isBlank c = false) ↔
      (∀ m ∈ ls, ∃ c ∈ m.name.toList, isBlank c = false) ∧
        ¬ ∀ c ∈ l.name.toList, isBlank c = true := by
    rw [List.forall_mem_append, List.forall_mem_singleton]
    simp
  have distinct_iff : ((ls ++ [l]).map fun m => lower m.name).Nodup ↔
      (¬ ∃ other ∈ ls, lower other.name = lower l.name) ∧
        (ls.map fun m => lower m.name).Nodup := by
    rw [List.map_append, List.map_singleton, ← List.concat_eq_append, List.nodup_concat,
      List.mem_map]
  rw [IsAtFault, not_or]
  constructor
  · intro valid
    obtain ⟨named, notBlank⟩ := named_iff.1 valid.named
    obtain ⟨free, distinct⟩ := distinct_iff.1 valid.distinct
    exact ⟨⟨named, distinct⟩, notBlank, free⟩
  · rintro ⟨valid, notBlank, free⟩
    exact ⟨named_iff.2 ⟨valid.named, notBlank⟩, distinct_iff.2 ⟨free, valid.distinct⟩⟩

/-- In a valid list no language is at fault behind those before it. -/
theorem Valid.not_isAtFault (valid : Valid (before ++ l :: after)) :
    Valid before ∧ ¬ IsAtFault before l := by
  induction after using List.reverseRecOn with
  | nil => exact valid_append_singleton_iff.1 valid
  | append_singleton after last ih =>
    rw [← List.cons_append, ← List.append_assoc] at valid
    exact ih (valid_append_singleton_iff.1 valid).1

/-- In a list that is not valid there is a first language at fault. -/
theorem exists_first_isAtFault (invalid : ¬ Valid ls) :
    ∃ before l after, ls = before ++ l :: after ∧ Valid before ∧ IsAtFault before l := by
  induction ls using List.reverseRecOn with
  | nil => exact absurd valid_nil invalid
  | append_singleton ls last ih =>
    by_cases valid : Valid ls
    · refine ⟨ls, last, [], rfl, valid, ?_⟩
      by_contra joins
      exact invalid (valid_append_singleton_iff.2 ⟨valid, joins⟩)
    · obtain ⟨before, l, after, rfl, valid', fault⟩ := ih valid
      exact ⟨before, l, after ++ [last], by simp, valid', fault⟩

theorem valid_iff_forall :
    Valid ls ↔ ∀ before l after, ls = before ++ l :: after → ¬ IsAtFault before l := by
  constructor
  · rintro valid before l after rfl
    exact valid.not_isAtFault.2
  · intro none_at_fault
    by_contra invalid
    obtain ⟨before, l, after, split, -, fault⟩ := exists_first_isAtFault invalid
    exact none_at_fault before l after split fault

/-! ### Joining -/

theorem fault?_of_blank (blank : ∀ c ∈ l.name.toList, isBlank c = true) :
    c.fault? l = some .blankName := by
  have all : isBlankName l.name = true := List.all_eq_true.2 blank
  rw [fault?, if_pos all]

/-- A name that is taken is told in the spelling of the language that wants to join. -/
theorem Indexes.fault?_of_taken (h : Indexes c before)
    (named : ∃ c ∈ l.name.toList, isBlank c = false)
    (taken : ∃ other ∈ before, lower other.name = lower l.name) :
    c.fault? l = some (.duplicate l.name) := by
  have notBlank : isBlankName l.name = false := isBlankName_eq_false_iff.2 named
  have filed : c.byName.contains (lower l.name) = true := by
    rw [Std.TreeMap.contains_eq_isSome_getElem?, h.byName, List.find?_isSome]
    simpa using taken
  rw [fault?, notBlank, if_neg (by decide), if_pos filed]

theorem Indexes.fault?_eq_none (h : Indexes c before) (joins : ¬ IsAtFault before l) :
    c.fault? l = none := by
  rw [IsAtFault, not_or] at joins
  rw [fault?_eq_none_iff, isBlankName_eq_false_iff, h.byName, List.find?_eq_none]
  exact ⟨by simpa using joins.1, by simpa using joins.2⟩

/-- A valid list makes a catalogue. -/
theorem ofList_of_valid (valid : Valid ls) : ∃ c, ofList ls = .ok c := by
  induction ls using List.reverseRecOn with
  | nil => exact ⟨empty, ofList_nil⟩
  | append_singleton ls l ih =>
    rw [valid_append_singleton_iff] at valid
    obtain ⟨c, made⟩ := ih valid.1
    refine ⟨c.push l, ?_⟩
    rw [ofList_append_singleton, made]
    exact add_of_no_fault ((indexes_ofList made).fault?_eq_none valid.2)

/-- What is wrong with a language behind a valid list is wrong with the whole list. -/
theorem ofList_append_cons {fault : CatalogueFault} (valid : Valid before)
    (refused : ∀ c : Catalogue, c.Indexes before → c.fault? l = some fault) :
    ofList (before ++ l :: after) = .error (.catalogue source fault) := by
  obtain ⟨c, made⟩ := ofList_of_valid valid
  rw [ofList, List.foldlM_append, ← ofList, made]
  show (c.add l >>= fun c => after.foldlM add c) = _
  rw [add_of_fault (refused c (indexes_ofList made))]
  rfl

theorem valid_of_ofList (made : ofList ls = .ok c) : Valid ls := by
  by_contra invalid
  obtain ⟨before, l, after, rfl, valid, fault⟩ := exists_first_isAtFault invalid
  by_cases blank : ∀ c ∈ l.name.toList, isBlank c = true
  · rw [ofList_append_cons valid fun c _ => fault?_of_blank blank] at made
    cases made
  · have named : ∃ c ∈ l.name.toList, isBlank c = false := by simpa using blank
    rw [ofList_append_cons valid fun c h =>
      h.fault?_of_taken named (fault.resolve_left blank)] at made
    cases made

theorem message_duplicate (name : String) :
    (DetectError.catalogue source (.duplicate name)).message =
      "Invalid catalogue data in languages.yml: duplicate language '" ++ name ++ "'" := by
  have start : "Invalid catalogue data in languages.yml: duplicate language '" =
      "Invalid catalogue data in " ++ source ++ ": " ++ "duplicate language '" := rfl
  change "Invalid catalogue data in " ++ source ++ ": " ++ ("duplicate language '" ++ name ++ "'") =
    "Invalid catalogue data in languages.yml: duplicate language '" ++ name ++ "'"
  rw [start, ← String.append_assoc, ← String.append_assoc]

/-- **Which lists make a catalogue.**  A list of languages makes a catalogue if and only if every
name holds something that is no blank and no two names are equal in lower case; the catalogue then
has these languages in this order.  In every other list there is a first language whose name is
blank or, in lower case, that of a language before it.  Whatever comes behind it, the list is
refused because of this language: of a blank name if it has one, and else of its name, in its own
spelling. -/
theorem validation (ls : List Language) :
    ((∃ c, ofList ls = .ok c) ↔ (∀ l ∈ ls, ∃ c ∈ l.name.toList, isBlank c = false) ∧
      (ls.map fun l => lower l.name).Nodup) ∧
    (∀ c, ofList ls = .ok c → c.languages = ls) ∧
    ((¬ ∃ c, ofList ls = .ok c) → ∃ before l after, ls = before ++ l :: after ∧
      IsAtFault before l ∧ ∀ b m a, before = b ++ m :: a → ¬ IsAtFault b m) ∧
    ∀ before l after, ls = before ++ l :: after → IsAtFault before l →
      (∀ b m a, before = b ++ m :: a → ¬ IsAtFault b m) →
      ((∀ c ∈ l.name.toList, isBlank c = true) → ∃ e, ofList ls = .error e ∧
        e.message = "Invalid catalogue data in languages.yml: language with empty name") ∧
      ((∃ c ∈ l.name.toList, isBlank c = false) → ∃ e, ofList ls = .error e ∧
        e.message =
          "Invalid catalogue data in languages.yml: duplicate language '" ++ l.name ++ "'") := by
  have made_iff : (∃ c, ofList ls = .ok c) ↔ Valid ls :=
    ⟨fun ⟨c, made⟩ => valid_of_ofList made, ofList_of_valid⟩
  refine ⟨?_, fun c made => (indexes_ofList made).languages, ?_, ?_⟩
  · rw [made_iff]
    exact ⟨fun valid => ⟨valid.named, valid.distinct⟩, fun ⟨named, distinct⟩ => ⟨named, distinct⟩⟩
  · rw [made_iff]
    intro invalid
    obtain ⟨before, l, after, split, valid, fault⟩ := exists_first_isAtFault invalid
    exact ⟨before, l, after, split, fault, valid_iff_forall.1 valid⟩
  · rintro before l after rfl fault first
    have valid : Valid before := valid_iff_forall.2 first
    constructor
    · intro blank
      exact ⟨_, ofList_append_cons valid fun c _ => fault?_of_blank blank, rfl⟩
    · rintro ⟨c, mem, noBlank⟩
      have taken : ∃ other ∈ before, lower other.name = lower l.name := by
        refine fault.resolve_left fun blank => ?_
        rw [blank c mem] at noBlank
        cases noBlank
      exact ⟨_, ofList_append_cons valid fun _ h => h.fault?_of_taken ⟨c, mem, noBlank⟩ taken,
        message_duplicate l.name⟩

/-- Two languages, a case variant of the first one, and a language without a name. -/
def repeated : List Language :=
  [{ name := "Perl" }, { name := "C" }, { name := "PERL" }, { name := " " }]

theorem validation_repeated :
    (∃ e, ofList repeated = .error e ∧
      e.message = "Invalid catalogue data in languages.yml: duplicate language 'PERL'") ∧
    (∃ e, ofList repeated.reverse = .error e ∧
      e.message = "Invalid catalogue data in languages.yml: language with empty name") ∧
    ∃ c, ofList (repeated.take 2) = .ok c ∧ c.languages = repeated.take 2 := by
  have valid : Valid (repeated.take 2) := by
    refine ⟨?_, by decide +kernel⟩
    simp only [repeated, List.take_succ_cons, List.take_zero, List.forall_mem_cons]
    exact ⟨⟨'P', by decide, rfl⟩, ⟨'C', by decide, rfl⟩, by simp⟩
  have taken : IsAtFault (repeated.take 2) { name := "PERL" } :=
    .inr ⟨{ name := "Perl" }, by decide, by decide +kernel⟩
  obtain ⟨made_iff, same, -, -⟩ := validation (repeated.take 2)
  obtain ⟨c, made⟩ := made_iff.2 ⟨valid.named, valid.distinct⟩
  refine ⟨?_, ?_, c, made, same c made⟩
  · exact ((validation repeated).2.2.2 _ _ [{ name := " " }] rfl taken
      (valid_iff_forall.1 valid)).2 ⟨'P', by decide, rfl⟩
  · have blank : ∀ c ∈ " ".toList, isBlank c = true := List.all_eq_true.1 rfl
    exact ((validation repeated.reverse).2.2.2 [] { name := " " } _ rfl (.inl blank)
      (valid_iff_forall.1 valid_nil)).1 blank

end Catalogue

end LangBench
