import LangBench.Proofs.Catalogue.Lookup
import LangBench.Proofs.Sample.Stored

/-!
# Answers from a catalogue

Every strategy but the classifier answers from the catalogue that it is given.  Four of them name
languages as the catalogue does.  Rules name a language as the rule does, which may differ from its
name in the catalogue in the case of letters.

* `Picked`: the names of some languages of a list;
* `Catalogue.Indexes.picked_byExtension` and so on: what the catalogue is asked for is picked from
  the list it was made of;
* `Catalogue.Indexes.of_decide?`: the language that rules decide for;
* `RuleBook.Spells`: rules that name languages as the catalogue does;
* `Method.within_catalogue`: all that a strategy may answer.
-/

namespace LangBench

open Text

/-- The names of some of the languages `ls`, in their order. -/
def Picked (ls : List Language) (names : List String) : Prop :=
  ∃ found : List Language, found.Sublist ls ∧ names = Strategy.namesOf found

namespace Picked

variable {ls : List Language} {names : List String}

theorem nil : Picked ls [] :=
  ⟨[], List.nil_sublist ls, rfl⟩

theorem filter (p : Language → Bool) : Picked ls (Strategy.namesOf (ls.filter p)) :=
  ⟨ls.filter p, List.filter_sublist, rfl⟩

theorem toList {found : Option Language} (h : ∀ l, found = some l → l ∈ ls) :
    Picked ls (Strategy.namesOf found.toList) := by
  cases found with
  | none => exact nil
  | some l => exact ⟨[l], List.singleton_sublist.2 (h l rfl), rfl⟩

/-- No name is picked twice, since all names are different. -/
theorem nodup (h : Picked ls names) (distinct : (ls.map fun l => lower l.name).Nodup) :
    names.Nodup := by
  obtain ⟨found, part, rfl⟩ := h
  have lowered : (Strategy.namesOf found).map lower = found.map fun l => lower l.name :=
    List.map_map
  apply List.Nodup.of_map lower
  rw [lowered]
  exact distinct.sublist (part.map _)

end Picked

/-! ### What the catalogue is asked for -/

namespace Catalogue.Indexes

variable {c : Catalogue} {ls : List Language} (h : c.Indexes ls)

include h

theorem of_get? {name : String} {l : Language} (found : c.get? name = some l) :
    l ∈ ls ∧ lower l.name = lower name := by
  rw [get?, h.byName] at found
  exact (find?_name_eq_some_iff h.distinct _ l).1 found

theorem contains_iff {name : String} :
    c.contains name = true ↔ ∃ l ∈ ls, lower l.name = lower name := by
  rw [contains, get?, h.byName, List.find?_isSome]
  simp only [decide_eq_true_iff]

theorem mem_of_resolve? {key : String} {l : Language} (found : c.resolve? key = some l) :
    l ∈ ls := by
  rw [resolve?, Option.or_eq_some_iff] at found
  rcases found with named | ⟨-, aliased⟩
  · exact (h.of_get? named).1
  · rw [h.byAlias] at aliased
    exact List.mem_of_find?_eq_some aliased

theorem picked_byExtension (name : String) : Picked ls (Strategy.byExtension c name) := by
  rw [Strategy.byExtension]
  cases found : ((extensions name).map c.withExtension).find? (!List.isEmpty ·) with
  | none => exact .nil
  | some group =>
    obtain ⟨extension, -, rfl⟩ := List.mem_map.1 (List.mem_of_find?_eq_some found)
    rw [Option.getD_some, withExtension, h.byExtension]
    exact .filter _

theorem picked_byFilename (name : String) : Picked ls (Strategy.byFilename c name) := by
  rw [Strategy.byFilename, withFilename, h.byFilename]
  exact .filter _

theorem picked_byInterpreter (data : List UInt8) : Picked ls (Strategy.byInterpreter c data) := by
  rw [Strategy.byInterpreter]
  cases interpreter data with
  | none => exact .nil
  | some program =>
    rw [Option.map_some, Option.getD_some, withInterpreter, h.byInterpreter]
    exact .filter _

theorem picked_byModeline (lines : List String) : Picked ls (Strategy.byModeline c lines) := by
  apply Picked.toList
  intro l found
  obtain ⟨mode, -, resolved⟩ := Option.bind_eq_some_iff.1 found
  exact h.mem_of_resolve? resolved

/-- What rules decide for is named by one of them, and is the name of a language but for the case
of its letters. -/
theorem of_decide? {rules : List Rule} {content : List Char} {name : String}
    (decided : RuleBook.decide? rules c content = some name) :
    ∃ rule ∈ rules, ∃ l ∈ ls, name = rule.language ∧ lower l.name = lower rule.language := by
  rw [RuleBook.decide?, Option.map_eq_some_iff] at decided
  obtain ⟨rule, found, rfl⟩ := decided
  have mem := List.mem_of_find?_eq_some found
  rw [List.mem_filter, contains, Option.isSome_iff_exists] at mem
  obtain ⟨listed, l, known⟩ := mem
  obtain ⟨mem, named⟩ := h.of_get? known
  exact ⟨rule, listed, l, mem, rfl, named⟩

end Catalogue.Indexes

/-! ### What strategies answer -/

/-- Rules name the languages `ls` as these name themselves. -/
def RuleBook.Spells (rules : List Rule) (ls : List Language) : Prop :=
  ∀ rule ∈ rules, ∀ l ∈ ls, lower l.name = lower rule.language → l.name = rule.language

namespace Method

variable {c : Catalogue} {ls : List Language} {rules : RuleBook} {statistics : Statistics}
  {b : Blob} {names : List String}

/-- What is returned by a strategy that reads lines is said of the lines. -/
theorem exists_lines {f : List String → List String}
    (answered : Call.ofExcept (b.lines.map f) = .returned names) :
    ∃ lines, names = f lines := by
  cases read : b.lines with
  | error e =>
    rw [read] at answered
    cases answered
  | ok lines =>
    rw [read] at answered
    cases answered
    exact ⟨lines, rfl⟩

/-- Without rules, names are picked from the catalogue. -/
theorem picked (h : c.Indexes ls) {m : Method} (notBayes : m ≠ .naiveBayes)
    (notContent : m ≠ .content) (answered : m.answer rules ⟨c, statistics⟩ b = .returned names) :
    Picked ls names := by
  cases m with
  | naiveBayes => exact absurd rfl notBayes
  | modeline =>
    obtain ⟨lines, rfl⟩ := exists_lines answered
    exact h.picked_byModeline lines
  | filename =>
    cases answered
    exact h.picked_byFilename b.name
  | shebang =>
    cases answered
    split
    · exact .nil
    · exact h.picked_byInterpreter b.data
  | extension =>
    cases answered
    exact h.picked_byExtension b.name
  | content => exact absurd rfl notContent

/-- With rules, the answer is nothing or what one of the rules for the file names. -/
theorem eq_nil_or_of_content (h : c.Indexes ls)
    (answered : Method.content.answer rules ⟨c, statistics⟩ b = .returned names) :
    names = [] ∨ ∃ rule ∈ rules.rulesFor b.name, ∃ l ∈ ls,
      names = [rule.language] ∧ lower l.name = lower rule.language := by
  rw [answer] at answered
  split at answered
  · cases answered
    exact .inl rfl
  · obtain ⟨lines, rfl⟩ := exists_lines answered
    rw [Strategy.byRules]
    cases decided : RuleBook.decide? _ c (joinLines (lines.map String.toList)) with
    | none => exact .inl rfl
    | some name =>
      obtain ⟨rule, listed, l, mem, rfl, named⟩ := h.of_decide? decided
      exact .inr ⟨rule, listed, l, mem, rfl, named⟩

/-- Modelines name one language at most. -/
theorem length_le_of_modeline
    (answered : Method.modeline.answer rules ⟨c, statistics⟩ b = .returned names) :
    names.length ≤ 1 := by
  obtain ⟨lines, rfl⟩ := exists_lines answered
  rw [Strategy.byModeline, Strategy.namesOf, List.length_map]
  exact Option.length_toList_le

/-- **Answers from a catalogue.**  What a strategy other than the classifier returns, whatever is
kept of the sample, names languages of the list that the catalogue was made of: in its order, none
twice, and one at most if modelines or rules are asked.  Without rules these are the names that the
languages have there.  With rules it is what one of the rules for the file says, which is the name
of a language but for the case of its letters; so it is the name itself wherever the rules for the
file spell it in that way. -/
theorem within_catalogue (made : Catalogue.ofList ls = .ok c) {x : Sample}
    (kept : x.cache.Holds x.toBlob) {W : Type} (w : W) {m : Method} (notBayes : m ≠ .naiveBayes)
    (answered : (m.registered rules).answer ⟨c, statistics⟩ x w = .returned names) :
    names.Nodup ∧ (m = .modeline ∨ m = .content → names.length ≤ 1) ∧
    (m ≠ .content → Picked ls names) ∧
    (m = .content → names = [] ∨ ∃ rule ∈ rules.rulesFor x.name, ∃ l ∈ ls,
      names = [rule.language] ∧ lower l.name = lower rule.language) ∧
    (RuleBook.Spells (rules.rulesFor x.name) ls → Picked ls names) := by
  have indexes := Catalogue.indexes_ofList made
  have computed : m.answer rules ⟨c, statistics⟩ x.toBlob = .returned names := by
    rw [← answered]
    symm
    apply m.answer_of_holds
    intro b c given
    cases m <;> cases given <;> exact kept
  by_cases content : m = .content
  · subst content
    have said := eq_nil_or_of_content indexes computed
    refine ⟨?_, ?_, fun notContent => absurd rfl notContent, fun _ => said, ?_⟩
    · rcases said with rfl | ⟨rule, -, l, -, rfl, -⟩
      · exact List.nodup_nil
      · exact List.nodup_singleton _
    · rintro -
      rcases said with rfl | ⟨rule, -, l, -, rfl, -⟩
      · exact Nat.zero_le 1
      · exact Nat.le_refl 1
    · intro spelled
      rcases said with rfl | ⟨rule, listed, l, mem, rfl, named⟩
      · exact .nil
      · rw [← spelled rule listed l mem named]
        exact ⟨[l], List.singleton_sublist.2 mem, rfl⟩
  · have pick : Picked ls names := picked indexes notBayes content computed
    refine ⟨pick.nodup indexes.distinct, ?_, fun _ => pick, fun is => absurd is content,
      fun _ => pick⟩
    rintro (rfl | is)
    · exact length_le_of_modeline computed
    · exact absurd is content

/-- A language with nothing but a name. -/
def python : Language := { name := "Python" }

/-- A rule that spells the name of this language in another way. -/
def misspelled : RuleBook := ⟨[{ extensions := [".x"], rules := [{ language := "python" }] }]⟩

theorem ofList_python : Catalogue.ofList [python] = .ok (Catalogue.empty.push python) := by
  have joins : Catalogue.empty.fault? python = none := by decide +kernel
  exact Catalogue.add_of_no_fault joins

/-- The rule decides for an empty file. -/
theorem answer_misspelled :
    (content.registered misspelled).answer ⟨Catalogue.empty.push python, .empty⟩
      (.new (.ofString "a.x") []) () = .returned ["python"] := by
  have name : (Sample.new (.ofString "a.x") []).name = "a.x" := by decide +kernel
  have rule : misspelled.rulesFor "a.x" = [{ language := "python" }] := by rfl
  have lines : (Sample.new (.ofString "a.x") []).lines = .ok [] := by decide +kernel
  have decided : Strategy.byRules [{ language := "python" }] (Catalogue.empty.push python) [] =
      ["python"] := by decide +kernel
  have computed := content.answer_registered misspelled ⟨Catalogue.empty.push python, .empty⟩
    (Sample.new (.ofString "a.x") []).toBlob ()
  rw [answer, name, rule, lines] at computed
  exact computed.trans (congrArg Call.returned decided)

theorem within_catalogue_misspelled :
    Catalogue.ofList [python] = .ok (Catalogue.empty.push python) ∧
    (content.registered misspelled).answer ⟨Catalogue.empty.push python, .empty⟩
      (.new (.ofString "a.x") []) () = .returned ["python"] ∧
    ["python"].length ≤ 1 ∧ ∃ rule ∈ misspelled.rulesFor (Sample.new (.ofString "a.x") []).name,
      ∃ l ∈ [python], ["python"] = [rule.language] ∧ lower l.name = lower rule.language := by
  obtain ⟨-, one, -, said, -⟩ := within_catalogue ofList_python .empty () (by decide)
    answer_misspelled
  refine ⟨ofList_python, answer_misspelled, one (.inr rfl), ?_⟩
  rcases said rfl with none | found
  · cases none
  · exact found

/-- So the answer of rules that are read from a text need not be the name of a language. -/
theorem not_named_misspelled :
    Catalogue.ofList [python] = .ok (Catalogue.empty.push python) ∧
    RuleBook.compile [{ extensions := [".x"], rules := [{ language := "python" }] }] =
      .ok misspelled ∧
    (content.registered misspelled).answer ⟨Catalogue.empty.push python, .empty⟩
      (.new (.ofString "a.x") []) () = .returned ["python"] ∧
    ¬ ∃ l ∈ [python], l.name = "python" :=
  ⟨ofList_python, rfl, answer_misspelled, by decide⟩

end Method

end LangBench
