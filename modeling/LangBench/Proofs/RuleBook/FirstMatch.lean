import LangBench.Proofs.Catalogue.Extension

/-!
# The first rule that applies

For a file, one group of rules counts: the first that lists the longest extension of the file's
name that any group lists.  Of its rules, the first one decides that is for a language of the
catalogue and whose pattern occurs in the content.  What reads the patterns and tells where they
occur is given here, and may be anything.

* `forall₂_of_mapM`, `rel_find?`: values made one by one, and the first of them with a property;
* `RuleText.IsFor`, `AppliesTo`, `Eligible`: what a rule says, as it is written down;
* `RuleBook.language_of_compileRule`, `appliesTo_of_compileRule`: a compiled rule says the same;
* `RuleBook.Governs`, `forall₂_rulesFor`: the rules that count for a file name;
* `RuleBook.Decides`, `view_of_governs_nil`, `answer_of_error`, `answer_of_lines`: what they answer;
* `RuleBook.first_match`: all of it, for any groups of rules.
-/

namespace LangBench

open Text

/-! ### Values made one by one -/

section Lists

variable {α β ε : Type} {xs : List α} {ys : List β}

theorem bind_eq_ok {v : Except ε α} {f : α → Except ε β} {b : β} (h : v >>= f = .ok b) :
    ∃ a, v = .ok a ∧ f a = .ok b := by
  cases v with
  | error e => cases h
  | ok a => exact ⟨a, rfl, h⟩

theorem forall₂_of_mapM {f : α → Except ε β} (h : xs.mapM f = .ok ys) :
    List.Forall₂ (fun x y => f x = .ok y) xs ys := by
  induction xs generalizing ys with
  | nil =>
    cases h
    exact .nil
  | cons x xs ih =>
    rw [List.mapM_cons] at h
    obtain ⟨y, first, h⟩ := bind_eq_ok h
    obtain ⟨ys, others, h⟩ := bind_eq_ok h
    cases h
    exact .cons first (ih others)

section First

variable {p : α → Prop} [DecidablePred p]

theorem find?_decide_eq_none_iff : xs.find? (fun x => p x) = none ↔ ∀ x ∈ xs, ¬ p x := by
  rw [List.find?_eq_none]
  simp only [decide_eq_true_iff]

theorem find?_decide_eq_some_iff {x : α} : xs.find? (fun x => p x) = some x ↔
    p x ∧ ∃ before after, xs = before ++ x :: after ∧ ∀ y ∈ before, ¬ p y := by
  rw [List.find?_eq_some_iff_append]
  simp only [decide_eq_true_iff, Bool.not_eq_true', decide_eq_false_iff_not]

end First

/-- Where two properties agree, so do the first elements that have them. -/
theorem rel_find? {R : α → β → Prop} {p : α → Bool} {q : β → Bool} (h : List.Forall₂ R xs ys)
    (same : ∀ x y, R x y → p x = q y) : Option.Rel R (xs.find? p) (ys.find? q) := by
  induction h with
  | nil => exact .none
  | @cons x y xs ys related others ih =>
    rw [List.find?_cons, List.find?_cons, same x y related]
    split
    · exact .some related
    · exact ih

theorem map_eq_of_rel {γ : Type} {R : α → β → Prop} {f : α → γ} {g : β → γ} {a : Option α}
    {b : Option β} (h : Option.Rel R a b) (same : ∀ x y, R x y → f x = g y) :
    a.map f = b.map g := by
  cases h with
  | none => rfl
  | some related => exact congrArg some (same _ _ related)

end Lists

/-! ### Rules as they are written down -/

/-- Whether a group lists an extension, which is in lower case. -/
def RuleGroupText.Lists (g : RuleGroupText) (e : String) : Prop :=
  ∃ x ∈ g.extensions, lower x = e

instance (g : RuleGroupText) (e : String) : Decidable (g.Lists e) :=
  inferInstanceAs (Decidable (∃ x ∈ g.extensions, lower x = e))

namespace RuleText

/-- Whether a rule is for one of some languages. -/
def IsFor (r : RuleText) (ls : List Language) : Prop :=
  ∃ l ∈ ls, lower l.name = lower r.language

instance (r : RuleText) (ls : List Language) : Decidable (r.IsFor ls) :=
  inferInstanceAs (Decidable (∃ l ∈ ls, lower l.name = lower r.language))

/-- Whether a rule has no pattern, or one that occurs in a content, line by line. -/
def AppliesTo (patterns : PatternReader) (r : RuleText) (content : List Char) : Prop :=
  ∀ text ∈ r.pattern, ∃ occurs, patterns (RuleBook.lineByLine text) = .ok occurs ∧
    occurs content = true

theorem appliesTo_iff {patterns : PatternReader} {r : RuleText} {content : List Char} :
    r.AppliesTo patterns content ↔ (r.pattern.all fun text =>
      (patterns (RuleBook.lineByLine text)).toOption.any fun occurs => occurs content) = true := by
  unfold AppliesTo
  cases r.pattern with
  | none => simp
  | some text => cases read : patterns (RuleBook.lineByLine text) <;> simp [read, Except.toOption]

instance (patterns : PatternReader) (r : RuleText) (content : List Char) :
    Decidable (r.AppliesTo patterns content) :=
  decidable_of_iff' _ appliesTo_iff

/-- Whether a rule can decide on a content. -/
def Eligible (patterns : PatternReader) (r : RuleText) (ls : List Language) (content : List Char) :
    Prop :=
  r.IsFor ls ∧ r.AppliesTo patterns content

instance (patterns : PatternReader) (r : RuleText) (ls : List Language) (content : List Char) :
    Decidable (r.Eligible patterns ls content) :=
  inferInstanceAs (Decidable (r.IsFor ls ∧ r.AppliesTo patterns content))

end RuleText

/-! ### Rules as they are compiled -/

namespace RuleBook

variable {patterns : PatternReader}

theorem language_of_compileRule {t : RuleText} {r : Rule} (h : compileRule patterns t = .ok r) :
    r.language = t.language := by
  unfold compileRule at h
  split at h
  · cases h
    rfl
  · split at h
    · cases h
      rfl
    · cases h

theorem appliesTo_of_compileRule {t : RuleText} {r : Rule} (h : compileRule patterns t = .ok r)
    (content : List Char) : r.appliesTo content = true ↔ t.AppliesTo patterns content := by
  unfold compileRule at h
  unfold RuleText.AppliesTo
  split at h
  · next absent =>
    cases h
    simp [absent, Rule.appliesTo]
  · next text present =>
    split at h
    · next occurs read =>
      cases h
      simp [present, read, Rule.appliesTo]
    · cases h

/-- A compiled group has the extensions of the group in lower case and its compiled rules. -/
theorem compileGroup_eq_ok {g : RuleGroupText} {g' : RuleGroup}
    (h : compileGroup patterns g = .ok g') :
    g'.extensions = g.extensions.map lower ∧
      List.Forall₂ (fun t r => compileRule patterns t = .ok r) g.rules g'.rules := by
  obtain ⟨rules, compiled, h⟩ := bind_eq_ok h
  cases h
  exact ⟨rfl, forall₂_of_mapM compiled⟩

theorem forall₂_of_compileWith {groups : List RuleGroupText} {book : RuleBook}
    (h : compileWith patterns groups = .ok book) :
    List.Forall₂ (fun g g' => compileGroup patterns g = .ok g') groups book.groups := by
  obtain ⟨groups', compiled, h⟩ := bind_eq_ok h
  cases h
  exact forall₂_of_mapM compiled

/-! ### The rules for a file name -/

/-- The rules that count for a file name: those of the first group that lists the longest extension
that any group lists, or none if no group lists any. -/
inductive Governs (groups : List RuleGroupText) (name : String) : List RuleText → Prop
  | none (unlisted : ∀ e, IsExtension name e → ∀ g ∈ groups, ¬ g.Lists e) : Governs groups name []
  | first {before after : List RuleGroupText} {g : RuleGroupText} {e : String}
      (cut : groups = before ++ g :: after)
      (longest : IsLongest name (fun e => ∃ g ∈ groups, g.Lists e) e) (lists : g.Lists e)
      (earlier : ∀ g' ∈ before, ¬ g'.Lists e) : Governs groups name g.rules

variable {groups : List RuleGroupText} {book : RuleBook} {name : String} {G : List RuleText}

/-- For every file name there are such rules. -/
theorem exists_governs (groups : List RuleGroupText) (name : String) :
    ∃ G, Governs groups name G := by
  by_cases listed : ∃ e, IsExtension name e ∧ ∃ g ∈ groups, g.Lists e
  · obtain ⟨e, longest⟩ := exists_isLongest listed
    cases found : groups.find? fun g => g.Lists e with
    | none =>
      obtain ⟨g, mem, lists⟩ := longest.holds
      exact absurd lists (find?_decide_eq_none_iff.1 found g mem)
    | some g =>
      obtain ⟨lists, before, after, cut, earlier⟩ := find?_decide_eq_some_iff.1 found
      exact ⟨g.rules, .first cut longest lists earlier⟩
  · refine ⟨[], .none fun e isExtension g mem lists => ?_⟩
    exact listed ⟨e, isExtension, g, mem, lists⟩

section Compiled

variable (compiled : compileWith patterns groups = .ok book)

include compiled

theorem rel_groupOf? (e : String) : Option.Rel (fun g g' => compileGroup patterns g = .ok g')
    (groups.find? fun g => g.Lists e) (book.groupOf? e) := by
  refine rel_find? (forall₂_of_compileWith compiled) fun g g' made => ?_
  rw [(compileGroup_eq_ok made).1, Bool.eq_iff_iff, decide_eq_true_iff, List.contains_iff_mem,
    List.mem_map]
  rfl

theorem groupOf?_eq_none {e : String} (unlisted : ∀ g ∈ groups, ¬ g.Lists e) :
    book.groupOf? e = none := by
  have related := rel_groupOf? compiled e
  rw [find?_decide_eq_none_iff.2 unlisted] at related
  generalize book.groupOf? e = hit at related ⊢
  cases related
  rfl

theorem exists_groupOf? {e : String} {g : RuleGroupText} {before after : List RuleGroupText}
    (cut : groups = before ++ g :: after) (lists : g.Lists e)
    (earlier : ∀ g' ∈ before, ¬ g'.Lists e) :
    ∃ g', book.groupOf? e = some g' ∧ compileGroup patterns g = .ok g' := by
  have found : groups.find? (fun g => g.Lists e) = some g :=
    find?_decide_eq_some_iff.2 ⟨lists, before, after, cut, earlier⟩
  have related := rel_groupOf? compiled e
  rw [found] at related
  generalize book.groupOf? e = hit at related ⊢
  cases related with
  | some made => exact ⟨_, rfl, made⟩

/-- The rules of a rule book for a file name are those that count, compiled. -/
theorem forall₂_rulesFor (governs : Governs groups name G) :
    List.Forall₂ (fun t r => compileRule patterns t = .ok r) G (book.rulesFor name) := by
  cases governs with
  | none unlisted =>
    have nothing : (extensions name).findSome? book.groupOf? = none := by
      rw [List.findSome?_eq_none_iff]
      intro e mem
      exact groupOf?_eq_none compiled (unlisted e (mem_extensions.1 mem))
    rw [rulesFor, nothing]
    exact .nil
  | @first before after g e cut longest lists earlier =>
    obtain ⟨g', hit, made⟩ := exists_groupOf? compiled cut lists earlier
    obtain ⟨shorter, longer, split, unlisted⟩ := exists_split_of_isLongest longest
    have nothing : shorter.findSome? book.groupOf? = none := by
      rw [List.findSome?_eq_none_iff]
      intro e' mem
      exact groupOf?_eq_none compiled fun g mem' lists => unlisted e' mem ⟨g, mem', lists⟩
    rw [rulesFor, split, List.findSome?_append, nothing, Option.none_or, List.findSome?_cons, hit]
    exact (compileGroup_eq_ok made).2

end Compiled

/-! ### Answers -/

/-- The names that rules answer with about a content: the language of the first rule that can
decide, or none if no rule can. -/
inductive Decides (patterns : PatternReader) (ls : List Language) (content : List Char)
    (G : List RuleText) : List String → Prop
  | none (idle : ∀ rule ∈ G, ¬ rule.Eligible patterns ls content) : Decides patterns ls content G []
  | first {before after : List RuleText} {rule : RuleText} (cut : G = before ++ rule :: after)
      (eligible : rule.Eligible patterns ls content)
      (idle : ∀ rule ∈ before, ¬ rule.Eligible patterns ls content) :
      Decides patterns ls content G [rule.language]

section Answers

variable {ls : List Language} {c : Catalogue} {content : List Char} {names : List String}

theorem decides_iff : Decides patterns ls content G names ↔
    ((G.find? fun t => t.Eligible patterns ls content).map RuleText.language).toList = names := by
  constructor
  · intro decides
    cases decides with
    | none idle =>
      rw [find?_decide_eq_none_iff.2 idle]
      rfl
    | @first before after rule cut eligible idle =>
      have found : G.find? (fun t => t.Eligible patterns ls content) = some rule :=
        find?_decide_eq_some_iff.2 ⟨eligible, before, after, cut, idle⟩
      rw [found]
      rfl
  · rintro rfl
    cases found : G.find? fun t => t.Eligible patterns ls content with
    | none => exact .none (find?_decide_eq_none_iff.1 found)
    | some rule =>
      obtain ⟨eligible, before, after, cut, idle⟩ := find?_decide_eq_some_iff.1 found
      exact .first cut eligible idle

/-- Rules for other languages do not count, nor do those behind one that applies. -/
theorem find?_eligible_congr {G' p s s' : List RuleText}
    (cut : (G.filter fun t => t.IsFor ls) = p ++ s)
    (cut' : (G'.filter fun t => t.IsFor ls) = p ++ s')
    (behind : s = s' ∨ ∃ t ∈ p, t.AppliesTo patterns content) :
    (G.find? fun t => t.Eligible patterns ls content) =
      G'.find? fun t => t.Eligible patterns ls content := by
  have filtered : ∀ G : List RuleText, (G.find? fun t => t.Eligible patterns ls content) =
      (G.filter fun t => t.IsFor ls).find? fun t => t.AppliesTo patterns content := by
    intro G
    rw [List.find?_filter]
    simp only [decide_eq_true_iff]
    rfl
  rw [filtered, filtered, cut, cut', List.find?_append, List.find?_append]
  rcases behind with rfl | ⟨t, mem, applies⟩
  · rfl
  · have found : (p.find? fun t => t.AppliesTo patterns content).isSome = true :=
      List.find?_isSome.2 ⟨t, mem, by simpa using applies⟩
    rw [Option.or_of_isSome found, Option.or_of_isSome found]

/-- What compiled rules decide is said by the first rule that can. -/
theorem decide?_eq (made : Catalogue.ofList ls = .ok c) {rules : List Rule}
    (related : List.Forall₂ (fun t r => compileRule patterns t = .ok r) G rules)
    (content : List Char) :
    decide? rules c content =
      (G.find? fun t => t.Eligible patterns ls content).map RuleText.language := by
  have same : ∀ t r, compileRule patterns t = .ok r → decide (t.Eligible patterns ls content) =
      decide (c.contains r.language = true ∧ r.appliesTo content = true) := by
    intro t r compiled
    rw [decide_eq_decide, RuleText.Eligible, (Catalogue.indexes_ofList made).contains_iff,
      language_of_compileRule compiled, appliesTo_of_compileRule compiled]
    rfl
  rw [decide?, List.find?_filter]
  symm
  exact map_eq_of_rel (rel_find? related same) fun t r compiled =>
    (language_of_compileRule compiled).symm

variable (compiled : compileWith patterns groups = .ok book) (statistics : Statistics)
  {W : Type} (w : W) {x : Sample}

include compiled

/-- Without rules that count, there is no answer, and nothing is decoded. -/
theorem view_of_governs_nil (governs : Governs groups x.name []) :
    x.view (Strategy.content book c) = (.ok [], x) := by
  have related := forall₂_rulesFor compiled governs
  have named : ∀ f : String → View Verdict,
      View.run (View.name >>= f) x.toBlob x.cache = (f x.name).run x.toBlob x.cache :=
    fun _ => rfl
  rw [Sample.view, Strategy.content, named]
  generalize book.rulesFor x.name = rules at related ⊢
  cases related
  rfl

theorem answer_of_governs_nil (governs : Governs groups x.name []) :
    (Method.content.registered book).answer ⟨c, statistics⟩ x w = .returned [] := by
  have viewed : ∀ (label : String) (view : Catalogue → View Verdict),
      (⟨label, Method.ofView view⟩ : Registered (StateM W)).answer ⟨c, statistics⟩ x w =
        .ofExcept (x.view (view c)).1 := fun _ _ => rfl
  rw [Method.registered, Method.detector, viewed, view_of_governs_nil compiled governs]
  rfl

variable (kept : x.cache.Holds x.toBlob) (governs : Governs groups x.name G)

include kept governs

theorem answer_of_error {e : DetectError} (nonempty : G ≠ []) (failed : x.lines = .error e) :
    (Method.content.registered book).answer ⟨c, statistics⟩ x w = .error e := by
  have related := forall₂_rulesFor compiled governs
  rw [Method.answer_of_kept book _ _ kept, Method.answer]
  generalize book.rulesFor x.name = rules at related ⊢
  cases related with
  | nil => exact absurd rfl nonempty
  | cons => rw [failed]; rfl

theorem answer_of_lines (made : Catalogue.ofList ls = .ok c) {lines : List String}
    (decoded : x.lines = .ok lines) :
    (Method.content.registered book).answer ⟨c, statistics⟩ x w =
      .returned ((G.find? fun t =>
        t.Eligible patterns ls (joinLines (lines.map String.toList))).map
          RuleText.language).toList := by
  have related := forall₂_rulesFor compiled governs
  rw [Method.answer_of_kept book _ _ kept, Method.answer, ← decide?_eq made related]
  generalize book.rulesFor x.name = rules at related ⊢
  cases rules with
  | nil => rfl
  | cons => rw [decoded]; rfl

end Answers

/-- **The first rule that applies.**  Let a rule book be compiled from groups of rules, whatever
text they were read from and whatever reads their patterns.  For every file name there are rules
that count: those of the first group that lists the longest extension that any group lists.  If
these are none, then there is no answer, and the sample is left as it was, whatever is in it.
Otherwise content that cannot be decoded is refused for that reason; and on the lines of content
that can be, the answer is the language of the first rule that is for a language of the catalogue
and has no pattern, or one that occurs.

So two rule books have the same answer on such content, if the rules that count in them are the same
but for those that are for other languages, and those behind a rule that decides. -/
theorem first_match (patterns : PatternReader) {ls : List Language} {c : Catalogue}
    (made : Catalogue.ofList ls = .ok c) (statistics : Statistics) {W : Type} (w : W) :
    (∀ (groups : List RuleGroupText) (book : RuleBook), compileWith patterns groups = .ok book →
      ∀ x : Sample, (∃ G, Governs groups x.name G) ∧ ∀ G, Governs groups x.name G →
        (G = [] → x.view (Strategy.content book c) = (.ok [], x) ∧
          (Method.content.registered book).answer ⟨c, statistics⟩ x w = .returned []) ∧
        (x.cache.Holds x.toBlob →
          (∀ e, G ≠ [] → x.lines = .error e →
            (Method.content.registered book).answer ⟨c, statistics⟩ x w = .error e) ∧
          ∀ lines, x.lines = .ok lines →
            (∃ names, Decides patterns ls (joinLines (lines.map String.toList)) G names) ∧
            ∀ names, Decides patterns ls (joinLines (lines.map String.toList)) G names →
              (Method.content.registered book).answer ⟨c, statistics⟩ x w = .returned names)) ∧
    ∀ (groups groups' : List RuleGroupText) (book book' : RuleBook),
      compileWith patterns groups = .ok book → compileWith patterns groups' = .ok book' →
      ∀ (x : Sample) (lines : List String), x.cache.Holds x.toBlob → x.lines = .ok lines →
      ∀ G G' p s s' : List RuleText, Governs groups x.name G → Governs groups' x.name G' →
        (G.filter fun t => t.IsFor ls) = p ++ s → (G'.filter fun t => t.IsFor ls) = p ++ s' →
        (s = s' ∨ ∃ t ∈ p, t.AppliesTo patterns (joinLines (lines.map String.toList))) →
        (Method.content.registered book).answer ⟨c, statistics⟩ x w =
          (Method.content.registered book').answer ⟨c, statistics⟩ x w := by
  constructor
  · intro groups book compiled x
    refine ⟨exists_governs groups x.name, fun G governs => ⟨?_, ?_⟩⟩
    · rintro rfl
      exact ⟨view_of_governs_nil compiled governs,
        answer_of_governs_nil compiled statistics w governs⟩
    · intro kept
      refine ⟨fun e nonempty failed => ?_, fun lines decoded => ⟨⟨_, decides_iff.2 rfl⟩, ?_⟩⟩
      · exact answer_of_error compiled statistics w kept governs nonempty failed
      · intro names decides
        rw [answer_of_lines compiled statistics w kept governs made decoded,
          decides_iff.1 decides]
  · intro groups groups' book book' compiled compiled' x lines kept decoded G G' p s s' governs
      governs' cut cut' behind
    rw [answer_of_lines compiled statistics w kept governs made decoded,
      answer_of_lines compiled' statistics w kept governs' made decoded,
      find?_eligible_congr cut cut' behind]

/-- Rules for Ada and, if there is a letter x, Python; those of a later group do not count. -/
def early : List RuleGroupText :=
  [{ extensions := [".H"]
     rules := [{ language := "Ada" }, { language := "python", pattern := some "x" }] },
   { extensions := [".h"], rules := [] }]

/-- Rules for Python alone: the same and another one. -/
def late : List RuleGroupText :=
  [{ extensions := [".h"]
     rules := [{ language := "python", pattern := some "x" }, { language := "Python" }] }]

/-- Groups that can be compiled are a rule book. -/
theorem exists_compile {groups : List RuleGroupText} (compiles : (compile groups).isOk = true) :
    ∃ book, compile groups = .ok book := by
  cases compiled : compile groups with
  | error e =>
    rw [compiled] at compiles
    cases compiles
  | ok book => exact ⟨book, rfl⟩

theorem first_match_early : ∃ book book', compile early = .ok book ∧ compile late = .ok book' ∧
    (Sample.new (.ofString "a.c") [0x78]).view
      (Strategy.content book (Catalogue.empty.push Method.python)) =
        (.ok [], .new (.ofString "a.c") [0x78]) ∧
    (Method.content.registered book).answer ⟨Catalogue.empty.push Method.python, .empty⟩
      (.new (.ofString "a.h") [0x78]) () = .returned ["python"] ∧
    (Method.content.registered book').answer ⟨Catalogue.empty.push Method.python, .empty⟩
      (.new (.ofString "a.h") [0x78]) () = .returned ["python"] := by
  obtain ⟨book, compiled⟩ : ∃ book, compile early = .ok book := exists_compile (by decide +kernel)
  obtain ⟨book', compiled'⟩ : ∃ book, compile late = .ok book := exists_compile (by decide +kernel)
  have named : (Sample.new (.ofString "a.h") [0x78]).name = "a.h" := by decide +kernel
  have named' : (Sample.new (.ofString "a.c") [0x78]).name = "a.c" := by decide +kernel
  have decoded : (Sample.new (.ofString "a.h") [0x78]).lines = .ok ["x"] := by decide +kernel
  have longest : ∀ p : String → Prop, p ".h" → IsLongest "a.h" p ".h" := by
    have all : ∀ e ∈ extensions "a.h", e.length ≤ 2 := by decide +kernel
    intro p holds
    exact ⟨mem_extensions.1 (by decide +kernel), holds, fun e h _ => all e (mem_extensions.2 h)⟩
  have cut : early = [] ++ early[0] :: early.tail := rfl
  have cut' : late = [] ++ late[0] :: late.tail := rfl
  have governs : Governs early (Sample.new (.ofString "a.h") [0x78]).name early[0].rules := by
    rw [named]
    exact .first cut (longest _ (by decide +kernel)) (by decide +kernel) nofun
  have governs' : Governs late (Sample.new (.ofString "a.h") [0x78]).name late[0].rules := by
    rw [named]
    exact .first cut' (longest _ (by decide +kernel)) (by decide +kernel) nofun
  have ungoverned : Governs early (Sample.new (.ofString "a.c") [0x78]).name [] := by
    have all : ∀ e ∈ extensions "a.c", ∀ g ∈ early, ¬ g.Lists e := by decide +kernel
    rw [named']
    exact .none fun e isExtension => all e (mem_extensions.2 isExtension)
  have decides : Decides Pattern.reader [Method.python] (joinLines (["x"].map String.toList))
      early[0].rules ["python"] := by
    have second : early[0].rules = [{ language := "Ada" }] ++ early[0].rules[1] :: [] := rfl
    exact .first second (by decide +kernel) (by decide +kernel)
  obtain ⟨counts, alike⟩ := first_match Pattern.reader Method.ofList_python .empty ()
  have same := alike early late book book' compiled compiled' _ _ .empty decoded _ _
    [{ language := "python", pattern := some "x" }] [] [{ language := "Python" }] governs governs'
    (by decide +kernel) (by decide +kernel) (.inr (by decide +kernel))
  have answered := (((counts early book compiled _).2 _ governs).2 .empty).2 _ decoded
  refine ⟨book, book', compiled, compiled', ?_, ?_, ?_⟩
  · exact (((counts early book compiled _).2 _ ungoverned).1 rfl).1
  · exact answered.2 _ decides
  · exact same.symm.trans (answered.2 _ decides)

end RuleBook

end LangBench
