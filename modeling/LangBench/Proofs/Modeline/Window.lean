import LangBench.Proofs.Catalogue.Answers

/-!
# The lines that modelines are looked for in

Editors look for a modeline at either end of a file.  The first five and the last five lines count,
none of them twice, and nothing that stands between them does.

* `InWindow`, `window_eq_filter`: the lines that are looked at, by their numbers;
* `findSome?_window_eq_some`, `findSome?_window_eq_none`: what is found in them first;
* `window_append`: lines between the two ends are passed over;
* `window_modes`: what the strategy for modelines answers.
-/

namespace LangBench

open Text

namespace Modeline

variable {α β : Type} {lines : List α}

/-- Whether the line of this number, counted from zero, is one of the first five or the last five of
`n` lines. -/
def InWindow (n i : Nat) : Prop :=
  i < 5 ∨ n ≤ i + 5

instance (n i : Nat) : Decidable (InWindow n i) :=
  inferInstanceAs (Decidable (_ ∨ _))

/-- Of consecutive lines that are all in the window, all are looked at. -/
theorem filter_zipIdx_of_forall {n k : Nat} (xs : List α)
    (h : ∀ i, k ≤ i → i < k + xs.length → InWindow n i) :
    ((xs.zipIdx k).filter fun p => InWindow n p.2).map Prod.fst = xs := by
  have all : (xs.zipIdx k).filter (fun p => InWindow n p.2) = xs.zipIdx k := by
    rw [List.filter_eq_self]
    rintro ⟨x, i⟩ mem
    obtain ⟨low, high, -⟩ := List.mem_zipIdx mem
    exact decide_eq_true (h i low high)
  rw [all, List.zipIdx_map_fst]

/-- Of consecutive lines that are all outside of it, none is. -/
theorem filter_zipIdx_of_forall_not {n k : Nat} (xs : List α)
    (h : ∀ i, k ≤ i → i < k + xs.length → ¬ InWindow n i) :
    (xs.zipIdx k).filter (fun p => InWindow n p.2) = [] := by
  rw [List.filter_eq_nil_iff]
  rintro ⟨x, i⟩ mem
  obtain ⟨low, high, -⟩ := List.mem_zipIdx mem
  simpa using h i low high

/-- The window holds the lines whose numbers are in it, in order and each once. -/
theorem window_eq_filter (lines : List α) : window lines =
    (lines.zipIdx.filter fun p => InWindow lines.length p.2).map Prod.fst := by
  -- the first five lines, those between, and the last ones that are not among the first
  let k := max (lines.length - 5) 5
  have cut : lines = lines.take 5 ++ ((lines.drop 5).take (k - 5) ++ lines.drop k) := by
    have rest : (lines.drop 5).drop (k - 5) = lines.drop k := by
      rw [List.drop_drop]
      congr 1
      omega
    rw [← rest, List.take_append_drop, List.take_append_drop]
  have first : (lines.take 5).length = min 5 lines.length := List.length_take
  have between : ((lines.drop 5).take (k - 5)).length = min (k - 5) (lines.length - 5) := by
    rw [List.length_take, List.length_drop]
  have last : (lines.drop k).length = lines.length - k := List.length_drop
  have numbered : lines.zipIdx = _ := congrArg List.zipIdx cut
  rw [numbered, List.zipIdx_append, List.zipIdx_append, List.filter_append, List.filter_append,
    filter_zipIdx_of_forall_not ((lines.drop 5).take (k - 5)), List.nil_append, List.map_append,
    filter_zipIdx_of_forall, filter_zipIdx_of_forall]
  · rfl
  · intro i low high
    unfold InWindow
    omega
  · intro i low high
    unfold InWindow
    omega
  · intro i low high
    unfold InWindow
    omega

theorem mem_window_numbered {i : Nat} {line : α} :
    (line, i) ∈ (lines.zipIdx.filter fun p => InWindow lines.length p.2) ↔
      lines[i]? = some line ∧ InWindow lines.length i := by
  rw [List.mem_filter, List.mk_mem_zipIdx_iff_getElem?, decide_eq_true_iff]

/-- What is found in the window is found in the first of its lines in which anything is. -/
theorem findSome?_window_eq_some {f : α → Option β} {i : Nat} {line : α} {b : β}
    (here : lines[i]? = some line) (inside : InWindow lines.length i) (found : f line = some b)
    (first : ∀ j < i, InWindow lines.length j → ∀ l, lines[j]? = some l → f l = none) :
    (window lines).findSome? f = some b := by
  have ordered : (lines.zipIdx.filter fun p => InWindow lines.length p.2).Pairwise
      fun p q => p.2 < q.2 := by
    apply List.Pairwise.filter
    rw [← List.pairwise_map (f := Prod.snd), List.zipIdx_map_snd]
    exact List.pairwise_lt_range'
  obtain ⟨before, after, cut⟩ := List.append_of_mem (mem_window_numbered.2 ⟨here, inside⟩)
  have nothing : (before.map Prod.fst).findSome? f = none := by
    rw [List.findSome?_eq_none_iff]
    intro l mem
    obtain ⟨⟨_, j⟩, early, rfl⟩ := List.mem_map.1 mem
    rw [cut, List.pairwise_append] at ordered
    have numbered := mem_window_numbered.1 (cut ▸ List.mem_append_left _ early)
    exact first j (ordered.2.2 _ early _ List.mem_cons_self) numbered.2 _ numbered.1
  rw [window_eq_filter, cut, List.map_append, List.findSome?_append, nothing, Option.none_or,
    List.map_cons, List.findSome?_cons, found]

theorem findSome?_window_eq_none {f : α → Option β}
    (nowhere : ∀ i, InWindow lines.length i → ∀ line, lines[i]? = some line → f line = none) :
    (window lines).findSome? f = none := by
  rw [window_eq_filter, List.findSome?_eq_none_iff]
  intro line mem
  obtain ⟨⟨_, i⟩, member, rfl⟩ := List.mem_map.1 mem
  obtain ⟨numbered, inside⟩ := mem_window_numbered.1 member
  exact nowhere i inside _ numbered

/-- Lines between the first five and the last five are passed over. -/
theorem window_append {head middle tail : List α} (five : head.length = 5)
    (five' : tail.length = 5) : window (head ++ middle ++ tail) = head ++ tail := by
  have length : (head ++ middle ++ tail).length = 10 + middle.length := by
    simp only [List.length_append, five, five']
    omega
  have start : max ((head ++ middle ++ tail).length - scope) scope = (head ++ middle).length := by
    rw [length, List.length_append, five, scope]
    omega
  rw [window, start, List.drop_left, scope, List.append_assoc, ← five, List.take_left]

/-! ### Answers -/

variable {b : Blob} {read : List String} (c : Catalogue)

theorem answer_of_lines (rules : RuleBook) (statistics : Statistics) (decoded : b.lines = .ok read) :
    Method.modeline.answer rules ⟨c, statistics⟩ b = .returned (Strategy.byModeline c read) := by
  rw [Method.answer, decoded]
  rfl

theorem byModeline_of_first {i : Nat} {line : String} {mode : List Char}
    (here : read[i]? = some line) (inside : InWindow read.length i)
    (named : (emacsMode line.toList).or (vimMode line.toList) = some mode)
    (first : ∀ j < i, InWindow read.length j → ∀ l, read[j]? = some l →
      emacsMode l.toList = none ∧ vimMode l.toList = none) :
    Strategy.byModeline c read =
      (c.resolve? (String.ofList mode)).toList.map Language.name := by
  have found : (window read).findSome? (fun l => modeOf l.toList) = some mode := by
    refine findSome?_window_eq_some here inside named fun j before inside' l numbered => ?_
    obtain ⟨emacs, vim⟩ := first j before inside' l numbered
    rw [modeOf, emacs, vim, Option.or_none]
  rw [Strategy.byModeline, Strategy.modeOfLines, found]
  rfl

theorem byModeline_of_none
    (nowhere : ∀ i, InWindow read.length i → ∀ line, read[i]? = some line →
      emacsMode line.toList = none ∧ vimMode line.toList = none) :
    Strategy.byModeline c read = [] := by
  have nothing : (window read).findSome? (fun l => modeOf l.toList) = none := by
    refine findSome?_window_eq_none fun i inside line numbered => ?_
    obtain ⟨emacs, vim⟩ := nowhere i inside line numbered
    rw [modeOf, emacs, vim, Option.or_none]
  rw [Strategy.byModeline, Strategy.modeOfLines, nothing]
  rfl

theorem byModeline_append {head middle middle' tail : List String} (five : head.length = 5)
    (five' : tail.length = 5) : Strategy.byModeline c (head ++ middle ++ tail) =
      Strategy.byModeline c (head ++ middle' ++ tail) := by
  rw [Strategy.byModeline, Strategy.modeOfLines, window_append five five', Strategy.byModeline,
    Strategy.modeOfLines, window_append five five']

/-- **The lines that modelines are looked for in.**  Of a file that is decoded, whatever is kept of
it, the strategy for modelines looks at the first five and the last five lines, in order and each
once.  It answers with the language of the mode that the first of them names that names one, for
Emacs or failing that for Vim; if there is no such language, or no such line, it has no answer.  So
it does not matter what stands between the first five lines and the last five. -/
theorem window_modes (rules : RuleBook) (statistics : Statistics) {W : Type} (w w' : W) :
    (∀ (x : Sample) (lines : List String), x.cache.Holds x.toBlob → x.lines = .ok lines →
      window lines =
        (lines.zipIdx.filter fun p => p.2 < 5 ∨ lines.length ≤ p.2 + 5).map Prod.fst ∧
      (∀ (i : Nat) (line : String) (mode : List Char), lines[i]? = some line →
        InWindow lines.length i →
        (emacsMode line.toList).or (vimMode line.toList) = some mode →
        (∀ j < i, InWindow lines.length j → ∀ l, lines[j]? = some l →
          emacsMode l.toList = none ∧ vimMode l.toList = none) →
        (Method.modeline.registered rules).answer ⟨c, statistics⟩ x w =
          .returned ((c.resolve? (String.ofList mode)).toList.map Language.name)) ∧
      ((∀ i, InWindow lines.length i → ∀ line, lines[i]? = some line →
          emacsMode line.toList = none ∧ vimMode line.toList = none) →
        (Method.modeline.registered rules).answer ⟨c, statistics⟩ x w = .returned [])) ∧
    ∀ (x x' : Sample) (head middle middle' tail : List String), x.cache.Holds x.toBlob →
      x'.cache.Holds x'.toBlob → head.length = 5 → tail.length = 5 →
      x.lines = .ok (head ++ middle ++ tail) → x'.lines = .ok (head ++ middle' ++ tail) →
      (Method.modeline.registered rules).answer ⟨c, statistics⟩ x w =
        (Method.modeline.registered rules).answer ⟨c, statistics⟩ x' w' := by
  have answered : ∀ (x : Sample) (lines : List String) (w : W), x.cache.Holds x.toBlob →
      x.lines = .ok lines → (Method.modeline.registered rules).answer ⟨c, statistics⟩ x w =
        .returned (Strategy.byModeline c lines) := by
    intro x lines w kept decoded
    rw [← answer_of_lines c rules statistics decoded]
    exact Method.modeline.answer_of_kept rules ⟨c, statistics⟩ kept w
  refine ⟨fun x lines kept decoded => ⟨window_eq_filter lines, ?_, ?_⟩, ?_⟩
  · intro i line mode here inside named first
    rw [answered x lines w kept decoded, byModeline_of_first c here inside named first]
  · intro nowhere
    rw [answered x lines w kept decoded, byModeline_of_none c nowhere]
  · intro x x' head middle middle' tail kept kept' five five' decoded decoded'
    rw [answered x _ w kept decoded, answered x' _ w' kept' decoded',
      byModeline_append c five five']

/-- A file whose middle line names one mode and whose last line another. -/
def elevenLines : Sample :=
  .new (.ofString "a") (Utf8.encode "\n\n\n\n\n# vim: ft=C\n\n\n\n\n-*- Python -*-".toList)

/-- The same file without its middle line. -/
def tenLines : Sample :=
  .new (.ofString "a") (Utf8.encode "\n\n\n\n\n\n\n\n\n-*- Python -*-".toList)

theorem window_modes_elevenLines :
    (Method.modeline.registered ⟨[]⟩).answer ⟨Catalogue.empty.push Method.python, .empty⟩
      elevenLines () = .returned ["Python"] ∧
    (Method.modeline.registered ⟨[]⟩).answer ⟨Catalogue.empty.push Method.python, .empty⟩
      tenLines () = .returned ["Python"] := by
  let head := ["", "", "", "", ""]
  let tail := ["", "", "", "", "-*- Python -*-"]
  have eleven : elevenLines.lines = .ok (head ++ ["# vim: ft=C"] ++ tail) := by decide +kernel
  have ten : tenLines.lines = .ok (head ++ [] ++ tail) := by decide +kernel
  have blank : ∀ j < 10, InWindow 11 j → ∀ l, (head ++ ["# vim: ft=C"] ++ tail)[j]? = some l →
      emacsMode l.toList = none ∧ vimMode l.toList = none := by
    have all : ∀ j < 10, InWindow 11 j → ∀ l ∈ (head ++ ["# vim: ft=C"] ++ tail)[j]?,
        emacsMode l.toList = none ∧ vimMode l.toList = none := by decide +kernel
    exact all
  obtain ⟨answers, alike⟩ :=
    window_modes (Catalogue.empty.push Method.python) ⟨[]⟩ .empty () ()
  have answered := (answers elevenLines _ .empty eleven).2.1 10 "-*- Python -*-" "Python".toList
    (by decide) (by decide) (by decide +kernel) blank
  have resolved : ((Catalogue.empty.push Method.python).resolve? "Python").toList.map
      Language.name = ["Python"] := by decide +kernel
  rw [String.ofList_toList, resolved] at answered
  exact ⟨answered, (alike elevenLines tenLines head _ [] tail .empty .empty rfl rfl eleven
    ten).symm.trans answered⟩

end Modeline

end LangBench
