import LangBench.Modeline
import Mathlib.Data.List.Basic

/-!
# Emacs modelines

Between the first two fences of a line there are settings.  The first one with the key `mode` names
the mode, and failing that the first one without a key does, if it is a single word.

* `emacsBody_append`: what stands between two fences is read, whatever is around them;
* `exists_fences`: where anything is read, there are two fences;
* `Gives`, `modeValue?_eq_some_iff`: a setting with the key `mode` gives its value;
* `Names`, `names_iff`: the mode that a list of settings names;
* `emacs_line`: the mode of a line with two fences, and of one without.
-/

namespace LangBench.Modeline

open Text

/-! ### Fences -/

variable {b p : List Char}

/-- No fence begins in a text without stars, even if a fence follows. -/
theorem isPrefixOf_fence_append {c : Char} (noStar : '*' ∉ b) (rest : List Char) :
    fence.isPrefixOf (c :: (b ++ (fence ++ rest))) = false := by
  cases b with
  | nil => simp [fence, List.isPrefixOf]
  | cons d b =>
    have notStar : '*' ≠ d := fun same => noStar (same ▸ List.mem_cons_self)
    simp [fence, List.isPrefixOf, notStar]

/-- What is read up to a fence. -/
theorem untilFence_append (noStar : '*' ∉ b) (oneLine : '\n' ∉ b) (done rest : List Char) :
    untilFence done (b ++ (fence ++ rest)) = some (done.reverse ++ b) := by
  induction b generalizing done with
  | nil => simp [fence, untilFence]
  | cons c b ih =>
    rw [List.mem_cons, not_or] at noStar oneLine
    rw [List.cons_append, untilFence, isPrefixOf_fence_append noStar.2, if_neg (by decide),
      if_neg (Ne.symm oneLine.1), ih noStar.2 oneLine.2]
    simp

theorem closeFence_append (nonempty : b ≠ []) (noStar : '*' ∉ b) (oneLine : '\n' ∉ b)
    (rest : List Char) : closeFence (b ++ (fence ++ rest)) = some b := by
  cases b with
  | nil => exact absurd rfl nonempty
  | cons c b =>
    rw [List.mem_cons, not_or] at noStar oneLine
    rw [List.cons_append, closeFence, if_neg (Ne.symm oneLine.1),
      untilFence_append noStar.2 oneLine.2]
    simp

/-- What stands between the first two fences is read, whatever is around them. -/
theorem emacsBody_append (before : '*' ∉ p) (nonempty : b ≠ []) (noStar : '*' ∉ b)
    (oneLine : '\n' ∉ b) (s : List Char) :
    emacsBody (p ++ fence ++ b ++ fence ++ s) = some b := by
  simp only [List.append_assoc]
  induction p with
  | nil =>
    show emacsBody ('-' :: '*' :: '-' :: (b ++ (fence ++ s))) = some b
    rw [emacsBody, if_pos (by simp [fence])]
    show (closeFence (b ++ (fence ++ s))).or _ = some b
    rw [closeFence_append nonempty noStar oneLine, Option.some_or]
  | cons c p ih =>
    rw [List.mem_cons, not_or] at before
    rw [List.cons_append, emacsBody, isPrefixOf_fence_append before.2, if_neg (by decide),
      ih before.2]

theorem eq_append_of_isPrefixOf {cs : List Char} (h : fence.isPrefixOf cs = true) :
    cs = fence ++ cs.drop 3 := by
  obtain ⟨rest, rfl⟩ := List.isPrefixOf_iff_prefix.1 h
  rfl

/-- What is read up to a fence has that fence behind it. -/
theorem exists_of_untilFence {cs done body : List Char} (read : untilFence done cs = some body) :
    ∃ more rest, body = done.reverse ++ more ∧ cs = more ++ fence ++ rest := by
  induction cs generalizing done with
  | nil => cases read
  | cons c cs ih =>
    rw [untilFence] at read
    split_ifs at read with here ended
    · cases read
      exact ⟨[], _, (List.append_nil _).symm, eq_append_of_isPrefixOf here⟩
    · obtain ⟨more, rest, rfl, rfl⟩ := ih read
      exact ⟨c :: more, rest, by simp, rfl⟩

theorem exists_of_closeFence {cs body : List Char} (read : closeFence cs = some body) :
    ∃ rest, cs = body ++ fence ++ rest := by
  cases cs with
  | nil => cases read
  | cons c cs =>
    rw [closeFence] at read
    split_ifs at read
    obtain ⟨more, rest, rfl, rfl⟩ := exists_of_untilFence read
    exact ⟨rest, rfl⟩

/-- Where anything is read, there are two fences with this between them. -/
theorem exists_fences {line body : List Char} (read : emacsBody line = some body) :
    ∃ p s, line = p ++ fence ++ body ++ fence ++ s := by
  induction line with
  | nil => cases read
  | cons c cs ih =>
    rw [emacsBody] at read
    have later : emacsBody cs = some body → ∃ p s, c :: cs = p ++ fence ++ body ++ fence ++ s := by
      intro found
      obtain ⟨p, s, rfl⟩ := ih found
      exact ⟨c :: p, s, rfl⟩
    split_ifs at read with here
    · rw [Option.or_eq_some_iff] at read
      rcases read with closed | ⟨-, found⟩
      · obtain ⟨rest, split⟩ := exists_of_closeFence closed
        refine ⟨[], rest, ?_⟩
        rw [eq_append_of_isPrefixOf here, List.drop_succ_cons, split]
        simp
      · exact later found
    · exact later read

/-! ### Settings -/

/-- A setting gives the mode `value`: what stands before its first colon is the word `mode`, with
blanks around it and in whatever case, and what stands behind the colon is the value. -/
def Gives (setting value : List Char) : Prop :=
  ∃ key rest, setting = key ++ ':' :: rest ∧ ':' ∉ key ∧
    (trim key).map Char.toLower = ['m', 'o', 'd', 'e'] ∧ value = trim rest

theorem modeValue?_append {key : List Char} (noColon : ':' ∉ key) (rest : List Char) :
    modeValue? (key ++ ':' :: rest) =
      if (trim key).map Char.toLower = ['m', 'o', 'd', 'e'] then some (trim rest) else none := by
  have cut : splitOnce (· == ':') (key ++ ':' :: rest) = some (key, rest) :=
    splitOnce_append_cons (beq_eq_false_of_notMem noColon) rfl rest
  have word : ['m', 'o', 'd', 'e'].map Char.toLower = ['m', 'o', 'd', 'e'] := by decide
  simp only [modeValue?, cut, eqIgnoringAsciiCase, word, beq_iff_eq]

theorem modeValue?_of_notMem {setting : List Char} (noColon : ':' ∉ setting) :
    modeValue? setting = none := by
  have whole : splitOnce (· == ':') setting = none :=
    splitOnce_of_forall (beq_eq_false_of_notMem noColon)
  rw [modeValue?, whole]

theorem modeValue?_eq_some_iff {setting value : List Char} :
    modeValue? setting = some value ↔ Gives setting value := by
  constructor
  · intro given
    by_cases colon : ':' ∈ setting
    · obtain ⟨key, rest, rfl, noColon⟩ := List.eq_append_cons_of_mem colon
      rw [modeValue?_append noColon] at given
      split_ifs at given with named
      cases given
      exact ⟨key, rest, rfl, noColon, named, rfl⟩
    · rw [modeValue?_of_notMem colon] at given
      cases given
  · rintro ⟨key, rest, rfl, noColon, named, rfl⟩
    rw [modeValue?_append noColon, if_pos named]

theorem modeValue?_eq_none_iff {setting : List Char} :
    modeValue? setting = none ↔ ∀ value, ¬ Gives setting value := by
  simp only [← modeValue?_eq_some_iff, Option.eq_none_iff_forall_ne_some, ne_eq]

/-- The mode that a list of settings names, if it names one. -/
inductive Names (parts : List (List Char)) : Option (List Char) → Prop
  /-- The first setting that gives a mode. -/
  | given {before : List (List Char)} {part : List Char} {after : List (List Char)}
      {value : List Char} (split : parts = before ++ part :: after)
      (first : ∀ q ∈ before, ∀ v, ¬ Gives q v) (gives : Gives part value) : Names parts (some value)
  /-- No setting gives a mode, and the first one without a colon is a word. -/
  | bare {before : List (List Char)} {part : List Char} {after : List (List Char)}
      (none_gives : ∀ q ∈ parts, ∀ v, ¬ Gives q v) (split : parts = before ++ part :: after)
      (first : ∀ q ∈ before, ':' ∈ q) (noColon : ':' ∉ part)
      (word : ∀ c ∈ part, isBlank c = false) : Names parts (some part)
  /-- No setting gives a mode, and the first one without a colon has white space inside. -/
  | spaced {before : List (List Char)} {part : List Char} {after : List (List Char)} {c : Char}
      (none_gives : ∀ q ∈ parts, ∀ v, ¬ Gives q v) (split : parts = before ++ part :: after)
      (first : ∀ q ∈ before, ':' ∈ q) (noColon : ':' ∉ part)
      (mem : c ∈ part) (blank : isBlank c = true) : Names parts none
  /-- No setting gives a mode, and all of them have colons. -/
  | nothing (none_gives : ∀ q ∈ parts, ∀ v, ¬ Gives q v) (colons : ∀ q ∈ parts, ':' ∈ q) :
      Names parts none

variable {parts before after : List (List Char)} {part : List Char}

theorem findSome?_modeValue?_eq_none (none_gives : ∀ q ∈ parts, ∀ v, ¬ Gives q v) :
    parts.findSome? modeValue? = none :=
  List.findSome?_eq_none_iff.2 fun q mem => modeValue?_eq_none_iff.2 (none_gives q mem)

/-- The setting without a colon that comes first. -/
theorem bareMode?_append (first : ∀ q ∈ before, ':' ∈ q) (noColon : ':' ∉ part) :
    bareMode? (before ++ part :: after) = if part.any isBlank then none else some part := by
  have found : (before ++ part :: after).find? (fun q => !q.contains ':') = some part := by
    rw [List.find?_eq_some_iff_append]
    exact ⟨by simpa using noColon, before, after, rfl, by simpa using first⟩
  rw [bareMode?, found, Option.filter_some]
  cases part.any isBlank <;> rfl

theorem bareMode?_of_forall (colons : ∀ q ∈ parts, ':' ∈ q) : bareMode? parts = none := by
  have nowhere : parts.find? (fun q => !q.contains ':') = none := by simpa using colons
  rw [bareMode?, nowhere]
  rfl

/-- A list of settings names one mode or none. -/
theorem names_iff {mode : Option (List Char)} :
    Names parts mode ↔ (parts.findSome? modeValue?).or (bareMode? parts) = mode := by
  constructor
  · intro names
    cases names with
    | given split first gives =>
      have found : parts.findSome? modeValue? = some _ :=
        List.findSome?_eq_some_iff.2 ⟨_, _, _, split, modeValue?_eq_some_iff.2 gives,
          fun q mem => modeValue?_eq_none_iff.2 (first q mem)⟩
      rw [found, Option.some_or]
    | bare none_gives split first noColon word =>
      rw [findSome?_modeValue?_eq_none none_gives, Option.none_or, split,
        bareMode?_append first noColon, if_neg (by simpa using word)]
    | spaced none_gives split first noColon mem blank =>
      rw [findSome?_modeValue?_eq_none none_gives, Option.none_or, split,
        bareMode?_append first noColon, if_pos (List.any_eq_true.2 ⟨_, mem, blank⟩)]
    | nothing none_gives colons =>
      rw [findSome?_modeValue?_eq_none none_gives, Option.none_or, bareMode?_of_forall colons]
  · rintro rfl
    cases found : parts.findSome? modeValue? with
    | some value =>
      obtain ⟨before, part, after, split, gives, first⟩ := List.findSome?_eq_some_iff.1 found
      exact .given split (fun q mem => modeValue?_eq_none_iff.1 (first q mem))
        (modeValue?_eq_some_iff.1 gives)
    | none =>
      have none_gives : ∀ q ∈ parts, ∀ v, ¬ Gives q v := fun q mem =>
        modeValue?_eq_none_iff.1 (List.findSome?_eq_none_iff.1 found q mem)
      rw [Option.none_or]
      by_cases colons : ∀ q ∈ parts, ':' ∈ q
      · rw [bareMode?_of_forall colons]
        exact .nothing none_gives colons
      · obtain ⟨part, bare⟩ : ∃ part, parts.find? (fun q => !q.contains ':') = some part := by
          rw [← Option.isSome_iff_exists]
          simpa using colons
        obtain ⟨noColon, before, after, rfl, first⟩ := List.find?_eq_some_iff_append.1 bare
        have first' : ∀ q ∈ before, ':' ∈ q := by simpa using first
        have noColon' : ':' ∉ part := by simpa using noColon
        rw [bareMode?_append first' noColon']
        split_ifs with blank
        · obtain ⟨c, mem, blank⟩ := List.any_eq_true.1 blank
          exact .spaced none_gives rfl first' noColon' mem blank
        · exact .bare none_gives rfl first' noColon' (by simpa using blank)

/-! ### Lines -/

theorem emacsMode_append (before : '*' ∉ p) (nonempty : b ≠ []) (noStar : '*' ∉ b)
    (oneLine : '\n' ∉ b) (s : List Char) : emacsMode (p ++ fence ++ b ++ fence ++ s) =
      ((settings b).findSome? modeValue?).or (bareMode? (settings b)) := by
  rw [emacsMode, emacsBody_append before nonempty noStar oneLine, Option.bind_some]

/-- **Emacs modelines.**  If there are two fences in a line, with no star before the first one and
something without stars between them, the line names the mode that the settings between them name:
these are the pieces between semicolons, without the blanks around them, as far as anything is left.
What stands before the first fence and behind the second does not matter.  A line with fewer than
two fences names no mode. -/
theorem emacs_line :
    (∀ b p s : List Char, b ≠ [] → '*' ∉ b → '\n' ∉ b → '*' ∉ p →
      (∀ mode, emacsMode (p ++ "-*-".toList ++ b ++ "-*-".toList ++ s) = mode ↔
        Names (((pieces (· == ';') b).map trim).filter (· ≠ [])) mode) ∧
      ∀ p' s' : List Char, '*' ∉ p' →
        emacsMode (p' ++ "-*-".toList ++ b ++ "-*-".toList ++ s') =
          emacsMode (p ++ "-*-".toList ++ b ++ "-*-".toList ++ s)) ∧
    ∀ line : List Char, (∀ p b s, line ≠ p ++ "-*-".toList ++ b ++ "-*-".toList ++ s) →
      emacsMode line = none := by
  have spelled : "-*-".toList = fence := by decide
  rw [spelled]
  constructor
  · intro b p s nonempty noStar oneLine before
    have parts : ((pieces (· == ';') b).map trim).filter (· ≠ []) = settings b := by
      rw [settings]
      congr 1
      funext part
      cases part <;> rfl
    refine ⟨fun mode => ?_, fun p' s' before' => ?_⟩
    · rw [parts, names_iff, emacsMode_append before nonempty noStar oneLine]
    · rw [emacsMode_append before' nonempty noStar oneLine,
        emacsMode_append before nonempty noStar oneLine]
  · intro line fewer
    cases read : emacsBody line with
    | none => rw [emacsMode, read, Option.bind_none]
    | some body =>
      obtain ⟨p, s, split⟩ := exists_fences read
      exact absurd split (fewer p body s)

/-- Two words and a setting with another key before the mode, and more fences behind it; and a line
whose only fence is not closed. -/
theorem emacs_line_ruby :
    '*' ∉ "# ".toList ∧ '*' ∉ " a b; coding: utf-8; MODE : ruby ".toList ∧
    '\n' ∉ " a b; coding: utf-8; MODE : ruby ".toList ∧
    emacsMode ("# ".toList ++ "-*-".toList ++ " a b; coding: utf-8; MODE : ruby ".toList ++
      "-*-".toList ++ " mode: c -*-".toList) = some "ruby".toList ∧
    emacsMode "-*- mode: c".toList = none := by
  have before : '*' ∉ "# ".toList := by decide
  have noStar : '*' ∉ " a b; coding: utf-8; MODE : ruby ".toList := by decide +kernel
  have oneLine : '\n' ∉ " a b; coding: utf-8; MODE : ruby ".toList := by decide +kernel
  have gives : Gives "MODE : ruby".toList "ruby".toList :=
    ⟨"MODE ".toList, " ruby".toList, by decide +kernel, by decide, by decide, by decide⟩
  have first : ∀ q ∈ ["a b".toList, "coding: utf-8".toList], ∀ v, ¬ Gives q v := by
    have none_gives : ∀ q ∈ ["a b".toList, "coding: utf-8".toList], modeValue? q = none := by
      decide +kernel
    exact fun q mem => modeValue?_eq_none_iff.1 (none_gives q mem)
  have split : ((pieces (· == ';') " a b; coding: utf-8; MODE : ruby ".toList).map trim).filter
      (· ≠ []) = ["a b".toList, "coding: utf-8".toList] ++ "MODE : ruby".toList :: [] := by
    decide +kernel
  have fewer : ∀ p b s, "-*- mode: c".toList ≠ p ++ "-*-".toList ++ b ++ "-*-".toList ++ s := by
    intro p b s same
    have stars := congrArg (List.count '*') same
    have one : "-*-".toList.count '*' = 1 := by decide
    have only : "-*- mode: c".toList.count '*' = 1 := by decide +kernel
    simp only [List.count_append, one, only] at stars
    omega
  exact ⟨before, noStar, oneLine,
    ((emacs_line.1 _ _ _ (by decide) noStar oneLine before).1 _).2 (.given split first gives),
    emacs_line.2 _ fewer⟩

end LangBench.Modeline
