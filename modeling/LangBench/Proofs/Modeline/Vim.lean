import LangBench.Modeline
import LangBench.Proofs.Shebang.Line
import LangBench.Proofs.Unicode.Word
import Mathlib.Data.Bool.AllAny
import Mathlib.Data.List.Pairwise

/-!
# Vim modelines

The options of a modeline for Vim may assign a file type more than once.  Every assignment is read
with its own value, and the line names the last of them if they are all the same.

* `vimOptions_append`: the options stand behind the first colon of a line that has ` vim` before it;
* `Assignment`, `assignments`: assignments of file types, with a blank in front of each;
* `fileTypesFrom_assignments`: their values are read one by one;
* `isChain_same_iff`: if neighbours are equal up to the case of ASCII letters, all values are;
* `vim_line`: the file type of a line that ends with assignments.
-/

namespace LangBench.Modeline

open Text Unicode Shebang

variable {cs rest word p s : List Char} {c : Char}

/-! ### Options -/

theorem eq_append_of_afterWord? (h : afterWord? word cs = some rest) : cs = word ++ rest := by
  unfold afterWord? at h
  split_ifs at h with begins
  cases h
  obtain ⟨tail, rfl⟩ := List.isPrefixOf_iff_prefix.1 begins
  rw [List.drop_left]

/-- What is left of a text when something without a space is taken off it. -/
def Reaches (cs rest : List Char) : Prop :=
  ∃ word, cs = word ++ rest ∧ ' ' ∉ word

theorem Reaches.refl (cs : List Char) : Reaches cs cs :=
  ⟨[], rfl, List.not_mem_nil⟩

theorem Reaches.trans {tail : List Char} (h : Reaches cs rest) (h' : Reaches rest tail) :
    Reaches cs tail := by
  obtain ⟨word, rfl, noSpace⟩ := h
  obtain ⟨word', rfl, noSpace'⟩ := h'
  refine ⟨word ++ word', by rw [List.append_assoc], ?_⟩
  rw [List.mem_append, not_or]
  exact ⟨noSpace, noSpace'⟩

theorem reaches_of_afterWord? (h : afterWord? word cs = some rest) (noSpace : ' ' ∉ word) :
    Reaches cs rest :=
  ⟨word, eq_append_of_afterWord? h, noSpace⟩

theorem reaches_dropWhile (cs : List Char) : Reaches cs (cs.dropWhile isDecimalDigit) := by
  refine ⟨cs.takeWhile isDecimalDigit, List.takeWhile_append_dropWhile.symm, fun mem => ?_⟩
  exact absurd (List.mem_takeWhile_imp mem) (by decide)

/-- The name of the editor holds no space. -/
theorem reaches_of_afterEditor? (h : afterEditor? cs = some rest) : Reaches cs rest := by
  have optionalM : ∀ r, Reaches r ((afterWord? ['m'] r).getD r) := by
    intro r
    cases taken : afterWord? ['m'] r with
    | none => exact .refl r
    | some tail => exact reaches_of_afterWord? taken (by decide)
  unfold afterEditor? at h
  split at h
  · next r taken =>
    cases h
    exact (reaches_of_afterWord? taken (by decide)).trans (optionalM r)
  · obtain ⟨r, taken, rfl⟩ := Option.map_eq_some_iff.1 h
    simp only [Option.or_eq_some_iff] at taken
    have reached : Reaches cs r := by
      rcases taken with vi | ⟨-, vim | ⟨-, ex⟩⟩
      · exact reaches_of_afterWord? vi (by decide)
      · exact reaches_of_afterWord? vim (by decide)
      · exact reaches_of_afterWord? ex (by decide)
    exact reached.trans (optionalM r)

/-- Nor does a version. -/
theorem reaches_of_afterVersion? (h : afterVersion? cs = some rest) : Reaches cs rest := by
  have digits := reaches_dropWhile cs
  unfold afterVersion? at h
  split at h
  · next none_left =>
    cases h
    rwa [none_left] at digits
  · next d tail left =>
    rw [left] at digits
    split_ifs at h with comparison
    · cases h
      have sign : Reaches (d :: tail) tail := by
        refine ⟨[d], rfl, fun mem => ?_⟩
        rw [← List.mem_singleton.1 mem] at comparison
        exact absurd comparison (by decide)
      exact (digits.trans sign).trans (reaches_dropWhile tail)
    · cases h
      exact digits

/-- No modeline begins before a space if there is no colon there. -/
theorem vimOptionsHere_eq_none (noColon : ':' ∉ p) (rest : List Char) :
    vimOptionsHere (p ++ ' ' :: rest) = none := by
  rw [Option.eq_none_iff_forall_ne_some]
  intro options found
  unfold vimOptionsHere at found
  obtain ⟨tail, read, found⟩ := Option.bind_eq_some_iff.1 found
  obtain ⟨version, editor, read⟩ := Option.bind_eq_some_iff.1 read
  split at found
  · next options' =>
    obtain ⟨word, split, noSpace⟩ :=
      (reaches_of_afterEditor? editor).trans (reaches_of_afterVersion? read)
    -- what is taken up to the colon cannot pass the space, nor end before it
    rcases List.append_eq_append_iff.1 split with ⟨more, rfl, spaced⟩ | ⟨more, rfl, colon⟩
    · cases more with
      | nil => cases spaced
      | cons d more =>
        cases spaced
        exact noSpace (by simp)
    · cases more with
      | nil => cases colon
      | cons d more =>
        cases colon
        exact noColon (by simp)
  · cases found

/-- The options stand behind the first colon of a line, if the editor is named before it. -/
theorem vimOptions_append (noColon : ':' ∉ p) (rest : List Char) :
    vimOptions (p ++ " vim:".toList ++ rest) =
      some ((rest.dropWhile isBlank).takeWhile (· != '\n')) := by
  have here : vimOptionsHere ("vim:".toList ++ rest) =
      some ((rest.dropWhile isBlank).takeWhile (· != '\n')) := by
    have editor : afterEditor? ("vim:".toList ++ rest) = some (':' :: rest) := rfl
    have version : afterVersion? (':' :: rest) = some (':' :: rest) := rfl
    rw [vimOptionsHere, editor, Option.bind_some, version]
    rfl
  have begins : p ++ " vim:".toList ++ rest = p ++ ' ' :: ("vim:".toList ++ rest) := by
    rw [List.append_assoc]
    rfl
  rw [begins, vimOptions, vimOptionsHere_eq_none noColon, Option.none_or]
  induction p with
  | nil =>
    rw [List.nil_append, vimOptionsAfterBlank, if_pos (by decide), here, Option.some_or]
  | cons c p ih =>
    rw [List.mem_cons, not_or] at noColon
    rw [List.cons_append, vimOptionsAfterBlank, vimOptionsHere_eq_none noColon.2, Option.none_or,
      ih noColon.2 (by rw [List.append_assoc]; rfl), ite_self]

/-! ### Assignments -/

/-- The assignment of a file type, in a line. -/
structure Assignment where
  key : List Char
  /-- The blanks before the equals sign. -/
  gap : List Char
  /-- The blanks behind it. -/
  gap' : List Char
  value : List Char
  key_mem : key ∈ typeKeys
  padding : IsPadding gap
  padding' : IsPadding gap'
  value_ne_nil : value ≠ []
  value_chars : ∀ c ∈ value, isValueChar c = true

/-- An assignment as it is written. -/
def Assignment.text (a : Assignment) : List Char :=
  a.key ++ (a.gap ++ '=' :: (a.gap' ++ a.value))

/-- Assignments with a blank in front of each. -/
def assignments (as : List (Char × Assignment)) : List Char :=
  as.flatMap fun x => x.1 :: x.2.text

theorem isValueChar_of_isBlank (blank : isBlank c = true) : isValueChar c = false := by
  have noSign : ['+', '#', '.', '-'].contains c = false := by
    rw [← Bool.not_eq_true, List.contains_iff_mem]
    intro mem
    have signs : ∀ d ∈ ['+', '#', '.', '-'], isBlank d = false := List.all_iff_forall_prop.1 rfl
    rw [signs c mem] at blank
    cases blank
  rw [isValueChar, isWordChar_of_isBlank blank, noSign, Bool.or_false]

/-- None of the keys begins another one. -/
theorem findSome?_afterWord? {key : List Char} (mem : key ∈ typeKeys) (rest : List Char) :
    typeKeys.findSome? (afterWord? · (key ++ rest)) = some rest := by
  simp only [typeKeys, List.mem_cons, List.not_mem_nil, or_false] at mem
  rcases mem with rfl | rfl | rfl
  · rfl
  · rfl
  · rfl

/-- An assignment is read to the end of its value. -/
theorem assignment?_text (a : Assignment) (ends : ∀ c ∈ rest.head?, isBlank c = true) :
    assignment? (a.text ++ rest) = some (a.value, rest) := by
  have behindKey : a.text ++ rest = a.key ++ (a.gap ++ '=' :: (a.gap' ++ (a.value ++ rest))) := by
    simp only [Assignment.text, List.append_assoc, List.cons_append]
  obtain ⟨v, value, whole⟩ := List.exists_cons_of_ne_nil a.value_ne_nil
  have first : isValueChar v = true := a.value_chars v (whole ▸ List.mem_cons_self)
  have notBlank : isBlank v = false := by
    rw [← Bool.not_eq_true]
    intro blank
    rw [isValueChar_of_isBlank blank] at first
    cases first
  have sign : (a.gap ++ '=' :: (a.gap' ++ (a.value ++ rest))).dropWhile isBlank =
      '=' :: (a.gap' ++ (a.value ++ rest)) := by
    refine (takeWhile_append_of_apart (fun c mem => (a.padding c mem).1) ?_).2
    rintro _ ⟨⟩
    decide
  have begins : (a.gap' ++ (a.value ++ rest)).dropWhile isBlank = a.value ++ rest := by
    refine (takeWhile_append_of_apart (fun c mem => (a.padding' c mem).1) ?_).2
    rw [whole]
    rintro _ ⟨⟩
    exact notBlank
  obtain ⟨taken, left⟩ := takeWhile_append_of_apart a.value_chars
    fun c head => isValueChar_of_isBlank (ends c head)
  have head : (a.value ++ rest).head?.any isValueChar = true := by
    rw [whole]
    exact first
  rw [behindKey, assignment?, findSome?_afterWord? a.key_mem, Option.bind_some, sign]
  simp only [begins, head, taken, left, if_true]

/-- Where an assignment is read there is a key, and an equals sign behind it. -/
theorem exists_of_assignment? {read : List Char × List Char} (h : assignment? cs = some read) :
    ∃ key ∈ typeKeys, ∃ rest, cs = key ++ rest ∧ '=' ∈ rest := by
  unfold assignment? at h
  obtain ⟨rest, found, h⟩ := Option.bind_eq_some_iff.1 h
  obtain ⟨key, mem, taken⟩ := List.exists_of_findSome?_eq_some found
  refine ⟨key, mem, rest, eq_append_of_afterWord? taken, ?_⟩
  split at h
  · next tail sign =>
    exact (List.dropWhile_suffix _).subset (sign ▸ List.mem_cons_self)
  · cases h

theorem assignment?_of_isBlank (blank : isBlank c = true) : assignment? (c :: cs) = none := by
  rw [Option.eq_none_iff_forall_ne_some]
  intro read found
  obtain ⟨key, mem, rest, split, -⟩ := exists_of_assignment? found
  simp only [typeKeys, List.mem_cons, List.not_mem_nil, or_false] at mem
  have letter : c = 'f' ∨ c = 's' := by
    rcases mem with rfl | rfl | rfl
    · exact .inl (List.cons.inj split).1
    · exact .inl (List.cons.inj split).1
    · exact .inr (List.cons.inj split).1
  rcases letter with rfl | rfl
  · exact absurd blank (by decide)
  · exact absurd blank (by decide)

variable {done : List (List Char)} {inWord : Bool}

theorem fileTypesFrom_cons (none_here : (if inWord then none else assignment? (c :: cs)) = none) :
    fileTypesFrom done inWord (c :: cs) = fileTypesFrom done (isWordChar c) cs := by
  rw [fileTypesFrom]
  split
  · next found =>
    rw [none_here] at found
    cases found
  · rfl

/-- A blank is passed over, and behind it an assignment may begin. -/
theorem fileTypesFrom_of_isBlank (blank : isBlank c = true) :
    fileTypesFrom done inWord (c :: cs) = fileTypesFrom done false cs := by
  rw [fileTypesFrom_cons, isWordChar_of_isBlank blank]
  rw [assignment?_of_isBlank blank, ite_self]

/-- Without an equals sign nothing is assigned. -/
theorem fileTypesFrom_of_notMem (noEquals : '=' ∉ cs) :
    fileTypesFrom done inWord cs = done.reverse := by
  induction cs generalizing inWord with
  | nil => rw [fileTypesFrom]
  | cons c cs ih =>
    have nothing : assignment? (c :: cs) = none := by
      rw [Option.eq_none_iff_forall_ne_some]
      intro read found
      obtain ⟨key, -, rest, split, sign⟩ := exists_of_assignment? found
      rw [split, List.mem_append, not_or] at noEquals
      exact noEquals.2 sign
    rw [List.mem_cons, not_or] at noEquals
    rw [fileTypesFrom_cons (by rw [nothing, ite_self]), ih noEquals.2]

theorem fileTypesFrom_text (a : Assignment) (ends : ∀ c ∈ rest.head?, isBlank c = true) :
    fileTypesFrom done false (a.text ++ rest) =
      fileTypesFrom (a.value :: done) (endsInWord a.value) rest := by
  have read := assignment?_text a ends
  cases whole : a.text ++ rest with
  | nil =>
    rw [whole] at read
    cases read
  | cons c cs =>
    rw [whole] at read
    rw [fileTypesFrom]
    split
    · next found =>
      rw [if_neg (by decide), read] at found
      cases found
      rfl
    · next found =>
      rw [if_neg (by decide), read] at found
      cases found

variable {as : List (Char × Assignment)}

/-- Behind an assignment there is a blank or nothing. -/
theorem isBlank_head?_assignments (blanks : ∀ x ∈ as, isBlank x.1 = true)
    (ends : ∀ c ∈ s.head?, isBlank c = true) :
    ∀ c ∈ (assignments as ++ s).head?, isBlank c = true := by
  cases as with
  | nil => exact ends
  | cons x as =>
    rintro _ ⟨⟩
    exact blanks x List.mem_cons_self

/-- Assignments are read one by one. -/
theorem fileTypesFrom_assignments (blanks : ∀ x ∈ as, isBlank x.1 = true) (noEquals : '=' ∉ s)
    (ends : ∀ c ∈ s.head?, isBlank c = true) :
    fileTypesFrom done inWord (assignments as ++ s) =
      done.reverse ++ as.map fun x => x.2.value := by
  induction as generalizing done inWord with
  | nil => rw [List.map_nil, List.append_nil]; exact fileTypesFrom_of_notMem noEquals
  | cons x as ih =>
    rw [List.forall_mem_cons] at blanks
    have split : assignments (x :: as) ++ s = x.1 :: (x.2.text ++ (assignments as ++ s)) := by
      simp only [assignments, List.flatMap_cons, List.cons_append, List.append_assoc]
    rw [split, fileTypesFrom_of_isBlank blanks.1,
      fileTypesFrom_text x.2 (isBlank_head?_assignments blanks.2 ends), ih blanks.2,
      List.reverse_cons, List.append_assoc, List.singleton_append, List.map_cons]

/-! ### Agreement -/

/-- Two values that are equal up to the case of ASCII letters. -/
def Same (v w : List Char) : Prop :=
  v.map Char.toLower = w.map Char.toLower

instance : Std.Symm Same :=
  ⟨fun _ _ h => Eq.symm h⟩

instance : Trans Same Same Same :=
  ⟨Eq.trans⟩

/-- If neighbours are equal, all values are. -/
theorem isChain_same_iff {vs : List (List Char)} :
    vs.IsChain Same ↔ ∀ v ∈ vs, ∀ w ∈ vs, Same v w := by
  rw [List.isChain_iff_pairwise]
  constructor
  · intro apart v hv w hw
    have reflexive : ∀ x ∈ vs, Same x x := fun x _ => Eq.refl (x.map Char.toLower)
    exact apart.forall_of_forall reflexive hv hw
  · intro all
    exact List.pairwise_of_forall_mem_list all

/-- Values that are all equal agree on the last of them. -/
theorem agreed_of_isChain {vs : List (List Char)} (chain : vs.IsChain Same) :
    agreed vs = vs.getLast? := by
  induction chain with
  | nil => rfl
  | singleton v => rfl
  | @cons_cons v w vs same _ ih =>
    have equal : eqIgnoringAsciiCase v w = true := beq_iff_eq.2 same
    rw [agreed, if_pos equal, ih, List.getLast?_cons_cons]

theorem agreed_of_not_isChain {vs : List (List Char)} (broken : ¬ vs.IsChain Same) :
    agreed vs = none := by
  induction vs using agreed.induct with
  | case1 => exact absurd .nil broken
  | case2 v => exact absurd (.singleton v) broken
  | case3 v w vs same ih =>
    rw [agreed, if_pos same]
    exact ih fun chain => broken (.cons_cons (beq_iff_eq.1 same) chain)
  | case4 v w vs other => rw [agreed, if_neg other]

/-! ### Lines -/

theorem lineFeed_notMem_text (a : Assignment) : '\n' ∉ a.text := by
  have inKey : ∀ key ∈ typeKeys, '\n' ∉ key := by decide +kernel
  have inValue : '\n' ∉ a.value := fun mem => absurd (a.value_chars _ mem) (by decide)
  simp only [Assignment.text, List.mem_append, List.mem_cons, not_or]
  exact ⟨inKey a.key a.key_mem, lineFeed_notMem_of_isPadding a.padding, by decide,
    lineFeed_notMem_of_isPadding a.padding', inValue⟩

theorem lineFeed_notMem_assignments (blanks : ∀ x ∈ as, isBlank x.1 = true ∧ x.1 ≠ '\n') :
    '\n' ∉ assignments as := by
  intro mem
  obtain ⟨x, member, inside⟩ := List.mem_flatMap.1 mem
  rcases List.mem_cons.1 inside with blank | inText
  · exact (blanks x member).2 blank.symm
  · exact lineFeed_notMem_text x.2 inText

/-- The values of all assignments of a line are read, in order. -/
theorem vimMode_append (first : Assignment) {more : List (Char × Assignment)} (noColon : ':' ∉ p)
    (blanks : ∀ x ∈ more, isBlank x.1 = true ∧ x.1 ≠ '\n') (noEquals : '=' ∉ s)
    (oneLine : '\n' ∉ s) (ends : ∀ c ∈ s.head?, isBlank c = true) :
    vimMode (p ++ " vim: set ".toList ++ (first.text ++ assignments more) ++ s) =
      agreed (first.value :: more.map fun x => x.2.value) := by
  let a := first.text ++ assignments more
  have inLine : '\n' ∉ "set ".toList ++ (a ++ s) := by
    simp only [a, List.mem_append, not_or]
    exact ⟨by decide, ⟨lineFeed_notMem_text first, lineFeed_notMem_assignments blanks⟩, oneLine⟩
  have blank : ∀ x ∈ more, isBlank x.1 = true := fun x mem => (blanks x mem).1
  have values : fileTypes ("set ".toList ++ (a ++ s)) =
      first.value :: more.map fun x => x.2.value := by
    show fileTypesFrom [] false ('s' :: 'e' :: 't' :: ' ' :: (a ++ s)) = _
    rw [fileTypesFrom_cons rfl, fileTypesFrom_cons rfl, fileTypesFrom_cons rfl,
      fileTypesFrom_of_isBlank (by decide), List.append_assoc,
      fileTypesFrom_text first (isBlank_head?_assignments blank ends),
      fileTypesFrom_assignments blank noEquals ends]
    rfl
  have split : p ++ " vim: set ".toList ++ a ++ s =
      p ++ " vim:".toList ++ (' ' :: ("set ".toList ++ (a ++ s))) := by
    simp [List.append_assoc]
  have behindBlank : (' ' :: ("set ".toList ++ (a ++ s))).dropWhile isBlank =
      "set ".toList ++ (a ++ s) := rfl
  rw [vimMode, split, vimOptions_append noColon, Option.bind_some, behindBlank,
    List.takeWhile_eq_self_iff.2 (ne_lineFeed_of_notMem inLine), values]

/-- **Vim modelines.**  In a line, some text without a colon, ` vim: set `, assignments of file
types with single blanks between them, and then nothing or a blank and something without an equals
sign.  If the values of the assignments are all equal up to the case of ASCII letters, the line
names the last of them; if not, it names none. -/
theorem vim_line (first : Assignment) (more : List (Char × Assignment)) (p s : List Char)
    (noColon : ':' ∉ p) (blanks : ∀ x ∈ more, isBlank x.1 = true ∧ x.1 ≠ '\n')
    (noEquals : '=' ∉ s) (oneLine : '\n' ∉ s) (ends : ∀ c ∈ s.head?, isBlank c = true) :
    let values := first.value :: more.map fun x => x.2.value
    let line := p ++ " vim: set ".toList ++ (first.text ++ assignments more) ++ s
    ((∀ v ∈ values, ∀ w ∈ values, v.map Char.toLower = w.map Char.toLower) →
      vimMode line = values.getLast?) ∧
    (¬ (∀ v ∈ values, ∀ w ∈ values, v.map Char.toLower = w.map Char.toLower) →
      vimMode line = none) := by
  intro values line
  have read : vimMode line = agreed values :=
    vimMode_append first noColon blanks noEquals oneLine ends
  rw [read]
  exact ⟨fun all => agreed_of_isChain (isChain_same_iff.2 all),
    fun some_differ => agreed_of_not_isChain (mt isChain_same_iff.1 some_differ)⟩

/-- The assignment `ft = X.Syntax`, with an ideographic space before the value. -/
def spacedType : Assignment :=
  ⟨"ft".toList, [' '], ['\u3000'], "X.Syntax".toList, by decide, by decide, by decide, by decide,
    List.all_iff_forall_prop.1 rfl⟩

/-- The assignment `syntax=x.syntax`. -/
def plainType : Assignment :=
  ⟨"syntax".toList, [], [], "x.syntax".toList, by decide, by decide, by decide, by decide,
    List.all_iff_forall_prop.1 rfl⟩

/-- The assignment `filetype=ft`. -/
def otherType : Assignment :=
  ⟨"filetype".toList, [], [], "ft".toList, by decide, by decide, by decide, by decide,
    List.all_iff_forall_prop.1 rfl⟩

theorem vim_line_syntax :
    ':' ∉ "# x=1".toList ∧ '=' ∉ " fold :".toList ∧ '\n' ∉ " fold :".toList ∧
    vimMode ("# x=1".toList ++ " vim: set ".toList ++
      (spacedType.text ++ assignments [('\t', plainType)]) ++ " fold :".toList) =
        some "x.syntax".toList ∧
    vimMode ("# x=1".toList ++ " vim: set ".toList ++
      (plainType.text ++ assignments [(' ', otherType), (' ', plainType)]) ++ " fold :".toList) =
        none := by
  have noColon : ':' ∉ "# x=1".toList := by decide
  have noEquals : '=' ∉ " fold :".toList := by decide
  have oneLine : '\n' ∉ " fold :".toList := by decide
  have ends : ∀ c ∈ " fold :".toList.head?, isBlank c = true := by
    rintro _ ⟨⟩
    decide
  refine ⟨noColon, noEquals, oneLine, ?_, ?_⟩
  · exact (vim_line spacedType [('\t', plainType)] _ _ noColon (by decide) noEquals oneLine ends).1
      (by decide)
  · exact (vim_line plainType [(' ', otherType), (' ', plainType)] _ _ noColon (by decide) noEquals
      oneLine ends).2 (by decide)

end LangBench.Modeline
