import LangBench.Proofs.Token.Reading
import Mathlib.Data.Bool.AllAny

/-!
# Tokens and identifiers

Identifiers with blanks, brackets and operators between them are found again among the tokens, and
all other tokens are made of what stands between them.  An operator takes underscores with it, so an
identifier that begins with one must not stand right behind an operator.

* `isSeparator`, `IsIdentifier`: what stands between identifiers, and identifiers;
* `isSeparator_cases`, `isIdentifier_start`: what a step takes that begins with either;
* `Spread`: identifiers, each behind its separator, and how they are written;
* `scan_spread`: the tokens of such a text, if no underscore is swallowed;
* `exists_swallowed`: the token that shows if one is;
* `identifiers`: exactly then the identifiers are found again.
-/

namespace LangBench

open Text

namespace Token

/-! ### Characters -/

/-- The operator characters that begin no comment. -/
def plainOperators : List Char :=
  ['=', '+', '*', '.', ',', ':', '!', '&', '|', '^', '~', '%', '?', '@', '>']

/-- Whether a character may stand between identifiers. -/
def isSeparator (c : Char) : Bool :=
  isBlank c || isBracket c || plainOperators.contains c

/-- Whether a character may stand in an identifier. -/
def isIdentifierChar (c : Char) : Bool :=
  c.isAlphanum || c == '_'

/-- Whether a text is a letter or an underscore and then letters, digits and underscores, all of
ASCII. -/
def IsIdentifier (w : List Char) : Prop :=
  ∃ c cs, w = c :: cs ∧ (c.isAlpha = true ∨ c = '_') ∧ ∀ d ∈ cs, isIdentifierChar d = true

instance : DecidablePred IsIdentifier
  | [] => isFalse (by rintro ⟨c, cs, ⟨⟩, -⟩)
  | c :: cs => decidable_of_iff
      ((c.isAlpha = true ∨ c = '_') ∧ cs.all isIdentifierChar = true)
      (by simp [IsIdentifier])

variable {c : Char}

/-- The code points of white space, one by one. -/
def blankCodes : List Nat :=
  [0x9, 0xA, 0xB, 0xC, 0xD, 0x20, 0x85, 0xA0, 0x1680, 0x2000, 0x2001, 0x2002, 0x2003, 0x2004,
    0x2005, 0x2006, 0x2007, 0x2008, 0x2009, 0x200A, 0x2028, 0x2029, 0x202F, 0x205F, 0x3000]

theorem toNat_mem_blankCodes (h : isBlank c = true) : c.toNat ∈ blankCodes := by
  simp only [isBlank, blankRanges, inRanges, Bool.and_eq_true, Bool.or_eq_true, Bool.false_eq_true,
    decide_eq_true_eq, or_false] at h
  simp only [blankCodes, List.mem_cons, List.not_mem_nil, or_false]
  omega

/-- White space stands in no word, is no operator and begins no comment. -/
theorem isBlank_char (h : isBlank c = true) :
    isWordPart c = false ∧ isOperatorChar c = false ∧ isPlain c = true := by
  have checked : ∀ n ∈ blankCodes, isWordPart (Char.ofNat n) = false ∧
      isOperatorChar (Char.ofNat n) = false ∧ isPlain (Char.ofNat n) = true := by
    decide +kernel
  have here := checked _ (toNat_mem_blankCodes h)
  rwa [Char.ofNat_toNat] at here

theorem isBracket_char (h : isBracket c = true) : isBlank c = false ∧ c.isDigit = false ∧
    isWordStart c = false ∧ isWordPart c = false ∧ isOperatorChar c = false ∧
      isPlain c = true := by
  have checked : ∀ d ∈ ['(', ')', '[', ']', '{', '}', ';'], isBlank d = false ∧
      d.isDigit = false ∧ isWordStart d = false ∧ isWordPart d = false ∧
        isOperatorChar d = false ∧ isPlain d = true :=
    List.all_iff_forall_prop.1 (by decide +kernel)
  exact checked c (List.contains_iff_mem.1 h)

theorem plainOperators_char (h : c ∈ plainOperators) : isBlank c = false ∧ c.isDigit = false ∧
    isWordStart c = false ∧ isWordPart c = false ∧ isBracket c = false ∧
      isOperatorChar c = true ∧ isAsciiPunct c = true ∧ isPlain c = true := by
  have checked : ∀ d ∈ plainOperators, isBlank d = false ∧ d.isDigit = false ∧
      isWordStart d = false ∧ isWordPart d = false ∧ isBracket d = false ∧
        isOperatorChar d = true ∧ isAsciiPunct d = true ∧ isPlain d = true :=
    List.all_iff_forall_prop.1 (by decide +kernel)
  exact checked c h

/-- A separator takes nothing with it, or it is an operator character and takes all others. -/
theorem isSeparator_cases (h : isSeparator c = true) :
    (isOperatorChar c = false ∧ inside c = fun _ => false) ∨
      (isOperatorChar c = true ∧ inside c = isOperatorChar ∧
        ∀ part, begun c part = some (.operator (c :: part))) := by
  rw [isSeparator, Bool.or_eq_true, Bool.or_eq_true, List.contains_iff_mem] at h
  rcases h with (blank | bracket) | operator
  · exact .inl ⟨(isBlank_char blank).2.1, by simp [inside, blank]⟩
  · obtain ⟨blank, digit, word, -, operator, -⟩ := isBracket_char bracket
    exact .inl ⟨operator, by simp [inside, blank, digit, word, bracket]⟩
  · obtain ⟨blank, digit, word, -, bracket, operator, punct, -⟩ := plainOperators_char operator
    refine .inr ⟨operator, ?_, fun part => ?_⟩
    · simp [inside, blank, digit, word, bracket, punct]
    · simp [begun, blank, digit, word, bracket, punct]

theorem isSeparator_char (h : isSeparator c = true) :
    isWordPart c = false ∧ isPlain c = true := by
  rw [isSeparator, Bool.or_eq_true, Bool.or_eq_true, List.contains_iff_mem] at h
  rcases h with (blank | bracket) | operator
  · exact ⟨(isBlank_char blank).1, (isBlank_char blank).2.2⟩
  · obtain ⟨-, -, -, word, -, plain⟩ := isBracket_char bracket
    exact ⟨word, plain⟩
  · obtain ⟨-, -, -, word, -, -, -, plain⟩ := plainOperators_char operator
    exact ⟨word, plain⟩

/-- Letters and digits of ASCII by their code points. -/
theorem isAlphanum_eq (c : Char) : c.isAlphanum =
    (decide (0x41 ≤ c.toNat ∧ c.toNat ≤ 0x5A) ||
      decide (0x61 ≤ c.toNat) && decide (c.toNat ≤ 0x7A) ||
      decide (0x30 ≤ c.toNat) && decide (c.toNat ≤ 0x39)) :=
  rfl

theorem toNat_lt_of_isIdentifierChar (h : isIdentifierChar c = true) : c.toNat < 128 := by
  simp only [isIdentifierChar, isAlphanum_eq, Bool.or_eq_true, Bool.and_eq_true,
    decide_eq_true_eq, beq_iff_eq] at h
  rcases h with h | rfl
  · omega
  · decide

/-- Characters of identifiers stand in words, between no two of them, and begin no comment; the
underscore alone is an operator character. -/
theorem isIdentifierChar_char (h : isIdentifierChar c = true) :
    isWordPart c = true ∧ isSeparator c = false ∧ isPlain c = true ∧
      (isOperatorChar c = true → c = '_') := by
  have checked : ∀ n < 128, isIdentifierChar (Char.ofNat n) = true →
      isWordPart (Char.ofNat n) = true ∧ isSeparator (Char.ofNat n) = false ∧
        isPlain (Char.ofNat n) = true ∧
        (isOperatorChar (Char.ofNat n) = true → Char.ofNat n = '_') := by
    decide +kernel
  have here := checked _ (toNat_lt_of_isIdentifierChar h)
  rw [Char.ofNat_toNat] at here
  exact here h

/-- What a step takes that begins an identifier. -/
theorem isIdentifier_start (h : c.isAlpha = true ∨ c = '_') :
    isIdentifierChar c = true ∧ inside c = isWordPart ∧
      ∀ part, begun c part = some (.word (c :: part)) := by
  have char : isIdentifierChar c = true := by
    rcases h with letter | rfl
    · simp [isIdentifierChar, Char.isAlphanum, letter]
    · decide
  have checked : ∀ n < 128, (Char.ofNat n).isAlpha = true ∨ Char.ofNat n = '_' →
      isBlank (Char.ofNat n) = false ∧ (Char.ofNat n).isDigit = false ∧
        isWordStart (Char.ofNat n) = true := by
    decide +kernel
  have here := checked _ (toNat_lt_of_isIdentifierChar char)
  rw [Char.ofNat_toNat] at here
  obtain ⟨blank, digit, word⟩ := here h
  refine ⟨char, ?_, fun part => ?_⟩
  · simp [inside, blank, digit, word]
  · simp [begun, blank, digit, word]

/-! ### Identifiers behind separators -/

/-- The text in which each identifier stands behind its separator. -/
def spelled (xs : List (List Char × List Char)) : List Char :=
  xs.flatMap fun x => x.1 ++ x.2

/-- Separators with identifiers.  Only the first separator may be empty. -/
structure Spread (xs : List (List Char × List Char)) : Prop where
  separator : ∀ x ∈ xs, ∀ c ∈ x.1, isSeparator c = true
  identifier : ∀ x ∈ xs, IsIdentifier x.2
  nonempty : ∀ x ∈ xs.tail, x.1 ≠ []

theorem spread_iff (xs : List (List Char × List Char)) : Spread xs ↔
    (xs.all fun x => x.1.all isSeparator && decide (IsIdentifier x.2)) = true ∧
      (xs.tail.all fun x => !x.1.isEmpty) = true := by
  simp only [List.all_eq_true, Bool.and_eq_true, decide_eq_true_eq, Bool.not_eq_true',
    List.isEmpty_eq_false_iff]
  constructor
  · intro h
    exact ⟨fun x mem => ⟨h.separator x mem, h.identifier x mem⟩, h.nonempty⟩
  · rintro ⟨pairs, nonempty⟩
    exact ⟨fun x mem => (pairs x mem).1, fun x mem => (pairs x mem).2, nonempty⟩

instance : DecidablePred Spread := fun xs => decidable_of_iff _ (spread_iff xs).symm

/-- Whether an identifier that begins with an underscore stands right behind an operator. -/
def Swallowed (x : List Char × List Char) : Prop :=
  x.2.head? = some '_' ∧ x.1.getLast?.any isOperatorChar = true

instance : DecidablePred Swallowed := fun x =>
  inferInstanceAs (Decidable (x.2.head? = some '_' ∧ x.1.getLast?.any isOperatorChar = true))

variable {s w r : List Char} {lineStart lineStart' : Bool}

theorem plain_of_separators (h : ∀ c ∈ s, isSeparator c = true) : ∀ c ∈ s, isPlain c = true :=
  fun c mem => (isSeparator_char (h c mem)).2

theorem IsIdentifier.chars (h : IsIdentifier w) : ∀ c ∈ w, isIdentifierChar c = true := by
  obtain ⟨c, cs, rfl, start, rest⟩ := h
  exact List.forall_mem_cons.2 ⟨(isIdentifier_start start).1, rest⟩

theorem IsIdentifier.plain (h : IsIdentifier w) : ∀ c ∈ w, isPlain c = true :=
  fun c mem => (isIdentifierChar_char (h.chars c mem)).2.2.1

/-- In a plain text no line matters. -/
theorem scanAt_of_plain {cs : List Char} (plain : ∀ c ∈ cs, isPlain c = true) (lineStart : Bool) :
    scanAt lineStart cs = scan cs := by
  refine scanAt_of_not_mark ?_ lineStart true
  rintro ⟨rest, rfl⟩
  exact absurd (plain '#' (by simp)) (by decide)

/-- An identifier is found as a whole, in front of what stands in no word. -/
theorem scanAt_identifier (identifier : IsIdentifier w)
    (stops : ∀ d ∈ r.head?, isWordPart d = false) (lineStart : Bool) :
    ∃ lineStart', scanAt lineStart (w ++ r) = .word w :: scanAt lineStart' r := by
  obtain ⟨c, cs, rfl, start, rest⟩ := identifier
  obtain ⟨char, takes, begins⟩ := isIdentifier_start start
  have plain : isPlain c = true := (isIdentifierChar_char char).2.2.1
  have all : ∀ d ∈ cs, isWordPart d = true := fun d mem => (isIdentifierChar_char (rest d mem)).1
  refine ⟨c == '\n', ?_⟩
  obtain ⟨taken, left⟩ := takeWhile_append_of_apart all stops
  rw [List.cons_append, scanAt_cons, step_of_plain plain, takes, begins, taken, left]
  rfl

/-- The last step in a separator takes an operator if and only if it ends with one. -/
theorem EndsIn.isOperatorChar_last (separator : ∀ d ∈ s, isSeparator d = true)
    {found : List Token} {tail : List Char} (h : EndsIn lineStart s found lineStart' c tail) :
    ∃ o ∈ s.getLast?, isOperatorChar o = isOperatorChar c := by
  have inner := h.inside_of_mem (plain_of_separators separator)
  have head : isSeparator c = true := separator c (h.suffix.subset List.mem_cons_self)
  refine ⟨_, h.getLast?_eq, ?_⟩
  rcases isSeparator_cases head with ⟨-, takes⟩ | ⟨operator, takes, -⟩
  · cases tail with
    | nil => rfl
    | cons d tail =>
      have taken := inner d List.mem_cons_self
      rw [takes] at taken
      cases taken
  · rw [takes] at inner
    have all : ∀ d ∈ c :: tail, isOperatorChar d = true :=
      List.forall_mem_cons.2 ⟨operator, inner⟩
    rw [operator]
    exact all _ (List.getLast_mem _)

/-- A separator is read apart from the identifier behind it, if no underscore is swallowed. -/
theorem scan_separator (separator : ∀ c ∈ s, isSeparator c = true) (identifier : IsIdentifier w)
    (kept : ¬ Swallowed (s, w)) (r : List Char) :
    ∃ lineStart, scan (s ++ (w ++ r)) = scan s ++ scanAt lineStart (w ++ r) := by
  obtain ⟨d, ds, rfl, start, -⟩ := identifier
  refine scanAt_append_of_apart (plain_of_separators separator) fun {found _ c tail} ends => ?_
  rintro _ ⟨⟩
  have head : isSeparator c = true := separator c (ends.suffix.subset List.mem_cons_self)
  rcases isSeparator_cases head with ⟨-, takes⟩ | ⟨operator, takes, -⟩
  · rw [takes]
  · rw [takes, Bool.eq_false_iff]
    intro taken
    obtain ⟨o, last, same⟩ := ends.isOperatorChar_last separator
    have underscore := (isIdentifierChar_char (isIdentifier_start start).1).2.2.2 taken
    exact kept ⟨congrArg some underscore, (Option.any_eq_true _ _).2 ⟨o, last, same.trans operator⟩⟩

/-- An operator swallows the underscore behind it. -/
theorem exists_swallowed (separator : ∀ c ∈ s, isSeparator c = true)
    (swallowed : Swallowed (s, w)) (r : List Char) :
    ∃ t ∈ scan (s ++ (w ++ r)), '_' ∈ t.text ∧ ∃ o ∈ t.text, isSeparator o = true := by
  obtain ⟨underscore, last⟩ := swallowed
  obtain ⟨o, last, operator⟩ := (Option.any_eq_true _ _).1 last
  obtain ⟨cs, rfl⟩ := List.head?_eq_some_iff.1 underscore
  have nonempty : s ≠ [] := by
    rintro rfl
    cases last
  obtain ⟨found, lineStart, c, tail, ends⟩ := exists_endsIn nonempty true
  have head : isSeparator c = true := separator c (ends.suffix.subset List.mem_cons_self)
  obtain ⟨o', last', same⟩ := ends.isOperatorChar_last separator
  obtain rfl := Option.some.inj (last.symm.trans last')
  rcases isSeparator_cases head with ⟨notOperator, -⟩ | ⟨-, takes, begins⟩
  · rw [operator, notOperator] at same
    cases same
  · have taken : isOperatorChar '_' = true := by decide
    have tokens := ends.scanAt_append (plain_of_separators separator) ('_' :: cs ++ r)
    rw [takes, begins, List.cons_append, List.takeWhile_cons_of_pos taken] at tokens
    refine ⟨.operator (c :: (tail ++ '_' :: (cs ++ r).takeWhile isOperatorChar)), ?_, ?_, c, ?_,
      head⟩
    · rw [scan, List.cons_append, tokens]
      simp
    · simp [text]
    · simp [text]

/-- An identifier and the separator before it, in front of more. -/
theorem scan_pair (separator : ∀ c ∈ s, isSeparator c = true) (identifier : IsIdentifier w)
    (kept : ¬ Swallowed (s, w)) (plain : ∀ c ∈ r, isPlain c = true)
    (stops : ∀ d ∈ r.head?, isWordPart d = false) :
    scan (s ++ (w ++ r)) = scan s ++ .word w :: scan r := by
  obtain ⟨lineStart, apart⟩ := scan_separator separator identifier kept r
  obtain ⟨lineStart', whole⟩ := scanAt_identifier identifier stops lineStart
  rw [apart, whole, scanAt_of_plain plain]

/-! ### Texts of identifiers -/

section Spelled

variable {x : List Char × List Char} {xs : List (List Char × List Char)} {last : List Char}

theorem spelled_cons (x : List Char × List Char) (xs : List (List Char × List Char))
    (last : List Char) : spelled (x :: xs) ++ last = x.1 ++ (x.2 ++ (spelled xs ++ last)) := by
  simp only [spelled, List.flatMap_cons, List.append_assoc]

theorem Spread.tail (h : Spread (x :: xs)) : Spread xs where
  separator := fun y mem => h.separator y (List.mem_cons_of_mem x mem)
  identifier := fun y mem => h.identifier y (List.mem_cons_of_mem x mem)
  nonempty := fun y mem => h.nonempty y (List.mem_of_mem_tail mem)

theorem Spread.plain (h : Spread xs) (end_ : ∀ c ∈ last, isSeparator c = true) :
    ∀ c ∈ spelled xs ++ last, isPlain c = true := by
  intro c mem
  rw [List.mem_append, spelled, List.mem_flatMap] at mem
  rcases mem with ⟨y, member, here⟩ | here
  · rcases List.mem_append.1 here with inner | inner
    · exact plain_of_separators (h.separator y member) c inner
    · exact (h.identifier y member).plain c inner
  · exact plain_of_separators end_ c here

/-- Behind an identifier stands a separator. -/
theorem Spread.stops (h : Spread (x :: xs)) (end_ : ∀ c ∈ last, isSeparator c = true) :
    ∀ d ∈ (spelled xs ++ last).head?, isWordPart d = false := by
  intro d head
  refine (isSeparator_char ?_).1
  cases xs with
  | nil => exact end_ d (List.mem_of_mem_head? head)
  | cons y xs =>
    have nonempty : y.1 ≠ [] := h.nonempty y List.mem_cons_self
    obtain ⟨c, cs, first⟩ := List.exists_cons_of_ne_nil nonempty
    rw [spelled_cons, first] at head
    obtain rfl : c = d := Option.some.inj head
    exact h.separator y (by simp) c (by rw [first]; exact List.mem_cons_self)

/-- The tokens of separators and identifiers, if no underscore is swallowed. -/
theorem scan_spread (h : Spread xs) (end_ : ∀ c ∈ last, isSeparator c = true)
    (kept : ∀ x ∈ xs, ¬ Swallowed x) :
    scan (spelled xs ++ last) = (xs.flatMap fun x => scan x.1 ++ [.word x.2]) ++ scan last := by
  induction xs with
  | nil => rfl
  | cons x xs ih =>
    rw [List.forall_mem_cons] at kept
    rw [spelled_cons, scan_pair (h.separator x List.mem_cons_self)
      (h.identifier x List.mem_cons_self) kept.1 (h.tail.plain end_) (h.stops end_),
      ih h.tail kept.2, List.flatMap_cons]
    simp only [List.append_assoc, List.cons_append, List.nil_append]

/-- A token in which an underscore is swallowed. -/
theorem Spread.exists_swallowed (h : Spread xs) (end_ : ∀ c ∈ last, isSeparator c = true)
    (swallowed : ∃ x ∈ xs, Swallowed x) :
    ∃ t ∈ scan (spelled xs ++ last), '_' ∈ t.text ∧ ∃ o ∈ t.text, isSeparator o = true := by
  induction xs with
  | nil =>
    obtain ⟨x, mem, -⟩ := swallowed
    cases mem
  | cons x xs ih =>
    rw [spelled_cons]
    by_cases here : Swallowed x
    · exact Token.exists_swallowed (h.separator x List.mem_cons_self) here _
    · rw [List.exists_mem_cons_iff, or_iff_right here] at swallowed
      obtain ⟨t, mem, found⟩ := ih h.tail swallowed
      rw [scan_pair (h.separator x List.mem_cons_self) (h.identifier x List.mem_cons_self) here
        (h.tail.plain end_) (h.stops end_)]
      exact ⟨t, List.mem_append_right _ (List.mem_cons_of_mem _ mem), found⟩

end Spelled

/-! ### Tokens between identifiers -/

/-- Tokens of a separator are made of what may stand between identifiers. -/
theorem all_isSeparator_of_mem_scan (separator : ∀ c ∈ s, isSeparator c = true) {t : Token}
    (found : t ∈ scan s) : t.text.all isSeparator = true :=
  List.all_eq_true.2 fun d mem =>
    separator d (mem_of_mem_scanAt (plain_of_separators separator) found d mem)

theorem filter_scan_separator (separator : ∀ c ∈ s, isSeparator c = true) :
    (scan s).filter (fun t => !t.text.all isSeparator) = [] :=
  List.filter_eq_nil_iff.2 fun t found => by
    simp [all_isSeparator_of_mem_scan separator found]

theorem IsIdentifier.not_all_isSeparator (h : IsIdentifier w) : w.all isSeparator = false := by
  obtain ⟨c, cs, rfl, start, -⟩ := h
  rw [List.all_cons, (isIdentifierChar_char (isIdentifier_start start).1).2.1, Bool.false_and]

/-- The tokens that are not made of what stands between identifiers. -/
theorem filter_scan_spread {xs : List (List Char × List Char)} {last : List Char} (h : Spread xs)
    (end_ : ∀ c ∈ last, isSeparator c = true) (kept : ∀ x ∈ xs, ¬ Swallowed x) :
    (scan (spelled xs ++ last)).filter (fun t => !t.text.all isSeparator) =
      xs.map fun x => .word x.2 := by
  rw [scan_spread h end_ kept, List.filter_append, filter_scan_separator end_, List.append_nil]
  induction xs with
  | nil => rfl
  | cons x xs ih =>
    have word : [Token.word x.2].filter (fun t => !t.text.all isSeparator) = [.word x.2] := by
      rw [List.filter_singleton, text, (h.identifier x List.mem_cons_self).not_all_isSeparator]
      rfl
    rw [List.flatMap_cons, List.filter_append, List.filter_append, word,
      filter_scan_separator (h.separator x List.mem_cons_self),
      ih h.tail fun y mem => kept y (List.mem_cons_of_mem x mem)]
    rfl

end Token

/-- **Identifiers.**  In a text of identifiers with blanks, brackets and operators between them, the
tokens that are not made of these alone are exactly the identifiers, each as a whole and in order,
if and only if no identifier that begins with an underscore stands right behind an operator. -/
theorem identifiers {xs : List (List Char × List Char)} {last : List Char} (h : Token.Spread xs)
    (end_ : ∀ c ∈ last, Token.isSeparator c = true)
    (read : (Utf8.encode (Token.spelled xs ++ last)).length ≤ 100000) :
    (tokenize (Utf8.encode (Token.spelled xs ++ last))).filter
        (fun t => !t.toList.all Token.isSeparator) = xs.map (fun x => String.ofList x.2) ↔
      ∀ x ∈ xs, ¬ Token.Swallowed x := by
  have tokens : (tokenize (Utf8.encode (Token.spelled xs ++ last))).filter
        (fun t => !t.toList.all Token.isSeparator) =
      ((Token.scan (Token.spelled xs ++ last)).filter
        (fun t => !t.text.all Token.isSeparator)).map fun t => String.ofList t.text := by
    rw [tokenize_encode read, List.filter_map]
    simp only [Function.comp_def, String.toList_ofList]
  rw [tokens]
  constructor
  · intro same
    by_contra swallowed
    have swallowed : ∃ x ∈ xs, Token.Swallowed x := by
      simpa only [not_forall, not_not, exists_prop] using swallowed
    obtain ⟨t, found, underscore, o, mem, separator⟩ := h.exists_swallowed end_ swallowed
    have mixed : (!t.text.all Token.isSeparator) = true := by
      rw [Bool.not_eq_true', List.all_eq_false]
      exact ⟨'_', underscore, by decide⟩
    have listed : String.ofList t.text ∈ xs.map fun x => String.ofList x.2 := by
      rw [← same]
      exact List.mem_map_of_mem (List.mem_filter.2 ⟨found, mixed⟩)
    obtain ⟨x, member, spelling⟩ := List.mem_map.1 listed
    rw [← String.ofList_injective spelling] at mem
    have char := (h.identifier x member).chars o mem
    rw [(Token.isIdentifierChar_char char).2.1] at separator
    cases separator
  · intro kept
    rw [Token.filter_scan_spread h end_ kept, List.map_map]
    rfl

/-- Identifiers that begin with an underscore, behind a blank and behind a bracket. -/
theorem identifiers_apart :
    let xs := [([], "foo".toList), (" += ".toList, "_x1".toList), ("(".toList, "_".toList)]
    Token.Spread xs ∧ (∀ c ∈ ");\n".toList, Token.isSeparator c = true) ∧
    (Utf8.encode (Token.spelled xs ++ ");\n".toList)).length ≤ 100000 ∧
    (tokenize (Utf8.encode (Token.spelled xs ++ ");\n".toList))).filter
        (fun t => !t.toList.all Token.isSeparator) = ["foo", "_x1", "_"] := by
  intro xs
  have spread : Token.Spread xs := by decide +kernel
  have end_ : ∀ c ∈ ");\n".toList, Token.isSeparator c = true :=
    List.all_eq_true.1 (by decide +kernel)
  have read : (Utf8.encode (Token.spelled xs ++ ");\n".toList)).length ≤ 100000 := by
    decide +kernel
  have kept : ∀ x ∈ xs, ¬ Token.Swallowed x := by decide +kernel
  exact ⟨spread, end_, read, (identifiers spread end_ read).2 kept⟩

/-- An operator takes the underscore of the identifier right behind it. -/
theorem identifiers_glued :
    let xs := [([], ['a']), (['='], ['_', 'b'])]
    Token.Spread xs ∧ (Utf8.encode (Token.spelled xs)).length ≤ 100000 ∧
    tokenize (Utf8.encode (Token.spelled xs)) = ["a", "=_", "b"] ∧
    (tokenize (Utf8.encode (Token.spelled xs))).filter
      (fun t => !t.toList.all Token.isSeparator) ≠ xs.map fun x => String.ofList x.2 := by
  intro xs
  have spread : Token.Spread xs := by decide +kernel
  have tokens : tokenize (Utf8.encode (Token.spelled xs)) = ["a", "=_", "b"] := by decide +kernel
  exact ⟨spread, by decide +kernel, tokens, by rw [tokens]; decide +kernel⟩

end LangBench
