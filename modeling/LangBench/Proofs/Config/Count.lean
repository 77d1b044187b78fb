import Mathlib.Algebra.Group.Nat.Defs
import LangBench.Config
import LangBench.Proofs.Text.Trim

/-!
# Counts on the command line

A count is read digit by digit and given up as soon as it is too large.  Digits only make a number
larger, so this is the case exactly if the whole number is too large, however many zeros it begins
with.

* `IsDecimal`: the texts of a number, without or with a plus sign; `Spells` allows blanks around it;
* `foldlM_appendDigit?`: reading digits behind a number;
* `parseCount?_eq_some_iff`, `parseCount?_trim_eq_some_iff`: which texts are read as which numbers;
* `count_argument`: the number that an argument asks for.
-/

namespace LangBench

open Text

/-- The texts of a number: its decimal digits, with any number of zeros in front, and a plus sign
in front of all that or not. -/
inductive IsDecimal : List Char → Nat → Prop
  | plain {digits : List Char} (some : digits ≠ []) (decimal : ∀ c ∈ digits, c.isDigit = true) :
      IsDecimal digits (Nat.ofDigitChars 10 digits 0)
  | signed {digits : List Char} (some : digits ≠ []) (decimal : ∀ c ∈ digits, c.isDigit = true) :
      IsDecimal ('+' :: digits) (Nat.ofDigitChars 10 digits 0)

/-- The texts of a number with blanks around them. -/
def Spells (cs : List Char) (n : Nat) : Prop :=
  ∃ core, IsPadded core cs ∧ IsDecimal core n

variable {cs core digits : List Char} {m n : Nat}

theorem iterationLimit_eq : iterationLimit = 2 ^ 64 := rfl

/-! ### Digits -/

/-- More digits do not make a number smaller. -/
theorem le_ofDigitChars (digits : List Char) (n : Nat) : n ≤ Nat.ofDigitChars 10 digits n := by
  rw [Nat.ofDigitChars_eq_ofDigitChars_zero]
  have longer : n ≤ 10 ^ digits.length * n :=
    Nat.le_mul_of_pos_left n (Nat.pow_pos (by decide))
  omega

/-- Reading digits behind a number that is not too large.  A number that gets too large on the way
stays so, which is why only the last one counts. -/
theorem foldlM_appendDigit? (below : n < iterationLimit) :
    digits.foldlM appendDigit? n = some m ↔ (∀ c ∈ digits, c.isDigit = true) ∧
      Nat.ofDigitChars 10 digits n = m ∧ m < iterationLimit := by
  induction digits generalizing n with
  | nil =>
    simp only [List.foldlM_nil, Option.pure_def, Option.some.injEq, List.not_mem_nil,
      false_imp_iff, implies_true, true_and, Nat.ofDigitChars_nil]
    exact ⟨fun same => ⟨same, same ▸ below⟩, And.left⟩
  | cons c digits ih =>
    rw [List.foldlM_cons, Nat.ofDigitChars_cons, List.forall_mem_cons, appendDigit?]
    have later := le_ofDigitChars digits (10 * n + (c.toNat - '0'.toNat))
    by_cases digit : c.isDigit = true
    · by_cases fits : 10 * n + (c.toNat - '0'.toNat) < iterationLimit
      · rw [if_pos ⟨digit, fits⟩]
        simp only [Option.bind_eq_bind, Option.bind_some, ih fits, digit, true_and]
      · rw [if_neg fun both => fits both.2]
        simp only [Option.bind_eq_bind, Option.bind_none, reduceCtorEq, false_iff]
        rintro ⟨-, rfl, small⟩
        exact fits (later.trans_lt small)
    · rw [if_neg fun both => digit both.1]
      simp [digit]

/-! ### Signs and blanks -/

theorem eq_dropPlus_or (cs : List Char) : cs = dropPlus cs ∨ cs = '+' :: dropPlus cs := by
  rw [dropPlus.eq_def]
  split
  · exact .inr rfl
  · exact .inl rfl

/-- There is nothing to drop in front of digits. -/
theorem dropPlus_of_isDigit (decimal : ∀ c ∈ digits, c.isDigit = true) :
    dropPlus digits = digits := by
  rw [dropPlus.eq_def]
  split
  · exact absurd (decimal '+' List.mem_cons_self) (by decide)
  · rfl

/-- What is read as a number, in terms of the text behind its sign. -/
theorem parseCount?_eq_some_iff_dropPlus : parseCount? cs = some n ↔ dropPlus cs ≠ [] ∧
    (∀ c ∈ dropPlus cs, c.isDigit = true) ∧ Nat.ofDigitChars 10 (dropPlus cs) 0 = n ∧
      n < iterationLimit := by
  rw [parseCount?]
  cases dropPlus cs with
  | nil => simp
  | cons c digits =>
    rw [← foldlM_appendDigit? (by decide)]
    simp

/-- A text is read as a number exactly if it is a text of the number, which is not too large. -/
theorem parseCount?_eq_some_iff :
    parseCount? cs = some n ↔ IsDecimal cs n ∧ n < iterationLimit := by
  rw [parseCount?_eq_some_iff_dropPlus]
  constructor
  · rintro ⟨some, decimal, rfl, small⟩
    refine ⟨?_, small⟩
    rcases eq_dropPlus_or cs with same | signed
    · rw [← same] at some decimal ⊢
      exact .plain some decimal
    · rw [signed]
      exact .signed some decimal
  · rintro ⟨⟨some, decimal⟩ | ⟨some, decimal⟩, small⟩
    · rw [dropPlus_of_isDigit decimal]
      exact ⟨some, decimal, rfl, small⟩
    · exact ⟨some, decimal, rfl, small⟩

theorem IsDecimal.ne_nil (h : IsDecimal core n) : core ≠ [] := by
  cases h with
  | plain some _ => exact some
  | signed => exact List.cons_ne_nil _ _

theorem IsDecimal.noBlank (h : IsDecimal core n) : ∀ c ∈ core, isBlank c = false := by
  cases h with
  | plain _ decimal => exact fun c mem => isBlank_of_isDigit (decimal c mem)
  | signed _ decimal =>
    rw [List.forall_mem_cons]
    exact ⟨by decide, fun c mem => isBlank_of_isDigit (decimal c mem)⟩

/-- Trimming leaves the text of a number exactly if there are only blanks around it. -/
theorem isDecimal_trim_iff : IsDecimal (trim cs) n ↔ Spells cs n := by
  constructor
  · exact fun decimal => ⟨trim cs, isPadded_trim cs, decimal⟩
  · rintro ⟨core, padded, decimal⟩
    rwa [trim_eq_of_isPadded padded decimal.ne_nil decimal.noBlank]

theorem parseCount?_trim_eq_some_iff :
    parseCount? (trim cs) = some n ↔ Spells cs n ∧ n < 2 ^ 64 := by
  rw [parseCount?_eq_some_iff, isDecimal_trim_iff, iterationLimit_eq]

/-- The decimal text of a number is one of its texts. -/
theorem isDecimal_toString (n : Nat) : IsDecimal (toString n).toList n := by
  have decimal : IsDecimal (Nat.toDigits 10 n) (Nat.ofDigitChars 10 (Nat.toDigits 10 n) 0) :=
    .plain Nat.toDigits_ne_nil fun c mem => Nat.isDigit_of_mem_toDigits (by decide) (by decide) mem
  rwa [Nat.ofDigitChars_ten_toDigits, ← Nat.toList_repr] at decimal

theorem parseIterations_of_spells {s : String} (spelled : Spells s.toList n) (small : n < 2 ^ 64) :
    parseIterations (some s) = n := by
  have read := parseCount?_trim_eq_some_iff.2 ⟨spelled, small⟩
  rw [parseIterations, Option.bind_some, read, Option.getD_some]

/-- **The count of an argument.**  A text that is, up to blanks around it, an optional plus sign and
decimal digits, with any number of zeros in front, asks for their number if this is below `2 ^ 64`;
any other text asks for one.  In particular the decimal text of each such number, with any blanks
around it, asks for the number. -/
theorem count_argument :
    (∀ (s : String) (n : Nat), Spells s.toList n → n < 2 ^ 64 → parseIterations (some s) = n) ∧
    (∀ s : String, (∀ n, Spells s.toList n → 2 ^ 64 ≤ n) → parseIterations (some s) = 1) ∧
    ∀ (n : Nat) (s : String), n < 2 ^ 64 → IsPadded (toString n).toList s.toList →
      parseIterations (some s) = n := by
  refine ⟨fun s n => parseIterations_of_spells, ?_, ?_⟩
  · intro s large
    have unread : parseCount? (trim s.toList) = none := by
      rw [Option.eq_none_iff_forall_ne_some]
      intro n read
      obtain ⟨spelled, small⟩ := parseCount?_trim_eq_some_iff.1 read
      exact absurd small (large n spelled).not_gt
    rw [parseIterations, Option.bind_some, unread, Option.getD_none]
    rfl
  · intro n s small padded
    exact parseIterations_of_spells ⟨_, padded, isDecimal_toString n⟩ small

/-- The greatest count with a blank, a plus sign and a zero in front; the number after it; and the
greatest count as it is printed, in front of a tabulator. -/
theorem count_argument_limit :
    Spells "\u3000+018446744073709551615".toList (2 ^ 64 - 1) ∧
    parseIterations (some "\u3000+018446744073709551615") = 2 ^ 64 - 1 ∧
    (∀ n, Spells "18446744073709551616".toList n → 2 ^ 64 ≤ n) ∧
    parseIterations (some "18446744073709551616") = 1 ∧
    IsPadded (toString (2 ^ 64 - 1)).toList "18446744073709551615\t".toList ∧
    parseIterations (some "18446744073709551615\t") = 2 ^ 64 - 1 := by
  obtain ⟨counted, uncounted, printed⟩ := count_argument
  have spelled : Spells "\u3000+018446744073709551615".toList (2 ^ 64 - 1) := by
    refine ⟨'+' :: "018446744073709551615".toList, ?_, ?_⟩
    · exact @IsPadded.intro _ ['\u3000'] [] (List.all_eq_true.1 (by decide)) (by simp)
    · exact .signed (by decide) (List.all_eq_true.1 (by decide))
  have large : ∀ n, Spells "18446744073709551616".toList n → 2 ^ 64 ≤ n := by
    intro n spelled
    have trimmed : trim "18446744073709551616".toList = "18446744073709551616".toList := by
      decide +kernel
    rw [← isDecimal_trim_iff, trimmed] at spelled
    generalize text : "18446744073709551616".toList = cs at spelled
    cases spelled with
    | plain =>
      rw [← text]
      decide
    | signed =>
      have sign : "18446744073709551616".toList.head? = some '+' := congrArg List.head? text
      exact absurd sign (by decide)
  have padded : IsPadded (toString (2 ^ 64 - 1)).toList "18446744073709551615\t".toList :=
    @IsPadded.intro _ [] ['\t'] (by simp) (List.all_eq_true.1 (by decide))
  exact ⟨spelled, counted _ _ spelled (by decide), large, uncounted _ large, padded,
    printed _ _ (by decide) padded⟩

end LangBench
