import LangBench.Duration
import LangBench.Proofs.Text.Word
import Mathlib.Algebra.Group.Nat.Defs

/-!
# Durations read back

The text of a duration is an exact decimal and the unit it counts.  The unit tells how many places a
decimal can have, so the zeros that are left out at its end are known, and with them the
nanoseconds.

* `ofDigitChars_lastDigits`, `dropTrailingZeros_inj`: what the digits behind the point stand for,
  with and without the zeros at their end;
* `decimal_inj`: a decimal in a known unit is read back;
* `unit`, `toList_display`: the unit of a duration, and the text of it;
* `display_append_inj`, `display_injective`: durations are read back from their texts.
-/

namespace LangBench

open Text

namespace Duration

/-! ### Digits -/

/-- The last digits of a number are those of what is left of it. -/
theorem ofDigitChars_lastDigits (width n : Nat) :
    Nat.ofDigitChars 10 (lastDigits width n) 0 = n % 10 ^ width := by
  induction width generalizing n with
  | zero => simp [lastDigits, Nat.mod_one]
  | succ width ih =>
    have digit : (Nat.digitChar (n % 10)).toNat - '0'.toNat = n % 10 :=
      Nat.toNat_digitChar_sub_48_of_lt_ten (Nat.mod_lt n (by decide))
    rw [lastDigits, Nat.ofDigitChars_append, ih, Nat.ofDigitChars_cons, Nat.ofDigitChars_nil, digit,
      Nat.pow_succ', Nat.mod_mul]
    omega

theorem isDigit_of_mem_lastDigits {width n : Nat} {c : Char} (h : c ∈ lastDigits width n) :
    c.isDigit = true := by
  induction width generalizing n with
  | zero => cases h
  | succ width ih =>
    rw [lastDigits, List.mem_append, List.mem_singleton] at h
    rcases h with higher | rfl
    · exact ih higher
    · rw [Nat.isDigit_digitChar, decide_eq_true_eq]
      exact Nat.mod_lt n (by decide)

/-- Only zeros are left out. -/
theorem exists_dropTrailingZeros (digits : List Char) :
    ∃ k, digits = dropTrailingZeros digits ++ List.replicate k '0' := by
  have zeros : digits.reverse.takeWhile (· == '0') =
      List.replicate (digits.reverse.takeWhile (· == '0')).length '0' := by
    refine List.eq_replicate_of_mem fun c mem => ?_
    simpa using List.mem_takeWhile_imp mem
  refine ⟨(digits.reverse.takeWhile (· == '0')).length, ?_⟩
  rw [← List.reverse_inj, dropTrailingZeros, List.reverse_append, List.reverse_reverse,
    List.reverse_replicate, ← zeros, List.takeWhile_append_dropWhile]

/-- Where the number of digits is known, the zeros at the end are. -/
theorem dropTrailingZeros_inj {u v : List Char} (long : u.length = v.length)
    (same : dropTrailingZeros u = dropTrailingZeros v) : u = v := by
  obtain ⟨j, hu⟩ := exists_dropTrailingZeros u
  obtain ⟨k, hv⟩ := exists_dropTrailingZeros v
  rw [same] at hu
  have zeros : j = k := by
    have lengths := congrArg List.length hu
    have lengths' := congrArg List.length hv
    rw [List.length_append, List.length_replicate] at lengths lengths'
    omega
  rw [zeros, ← hv] at hu
  exact hu

/-! ### Decimals -/

/-- Digits behind the point, with the point, if there are any. -/
def behindPoint (fraction : List Char) : List Char :=
  if fraction = [] then [] else '.' :: fraction

theorem behindPoint_inj {f g : List Char} (h : behindPoint f = behindPoint g) : f = g := by
  unfold behindPoint at h
  split_ifs at h with hf hg hg
  · rw [hf, hg]
  · exact (List.cons.inj h).2

theorem head?_behindPoint {f : List Char} : ∀ c ∈ (behindPoint f).head?, c.isDigit = false := by
  unfold behindPoint
  split_ifs
  · rintro c ⟨⟩
  · rintro c ⟨⟩
    rfl

/-- The digits before the point are those of the whole part. -/
theorem toList_decimal (places n : Nat) : (decimal places n).toList =
    Nat.toDigits 10 (n / 10 ^ places) ++
      behindPoint (dropTrailingZeros (lastDigits places n)) := by
  have whole : (toString (n / Nat.pow 10 places)).toList = Nat.toDigits 10 (n / 10 ^ places) :=
    Nat.toList_repr
  have point : ".".toList = ['.'] := rfl
  by_cases none : dropTrailingZeros (lastDigits places n) = []
  · simp only [decimal, behindPoint, if_pos none]
    rw [whole, List.append_nil]
  · simp only [decimal, behindPoint, if_neg none]
    rw [String.toList_append, String.toList_append, whole, point, String.toList_ofList,
      List.append_assoc, List.singleton_append]

/-- A decimal with a known number of places is read back. -/
theorem decimal_inj {places m n : Nat} (h : (decimal places m).toList = (decimal places n).toList) :
    m = n := by
  rw [toList_decimal, toList_decimal] at h
  have digits : ∀ k, ∀ c ∈ Nat.toDigits 10 k, c.isDigit = true := fun k c mem =>
    Nat.isDigit_of_mem_toDigits (by decide) (by decide) mem
  obtain ⟨whole, fraction⟩ :=
    append_inj_of_apart (digits _) (digits _) head?_behindPoint head?_behindPoint h
  have quotient : m / 10 ^ places = n / 10 ^ places := by
    have value := congrArg (Nat.ofDigitChars 10 · 0) whole
    simpa using value
  have remainder : m % 10 ^ places = n % 10 ^ places := by
    have long : (lastDigits places m).length = (lastDigits places n).length := by
      rw [length_lastDigits, length_lastDigits]
    have last := dropTrailingZeros_inj long (behindPoint_inj fraction)
    rw [← ofDigitChars_lastDigits, last, ofDigitChars_lastDigits]
  rw [← Nat.div_add_mod m (10 ^ places), quotient, remainder, Nat.div_add_mod]

/-! ### Units -/

/-- Whether a character may stand in a decimal. -/
def isDecimalChar (c : Char) : Bool :=
  c.isDigit || c == '.'

/-- The units with the number of places that they are counted in. -/
def units : List (Nat × String) :=
  [(9, "s"), (6, "ms"), (3, "µs"), (0, "ns")]

/-- The largest unit of which a duration holds one. -/
def unit (d : Duration) : Nat × String :=
  if d.nanos ≥ 1000000000 then (9, "s")
  else if d.nanos ≥ 1000000 then (6, "ms")
  else if d.nanos ≥ 1000 then (3, "µs")
  else (0, "ns")

theorem unit_mem_units (d : Duration) : d.unit ∈ units := by
  unfold unit
  split_ifs <;> decide

theorem toList_display (d : Duration) :
    d.display.toList = (decimal d.unit.1 d.nanos).toList ++ d.unit.2.toList := by
  unfold display unit
  split_ifs <;> exact String.toList_append

/-- No unit goes on with a decimal, and its name tells its places. -/
theorem units_apart : ∀ u ∈ units, (∀ c ∈ u.2.toList, isDecimalChar c = false) ∧
    ∀ v ∈ units, u.2.toList = v.2.toList → u = v := by
  have letters : ∀ u ∈ units, (u.2.toList.all fun c => !isDecimalChar c) = true := by decide
  have names : ∀ u ∈ units, ∀ v ∈ units, u.2.toList = v.2.toList → u = v := by decide
  intro u mem
  refine ⟨fun c letter => ?_, names u mem⟩
  simpa using List.all_eq_true.1 (letters u mem) c letter

theorem isDecimalChar_of_mem {places n : Nat} {c : Char} (h : c ∈ (decimal places n).toList) :
    isDecimalChar c = true := by
  rw [toList_decimal, List.mem_append] at h
  rw [isDecimalChar, Bool.or_eq_true, beq_iff_eq]
  rcases h with whole | fraction
  · exact .inl (Nat.isDigit_of_mem_toDigits (by decide) (by decide) whole)
  · unfold behindPoint at fraction
    split_ifs at fraction
    · cases fraction
    · rcases List.mem_cons.1 fraction with point | digit
      · exact .inr point
      · obtain ⟨k, all⟩ := exists_dropTrailingZeros (lastDigits places n)
        have last : c ∈ lastDigits places n := all ▸ List.mem_append_left _ digit
        exact .inl (isDigit_of_mem_lastDigits last)

/-- The unit is what follows the decimal, so durations that have the same text are the same. -/
theorem display_injective : Function.Injective display := by
  intro d d' same
  have letters := congrArg String.toList same
  rw [toList_display, toList_display] at letters
  obtain ⟨apart, known⟩ := units_apart d.unit d.unit_mem_units
  obtain ⟨apart', -⟩ := units_apart d'.unit d'.unit_mem_units
  obtain ⟨decimals, names⟩ := append_inj_of_apart (fun _ => isDecimalChar_of_mem)
    (fun _ => isDecimalChar_of_mem) (fun c head => apart c (List.mem_of_mem_head? head))
    (fun c head => apart' c (List.mem_of_mem_head? head)) letters
  have unit : d.unit = d'.unit := known d'.unit d'.unit_mem_units names
  rw [unit] at decimals
  obtain ⟨n⟩ := d
  obtain ⟨n'⟩ := d'
  exact congrArg Duration.mk (decimal_inj decimals)

/-! ### Durations in a line -/

/-- Whether a character may stand in the text of a duration. -/
def isDisplayChar (c : Char) : Bool :=
  isDecimalChar c || ['s', 'm', 'µ', 'n'].contains c

theorem isDisplayChar_of_mem {d : Duration} {c : Char} (h : c ∈ d.display.toList) :
    isDisplayChar c = true := by
  have named : ∀ u ∈ units, u.2.toList.all ['s', 'm', 'µ', 'n'].contains = true := by decide
  rw [toList_display, List.mem_append] at h
  rw [isDisplayChar, Bool.or_eq_true]
  exact h.imp isDecimalChar_of_mem (List.all_eq_true.1 (named d.unit d.unit_mem_units) c)

/-- A duration is read back up to the first character that stands in no duration. -/
theorem display_append_inj {d d' : Duration} {s t : List Char}
    (apart : ∀ c ∈ s.head?, isDisplayChar c = false)
    (apart' : ∀ c ∈ t.head?, isDisplayChar c = false)
    (h : d.display.toList ++ s = d'.display.toList ++ t) : d = d' ∧ s = t := by
  obtain ⟨texts, rest⟩ := append_inj_of_apart (fun _ => isDisplayChar_of_mem)
    (fun _ => isDisplayChar_of_mem) apart apart' h
  exact ⟨display_injective (String.toList_inj.1 texts), rest⟩

end Duration

end LangBench
