import Mathlib.Data.Int.Order.Basic
import Mathlib.Data.Prod.Lex
import Mathlib.Order.Compare

/-!
# Comparing scores

Floating-point numbers are compared by kind first (infinities, negative numbers, zeros, positive
numbers), then by exponent and mantissa.  Except for what is not a number at all, this is a linear
order in which the two zeros have one place.

* `Place`, `place`: what a number is compared by;
* `compare_eq_place`: numbers compare as their places do;
* `lt_iff_place`, `le_iff_place`, `beq_iff_place`: so do `<`, `≤` and `==`.
-/

namespace LangBench.NaiveBayes

open Float.Model

/-- What numbers are compared by, in this order: their kind, their exponent, their mantissa. -/
abbrev Place := ℤ ×ₗ ℤ ×ₗ ℤ

/-- The place of a kind, an exponent and a mantissa. -/
def Place.mk (kind exponent mantissa : ℤ) : Place :=
  toLex (kind, toLex (exponent, mantissa))

theorem Place.compare_mk (k e m k' e' m' : ℤ) :
    compare (Place.mk k e m) (Place.mk k' e' m') =
      (compare k k').then ((compare e e').then (compare m m')) := rfl

/-- The place of a number that is taken apart. -/
def placeOf : UnpackedFloat → Place
  | .infinity .negative => .mk (-2) 0 0
  | .finite .negative m e _ => .mk (-1) (-e) (-m)
  | .zero _ => .mk 0 0 0
  | .notANumber => .mk 0 0 0
  | .finite .positive m e _ => .mk 1 e m
  | .infinity .positive => .mk 2 0 0

/-- The place of a number. -/
def place (x : Float) : Place :=
  placeOf x.toModel.unpack

theorem compare_neg (m n : ℤ) : compare (-m) (-n) = (compare m n).swap := by
  rw [← Std.OrientedCmp.eq_swap]
  simp only [compare, compareOfLessAndEq, Int.neg_lt_neg_iff, Int.neg_inj, eq_comm]

theorem compare_natCast (m n : ℕ) : compare (m : ℤ) (n : ℤ) = compare m n := by
  simp only [compare, compareOfLessAndEq, Int.ofNat_lt, Int.natCast_inj]

/-- Numbers that are taken apart compare as their places do. -/
theorem compare_eq_place {a b : UnpackedFloat} (ha : a.isNaN = false) (hb : b.isNaN = false) :
    a.compare b = some (compare (placeOf a) (placeOf b)) := by
  rcases a with (_ | _) | _ | _ | ⟨_ | _, m, e, _⟩
  case notANumber => cases ha
  all_goals
    rcases b with (_ | _) | _ | _ | ⟨_ | _, m', e', _⟩
    case notANumber => cases hb
  -- Where the kinds differ nothing else is looked at; of two negative numbers the one with the
  -- greater exponent and mantissa is the lower.
  case finite.negative.finite.negative =>
    show some ((compare e e').then (compare m m')).swap =
      some (compare (Place.mk (-1) (-e) (-m)) (Place.mk (-1) (-e') (-m')))
    rw [Place.compare_mk, compare_neg e, compare_neg (m : ℤ), compare_natCast, Ordering.swap_then]
    rfl
  case finite.positive.finite.positive =>
    show some ((compare e e').then (compare m m')) =
      some (compare (Place.mk 1 e m) (Place.mk 1 e' m'))
    rw [Place.compare_mk, compare_natCast]
    rfl
  all_goals rfl

variable {a b : Float}

theorem lt_iff_place (ha : a.isNaN = false) (hb : b.isNaN = false) :
    a < b ↔ place a < place b := by
  show decide ((a.toModel.unpack.compare b.toModel.unpack == some .lt) = true) = true ↔ _
  rw [decide_eq_true_iff, compare_eq_place ha hb, beq_iff_eq, Option.some.injEq, compare_lt_iff_lt]
  rfl

theorem le_iff_place (ha : a.isNaN = false) (hb : b.isNaN = false) :
    a ≤ b ↔ place a ≤ place b := by
  show decide ((a.toModel.unpack.compare b.toModel.unpack).any (·.isLE) = true) = true ↔ _
  rw [decide_eq_true_iff, compare_eq_place ha hb, Option.any_some, Ordering.isLE_iff_ne_gt, ← ne_eq,
    compare_le_iff_le]
  rfl

theorem beq_iff_place (ha : a.isNaN = false) (hb : b.isNaN = false) :
    (a == b) = true ↔ place a = place b := by
  show (a.toModel.unpack.compare b.toModel.unpack == some .eq) = true ↔ _
  rw [compare_eq_place ha hb, beq_iff_eq, Option.some.injEq, compare_eq_iff_eq]
  rfl

end LangBench.NaiveBayes
