/-!
# Durations

* `Duration`: a length of time in whole nanoseconds;
* `Duration.sum?`: the sum of durations, unless it is longer than what can be measured;
* `Duration.display`: a duration in the largest unit of which it holds one, as an exact decimal.
-/

namespace LangBench

/-- A length of time in whole nanoseconds. -/
structure Duration where
  nanos : Nat
  deriving DecidableEq, Repr, Inhabited

namespace Duration

/-- No time. -/
def zero : Duration := ⟨0⟩

/-- The nanoseconds of a second. -/
def perSecond : Nat := 1000000000

/-- The number of values of a 64-bit count. -/
def wordSize : Nat := 18446744073709551616

/-- The first length of time that cannot be measured: seconds are counted in 64 bits. -/
def limit : Nat := wordSize * perSecond

/-- The sum of two durations. -/
def add (a b : Duration) : Duration := ⟨a.nanos + b.nanos⟩

instance : Add Duration := ⟨add⟩

instance : LE Duration := ⟨fun a b => a.nanos ≤ b.nanos⟩

instance (a b : Duration) : Decidable (a ≤ b) :=
  inferInstanceAs (Decidable (a.nanos ≤ b.nanos))

/-- The nanoseconds of some durations together. -/
def totalNanos (ds : List Duration) : Nat :=
  ds.foldr (fun d n => d.nanos + n) 0

/-- The sum of some durations. -/
def sum (ds : List Duration) : Duration :=
  ⟨totalNanos ds⟩

/-- The sum of some durations, unless it is too long to be measured. -/
def sum? (ds : List Duration) : Option Duration :=
  if totalNanos ds < limit then some (sum ds) else none

/-- The whole seconds of a duration. -/
def seconds (d : Duration) : Nat :=
  d.nanos / perSecond

/-- The nanoseconds of a duration beyond its whole seconds. -/
def subsecNanos (d : Duration) : Nat :=
  d.nanos % perSecond

/-- The last `width` decimal digits of a number, the highest first. -/
def lastDigits : Nat → Nat → List Char
  | 0, _ => []
  | width + 1, n => lastDigits width (n / 10) ++ [Nat.digitChar (n % 10)]

/-- Digits after the point without the zeros at their end. -/
def dropTrailingZeros (digits : List Char) : List Char :=
  (digits.reverse.dropWhile (· == '0')).reverse

/-- The exact decimal of `n / 10 ^ places`. -/
def decimal (places n : Nat) : String :=
  let fraction := dropTrailingZeros (lastDigits places n)
  let whole := toString (n / Nat.pow 10 places)
  if fraction = [] then whole else whole ++ "." ++ String.ofList fraction

/-- A duration in the largest unit of which it holds one. -/
def display (d : Duration) : String :=
  if d.nanos ≥ 1000000000 then decimal 9 d.nanos ++ "s"
  else if d.nanos ≥ 1000000 then decimal 6 d.nanos ++ "ms"
  else if d.nanos ≥ 1000 then decimal 3 d.nanos ++ "µs"
  else decimal 0 d.nanos ++ "ns"

@[simp] theorem nanos_add (a b : Duration) : (a + b).nanos = a.nanos + b.nanos := rfl

@[simp] theorem totalNanos_nil : totalNanos [] = 0 := rfl

@[simp] theorem totalNanos_cons (d : Duration) (ds : List Duration) :
    totalNanos (d :: ds) = d.nanos + totalNanos ds := rfl

@[simp] theorem length_lastDigits (width n : Nat) : (lastDigits width n).length = width := by
  induction width generalizing n with
  | zero => rfl
  | succ width ih => simp [lastDigits, ih]

end Duration

end LangBench
