/-!
# Hexadecimal numbers

* `hexDigit?`: the value of a digit;
* `hexValue?`: the number that digits stand for.
-/

namespace LangBench.Text

/-- The value of a hexadecimal digit. -/
def hexDigit? (c : Char) : Option Nat :=
  if c.isDigit then some (c.toNat - '0'.toNat)
  else if 'a' ≤ c ∧ c ≤ 'f' then some (c.toNat - 'a'.toNat + 10)
  else if 'A' ≤ c ∧ c ≤ 'F' then some (c.toNat - 'A'.toNat + 10)
  else none

/-- The number that hexadecimal digits stand for; there is at least one. -/
def hexValue? (digits : List Char) : Option Nat :=
  if digits = [] then none
  else digits.foldlM (fun n c => (hexDigit? c).map (16 * n + ·)) 0

/-- The character of a code point, if there is one. -/
def charOfCode? (n : Nat) : Option Char :=
  if n.isValidChar then some (Char.ofNat n) else none

@[simp] theorem hexValue?_nil : hexValue? [] = none := rfl

end LangBench.Text
