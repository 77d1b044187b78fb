import LangBench.Unicode.Flag

/-!
# Word characters

* `isWordChar`: letters, marks, decimal digits, connecting punctuation such as `_`, and the two
  joiners;
* `isDecimalDigit`: the digits of every script that count in tens.

On ASCII both are decided without a table.
-/

namespace LangBench.Unicode

/-- The word characters. -/
def wordChars : CharSet :=
  CharSet.unions [alphabetic, categories ["mn", "mc", "me", "nd", "pc"], flag "joincontrol"]

/-- The decimal digits. -/
def decimalDigits : CharSet := category "nd"

/-- Whether a character is a word character. -/
def isWordChar (c : Char) : Bool :=
  if c.toNat < 0x80 then c.isAlphanum || c == '_' else wordChars.contains c

/-- Whether a character is a decimal digit. -/
def isDecimalDigit (c : Char) : Bool :=
  if c.toNat < 0x80 then c.isDigit else decimalDigits.contains c

theorem isWordChar_of_ascii {c : Char} (h : c.toNat < 0x80) :
    isWordChar c = (c.isAlphanum || c == '_') := by
  simp [isWordChar, h]

end LangBench.Unicode
