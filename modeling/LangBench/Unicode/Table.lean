import LangBench.Text.Hex
import LangBench.Text.Pieces
import LangBench.Unicode.CharSet

/-!
# Tables of characters

Properties of characters are written down as texts of words in hexadecimal digits:

* `41` is one code point;
* `41-5a` are the code points from `41` to `5a`;
* `100-12e/2` is every second one of them, from the first to the last.

`CharSet.read` is the set of such a text.
-/

namespace LangBench

open Text

namespace Unicode

/-- The words of a table; blanks and line ends stand between them. -/
def entries (table : String) : List (List Char) :=
  (pieces (fun c => c == ' ' || c == '\n') table.toList).filter (!List.isEmpty ·)

/-- The number of some digits; zero if there are none. -/
def code (digits : List Char) : Nat :=
  (hexValue? digits).getD 0

/-- Every second number from `lo` to `hi`, each as a range. -/
def everySecond (lo hi : Nat) : List (Nat × Nat) :=
  (List.range ((hi - lo) / 2 + 1)).map fun i => (lo + 2 * i, lo + 2 * i)

/-- The ranges of a word of a table. -/
def readWord (word : List Char) : List (Nat × Nat) :=
  match splitOnce (· == '-') word with
  | none => [(code word, code word)]
  | some (lo, rest) =>
    match splitOnce (· == '/') rest with
    | none => [(code lo, code rest)]
    | some (hi, _) => everySecond (code lo) (code hi)

end Unicode

/-- The set of a text of a table. -/
def CharSet.read (s : String) : CharSet :=
  ⟨(Unicode.entries s).flatMap Unicode.readWord⟩

/-- The value of the first row of a table that has a name. -/
def Unicode.row? {α : Type} (table : List (List String × α)) (name : String) : Option α :=
  (table.find? fun row => row.1.contains name).map Prod.snd

end LangBench
