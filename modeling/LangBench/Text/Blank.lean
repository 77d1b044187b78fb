import LangBench.Text.Range
import LangBench.Text.Pieces

/-!
# Blanks

* `isBlank`: the Unicode property White_Space;
* `trim`: a text without the blanks at its ends;
* `words`: the maximal pieces of a text without blanks.
-/

namespace LangBench.Text

/-- The white space of every script. -/
def blankRanges : List (Nat × Nat) :=
  [(0x9, 0xd), (0x20, 0x20), (0x85, 0x85), (0xa0, 0xa0), (0x1680, 0x1680), (0x2000, 0x200a),
   (0x2028, 0x2029), (0x202f, 0x202f), (0x205f, 0x205f), (0x3000, 0x3000)]

/-- White space. -/
def isBlank (c : Char) : Bool :=
  inRanges blankRanges c.toNat

/-- A text without its leading blanks. -/
def trimStart (cs : List Char) : List Char :=
  cs.dropWhile isBlank

/-- A text without its trailing blanks. -/
def trimEnd (cs : List Char) : List Char :=
  (cs.reverse.dropWhile isBlank).reverse

/-- A text without the blanks at its ends. -/
def trim (cs : List Char) : List Char :=
  trimEnd (trimStart cs)

/-- The maximal pieces of a text without blanks. -/
def words (cs : List Char) : List (List Char) :=
  (pieces isBlank cs).filter (!List.isEmpty ·)

@[simp] theorem trim_nil : trim [] = [] := rfl

@[simp] theorem words_nil : words [] = [] := rfl

end LangBench.Text
