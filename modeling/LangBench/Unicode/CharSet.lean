import LangBench.Text.Range

/-!
# Sets of characters

* `CharSet`: a set of characters as ascending ranges of code points;
* `CharSet.contains`: membership;
* `CharSet.ofRanges`: the set of ranges in any order;
* `CharSet.union`, `CharSet.inter`, `CharSet.diff`, `CharSet.symmDiff`, `CharSet.complement`.

The code points `0xd800` to `0xdfff` are no characters: right after `0xd7ff` comes `0xe000`.
-/

namespace LangBench

/-- A set of characters: closed ranges of code points, which ascend and do not touch. -/
structure CharSet where
  ranges : List (Nat × Nat)
  deriving DecidableEq, Repr, Inhabited

namespace CharSet

/-- Whether a character is in a set. -/
def contains (s : CharSet) (c : Char) : Bool :=
  Text.inRanges s.ranges c.toNat

/-- The last code point of all. -/
def top : Nat := 0x10ffff

/-- The set without characters. -/
def empty : CharSet := ⟨[]⟩

/-- All characters. -/
def all : CharSet := ⟨[(0, top)]⟩

/-- The characters between two code points. -/
def codes (lo hi : Nat) : CharSet := ⟨[(lo, hi)]⟩

/-- The characters from `lo` to `hi`. -/
def range (lo hi : Char) : CharSet := codes lo.toNat hi.toNat

/-- The set of one character. -/
def single (c : Char) : CharSet := range c c

/-- Whether a set has no characters. -/
def isEmpty (s : CharSet) : Bool :=
  s.ranges.isEmpty

/-- The character of a set that has only one. -/
def only? (s : CharSet) : Option Char :=
  match s.ranges with
  | [(lo, hi)] => if lo = hi then some (Char.ofNat lo) else none
  | _ => none

/-- Whether all characters of a set are ASCII. -/
def isAscii (s : CharSet) : Bool :=
  s.ranges.all fun (_, hi) => hi < 0x80

/-! ### Joining ranges -/

/-- The order of ranges by their beginnings, and then by their ends. -/
def precedes (r s : Nat × Nat) : Bool :=
  r.1 < s.1 || (r.1 == s.1 && r.2 ≤ s.2)

/-- The range `r` and the ranges after it, those that overlap or touch made one. -/
def joinFrom (r : Nat × Nat) : List (Nat × Nat) → List (Nat × Nat)
  | [] => [r]
  | s :: rest =>
    if s.1 ≤ r.2 + 1 then joinFrom (r.1, max r.2 s.2) rest else r :: joinFrom s rest

/-- Ranges in order, those that overlap or touch made one. -/
def join : List (Nat × Nat) → List (Nat × Nat)
  | [] => []
  | r :: rest => joinFrom r rest

/-- The set of ranges in any order. -/
def ofRanges (ranges : List (Nat × Nat)) : CharSet :=
  ⟨join (ranges.mergeSort precedes)⟩

/-- What is in either set. -/
def union (s t : CharSet) : CharSet :=
  ofRanges (s.ranges ++ t.ranges)

/-- What is in one of some sets. -/
def unions (sets : List CharSet) : CharSet :=
  ofRanges (sets.flatMap ranges)

/-! ### Cutting ranges -/

/-- The code point of the character before the one at `n`. -/
def before (n : Nat) : Nat :=
  if n = 0xe000 then 0xd7ff else n - 1

/-- The code point of the character after the one at `n`. -/
def after (n : Nat) : Nat :=
  if n = 0xd7ff then 0xe000 else n + 1

/-- What two ranges have in common. -/
def overlap? (r s : Nat × Nat) : Option (Nat × Nat) :=
  if max r.1 s.1 ≤ min r.2 s.2 then some (max r.1 s.1, min r.2 s.2) else none

/-- What is in both sets. -/
def inter (s t : CharSet) : CharSet :=
  ⟨s.ranges.flatMap fun r => t.ranges.filterMap (overlap? r)⟩

/-- The parts of `r` outside a range. -/
def outside (r cut : Nat × Nat) : List (Nat × Nat) :=
  if cut.2 < r.1 ∨ r.2 < cut.1 then [r]
  else
    (if r.1 < cut.1 then [(r.1, before cut.1)] else []) ++
      (if cut.2 < r.2 then [(after cut.2, r.2)] else [])

/-- What is in `s` and not in `t`. -/
def diff (s t : CharSet) : CharSet :=
  ⟨s.ranges.flatMap fun r =>
    t.ranges.foldl (fun parts cut => parts.flatMap fun part => outside part cut) [r]⟩

/-- What is in exactly one of two sets. -/
def symmDiff (s t : CharSet) : CharSet :=
  (s.union t).diff (s.inter t)

/-- The gap between a range that ends with `hi` and the next one, which begins with `lo`.  If it
holds no character, its ends are crossed and it is made of the two characters around it. -/
def gap (hi lo : Nat) : Nat × Nat :=
  (min (after hi) (before lo), max (after hi) (before lo))

/-- The gaps after a range that ends with `hi`. -/
def gapsAfter (hi : Nat) : List (Nat × Nat) → List (Nat × Nat)
  | [] => if hi < top then [(after hi, top)] else []
  | (lo, hi') :: rest => gap hi lo :: gapsAfter hi' rest

/-- What is not in a set. -/
def complement (s : CharSet) : CharSet :=
  match s.ranges with
  | [] => all
  | (lo, hi) :: rest => ⟨(if 0 < lo then [(0, before lo)] else []) ++ gapsAfter hi rest⟩

/-! ### Small sets -/

@[simp] theorem contains_empty (c : Char) : empty.contains c = false := rfl

theorem contains_codes (lo hi : Nat) (c : Char) :
    (codes lo hi).contains c = (decide (lo ≤ c.toNat) && decide (c.toNat ≤ hi)) := by
  simp [contains, codes, Text.inRanges]

@[simp] theorem contains_single (c d : Char) : (single c).contains d = (d == c) := by
  rw [Bool.eq_iff_iff]
  simp only [single, range, contains_codes, Bool.and_eq_true, decide_eq_true_eq, beq_iff_eq]
  exact ⟨fun h => Char.toNat_inj.1 (Nat.le_antisymm h.2 h.1),
    fun h => h ▸ ⟨Nat.le_refl _, Nat.le_refl _⟩⟩

end CharSet

end LangBench
