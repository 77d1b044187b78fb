/-!
# Membership in sorted ranges

A property of characters is a set of code points, given as an ascending list of disjoint
closed ranges.

* `inRanges rs n`: `n` lies in one of the ranges `rs`.
-/

namespace LangBench.Text

/-- Whether `n` lies in one of the closed ranges.  The list ascends, so the search stops at
the first range that begins above `n`. -/
def inRanges : List (Nat × Nat) → Nat → Bool
  | [], _ => false
  | (lo, hi) :: rest, n => decide (lo ≤ n) && (decide (n ≤ hi) || inRanges rest n)

@[simp] theorem inRanges_nil (n : Nat) : inRanges [] n = false := rfl

end LangBench.Text
