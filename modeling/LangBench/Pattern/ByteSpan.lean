import LangBench.Text.Utf8
import LangBench.Unicode.CharSet

/-!
# Sets of characters as bytes

The characters of a set, written in UTF-8, are described by sequences of spans: a sequence stands
for all byte strings whose first byte lies in the first span, the second byte in the second one, and
so on.

* `pieces`: a range of code points cut so that each piece is one sequence;
* `CharSet.byteSpans`: the sequences of a set, in ascending order.
-/

namespace LangBench

/-- The bytes from `lo` to `hi`. -/
structure ByteSpan where
  lo : Nat
  hi : Nat
  deriving DecidableEq, Repr

namespace ByteSpan

/-- A range without the code points that are no characters. -/
def withoutSurrogates (r : Nat × Nat) : List (Nat × Nat) :=
  [(r.1, min r.2 0xd7ff), (max r.1 0xe000, r.2)].filter fun (lo, hi) => lo ≤ hi

/-- A range cut in two where `n` lies inside. -/
def cutAt (n : Nat) (r : Nat × Nat) : List (Nat × Nat) :=
  if r.1 < n ∧ n ≤ r.2 then [(r.1, n - 1), (n, r.2)] else [r]

/-- A range of several blocks of `size` numbers cut so that whole blocks stand alone. -/
def cutBlocks (size : Nat) (r : Nat × Nat) : List (Nat × Nat) :=
  if r.1 / size = r.2 / size then [r]
  else
    let first := (r.1 + size - 1) / size * size
    let last := (r.2 + 1) / size * size
    (cutAt first r).flatMap (cutAt last)

/-- A range cut so that each piece takes the same number of bytes, and its bytes are free of each
other: after the first one that varies, all values are taken. -/
def pieces (r : Nat × Nat) : List (Nat × Nat) :=
  let widths :=
    [0x80, 0x800, 0x10000].foldl (fun rs n => rs.flatMap (cutAt n)) (withoutSurrogates r)
  [0x40, 0x1000, 0x40000].foldl
    (fun rs size => rs.flatMap fun r => if r.2 < 0x80 then [r] else cutBlocks size r) widths

/-- The bytes of a code point. -/
def bytes (n : Nat) : List Nat :=
  (Text.Utf8.encodeChar (Char.ofNat n)).map UInt8.toNat

/-- The sequence of a piece. -/
def ofPiece (r : Nat × Nat) : List ByteSpan :=
  List.zipWith ByteSpan.mk (bytes r.1) (bytes r.2)

end ByteSpan

/-- The sequences of a set. -/
def CharSet.byteSpans (s : CharSet) : List (List ByteSpan) :=
  (s.ranges.flatMap ByteSpan.pieces).map ByteSpan.ofPiece

end LangBench
