import LangBench.Unicode.Word

/-!
# Patterns

* `Anchor`, `Pattern`: what patterns are made of;
* `Pattern.ends`: the places of a text where a match may end that begins at one of some places;
* `Pattern.occursIn`: whether a text holds a match.

Places are numbered from 0, before the first character.  All matches are followed side by side,
so the work grows with the text and not with the number of ways to match.
-/

namespace LangBench

/-- Which characters make words. -/
inductive Alphabet where
  /-- Letters, marks, digits and connectors of every script. -/
  | unicode
  /-- Letters, digits and the underscore of ASCII. -/
  | ascii
  deriving DecidableEq, Repr

/-- How a place lies to the words around it. -/
inductive WordPlace where
  /-- Between a word character and something else. -/
  | edge
  | notEdge
  /-- Before a word character and not after one. -/
  | start
  /-- After a word character and not before one. -/
  | stop
  /-- Not after a word character. -/
  | notAfter
  /-- Not before a word character. -/
  | notBefore
  deriving DecidableEq, Repr

/-- A condition on a place of a text. -/
inductive Anchor where
  | textStart
  | textEnd
  /-- At the start, or after a line feed. -/
  | lineStart
  /-- At the end, or before a line feed. -/
  | lineEnd
  /-- As `lineStart`, but lines end with a carriage return, a line feed or both. -/
  | lineStartAny
  /-- As `lineEnd`, but lines end with a carriage return, a line feed or both. -/
  | lineEndAny
  /-- Beside words of an alphabet. -/
  | word (a : Alphabet) (p : WordPlace)
  deriving DecidableEq, Repr

/-- A pattern of text. -/
inductive Pattern where
  /-- The empty text. -/
  | empty
  /-- Some characters one after another. -/
  | text (cs : List Char)
  /-- One character of a set. -/
  | chars (set : CharSet)
  /-- The empty text at certain places. -/
  | anchor (a : Anchor)
  /-- One pattern after another. -/
  | seq (p q : Pattern)
  /-- Either of two patterns. -/
  | alt (p q : Pattern)
  /-- A pattern at least `min` times and, if `max` is given, at most `max` times; if it is lazy,
  rather fewer times than more. -/
  | rep (p : Pattern) (min : Nat) (max : Option Nat) (lazy : Bool)
  /-- A pattern in numbered brackets. -/
  | group (number : Nat) (p : Pattern)
  deriving DecidableEq, Repr, Inhabited

/-- Whether a character belongs to words. -/
def Alphabet.isWordChar (c : Char) : Alphabet → Bool
  | .unicode => Unicode.isWordChar c
  | .ascii => c.isAlphanum || c == '_'

/-- Whether a place lies so, given whether word characters stand before it and after it. -/
def WordPlace.holds (before after : Bool) : WordPlace → Bool
  | .edge => before != after
  | .notEdge => before == after
  | .start => !before && after
  | .stop => before && !after
  | .notAfter => !before
  | .notBefore => !after

/-- Whether the condition holds between `before` and `after`, the characters next to a place. -/
def Anchor.holds (before after : Option Char) : Anchor → Bool
  | .textStart => before.isNone
  | .textEnd => after.isNone
  | .lineStart => before.all (· == '\n')
  | .lineEnd => after.all (· == '\n')
  | .lineStartAny => before.all fun c => c == '\n' || (c == '\r' && after != some '\n')
  | .lineEndAny => after.all fun c => c == '\r' || (c == '\n' && before != some '\r')
  | .word a p => p.holds (before.any (a.isWordChar ·)) (after.any (a.isWordChar ·))

namespace Pattern

/-- Ascending places, given as two ascending lists. -/
def mergeFrom (done : List Nat) : List Nat → List Nat → List Nat
  | [], ys => done.reverse ++ ys
  | xs, [] => done.reverse ++ xs
  | x :: xs, y :: ys =>
    if x < y then mergeFrom (x :: done) xs (y :: ys)
    else if y < x then mergeFrom (y :: done) (x :: xs) ys
    else mergeFrom (x :: done) xs ys
termination_by xs ys => xs.length + ys.length

/-- The places of two ascending lists together. -/
def merge (xs ys : List Nat) : List Nat :=
  mergeFrom [] xs ys

/-- Applies a step `n` times, or until it changes nothing. -/
def iterate (step : List Nat → List Nat) : Nat → List Nat → List Nat
  | 0, places => places
  | n + 1, places =>
    let places' := step places
    if places' == places then places else iterate step n places'

/-- Marks some places. -/
def mark (marks : Array Bool) (places : List Nat) : Array Bool :=
  places.foldl (fun marks i => marks.setIfInBounds i true) marks

/-- Marks what can be reached from some places, which are marked, in at most `rounds` steps. -/
def reach (step : List Nat → List Nat) : Nat → Array Bool → List Nat → Array Bool
  | 0, marks, _ => marks
  | rounds + 1, marks, places =>
    match (step places).filter fun i => !marks.getD i true with
    | [] => marks
    | fresh => reach step rounds (mark marks fresh) fresh

/-- The places reached from some places in at most `rounds` steps, if given; `size` is the number
of places there are. -/
def closure (size : Nat) (step : List Nat → List Nat) (rounds : Option Nat)
    (places : List Nat) : List Nat :=
  let rounds := (rounds.map (min size)).getD size
  let marks := reach step rounds (mark (Array.replicate size false) places) places
  (List.range size).filter fun i => marks.getD i false

/-- The character after a place. -/
def charAfter (text : Array Char) (i : Nat) : Option Char :=
  text[i]?

/-- The character before a place. -/
def charBefore (text : Array Char) : Nat → Option Char
  | 0 => none
  | i + 1 => text[i]?

/-- The place after a character of `set`, if one follows. -/
def advance? (text : Array Char) (set : CharSet) (i : Nat) : Option Nat :=
  if (charAfter text i).any set.contains then some (i + 1) else none

/-- The place after some characters, if they follow. -/
def advanceBy? (text : Array Char) : List Char → Nat → Option Nat
  | [], i => some i
  | c :: cs, i => if charAfter text i == some c then advanceBy? text cs (i + 1) else none

/-- The places, in ascending order, where a match may end that begins at one of `places`, which
ascend. -/
def ends (text : Array Char) : Pattern → List Nat → List Nat
  | empty, places => places
  | .text cs, places => places.filterMap (advanceBy? text cs)
  | chars set, places => places.filterMap (advance? text set)
  | anchor a, places => places.filter fun i => a.holds (charBefore text i) (charAfter text i)
  | seq p q, places => ends text q (ends text p places)
  | alt p q, places => merge (ends text p places) (ends text q places)
  | rep p min max _, places =>
    let atLeast := iterate (ends text p) min places
    closure (text.size + 1) (ends text p) (max.map (· - min)) atLeast
  | group _ p, places => ends text p places

/-- Whether a text holds a match. -/
def occursIn (p : Pattern) (cs : List Char) : Bool :=
  let text := cs.toArray
  !(ends text p (List.range (text.size + 1))).isEmpty

end Pattern

end LangBench
