import LangBench.Pattern.Basic

/-!
# Patterns in short form

Patterns are put together so that nothing stands in them that could be written shorter.

* `Pattern.ofSet`: one character of a set;
* `Pattern.repeated`: a pattern some times;
* `Pattern.sequence`: patterns one after another; texts side by side become one, and empty patterns
  are left out;
* `Pattern.choice`: one of some patterns; characters become a set, and what all patterns begin with
  is written once;
* `Pattern.leastLength`, `Pattern.mostLength`: how many characters a match has.
-/

namespace LangBench.Pattern

/-! ### Lengths -/

/-- The lesser of two numbers that are both known. -/
def leastOf (m n : Option Nat) : Option Nat :=
  m.bind fun a => n.map (min a)

/-- The greater of two numbers that are both known. -/
def mostOf (m n : Option Nat) : Option Nat :=
  m.bind fun a => n.map (max a)

/-- The sum of two numbers that are both known. -/
def sumOf (m n : Option Nat) : Option Nat :=
  m.bind fun a => n.map (a + ·)

/-- The fewest characters of a match, unless a set without characters makes it unknown. -/
def leastLength : Pattern → Option Nat
  | empty => some 0
  | text cs => some cs.length
  | chars set => if set.isEmpty then none else some 1
  | anchor _ => some 0
  | seq p q => sumOf (leastLength p) (leastLength q)
  | alt p q => leastOf (leastLength p) (leastLength q)
  | rep p min _ _ => (leastLength p).map (min * ·)
  | group _ p => leastLength p

/-- The most characters of a match, unless there is no bound or a set without characters makes it
unknown. -/
def mostLength : Pattern → Option Nat
  | empty => some 0
  | text cs => some cs.length
  | chars set => if set.isEmpty then none else some 1
  | anchor _ => some 0
  | seq p q => sumOf (mostLength p) (mostLength q)
  | alt p q => mostOf (mostLength p) (mostLength q)
  | rep p _ max _ => (mostLength p).bind fun n => max.map (n * ·)
  | group _ p => mostLength p

/-! ### Sets and repetitions -/

/-- One character of a set. -/
def ofSet (set : CharSet) : Pattern :=
  match set.only? with
  | some c => text [c]
  | none => chars set

/-- A pattern at least `least` times and at most `most` times, if that is given.  What has only
the empty text for a match is taken at most once. -/
def repeated (p : Pattern) (least : Nat) (most : Option Nat) (lazy : Bool) : Pattern :=
  let (least, most) :=
    if mostLength p = some 0 then (min least 1, some (min (most.getD 1) 1)) else (least, most)
  if most = some 0 then empty
  else if least = 1 ∧ most = some 1 then p
  else rep p least most lazy

/-! ### Sequences -/

/-- The parts of a sequence. -/
def parts : Pattern → List Pattern
  | empty => []
  | seq p q => parts p ++ parts q
  | p => [p]

/-- One more part in front of others; texts side by side become one. -/
def addPart : Pattern → List Pattern → List Pattern
  | text cs, text ds :: ps => text (cs ++ ds) :: ps
  | p, ps => p :: ps

/-- Patterns one after another as they are. -/
def inOrder : List Pattern → Pattern
  | [] => empty
  | [p] => p
  | p :: ps => seq p (inOrder ps)

/-- Patterns one after another. -/
def sequence (ps : List Pattern) : Pattern :=
  inOrder ((ps.flatMap parts).foldr addPart [])

/-! ### Choices -/

/-- The branches of a choice. -/
def branches : Pattern → List Pattern
  | alt p q => branches p ++ branches q
  | p => [p]

/-- One of some patterns as they are; of none, nothing matches. -/
def oneOf : List Pattern → Pattern
  | [] => chars .empty
  | [p] => p
  | p :: ps => alt p (oneOf ps)

/-- The character of a text that has only one. -/
def onlyChar? : Pattern → Option Char
  | text [c] => some c
  | _ => none

/-- The set of a pattern that is one. -/
def set? : Pattern → Option CharSet
  | chars set => some set
  | _ => none

/-- The parts of a pattern that has several. -/
def severalParts : Pattern → List Pattern
  | seq p q => parts (seq p q)
  | _ => []

/-- What two lists begin with. -/
def commonPrefix : List Pattern → List Pattern → List Pattern
  | p :: ps, q :: qs => if p = q then p :: commonPrefix ps qs else []
  | _, _ => []

/-- The parts that all of some patterns begin with. -/
def commonParts : List Pattern → List Pattern
  | [] => []
  | p :: ps => ps.foldl (fun common q => commonPrefix common (severalParts q)) (severalParts p)

/-- The set that a choice amounts to, if all its branches are characters or all are sets. -/
def setOfBranches? (ps : List Pattern) : Option CharSet :=
  match ps.mapM onlyChar? with
  | some cs => some (.ofRanges (cs.map fun c => (c.toNat, c.toNat)))
  | none => (ps.mapM set?).map .unions

/-- One of some patterns.  What all of them begin with is written once, at most `rounds` times. -/
def choiceOf : Nat → List Pattern → Pattern
  | 0, ps => oneOf ps
  | rounds + 1, ps =>
    match ps.flatMap branches with
    | [] => chars .empty
    | [p] => p
    | ps =>
      match setOfBranches? ps with
      | some set => ofSet set
      | none =>
        match commonParts ps with
        | [] => oneOf ps
        | common =>
          let rests := ps.map fun p => sequence ((parts p).drop common.length)
          sequence (common ++ [choiceOf rounds rests])

/-- One of some patterns.  Every round takes parts away, so their number bounds the rounds. -/
def choice (ps : List Pattern) : Pattern :=
  choiceOf ((ps.flatMap parts).length + 1) ps

end LangBench.Pattern
