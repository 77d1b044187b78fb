import LangBench.Pattern.Escape

/-!
# Sets in square brackets

A set is written as `[a-z_]`, `[^\d]`, `[[:alpha:]é]` or `[a-z&&[^aeiou]]`.  The operations `&&`,
`--` and `~~` bind alike and to the left.

* `Pattern.readSet`: the set of a text after its opening bracket, and how deep it is nested.
-/

namespace LangBench.Pattern

open Text

/-! ### Named sets -/

/-- The sets with a name of their own inside square brackets. -/
def namedSets : List (String × CharSet) :=
  [("alnum", .ofRanges [(0x30, 0x39), (0x41, 0x5a), (0x61, 0x7a)]),
   ("alpha", .ofRanges [(0x41, 0x5a), (0x61, 0x7a)]),
   ("ascii", .codes 0 0x7f),
   ("blank", .ofRanges [(0x09, 0x09), (0x20, 0x20)]),
   ("cntrl", .ofRanges [(0, 0x1f), (0x7f, 0x7f)]),
   ("digit", .codes 0x30 0x39),
   ("graph", .codes 0x21 0x7e),
   ("lower", .codes 0x61 0x7a),
   ("print", .codes 0x20 0x7e),
   ("punct", .ofRanges [(0x21, 0x2f), (0x3a, 0x40), (0x5b, 0x60), (0x7b, 0x7e)]),
   ("space", .ofRanges [(0x09, 0x0d), (0x20, 0x20)]),
   ("upper", .codes 0x41 0x5a),
   ("word", .ofRanges [(0x30, 0x39), (0x41, 0x5a), (0x5f, 0x5f), (0x61, 0x7a)]),
   ("xdigit", .ofRanges [(0x30, 0x39), (0x41, 0x46), (0x61, 0x66)])]

/-- The named set of a text such as `[:alpha:]` or `[:^alpha:]`, whether its opposite is meant, and
the text after it. -/
def namedSet? (cs : List Char) : Option (CharSet × Bool × List Char) :=
  match cs with
  | '[' :: ':' :: cs =>
    let (negated, cs) :=
      match cs with
      | '^' :: cs => (true, cs)
      | cs => (false, cs)
    (splitOnce (· == ':') cs).bind fun (name, rest) =>
      match rest with
      | ']' :: rest => (namedSets.lookup (String.ofList name)).map fun s => (s, negated, rest)
      | _ => none
  | _ => none

/-! ### Operations -/

/-- How two sets are joined. -/
inductive SetOp where
  | inter
  | diff
  | symmetric
  deriving DecidableEq, Repr

/-- Two sets joined. -/
def SetOp.apply : SetOp → CharSet → CharSet → CharSet
  | inter, a, b => a.inter b
  | diff, a, b => a.diff b
  | symmetric, a, b => a.symmDiff b

/-- The operation at the head of a text. -/
def setOp? : List Char → Option (SetOp × List Char)
  | '&' :: '&' :: rest => some (.inter, rest)
  | '-' :: '-' :: rest => some (.diff, rest)
  | '~' :: '~' :: rest => some (.symmetric, rest)
  | _ => none

/-! ### Sets while they are read -/

/-- The items of a set one after another. -/
structure Items where
  /-- Their union. -/
  sets : List CharSet := []
  /-- How deep the deepest of them is nested. -/
  depth : Nat := 0

namespace Items

/-- One more item. -/
def push (i : Items) (s : CharSet) (depth : Nat) : Items :=
  { sets := s :: i.sets, depth := max i.depth depth }

/-- Everything that is in an item. -/
def union (i : Items) : CharSet :=
  .unions i.sets

/-- How deep the items together are nested: several of them are one level more. -/
def nesting (i : Items) : Nat :=
  if 1 < i.sets.length then i.depth + 1 else i.depth

end Items

/-- A set in square brackets while it is read. -/
structure OpenSet where
  negated : Bool
  /-- What stands left of the last operation, and how deep it is nested. -/
  left : Option (CharSet × Nat × SetOp) := none
  /-- The items since then. -/
  items : Items := {}

namespace OpenSet

/-- One more item. -/
def push (o : OpenSet) (s : CharSet) (depth : Nat) : OpenSet :=
  { o with items := o.items.push s depth }

/-- Everything read so far.  Case is left out of account before sets are joined. -/
def joined (flags : Flags) (o : OpenSet) : CharSet :=
  match o.left with
  | some (a, _, op) => op.apply (foldSet flags a) (foldSet flags o.items.union)
  | none => o.items.union

/-- How deep everything read so far is nested. -/
def nesting (o : OpenSet) : Nat :=
  match o.left with
  | some (_, depth, _) => max depth o.items.nesting + 1
  | none => o.items.nesting

/-- What is read so far stands left of an operation. -/
def operate (flags : Flags) (o : OpenSet) (op : SetOp) : OpenSet :=
  { o with left := some (o.joined flags, o.nesting, op), items := {} }

/-- The whole set. -/
def close (flags : Flags) (o : OpenSet) : Except PatternFault CharSet :=
  settle flags o.negated (foldSet flags (o.joined flags))

end OpenSet

/-! ### Reading -/

/-- Leading hyphens, which stand for themselves. -/
def readHyphens (flags : Flags) (o : OpenSet) : Nat → List Char → OpenSet × List Char
  | fuel + 1, '-' :: cs => readHyphens flags (o.push (.single '-') 0) fuel (skipSpace flags cs)
  | _, cs => (o, cs)

/-- The beginning of a set after its bracket: a caret, then hyphens, and if there are none of them
a closing bracket that stands for itself. -/
def readSetStart (flags : Flags) (cs : List Char) : OpenSet × List Char :=
  let cs := skipSpace flags cs
  let (negated, cs) :=
    match cs with
    | '^' :: cs => (true, skipSpace flags cs)
    | cs => (false, cs)
  let o : OpenSet := { negated }
  match cs with
  | '-' :: _ => readHyphens flags o cs.length cs
  | ']' :: cs => (o.push (.single ']') 0, skipSpace flags cs)
  | cs => (o, cs)

/-- An item of a set: a character or an escape. -/
def readSetItem (flags : Flags) (cs : List Char) : Reading Escape :=
  match cs with
  | [] => .error .unclosedSet
  | '\\' :: cs => readEscape flags cs
  | c :: cs => .ok (.char c false, cs)

/-- The character that decides what the hyphen before a text means.  If blanks do not count, it is
the first one after blanks, one number sign and more blanks; if there is none, the very first
one. -/
def peek (flags : Flags) (cs : List Char) : Option Char :=
  if !flags.spaced then cs.head?
  else
    let after :=
      match trimStart cs with
      | '#' :: rest => trimStart rest
      | rest => rest
    after.head?.or cs.head?

/-- Whether a hyphen at the head of a text makes a range. -/
def makesRange (flags : Flags) (cs : List Char) : Bool :=
  match cs with
  | '-' :: rest =>
    match peek flags rest with
    | some c => c != ']' && c != '-'
    | none => true
  | _ => false

/-- The set of an item.  Where only bytes are meant, it must not go beyond ASCII. -/
def itemSet (flags : Flags) : Escape → Except PatternFault CharSet
  | .char c _ => settle flags false (.single c)
  | .set s => .ok s
  | .anchor _ => .error .invalidSetItem

/-- The set of the characters between two items. -/
def rangeSet (flags : Flags) : Escape → Escape → Except PatternFault CharSet
  | .char lo _, .char hi _ =>
    if lo ≤ hi then settle flags false (.range lo hi) else .error .invalidRange
  | _, _ => .error .invalidRange

/-- An item of a set or a range of characters. -/
def readSetRange (flags : Flags) (cs : List Char) :
    Except PatternFault (CharSet × List Char) := do
  let (first, rest) ← readSetItem flags cs
  let rest := skipSpace flags rest
  if rest = [] then throw .unclosedSet
  if makesRange flags rest then
    let (last, rest) ← readSetItem flags (skipSpace flags (rest.drop 1))
    return (← rangeSet flags first last, rest)
  else
    return (← itemSet flags first, rest)

/-- The items of a set up to its closing bracket, and how deep the whole is nested; `outer` are the
sets around it. -/
def readSetItems (flags : Flags) : Nat → List OpenSet → OpenSet → List Char →
    Reading (CharSet × Nat)
  | 0, _, _, _ => .error .unclosedSet
  | fuel + 1, outer, o, cs =>
    match skipSpace flags cs with
    | [] => .error .unclosedSet
    | ']' :: rest =>
      match o.close flags, outer with
      | .error e, _ => .error e
      | .ok s, [] => .ok ((s, o.nesting + 1), rest)
      | .ok s, around :: outer =>
        readSetItems flags fuel outer (around.push s (o.nesting + 1)) rest
    | '[' :: rest =>
      match namedSet? ('[' :: rest) with
      | some (s, negated, rest) =>
        match settle flags negated (foldSet flags s) with
        | .ok s => readSetItems flags fuel outer (o.push s 0) rest
        | .error e => .error e
      | none =>
        let (inner, rest) := readSetStart flags rest
        readSetItems flags fuel (o :: outer) inner rest
    | cs =>
      match setOp? cs with
      | some (op, rest) => readSetItems flags fuel outer (o.operate flags op) rest
      | none =>
        match readSetRange flags cs with
        | .ok (s, rest) => readSetItems flags fuel outer (o.push s 0) rest
        | .error e => .error e

/-- The set of a text after its opening bracket, and how deep it is nested. -/
def readSet (flags : Flags) (cs : List Char) : Reading (CharSet × Nat) :=
  let (o, rest) := readSetStart flags cs
  readSetItems flags (cs.length + 1) [] o rest

end LangBench.Pattern
