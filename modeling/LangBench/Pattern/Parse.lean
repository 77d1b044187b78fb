import LangBench.Pattern.Bracket
import LangBench.Pattern.Footprint
import LangBench.Text.Digit

/-!
# Reading patterns

Patterns are written in the usual way: `a|b`, `a*`, `a+?`, `a{2,3}`, `(a)`, `(?:a)`, `(?<name>a)`,
`(?i)`, `[^a-z\d]`, `[a-z&&[^b]]`, `\w`, `\bfoo\b`, `^a$`.  The anchors `^` and `$` stand at the
ends of the text, and behind `(?m)` at the ends of every line.

* `Pattern.parse`: the pattern of a text.  It must not be nested too deeply, and it must fit.
-/

namespace LangBench.Pattern

open Text

/-! ### Repetitions -/

/-- The largest number that a count may be. -/
def countLimit : Nat := 4294967296

/-- Digits, with blanks and comments left out after each of them. -/
def readDigits (flags : Flags) (cs : List Char) : List Char × List Char :=
  readUntil flags (!·.isDigit) cs

/-- A decimal number between blanks. -/
def readNumber (flags : Flags) (cs : List Char) : Reading Nat :=
  let (digits, rest) := readDigits flags (trimStart cs)
  let n := Nat.ofDigitChars 10 digits 0
  if digits = [] ∨ countLimit ≤ n then .error .invalidCount
  else .ok (n, skipSpace flags (trimStart rest))

/-- The bounds in braces, the opening one left out. -/
def readBounds (flags : Flags) (cs : List Char) :
    Except PatternFault ((Nat × Option Nat) × List Char) := do
  let (least, rest) ← readNumber flags (skipSpace flags cs)
  match rest with
  | '}' :: rest => return ((least, some least), rest)
  | ',' :: rest =>
    match skipSpace flags rest with
    | '}' :: rest => return ((least, none), rest)
    | rest =>
      let (most, rest) ← readNumber flags rest
      match rest with
      | '}' :: rest =>
        if least ≤ most then return ((least, some most), rest) else throw .invalidCount
      | _ => throw .invalidCount
  | _ => throw .invalidCount

/-- Whether a repetition is lazy, as the question mark that may follow it says. -/
def readLazy (flags : Flags) (cs : List Char) : Bool × List Char :=
  match cs with
  | '?' :: rest => (!flags.lazy, rest)
  | _ => (flags.lazy, cs)

/-- How often something is repeated, and whether lazily. -/
structure Repetition where
  least : Nat
  most : Option Nat
  lazy : Bool

/-- The repetition at the head of a text, if there is one.  After braces, blanks may come before the
question mark. -/
def readRepetition? (flags : Flags) (c : Char) (rest : List Char) : Option (Reading Repetition) :=
  let simple (least : Nat) (most : Option Nat) : Option (Reading Repetition) :=
    let (lazy, rest) := readLazy flags rest
    some (.ok ({ least, most, lazy }, rest))
  match c with
  | '*' => simple 0 none
  | '+' => simple 1 none
  | '?' => simple 0 (some 1)
  | '{' => some <|
    (readBounds flags rest).map fun ((least, most), rest) =>
      let (lazy, rest) := readLazy flags (skipSpace flags rest)
      ({ least, most, lazy }, rest)
  | _ => none

/-! ### Groups -/

/-- The beginning of a group. -/
inductive GroupStart where
  /-- A group that is numbered and may have a name. -/
  | numbered (name : Option (List Char))
  /-- A group that is not numbered, with these flags inside. -/
  | plain (flags : Flags)
  /-- New flags for the rest of the group around. -/
  | setFlags (flags : Flags)
  deriving DecidableEq, Repr

/-- A flag turned on or off. -/
def setFlag? (flags : Flags) (on : Bool) (c : Char) : Option Flags :=
  match c with
  | 'i' => some { flags with ignoreCase := on }
  | 'm' => some { flags with multiLine := on }
  | 's' => some { flags with dotAll := on }
  | 'R' => some { flags with anyLineEnd := on }
  | 'u' => some { flags with unicode := on }
  | 'x' => some { flags with spaced := on }
  | 'U' => some { flags with lazy := on }
  | _ => none

/-- The flags of a group up to the colon or the bracket that ends them.  No flag may come twice,
and a minus sign only once and before a flag. -/
def readFlags (flags : Flags) (seen : List Char) (off : Bool) : List Char → Reading GroupStart
  | [] => .error .unclosedGroup
  | ':' :: rest =>
    if seen.head? = some '-' then .error .invalidFlag else .ok (.plain flags, rest)
  | ')' :: rest =>
    if seen = [] then .error .nothingToRepeat
    else if seen.head? = some '-' then .error .invalidFlag
    else .ok (.setFlags flags, rest)
  | c :: rest =>
    if seen.contains c then .error .invalidFlag
    else if c = '-' then readFlags flags (c :: seen) true rest
    else
      match setFlag? flags (!off) c with
      | some flags => readFlags flags (c :: seen) off rest
      | none => .error .invalidFlag

/-- Whether a character may begin the name of a group. -/
def isNameStart (c : Char) : Bool :=
  c == '_' || isAlphabetic c

/-- Whether a character may stand in the name of a group. -/
def isNamePart (c : Char) : Bool :=
  c == '_' || c == '.' || c == '[' || c == ']' || isAlphanumeric c

/-- The name of a group up to the bracket that ends it. -/
def readGroupName (names : List (List Char)) (cs : List Char) : Reading GroupStart :=
  match splitOnce (· == '>') cs with
  | none => .error .invalidGroupName
  | some (name, rest) =>
    if !(name.head?.any isNameStart && name.all isNamePart) then .error .invalidGroupName
    else if names.contains name then .error .duplicateGroupName
    else .ok (.numbered (some name), rest)

/-- The beginning of a group after its bracket. -/
def readGroupStart (flags : Flags) (names : List (List Char)) (cs : List Char) :
    Reading GroupStart :=
  match skipSpace flags cs with
  | '?' :: '=' :: _ | '?' :: '!' :: _ | '?' :: '<' :: '=' :: _ | '?' :: '<' :: '!' :: _ =>
    .error .lookAround
  | '?' :: 'P' :: '<' :: rest => readGroupName names rest
  | '?' :: '<' :: rest => readGroupName names rest
  | '?' :: rest => readFlags flags [] false rest
  | cs => .ok (.numbered none, cs)

/-! ### Whole patterns -/

/-- A part of a pattern while it is read. -/
structure Part where
  pattern : Pattern
  /-- How deep it is nested. -/
  depth : Nat := 0
  /-- A change of flags cannot be repeated. -/
  repeatable : Bool := true

/-- A change of flags. -/
def Part.flagChange : Part := { pattern := empty, repeatable := false }

/-- The depth of some parts that stand together: several of them are one level more. -/
def depthOf (depths : List Nat) : Nat :=
  match depths with
  | [] => 0
  | [d] => d
  | ds => ds.foldl max 0 + 1

/-- A group while it is read. -/
structure OpenGroup where
  flags : Flags
  number : Option Nat := none
  /-- The alternatives before the last bar, and how deep they are nested, backwards. -/
  before : List (Pattern × Nat) := []
  /-- The parts since then, backwards. -/
  parts : List Part := []

namespace OpenGroup

/-- One more part. -/
def push (g : OpenGroup) (pattern : Pattern) (depth : Nat) : OpenGroup :=
  { g with parts := { pattern, depth } :: g.parts }

/-- The parts since the last bar as one pattern. -/
def current (g : OpenGroup) : Pattern × Nat :=
  (sequence (g.parts.reverse.map Part.pattern), depthOf (g.parts.map Part.depth))

/-- A bar. -/
def bar (g : OpenGroup) : OpenGroup :=
  { g with before := g.current :: g.before, parts := [] }

/-- What stands in the group. -/
def content (g : OpenGroup) : Pattern × Nat :=
  let alternatives := (g.current :: g.before).reverse
  (choice (alternatives.map Prod.fst), depthOf (alternatives.map Prod.snd))

/-- The whole group. -/
def close (g : OpenGroup) : Pattern × Nat :=
  let (p, depth) := g.content
  (match g.number with
    | some n => group n p
    | none => p,
   depth + 1)

/-- The last part repeated. -/
def repeatLast (g : OpenGroup) (r : Repetition) : Except PatternFault OpenGroup :=
  match g.parts with
  | [] => .error .nothingToRepeat
  | part :: parts =>
    if part.repeatable then
      .ok { g with
        parts :=
          { pattern := repeated part.pattern r.least r.most r.lazy, depth := part.depth + 1 } ::
            parts }
    else .error .nothingToRepeat

end OpenGroup

/-- A dot.  Where only bytes are meant, there is none. -/
def dot (flags : Flags) : Except PatternFault Pattern :=
  if flags.unicode then .ok (ofSet (dotSet flags)) else .error .beyondAscii

/-- A character as a pattern. -/
def ofChar (flags : Flags) (c : Char) (byte : Bool) : Except PatternFault Pattern :=
  (charSet flags c byte).map ofSet

/-- The set, anchor or character of an escape as a pattern. -/
def ofEscape (flags : Flags) : Escape → Except PatternFault Pattern
  | .char c byte => ofChar flags c byte
  | .set s => .ok (ofSet s)
  | .anchor a => .ok (anchor a)

/-- One character, one escape or one set at the head of a text, how deep it is nested, and the text
after it. -/
def readAtom (flags : Flags) (c : Char) (rest : List Char) :
    Except PatternFault ((Pattern × Nat) × List Char) := do
  match c with
  | '[' =>
    let ((s, depth), rest) ← readSet flags rest
    return ((ofSet s, depth), rest)
  | '\\' =>
    let (e, rest) ← readEscape flags rest
    return ((← ofEscape flags e, 0), rest)
  | '.' => return ((← dot flags, 0), rest)
  | '^' => return ((anchor (caret flags), 0), rest)
  | '$' => return ((anchor (dollar flags), 0), rest)
  | c => return ((← ofChar flags c false, 0), rest)

/-- A pattern while it is read. -/
structure Reader where
  /-- The names that groups have so far. -/
  names : List (List Char) := []
  /-- How many groups are numbered so far. -/
  numbered : Nat := 0
  /-- The groups around the one being read, the innermost first. -/
  outer : List OpenGroup := []
  /-- The group being read. -/
  group : OpenGroup

namespace Reader

/-- The beginning of a group. -/
def openGroup (r : Reader) : GroupStart → Reader
  | .numbered name =>
    { names := name.toList ++ r.names, numbered := r.numbered + 1, outer := r.group :: r.outer,
      group := { flags := r.group.flags, number := some (r.numbered + 1) } }
  | .plain flags => { r with outer := r.group :: r.outer, group := { flags } }
  | .setFlags flags =>
    { r with group := { r.group with flags, parts := .flagChange :: r.group.parts } }

/-- The end of a group. -/
def closeGroup (r : Reader) : Except PatternFault Reader :=
  match r.outer with
  | [] => .error .unopenedGroup
  | around :: outer =>
    let (p, depth) := r.group.close
    .ok { r with outer, group := around.push p depth }

/-- Reads on from a character. -/
def step (r : Reader) (c : Char) (rest : List Char) :
    Except PatternFault (Reader × List Char) := do
  match readRepetition? r.group.flags c rest with
  | some reading =>
    let (repetition, rest) ← reading
    return ({ r with group := ← r.group.repeatLast repetition }, rest)
  | none =>
    match c with
    | '|' => return ({ r with group := r.group.bar }, rest)
    | ')' => return (← r.closeGroup, rest)
    | '(' =>
      let (start, rest) ← readGroupStart r.group.flags r.names rest
      return (r.openGroup start, rest)
    | c =>
      let ((p, depth), rest) ← readAtom r.group.flags c rest
      return ({ r with group := r.group.push p depth }, rest)

/-- Reads to the end of a text in at most `fuel` steps. -/
def run : Nat → Reader → List Char → Except PatternFault Reader
  | 0, _, _ => .error .unclosedGroup
  | fuel + 1, r, cs =>
    match skipSpace r.group.flags cs with
    | [] => .ok r
    | c :: rest =>
      match r.step c rest with
      | .ok (r, rest) => run fuel r rest
      | .error e => .error e

end Reader

/-- How deep a pattern may be nested. -/
def depthLimit : Nat := 250

/-- The pattern of a text.  Every step of reading takes a character, so their number bounds the
steps. -/
def parse (text : String) : Except PatternFault Pattern := do
  let cs := text.toList
  let r ← Reader.run (cs.length + 1) { group := { flags := {} } } cs
  if !r.outer.isEmpty then throw .unclosedGroup
  let (p, depth) := r.group.content
  if depthLimit < depth then throw .tooDeep
  if !p.fits then throw .tooLarge
  return p

end LangBench.Pattern
