import LangBench.Pattern.Build
import LangBench.Text.Blank
import LangBench.Unicode.Fold
import LangBench.Unicode.Property

/-!
# Flags and escapes

* `PatternFault`: why a text is no pattern;
* `Pattern.Flags`: what the meaning of a pattern depends on;
* `Pattern.skipSpace`: blanks and comments left out where they do not count;
* `Pattern.readEscape`: what stands after a backslash.
-/

namespace LangBench

open Text

/-- Why a text is no pattern. -/
inductive PatternFault where
  | unclosedGroup
  | unopenedGroup
  | unclosedSet
  | invalidRange
  | invalidSetItem
  | nothingToRepeat
  | invalidCount
  | unknownEscape
  | backreference
  | invalidCode
  | unknownProperty
  | unknownWordPlace
  | invalidGroupName
  | duplicateGroupName
  | invalidFlag
  | lookAround
  /-- Characters beyond ASCII are named where only bytes are meant. -/
  | beyondAscii
  | tooDeep
  | tooLarge
  deriving DecidableEq, Repr

/-- The text of a fault. -/
def PatternFault.message : PatternFault → String
  | unclosedGroup => "unclosed group"
  | unopenedGroup => "unopened group"
  | unclosedSet => "unclosed character class"
  | invalidRange => "invalid character class range"
  | invalidSetItem => "invalid item in character class"
  | nothingToRepeat => "repetition operator missing expression"
  | invalidCount => "invalid repetition count"
  | unknownEscape => "unrecognized escape sequence"
  | backreference => "backreferences are not supported"
  | invalidCode => "invalid character code"
  | unknownProperty => "Unicode property not found"
  | unknownWordPlace => "unrecognized word boundary"
  | invalidGroupName => "invalid group name"
  | duplicateGroupName => "duplicate group name"
  | invalidFlag => "invalid flag"
  | lookAround => "look-around is not supported"
  | beyondAscii => "Unicode not allowed here"
  | tooDeep => "pattern is nested too deeply"
  | tooLarge => "compiled pattern exceeds its size limit"

namespace Pattern

/-- The result of reading: a value and the text after it. -/
abbrev Reading (α : Type) := Except PatternFault (α × List Char)

/-! ### Flags -/

/-- What flags can change about the meaning of a pattern. -/
structure Flags where
  /-- Letters match regardless of case. -/
  ignoreCase : Bool := false
  /-- `^` and `$` stand at the ends of every line. -/
  multiLine : Bool := false
  /-- `.` matches a line feed. -/
  dotAll : Bool := false
  /-- Lines may also end with a carriage return. -/
  anyLineEnd : Bool := false
  /-- Classes hold characters of every script. -/
  unicode : Bool := true
  /-- Blanks and comments are left out. -/
  spaced : Bool := false
  /-- Repetitions are lazy unless they say otherwise. -/
  lazy : Bool := false
  deriving DecidableEq, Repr

/-- What is left of a text when blanks and comments are left out at its head, if the flags say
so. -/
def skipSpace (flags : Flags) (cs : List Char) : List Char :=
  if flags.spaced then go cs.length cs else cs
where
  /-- At most `fuel` stretches of blanks and comments are left out. -/
  go : Nat → List Char → List Char
    | 0, cs => cs
    | fuel + 1, cs =>
      match trimStart cs with
      | '#' :: rest => go fuel (rest.dropWhile (· != '\n'))
      | rest => rest

/-- The text before the first character with a property and the text from there on, with blanks
and comments left out after every character. -/
def readUntil (flags : Flags) (p : Char → Bool) (cs : List Char) : List Char × List Char :=
  go cs.length [] cs
where
  /-- After `done`, which is listed backwards, at most `fuel` characters are taken. -/
  go : Nat → List Char → List Char → List Char × List Char
    | 0, done, cs => (done.reverse, cs)
    | _, done, [] => (done.reverse, [])
    | fuel + 1, done, c :: cs =>
      if p c then (done.reverse, c :: cs) else go fuel (c :: done) (skipSpace flags cs)

/-! ### Sets under flags -/

/-- A set with the other forms of its letters, if case does not matter. -/
def foldSet (flags : Flags) (s : CharSet) : CharSet :=
  if !flags.ignoreCase then s
  else if flags.unicode then s.foldCase else s.foldAsciiCase

/-- A set or its opposite.  Where only bytes are meant, it must not go beyond ASCII. -/
def settle (flags : Flags) (negated : Bool) (s : CharSet) : Except PatternFault CharSet :=
  let s := if negated then s.complement else s
  if flags.unicode || s.isAscii then .ok s else .error .beyondAscii

/-- Digits. -/
def digitSet (flags : Flags) : CharSet :=
  if flags.unicode then Unicode.decimalDigits else .range '0' '9'

/-- White space. -/
def blankSet (flags : Flags) : CharSet :=
  if flags.unicode then ⟨blankRanges⟩ else .ofRanges [(0x09, 0x0d), (0x20, 0x20)]

/-- Word characters. -/
def wordSet (flags : Flags) : CharSet :=
  if flags.unicode then Unicode.wordChars
  else .unions [.range '0' '9', .range 'A' 'Z', .single '_', .range 'a' 'z']

/-- What a dot stands for. -/
def dotSet (flags : Flags) : CharSet :=
  if flags.dotAll then .all
  else if flags.anyLineEnd then .complement (.union (.single '\n') (.single '\r'))
  else .complement (.single '\n')

/-- The words that flags speak of. -/
def alphabet (flags : Flags) : Alphabet :=
  if flags.unicode then .unicode else .ascii

/-- The place of `^`. -/
def caret (flags : Flags) : Anchor :=
  if !flags.multiLine then .textStart
  else if flags.anyLineEnd then .lineStartAny else .lineStart

/-- The place of `$`. -/
def dollar (flags : Flags) : Anchor :=
  if !flags.multiLine then .textEnd
  else if flags.anyLineEnd then .lineEndAny else .lineEnd

/-! ### Escapes -/

/-- What an escape stands for. -/
inductive Escape where
  /-- A character; it may have been written as a byte, with two digits. -/
  | char (c : Char) (byte : Bool)
  | set (s : CharSet)
  | anchor (a : Anchor)
  deriving DecidableEq, Repr

/-- The first `n` characters of a text, with blanks and comments left out after each of them. -/
def takeSpaced (flags : Flags) : Nat → List Char → List Char × List Char
  | 0, cs => ([], cs)
  | _, [] => ([], [])
  | n + 1, c :: cs =>
    let (taken, rest) := takeSpaced flags n (skipSpace flags cs)
    (c :: taken, rest)

/-- The character of a code given by `width` hexadecimal digits or by any number of them in
braces. -/
def readCode (flags : Flags) (width : Nat) (cs : List Char) : Reading Escape :=
  let (digits, rest, braced) :=
    match skipSpace flags cs with
    | '{' :: cs =>
      match readUntil flags (· == '}') (skipSpace flags cs) with
      | (digits, '}' :: rest) => (digits, skipSpace flags rest, true)
      | (_, rest) => ([], rest, true)
    | cs =>
      let (digits, rest) := takeSpaced flags width cs
      (if digits.length = width then digits else [], rest, false)
  match (hexValue? digits).bind charOfCode? with
  | some c => .ok (.char c (!braced && width == 2), rest)
  | none => .error .invalidCode

/-- The set of a property, written as one letter or as a name in braces. -/
def readProperty (flags : Flags) (negated : Bool) (cs : List Char) : Reading Escape :=
  let (name, rest) :=
    match skipSpace flags cs with
    | '{' :: cs =>
      match readUntil flags (· == '}') (skipSpace flags cs) with
      | (name, '}' :: rest) => (some name, rest)
      | (_, rest) => (none, rest)
    | c :: cs => (some [c], skipSpace flags cs)
    | [] => (none, [])
  match name.bind Unicode.query? with
  | some q =>
    if flags.unicode then
      let s := foldSet flags q.set
      .ok (.set (if negated != q.opposite then s.complement else s), rest)
    else .error .beyondAscii
  | none => .error .unknownProperty

/-- The places beside words that are written as `\b` and a name in braces. -/
def namedPlaces : List (String × WordPlace) :=
  [("start", .start), ("end", .stop), ("start-half", .notAfter), ("end-half", .notBefore)]

/-- Whether a character may stand in the name of a place. -/
def isPlaceNameChar (c : Char) : Bool :=
  c.isAlpha || c == '-'

/-- What `\b` stands for.  Braces that begin with no name belong to a repetition of it. -/
def readWordPlace (flags : Flags) (cs : List Char) : Reading Escape :=
  let place (p : WordPlace) : Escape := .anchor (.word (alphabet flags) p)
  match cs with
  | '{' :: rest =>
    match skipSpace flags rest with
    | [] => .error .unknownWordPlace
    | c :: inside =>
      if isPlaceNameChar c then
        match readUntil flags (!isPlaceNameChar ·) (c :: inside) with
        | (name, '}' :: rest) =>
          match namedPlaces.lookup (String.ofList name) with
          | some p => .ok (place p, rest)
          | none => .error .unknownWordPlace
        | _ => .error .unknownWordPlace
      else .ok (place .edge, cs)
  | _ => .ok (place .edge, cs)

/-- The set of a letter, or, for a capital, its opposite. -/
def readClass (flags : Flags) (negated : Bool) (s : CharSet) (rest : List Char) :
    Reading Escape :=
  (settle flags negated s).map fun s => (.set s, rest)

/-- What the escape after a backslash stands for. -/
def readEscape (flags : Flags) (cs : List Char) : Reading Escape :=
  let char (c : Char) (rest : List Char) : Reading Escape := .ok (.char c false, rest)
  match cs with
  | [] => .error .unknownEscape
  | 'd' :: rest => readClass flags false (digitSet flags) rest
  | 'D' :: rest => readClass flags true (digitSet flags) rest
  | 's' :: rest => readClass flags false (blankSet flags) rest
  | 'S' :: rest => readClass flags true (blankSet flags) rest
  | 'w' :: rest => readClass flags false (wordSet flags) rest
  | 'W' :: rest => readClass flags true (wordSet flags) rest
  | 'p' :: rest => readProperty flags false rest
  | 'P' :: rest => readProperty flags true rest
  | 'x' :: rest => readCode flags 2 rest
  | 'u' :: rest => readCode flags 4 rest
  | 'U' :: rest => readCode flags 8 rest
  | 'a' :: rest => char '\x07' rest
  | 'f' :: rest => char '\x0c' rest
  | 't' :: rest => char '\t' rest
  | 'n' :: rest => char '\n' rest
  | 'r' :: rest => char '\r' rest
  | 'v' :: rest => char '\x0b' rest
  | 'A' :: rest => .ok (.anchor .textStart, rest)
  | 'z' :: rest => .ok (.anchor .textEnd, rest)
  | 'b' :: rest => readWordPlace flags rest
  | 'B' :: rest => .ok (.anchor (.word (alphabet flags) .notEdge), rest)
  | '<' :: rest => .ok (.anchor (.word (alphabet flags) .start), rest)
  | '>' :: rest => .ok (.anchor (.word (alphabet flags) .stop), rest)
  | c :: rest =>
    if c.isDigit then .error .backreference
    else if c.toNat < 0x80 && !c.isAlpha then char c rest
    else .error .unknownEscape

/-- The set of a character under some flags.  Where only bytes are meant, a character beyond ASCII
must not be written as a byte. -/
def charSet (flags : Flags) (c : Char) (byte : Bool) : Except PatternFault CharSet :=
  if !flags.unicode && byte && 0x80 ≤ c.toNat then .error .beyondAscii
  else .ok (foldSet flags (.single c))

end Pattern

end LangBench
