import LangBench.Yaml.Scalar

/-!
# YAML as signs and scalars

* `Token`: the signs that a text is made of; the beginnings and ends of lists and mappings that only
  the indentation shows are signs of their own;
* `Scanner`: the signs found so far, and what decides about the next ones;
* `Token.ofString`: the signs of a text.

Whether a key begins at some place shows only at the colon after it.  Therefore places where one may
begin are kept in mind, and its sign is put there later.  A key stands on one line and is not
longer than `keyLimit` characters.
-/

namespace LangBench.Yaml

/-- A sign or a scalar. -/
inductive Token where
  /-- The mark `---`. -/
  | documentStart
  /-- The mark `...`. -/
  | documentEnd
  /-- The beginning of a list by indentation. -/
  | blockList
  /-- The beginning of a mapping by indentation. -/
  | blockMap
  /-- The end of a list or a mapping by indentation. -/
  | blockEnd
  /-- The hyphen before an item. -/
  | item
  /-- The beginning of a key. -/
  | key
  /-- The colon before a value. -/
  | value
  | openList
  | closeList
  | openMap
  | closeMap
  | comma
  /-- A scalar; `plain` says that it stands without quotes. -/
  | scalar (text : String) (plain : Bool)
  deriving DecidableEq, Repr

/-- A place where a key may begin. -/
structure KeyPlace where
  /-- The number of signs before it. -/
  signs : Nat
  place : Place
  /-- Whether nothing but a key can begin here. -/
  required : Bool
  deriving DecidableEq, Repr

/-- The most characters before the colon of a key. -/
def keyLimit : Nat := 1024

/-- Whether a key that begins at a place can no longer end at another one. -/
def KeyPlace.isStale (k : KeyPlace) (p : Place) : Bool :=
  k.place.line < p.line || k.place.index + keyLimit < p.index

/-- A text whose signs are being found. -/
structure Scanner where
  cursor : Cursor
  /-- The signs so far, backwards. -/
  signs : List Token := []
  /-- The number of signs so far. -/
  count : Nat := 0
  /-- The least column of what lies within the innermost list or mapping by indentation. -/
  low : Nat := 0
  /-- The same for the lists and mappings around it. -/
  outerLows : List Nat := []
  /-- Whether a key may begin at the next sign. -/
  keyAllowed : Bool := true
  /-- Where the current key may have begun. -/
  keyPlace : Option KeyPlace := none
  /-- The same around each pair of brackets, the innermost first. -/
  outerKeys : List (Option KeyPlace) := []

namespace Scanner

/-- Whether the next sign stands within brackets. -/
def inFlow (s : Scanner) : Bool :=
  !s.outerKeys.isEmpty

/-- One more sign. -/
def emit (s : Scanner) (t : Token) : Scanner :=
  { s with signs := t :: s.signs, count := s.count + 1 }

/-- Signs put after the first `n` ones. -/
def insert (s : Scanner) (n : Nat) (ts : List Token) : Scanner :=
  let (later, earlier) := s.signs.splitAt (s.count - n)
  { s with signs := later ++ ts.reverse ++ earlier, count := s.count + ts.length }

/-- The cursor moved by some characters. -/
def advance (s : Scanner) (n : Nat) : Scanner :=
  { s with cursor := s.cursor.advance n }

/-! ### Indentation -/

/-- Whether a list or mapping begins in a column, outside brackets. -/
def deepens (s : Scanner) (column : Nat) : Bool :=
  !s.inFlow && s.low ≤ column

/-- A list or mapping begins in a column. -/
def deepen (s : Scanner) (column : Nat) : Scanner :=
  if s.deepens column then { s with low := column + 1, outerLows := s.low :: s.outerLows } else s

/-- The end of the innermost list or mapping, inside the one whose insides begin in the column
`around`. -/
def leave (s : Scanner) (around : Nat) (outer : List Nat) : Scanner :=
  { s with low := around, outerLows := outer }.emit .blockEnd

/-- The lists and mappings end whose insides begin after the column `low`.  `outer` is the same for
those around the innermost one. -/
def flattenFrom (s : Scanner) (low : Nat) : List Nat → Scanner
  | [] => s
  | around :: outer => if low < s.low then (s.leave around outer).flattenFrom low outer else s

/-- The lists and mappings end whose insides begin after the column `low`; within brackets, none
does. -/
def flatten (s : Scanner) (low : Nat) : Scanner :=
  if s.inFlow then s else s.flattenFrom low s.outerLows

/-! ### Keys -/

/-- A key place that is given up; it must not be required. -/
def giveUp : Option KeyPlace → Except YamlFault (Option KeyPlace)
  | some k => if k.required then .error .missingColon else .ok none
  | none => .ok none

/-- No key begins at the place kept in mind. -/
def dropKey (s : Scanner) : Except YamlFault Scanner := do
  return { s with keyPlace := ← giveUp s.keyPlace }

/-- A key place, if it is not stale. -/
def refresh (p : Place) (k : Option KeyPlace) : Except YamlFault (Option KeyPlace) :=
  if k.any (·.isStale p) then giveUp k else .ok k

/-- Key places that are stale are given up. -/
def dropStale (s : Scanner) : Except YamlFault Scanner := do
  let keyPlace ← refresh s.cursor.place s.keyPlace
  let outerKeys ← s.outerKeys.mapM (refresh s.cursor.place)
  return { s with keyPlace, outerKeys }

/-- A key may begin here, if it is allowed to. -/
def saveKey (s : Scanner) : Except YamlFault Scanner :=
  if !s.keyAllowed then .ok s
  else do
    let place := s.cursor.place
    let required := !s.inFlow && s.low == place.column + 1
    return { ← s.dropKey with keyPlace := some { signs := s.count, place, required } }

/-! ### Signs -/

/-- The mark of a document; everything before it ends. -/
def mark (s : Scanner) (t : Token) : Except YamlFault Scanner := do
  let s ← (s.flatten 0).dropKey
  return ({ s with keyAllowed := false }.emit t).advance 3

/-- An opening bracket; it may begin a key, and one may begin within. -/
def openBracket (s : Scanner) (t : Token) : Except YamlFault Scanner := do
  let s ← s.saveKey
  let s := { s with keyAllowed := true, keyPlace := none, outerKeys := s.keyPlace :: s.outerKeys }
  return (s.emit t).advance 1

/-- A closing bracket. -/
def closeBracket (s : Scanner) (t : Token) : Except YamlFault Scanner := do
  let s ← s.dropKey
  let s := { s with keyAllowed := false }
  let s := match s.outerKeys with
    | [] => s
    | k :: outerKeys => { s with keyPlace := k, outerKeys }
  return (s.emit t).advance 1

/-- A comma. -/
def comma (s : Scanner) : Except YamlFault Scanner := do
  let s ← s.dropKey
  return ({ s with keyAllowed := true }.emit .comma).advance 1

/-- A list or mapping that begins here, if none does so far in this column. -/
def enter (s : Scanner) (t : Token) : Except YamlFault Scanner :=
  if s.inFlow then .ok s
  else if !s.keyAllowed then .error .misplaced
  else
    let column := s.cursor.place.column
    .ok (if s.deepens column then (s.deepen column).emit t else s)

/-- The hyphen of an item. -/
def item (s : Scanner) : Except YamlFault Scanner := do
  let s ← (← s.enter .blockList).dropKey
  return ({ s with keyAllowed := true }.emit .item).advance 1

/-- The question mark before a key. -/
def key (s : Scanner) : Except YamlFault Scanner := do
  let s ← (← s.enter .blockMap).dropKey
  return ({ s with keyAllowed := !s.inFlow }.emit .key).advance 1

/-- The colon before a value; the key before it may have to be marked. -/
def value (s : Scanner) : Except YamlFault Scanner := do
  match s.keyPlace with
  | some k =>
    let column := k.place.column
    let signs := if s.deepens column then [.blockMap, .key] else [.key]
    let s := (s.insert k.signs signs).deepen column
    return ({ s with keyPlace := none, keyAllowed := false }.emit .value).advance 1
  | none =>
    let s ← s.enter .blockMap
    return ({ s with keyAllowed := !s.inFlow }.emit .value).advance 1

/-- A scalar; it may begin a key. -/
def scalar (s : Scanner) (plain : Bool) (read : Cursor → Except YamlFault ScalarText) :
    Except YamlFault Scanner := do
  let s ← s.saveKey
  let found ← read s.cursor
  let s := { s with cursor := found.after, keyAllowed := found.endsLine }
  return s.emit (.scalar (String.ofList found.text) plain)

/-- The sign at the head of the text `c :: rest`. -/
def sign (s : Scanner) (c : Char) (rest : List Char) : Except YamlFault Scanner :=
  let flow := s.inFlow
  let lineStart := s.cursor.place.column == 0
  if lineStart && c == '%' then .error .unexpected
  else if lineStart && isMark '-' (c :: rest) then s.mark .documentStart
  else if lineStart && isMark '.' (c :: rest) then s.mark .documentEnd
  else
    match c with
    | '[' => s.openBracket .openList
    | '\x7b' => s.openBracket .openMap
    | ']' => s.closeBracket .closeList
    | '\x7d' => s.closeBracket .closeMap
    | ',' => s.comma
    | '\x27' => s.scalar false readSingle
    | '"' => s.scalar false readDouble
    | c =>
      if c = '-' ∧ atSpace rest then s.item
      else if c = '?' ∧ (flow || atSpace rest) then s.key
      else if c = ':' ∧ (flow || atSpace rest) then s.value
      else if mayBeginPlain flow (c :: rest) then s.scalar true (readPlain flow s.low)
      else .error .unexpected

/-- What comes before the next sign: blanks are passed, and lists and mappings may end. -/
def approach (s : Scanner) : Except YamlFault Scanner := do
  let (cursor, keyAllowed) := s.cursor.skip s.inFlow s.keyAllowed
  let s ← { s with cursor, keyAllowed }.dropStale
  return s.flatten (cursor.place.column + 1)

/-- The end of the text; everything ends. -/
def finish (s : Scanner) : Except YamlFault (List Token) := do
  let s ← (s.flatten 0).dropKey
  return s.signs.reverse

/-- Finds the signs up to the end of the text.  Every step takes a character, so their number,
`fuel`, bounds the steps. -/
def run : Nat → Scanner → Except YamlFault (List Token)
  | 0, s => s.finish
  | fuel + 1, s =>
    match s.approach with
    | .error e => .error e
    | .ok s =>
      match s.cursor.rest with
      | [] => s.finish
      | c :: rest =>
        match s.sign c rest with
        | .error e => .error e
        | .ok s => run fuel s

end Scanner

/-! ### Texts -/

/-- Whether a character may stand in YAML. -/
def isAllowed (c : Char) : Bool :=
  let n := c.toNat
  n == 0x09 || n == 0x0a || n == 0x0d || (0x20 ≤ n && n ≤ 0x7e) || n == 0x85 ||
    (0xa0 ≤ n && n ≤ 0xfffd) || 0x10000 ≤ n

/-- A text with every line end written as a line feed, except those that are separators. -/
def normalizeLineEnds : List Char → List Char
  | [] => []
  | '\r' :: '\n' :: cs => '\n' :: normalizeLineEnds cs
  | c :: cs => (if c = '\r' ∨ c = '\u0085' then '\n' else c) :: normalizeLineEnds cs

/-- The signs of a text.  A mark at its head that tells the order of bytes is left out. -/
def Token.ofString (s : String) : Except YamlFault (List Token) :=
  let cs := match s.toList with
    | c :: cs => if c = byteOrderMark then cs else c :: cs
    | [] => []
  if cs.all isAllowed then
    let cs := normalizeLineEnds cs
    Scanner.run (cs.length + 1) { cursor := { rest := cs } }
  else .error .strangeCharacter

end LangBench.Yaml
