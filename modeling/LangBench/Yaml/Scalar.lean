import LangBench.Text.Hex
import LangBench.Yaml.Cursor

/-!
# Reading YAML: scalars

* `Gap`: the blanks and line ends between two characters of a scalar, and what is left of them:
  blanks stay, a single line feed becomes a space, and of several ends of lines the first one is
  dropped if it is a line feed;
* `readPlain`, `readSingle`, `readDouble`: a scalar without quotes, in single and in double ones.
-/

namespace LangBench.Yaml

open Text

/-- The blanks and line ends after the last character of a scalar so far. -/
inductive Gap where
  /-- Blanks of one line, backwards. -/
  | spaces (cs : List Char)
  /-- Line ends: the first one, which is missing where a backslash joins lines, and the others
  backwards. -/
  | lines (first : Option Char) (more : List Char)
  deriving DecidableEq, Repr

namespace Gap

/-- No gap. -/
def none : Gap := spaces []

/-- One more blank. -/
def space (c : Char) : Gap → Gap
  | spaces cs => spaces (c :: cs)
  | lines first more => lines first more

/-- One more line end. -/
def line (c : Char) : Gap → Gap
  | spaces _ => lines (some c) []
  | lines first more => lines first (c :: more)

/-- What is left of a gap, backwards. -/
def folded : Gap → List Char
  | spaces cs => cs
  | lines (some '\n') [] => [' ']
  | lines (some '\n') more => more
  | lines (some c) more => more ++ [c]
  | lines .none more => more

/-- Whether a line ended in the gap. -/
def hasLine : Gap → Bool
  | spaces _ => false
  | lines .. => true

end Gap

/-- A scalar that was read: its text, the place after it and after the blanks that follow it, and
whether a line ended there. -/
structure ScalarText where
  text : List Char
  after : Cursor
  endsLine : Bool := false
  deriving DecidableEq, Repr

/-! ### Without quotes -/

/-- Whether a character ends a scalar without quotes within brackets. -/
def isFlowMark (c : Char) : Bool :=
  [',', '[', ']', '\x7b', '\x7d'].contains c

/-- Whether a text begins with a colon that no scalar may hold within brackets. -/
def isBadColon (cs : List Char) : Bool :=
  match cs with
  | ':' :: c :: _ => isFlowMark c || c == '?'
  | _ => false

/-- Whether a scalar without quotes ends before the text `c :: rest`. -/
def endsPlain (flow : Bool) (c : Char) (rest : List Char) : Bool :=
  (c == ':' && atSpace rest) || (flow && isFlowMark c)

/-- Whether a scalar goes on at a text in a certain column, after a gap.  It does not go on in a
comment, in a line that is indented less than `low`, or in the next document. -/
def goesOn (flow : Bool) (low : Nat) (gap : Gap) (column : Nat) (cs : List Char) : Bool :=
  gap == .none ||
    (cs.head? != some '#' && (flow || low ≤ column) && !(column == 0 && isDocumentMark cs))

/-- Reads a scalar without quotes from a place on, after the text `done`, which is listed
backwards, and a gap. -/
def readPlainFrom (flow : Bool) (low : Nat) (done : List Char) (gap : Gap) (p : Place) :
    List Char → Except YamlFault ScalarText
  | [] => .ok ⟨done.reverse, ⟨[], p⟩, gap.hasLine⟩
  | c :: rest =>
    if isBreak c then readPlainFrom flow low done (gap.line c) (p.after c) rest
    else if isSpace c then
      if c = '\t' ∧ gap.hasLine ∧ p.column < low then .error .badTab
      else readPlainFrom flow low done (gap.space c) (p.after c) rest
    else if !goesOn flow low gap p.column (c :: rest) || endsPlain flow c rest then
      .ok ⟨done.reverse, ⟨c :: rest, p⟩, gap.hasLine⟩
    else if flow && isBadColon (c :: rest) then .error .unexpected
    else readPlainFrom flow low (c :: (gap.folded ++ done)) .none (p.after c) rest

/-- Reads a scalar without quotes. -/
def readPlain (flow : Bool) (low : Nat) (c : Cursor) : Except YamlFault ScalarText :=
  readPlainFrom flow low [] .none c.place c.rest

/-- Whether a scalar without quotes may begin with a text.  A sign of YAML may not, except a
hyphen, and outside brackets a question mark or colon, that no blank follows. -/
def mayBeginPlain (flow : Bool) (cs : List Char) : Bool :=
  match cs with
  | [] => false
  | '-' :: rest => !atSpace rest
  | '?' :: rest => !flow && !atSpace rest
  | ':' :: rest => !flow && !atSpace rest
  | c :: _ =>
    !isFlowMark c && !isSpace c && !isBreak c &&
      !(['#', '&', '*', '!', '|', '>', '\x27', '"', '%', '@', '\x60'].contains c)

/-! ### In quotes -/

/-- Reads a scalar in single quotes from its second character on; two quotes stand for one. -/
def readSingleFrom (done : List Char) (gap : Gap) (p : Place) :
    List Char → Except YamlFault ScalarText
  | [] => .error .unclosed
  | c :: rest =>
    if isBreak c then readSingleFrom done (gap.line c) (p.after c) rest
    else if isSpace c then readSingleFrom done (gap.space c) (p.after c) rest
    else if p.column = 0 && isDocumentMark (c :: rest) then .error .unexpected
    else if c = '\x27' then
      match rest with
      | '\x27' :: rest =>
        readSingleFrom ('\x27' :: (gap.folded ++ done)) .none ((p.after c).after c) rest
      | _ => .ok ⟨(gap.folded ++ done).reverse, ⟨rest, p.after c⟩, false⟩
    else readSingleFrom (c :: (gap.folded ++ done)) .none (p.after c) rest

/-- Reads a scalar in single quotes. -/
def readSingle (c : Cursor) : Except YamlFault ScalarText :=
  readSingleFrom [] .none c.next.place c.next.rest

/-- The characters that escapes of a single letter stand for. -/
def letterEscapes : List (Char × Char) :=
  [('0', '\x00'), ('a', '\x07'), ('b', '\x08'), ('t', '\t'), ('\t', '\t'), ('n', '\n'),
   ('v', '\x0b'), ('f', '\x0c'), ('r', '\r'), ('e', '\x1b'), (' ', ' '), ('"', '"'), ('/', '/'),
   ('\\', '\\'), ('N', '\u0085'), ('_', '\u00a0'), ('L', '\u2028'), ('P', '\u2029')]

/-- The number of hexadecimal digits of escapes with a code. -/
def codeEscapes : List (Char × Nat) :=
  [('x', 2), ('u', 4), ('U', 8)]

/-- The character of the escape after a backslash and the number of characters it takes. -/
def escape? (c : Char) (rest : List Char) : Option (Char × Nat) :=
  match letterEscapes.lookup c with
  | some d => some (d, 1)
  | none =>
    (codeEscapes.lookup c).bind fun width =>
      if rest.length < width then none
      else ((hexValue? (rest.take width)).bind charOfCode?).map fun d => (d, width + 1)

/-- Reads a scalar in double quotes from its second character on.  A backslash at the end of a line
joins it with the next one, whose blanks in front do not count.  Every step takes a character, so
their number, `fuel`, bounds the steps. -/
def readDoubleFrom : Nat → List Char → Gap → Cursor → Except YamlFault ScalarText
  | 0, _, _, _ => .error .unclosed
  | fuel + 1, done, gap, cursor =>
    match cursor.rest with
    | [] => .error .unclosed
    | c :: rest =>
      if isBreak c then readDoubleFrom fuel done (gap.line c) cursor.next
      else if isSpace c then readDoubleFrom fuel done (gap.space c) cursor.next
      else if cursor.place.column = 0 && isDocumentMark (c :: rest) then .error .unexpected
      else
        let done := gap.folded ++ done
        if c = '"' then .ok ⟨done.reverse, cursor.next, false⟩
        else if c = '\\' then
          match rest with
          | [] => .error .unclosed
          | d :: after =>
            if isBreak d then readDoubleFrom fuel done (.lines none []) cursor.next.next
            else
              match escape? d after with
              | some (e, taken) =>
                readDoubleFrom fuel (e :: done) .none (cursor.next.advance taken)
              | none => .error .badEscape
        else readDoubleFrom fuel (c :: done) .none cursor.next

/-- Reads a scalar in double quotes. -/
def readDouble (c : Cursor) : Except YamlFault ScalarText :=
  readDoubleFrom c.rest.length [] .none c.next

end LangBench.Yaml
