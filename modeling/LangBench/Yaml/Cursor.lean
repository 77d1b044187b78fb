/-!
# Reading YAML: places and spaces

* `YamlFault`: why a text is no YAML that can be read;
* `Place`, `Cursor`: a place in a text, and what is left of the text there;
* `Cursor.skip`: past blanks, comments and line ends.

Lines end with a line feed or with one of the separators `U+2028` and `U+2029`.
-/

namespace LangBench.Yaml

/-- Why a text is no YAML that can be read. -/
inductive YamlFault where
  /-- A character that may not stand in YAML. -/
  | strangeCharacter
  /-- The text ends inside quotes. -/
  | unclosed
  /-- An escape that is none. -/
  | badEscape
  /-- A tab where blanks tell how far a line is indented. -/
  | badTab
  /-- A key whose colon is missing. -/
  | missingColon
  /-- A sign of a list or a mapping where none may begin. -/
  | misplaced
  /-- A character that nothing begins with. -/
  | unexpected
  /-- Signs that make no list and no mapping. -/
  | badStructure
  /-- A second document. -/
  | secondDocument
  /-- A value of another shape than asked for. -/
  | wrongShape
  /-- A key that is missing. -/
  | missingKey (key : String)
  /-- A key that comes twice. -/
  | duplicateKey (key : String)
  deriving DecidableEq, Repr

/-- The text of a fault. -/
def YamlFault.message : YamlFault → String
  | strangeCharacter => "control characters are not allowed"
  | unclosed => "unexpected end of text"
  | badEscape => "unknown escape sequence"
  | badTab => "a tab violates the indentation"
  | missingColon => "could not find the expected colon"
  | misplaced => "not allowed in this context"
  | unexpected => "unexpected character"
  | badStructure => "did not find the expected node"
  | secondDocument => "more than one document"
  | wrongShape => "invalid type"
  | missingKey key => s!"missing field {key}"
  | duplicateKey key => s!"duplicate field {key}"

/-! ### Characters -/

/-- Whether a character is a blank within a line. -/
def isSpace (c : Char) : Bool :=
  c == ' ' || c == '\t'

/-- Whether a character ends a line. -/
def isBreak (c : Char) : Bool :=
  c == '\n' || c == '\u2028' || c == '\u2029'

/-- Whether a text is at an end, or at a blank or line end. -/
def atSpace (cs : List Char) : Bool :=
  cs.head?.all fun c => isSpace c || isBreak c

/-- Whether a text begins with a character three times, and then a blank or an end. -/
def isMark (c : Char) (cs : List Char) : Bool :=
  [c, c, c].isPrefixOf cs && atSpace (cs.drop 3)

/-- Whether a text begins with the mark of a document, `---` or `...`. -/
def isDocumentMark (cs : List Char) : Bool :=
  isMark '-' cs || isMark '.' cs

/-- The mark that may stand at the beginning of a line and has no width. -/
def byteOrderMark : Char := '\uFEFF'

/-! ### Places -/

/-- A place in a text: the characters and lines before it, and the characters before it in its own
line. -/
structure Place where
  index : Nat := 0
  line : Nat := 0
  column : Nat := 0
  deriving DecidableEq, Repr, Inhabited

/-- The place after a character. -/
def Place.after (p : Place) (c : Char) : Place :=
  if isBreak c then ⟨p.index + 1, p.line + 1, 0⟩ else ⟨p.index + 1, p.line, p.column + 1⟩

/-- A place in a text, and what is left of the text there. -/
structure Cursor where
  rest : List Char
  place : Place := {}
  deriving DecidableEq, Repr, Inhabited

namespace Cursor

/-- The cursor after the next character. -/
def next (c : Cursor) : Cursor :=
  match c.rest with
  | [] => c
  | d :: rest => ⟨rest, c.place.after d⟩

/-- The cursor after some characters. -/
def advance : Nat → Cursor → Cursor
  | 0, c => c
  | n + 1, c => advance n c.next

/-- What a text holds after blanks, comments and line ends, and whether a key may begin there.
Within brackets (`flow`) tabs are blanks everywhere, else only where no key may begin; a line end
lets one begin. -/
def skipFrom (flow keyAllowed inComment : Bool) (p : Place) : List Char → Cursor × Bool
  | [] => (⟨[], p⟩, keyAllowed)
  | c :: rest =>
    if isBreak c then skipFrom flow (keyAllowed || !flow) false (p.after c) rest
    else if inComment then skipFrom flow keyAllowed true (p.after c) rest
    else if c = '#' then skipFrom flow keyAllowed true (p.after c) rest
    else if c = ' ' ∨ (c = '\t' ∧ (flow || !keyAllowed)) ∨ (c = byteOrderMark ∧ p.column = 0) then
      skipFrom flow keyAllowed false (p.after c) rest
    else (⟨c :: rest, p⟩, keyAllowed)

/-- The cursor after blanks, comments and line ends, and whether a key may begin there. -/
def skip (flow keyAllowed : Bool) (c : Cursor) : Cursor × Bool :=
  skipFrom flow keyAllowed false c.place c.rest

end Cursor

end LangBench.Yaml
