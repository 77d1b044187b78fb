import LangBench.Shebang
import LangBench.Text.Digit

/-!
# Tokens of source text

A source text is a list of tokens to the classifier: words, brackets, runs of operator
characters, and a mark for an interpreter line.  Blanks, comments, quoted strings and numbers
are dropped.

* `Token`, `Token.text`: the tokens and how they are spelled;
* `Token.step`: what stands at the head of a text, and the text after it;
* `Token.scan`, `Token.scan_induct`: the tokens of a text, and induction along its steps;
* `tokenize`: the tokens of a file, as far as it is read.
-/

namespace LangBench

open Text

/-- What the classifier counts. -/
inductive Token where
  /-- The program named on an interpreter line. -/
  | script (name : List Char)
  /-- An identifier or keyword. -/
  | word (chars : List Char)
  /-- A bracket or a semicolon. -/
  | bracket (c : Char)
  /-- A run of operator characters. -/
  | operator (chars : List Char)
  deriving DecidableEq, Repr

namespace Token

/-- What marks a token as the program of an interpreter line. -/
def scriptMark : List Char := "SHEBANG#!".toList

/-- The spelling of a token. -/
def text : Token → List Char
  | .script name => scriptMark ++ name
  | .word chars => chars
  | .bracket c => [c]
  | .operator chars => chars

/-- Whether a character is a token by itself. -/
def isBracket (c : Char) : Bool :=
  ['(', ')', '[', ']', '{', '}', ';'].contains c

/-- Whether a character opens a quoted string. -/
def isQuote (c : Char) : Bool :=
  c == '"' || c == '\x27'

/-- Whether a character may stand in an operator. -/
def isOperatorChar (c : Char) : Bool :=
  isAsciiPunct c && !isBracket c && !isQuote c

/-- Whether a character may begin a word. -/
def isWordStart (c : Char) : Bool :=
  isAlphabetic c || c == '_'

/-- Whether a character may stand inside a word. -/
def isWordPart (c : Char) : Bool :=
  isAlphanumeric c || c == '_'

/-- Whether a character may stand in a number. -/
def isNumberPart (c : Char) : Bool :=
  c.isAlphanum || c == '.' || c == '_'

/-- Whether a text is at an end or a blank. -/
def atBlank (cs : List Char) : Bool :=
  cs.head?.all isBlank

/-- Whether the text `c :: cs` begins with a comment that lasts to the end of the line. -/
def isLineComment (c : Char) (cs : List Char) : Bool :=
  (c == '/' && cs.head? == some '/') || (c == '#' && atBlank cs) ||
    (c == '-' && cs.head? == some '-' && atBlank (cs.drop 1))

/-- The rest of a text from the end of its first line on. -/
def fromLineEnd (cs : List Char) : List Char :=
  cs.dropWhile (· != '\n')

/-- The rest of a text after the first `mark`; nothing if there is none. -/
def afterMark (mark : List Char) : List Char → List Char
  | [] => []
  | c :: cs => if mark.isPrefixOf (c :: cs) then (c :: cs).drop mark.length else afterMark mark cs

/-- The rest of a text after the closing quote, if there is one on the same line.  A backslash
takes the next character with it. -/
def afterQuote (quote : Char) : List Char → Option (List Char)
  | [] => none
  | c :: cs =>
    if c = '\\' then
      match cs with
      | [] => none
      | _ :: rest => afterQuote quote rest
    else if c = '\n' then none
    else if c = quote then some cs
    else afterQuote quote cs

/-- The token at the head of the text `c :: cs`, if the head is not dropped, and the text after
it.  An interpreter line counts only where a line starts. -/
def step (lineStart : Bool) (c : Char) (cs : List Char) : Option Token × List Char :=
  if lineStart && c == '#' && cs.head? == some '!' then
    ((Shebang.scriptOf ((cs.drop 1).takeWhile (· != '\n'))).map .script, fromLineEnd cs)
  else if isBlank c then (none, cs)
  else if isLineComment c cs then (none, fromLineEnd cs)
  else if c == '/' && cs.head? == some '*' then (none, afterMark ['*', '/'] cs)
  else if c == '<' && ['!', '-', '-'].isPrefixOf cs then (none, afterMark ['-', '-', '>'] cs)
  else if isQuote c then (none, (afterQuote c cs).getD cs)
  else if c.isDigit then (none, cs.dropWhile isNumberPart)
  else if isWordStart c then
    (some (.word (c :: cs.takeWhile isWordPart)), cs.dropWhile isWordPart)
  else if isBracket c then (some (.bracket c), cs)
  else if isAsciiPunct c then
    (some (.operator (c :: cs.takeWhile isOperatorChar)), cs.dropWhile isOperatorChar)
  else (none, cs)

theorem length_afterMark_le (mark cs : List Char) : (afterMark mark cs).length ≤ cs.length := by
  induction cs with
  | nil => simp [afterMark]
  | cons c cs ih =>
    rw [afterMark]
    split
    · simp
    · simp only [List.length_cons]
      omega

theorem length_afterQuote_le {quote : Char} {cs rest : List Char}
    (h : afterQuote quote cs = some rest) : rest.length ≤ cs.length := by
  fun_induction afterQuote quote cs <;> simp_all <;> omega

theorem length_dropWhile_le (p : Char → Bool) (cs : List Char) :
    (cs.dropWhile p).length ≤ cs.length :=
  (List.dropWhile_suffix p).length_le

/-- A step takes at least the head of the text. -/
theorem length_step_le (lineStart : Bool) (c : Char) (cs : List Char) :
    (step lineStart c cs).2.length ≤ cs.length := by
  fun_cases step lineStart c cs
  all_goals try simp only [Nat.le_refl]
  all_goals try exact length_dropWhile_le _ _
  all_goals try exact length_afterMark_le _ _
  cases h : afterQuote c cs with
  | none => simp
  | some rest => simpa using length_afterQuote_le h

/-- The tokens of a text, after those in `done`, which are listed backwards. -/
def scanFrom (done : List Token) (lineStart : Bool) : List Char → List Token
  | [] => done.reverse
  | c :: cs =>
    scanFrom ((step lineStart c cs).1.toList ++ done) (c == '\n') (step lineStart c cs).2
termination_by cs => cs.length
decreasing_by
  have := length_step_le lineStart c cs
  simp only [List.length_cons]
  omega

/-- The tokens of a text that begins where a line starts, or not. -/
def scanAt (lineStart : Bool) (cs : List Char) : List Token :=
  scanFrom [] lineStart cs

/-- The tokens of a text. -/
def scan (cs : List Char) : List Token :=
  scanAt true cs

theorem scanFrom_nil (done : List Token) (lineStart : Bool) :
    scanFrom done lineStart [] = done.reverse := by
  rw [scanFrom]

theorem scanFrom_cons (done : List Token) (lineStart : Bool) (c : Char) (cs : List Char) :
    scanFrom done lineStart (c :: cs) =
      scanFrom ((step lineStart c cs).1.toList ++ done) (c == '\n') (step lineStart c cs).2 := by
  rw [scanFrom]

/-- The tokens found so far stand in front of those of the rest. -/
theorem scanFrom_eq (done : List Token) (lineStart : Bool) (cs : List Char) :
    scanFrom done lineStart cs = done.reverse ++ scanAt lineStart cs := by
  generalize hn : cs.length = n
  induction n using Nat.strongRecOn generalizing done lineStart cs with
  | _ n ih =>
    cases cs with
    | nil => simp [scanAt, scanFrom_nil]
    | cons c cs =>
      have hlt : (step lineStart c cs).2.length < n := by
        have := length_step_le lineStart c cs
        simp only [List.length_cons] at hn
        omega
      rw [scanAt, scanFrom_cons, scanFrom_cons, ih _ hlt _ _ _ rfl,
        ih _ hlt ((step lineStart c cs).1.toList ++ []) _ _ rfl]
      cases (step lineStart c cs).1 <;> simp

@[simp] theorem scanAt_nil (lineStart : Bool) : scanAt lineStart [] = [] := by
  simp [scanAt, scanFrom_nil]

theorem scanAt_cons (lineStart : Bool) (c : Char) (cs : List Char) :
    scanAt lineStart (c :: cs) =
      (step lineStart c cs).1.toList ++ scanAt (c == '\n') (step lineStart c cs).2 := by
  rw [scanAt, scanFrom_cons, scanFrom_eq]
  cases (step lineStart c cs).1 <;> simp

/-- Induction along the steps of a scan: what holds at the end of a text, and of a text if it holds
of what one step leaves of it, holds of every text. -/
@[elab_as_elim]
theorem scan_induct {motive : Bool → List Char → Prop} (nil : ∀ lineStart, motive lineStart [])
    (cons : ∀ lineStart c cs, motive (c == '\n') (step lineStart c cs).2 →
      motive lineStart (c :: cs)) (lineStart : Bool) (cs : List Char) : motive lineStart cs :=
  match cs with
  | [] => nil lineStart
  | c :: cs => cons lineStart c cs (scan_induct nil cons (c == '\n') (step lineStart c cs).2)
termination_by cs.length
decreasing_by
  have := length_step_le lineStart c cs
  simp only [List.length_cons]
  omega

end Token

/-- The number of leading bytes of a file that are read for tokens. -/
def tokenLimit : Nat := 100000

/-- The tokens of a file, as far as it is read. -/
def tokenize (data : List UInt8) : List String :=
  (Token.scan (Utf8.decodeLossy (data.take tokenLimit))).map fun t => String.ofList t.text

end LangBench
