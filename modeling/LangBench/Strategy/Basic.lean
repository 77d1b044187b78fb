import LangBench.Catalogue.Basic
import LangBench.Modeline
import LangBench.RuleBook
import LangBench.Sample
import LangBench.Shebang

/-!
# Strategies for a sample

Each strategy answers with the names of languages of a catalogue, or with none if it has no
opinion.

* `Strategy.extension`, `Strategy.filename`: what the name of the file tells;
* `Strategy.shebang`, `Strategy.modeline`: what the file says of itself;
* `Strategy.content`: what rules find in the content.

For each there is a function on the blob alone, `byExtension` and so on, and the strategy itself,
which uses the kept views.
-/

namespace LangBench

/-- What a strategy says: names of languages, or why it cannot tell. -/
abbrev Verdict := Except DetectError (List String)

namespace Strategy

/-- The names of some languages. -/
def namesOf (ls : List Language) : List String :=
  ls.map Language.name

/-- The languages with the longest extension of a file name that any language has. -/
def byExtension (c : Catalogue) (name : String) : List String :=
  namesOf (((extensions name).map c.withExtension).find? (!List.isEmpty ·) |>.getD [])

/-- The languages with this file name. -/
def byFilename (c : Catalogue) (name : String) : List String :=
  namesOf (c.withFilename name)

/-- The languages of the interpreter that a file names. -/
def byInterpreter (c : Catalogue) (data : List UInt8) : List String :=
  namesOf (((interpreter data).map c.withInterpreter).getD [])

/-- The mode that the first line with a modeline names. -/
def modeOfLines (lines : List String) : Option String :=
  ((Modeline.window lines).findSome? fun line => Modeline.modeOf line.toList).map String.ofList

/-- The language of the mode that some lines name. -/
def byModeline (c : Catalogue) (lines : List String) : List String :=
  namesOf ((modeOfLines lines).bind c.resolve?).toList

/-- The language that rules find in some lines. -/
def byRules (rules : List Rule) (c : Catalogue) (lines : List String) : List String :=
  (RuleBook.decide? rules c (Text.joinLines (lines.map String.toList))).toList

/-- The languages with the longest extension of the file that any language has. -/
def extension (c : Catalogue) : View Verdict := do
  return .ok (byExtension c (← View.name))

/-- The languages with the name of the file. -/
def filename (c : Catalogue) : View Verdict := do
  return .ok (byFilename c (← View.name))

/-- The languages of the interpreter that the file names; a binary file names none. -/
def shebang (c : Catalogue) : View Verdict := do
  if (← View.encoding).isBinary then return .ok []
  return .ok (byInterpreter c (← View.data))

/-- The language of the mode that the file names. -/
def modeline (c : Catalogue) : View Verdict := do
  return (← View.lines).map (byModeline c)

/-- The language that the rules for the file's name find in its content; without rules the
content is not decoded. -/
def content (b : RuleBook) (c : Catalogue) : View Verdict := do
  match b.rulesFor (← View.name) with
  | [] => return .ok []
  | rules => return (← View.lines).map (byRules rules c)

end Strategy

end LangBench
