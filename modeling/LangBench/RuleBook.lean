import LangBench.Catalogue.Basic
import LangBench.Extension
import LangBench.Pattern.Parse

/-!
# Content rules

Where several languages share an extension, rules look at the content.

* `PatternReader`: what makes tests of patterns;
* `RuleGroup`: the rules for some extensions, in the order in which they are tried;
* `RuleBook.compileWith`, `RuleBook.compile`: the rule book of groups whose patterns are texts;
* `RuleBook.rulesFor`: the rules for a file name;
* `RuleBook.decide?`: the language of the first rule that applies.
-/

namespace LangBench

/-- A rule as it is written down: the language it decides for, and a pattern if there is one. -/
structure RuleText where
  language : String
  pattern : Option String := none
  deriving DecidableEq, Repr

/-- Rules for some extensions as they are written down. -/
structure RuleGroupText where
  extensions : List String
  rules : List RuleText
  deriving DecidableEq, Repr

/-- What reads patterns: for a text it gives the test whether the pattern occurs in a content, or
says why the text is no pattern. -/
abbrev PatternReader := String → Except String (List Char → Bool)

/-- The patterns of this library. -/
def Pattern.reader : PatternReader := fun text =>
  match Pattern.parse text with
  | .ok p => .ok p.occursIn
  | .error fault => .error fault.message

/-- A rule: the language it decides for if the pattern, where there is one, occurs. -/
structure Rule where
  language : String
  /-- Whether the pattern occurs in a content. -/
  occurs : Option (List Char → Bool) := none

/-- Whether a rule applies to a content. -/
def Rule.appliesTo (r : Rule) (content : List Char) : Bool :=
  r.occurs.all fun occurs => occurs content

/-- Rules for some extensions, which are in lower case. -/
structure RuleGroup where
  extensions : List String
  rules : List Rule

/-- Groups of rules in order. -/
structure RuleBook where
  groups : List RuleGroup

namespace RuleBook

/-- The name of the data that rules are read from. -/
def source : String := "heuristics.yml"

/-- A pattern whose anchors stand at the ends of every line. -/
def lineByLine (pattern : String) : String :=
  "(?m)" ++ pattern

/-- The rule of a text, if its pattern is one. -/
def compileRule (patterns : PatternReader) (r : RuleText) : Except DetectError Rule :=
  match r.pattern with
  | none => .ok { language := r.language }
  | some text =>
    match patterns (lineByLine text) with
    | .ok occurs => .ok { language := r.language, occurs := some occurs }
    | .error message => .error (.invalidPattern r.language message)

/-- The group of a text, if all its patterns are some. -/
def compileGroup (patterns : PatternReader) (g : RuleGroupText) : Except DetectError RuleGroup := do
  let rules ← g.rules.mapM (compileRule patterns)
  return { extensions := g.extensions.map Text.lower, rules }

/-- The rule book of some groups, or the first rule whose pattern is none. -/
def compileWith (patterns : PatternReader) (groups : List RuleGroupText) :
    Except DetectError RuleBook := do
  return { groups := ← groups.mapM (compileGroup patterns) }

/-- The rule book of some groups with the patterns of this library. -/
def compile (groups : List RuleGroupText) : Except DetectError RuleBook :=
  compileWith Pattern.reader groups

/-- The first group that lists an extension. -/
def groupOf? (b : RuleBook) (extension : String) : Option RuleGroup :=
  b.groups.find? fun g => g.extensions.contains extension

/-- The rules for a file name: those of the first group that lists its longest extension listed
at all. -/
def rulesFor (b : RuleBook) (name : String) : List Rule :=
  (((extensions name).findSome? b.groupOf?).map RuleGroup.rules).getD []

/-- The language of the first rule that applies to a content, among those for languages of the
catalogue. -/
def decide? (rules : List Rule) (c : Catalogue) (content : List Char) : Option String :=
  ((rules.filter fun r => c.contains r.language).find? fun r => r.appliesTo content).map
    Rule.language

end RuleBook

end LangBench
