import Std.Data.TreeMap
import LangBench.Error
import LangBench.Text.Blank
import LangBench.Text.Case

/-!
# The catalogue of languages

* `Language`: a language with the names, extensions, file names and interpreters that tell it;
* `Catalogue`: languages in a fixed order, no two of the same name, with an index for each way
  to look one up;
* `Catalogue.ofList`: the catalogue of a list, or the first thing wrong with the list;
* `Catalogue.get?`, `resolve?`, `withExtension`, `withFilename`, `withInterpreter`: the ways to
  look languages up.

Names, aliases and extensions are compared in lower case, file names and interpreters as they
are.
-/

namespace LangBench

open Text

/-- A language and what tells it. -/
structure Language where
  /-- The name it is reported by. -/
  name : String
  /-- Other names that an editor may use for it. -/
  aliases : List String := []
  /-- Extensions of its files, with the full stop in front. -/
  extensions : List String := []
  /-- Whole names of its files. -/
  filenames : List String := []
  /-- Programs that run its scripts. -/
  interpreters : List String := []
  deriving DecidableEq, Repr

/-- Languages filed under keys, those of one key in the order in which they came. -/
abbrev Index := Std.TreeMap String (List Language)

namespace Index

/-- Files a language under a key, once. -/
def file (l : Language) (index : Index) (key : String) : Index :=
  let old := index.getD key []
  if old.contains l then index else index.insert key (old ++ [l])

/-- Files a language under each of some keys. -/
def fileAll (index : Index) (l : Language) (keys : List String) : Index :=
  keys.foldl (file l) index

end Index

/-- Languages in order with the ways to look them up. -/
structure Catalogue where
  languages : List Language
  byName : Std.TreeMap String Language
  byAlias : Std.TreeMap String Language
  byExtension : Index
  byFilename : Index
  byInterpreter : Index

namespace Catalogue

/-- The name of the data that a catalogue is read from. -/
def source : String := "languages.yml"

/-- The catalogue of no language. -/
def empty : Catalogue := ⟨[], ∅, ∅, ∅, ∅, ∅⟩

/-- Whether a name has nothing but blanks. -/
def isBlankName (name : String) : Bool :=
  name.toList.all isBlank

/-- A catalogue with one more language at its end.  An alias stays with the language that had
it first. -/
def push (c : Catalogue) (l : Language) : Catalogue where
  languages := c.languages ++ [l]
  byName := c.byName.insert (lower l.name) l
  byAlias := (l.aliases.map lower).foldl (fun index key => index.insertIfNew key l) c.byAlias
  byExtension := c.byExtension.fileAll l (l.extensions.map lower)
  byFilename := c.byFilename.fileAll l l.filenames
  byInterpreter := c.byInterpreter.fileAll l l.interpreters

/-- What stops a language from joining a catalogue: a blank name, or a name that is taken. -/
def fault? (c : Catalogue) (l : Language) : Option CatalogueFault :=
  if isBlankName l.name then some .blankName
  else if c.byName.contains (lower l.name) then some (.duplicate l.name)
  else none

/-- A catalogue with one more language, if nothing stops it. -/
def add (c : Catalogue) (l : Language) : Except DetectError Catalogue :=
  match c.fault? l with
  | some fault => .error (.catalogue source fault)
  | none => .ok (c.push l)

/-- The catalogue of a list of languages, or the first thing wrong with the list. -/
def ofList (ls : List Language) : Except DetectError Catalogue :=
  ls.foldlM add empty

/-- The number of languages. -/
def size (c : Catalogue) : Nat :=
  c.languages.length

/-- The names of the languages. -/
def names (c : Catalogue) : List String :=
  c.languages.map Language.name

/-- The language of a name. -/
def get? (c : Catalogue) (name : String) : Option Language :=
  c.byName[lower name]?

/-- Whether a language has this name. -/
def contains (c : Catalogue) (name : String) : Bool :=
  (c.get? name).isSome

/-- The language of a name, or else the first one with that alias. -/
def resolve? (c : Catalogue) (key : String) : Option Language :=
  (c.get? key).or c.byAlias[lower key]?

/-- The languages with this extension. -/
def withExtension (c : Catalogue) (extension : String) : List Language :=
  c.byExtension.getD (lower extension) []

/-- The languages with this file name. -/
def withFilename (c : Catalogue) (filename : String) : List Language :=
  c.byFilename.getD filename []

/-- The languages with this interpreter. -/
def withInterpreter (c : Catalogue) (interpreter : String) : List Language :=
  c.byInterpreter.getD interpreter []

@[simp] theorem ofList_nil : ofList [] = .ok empty := rfl

theorem add_of_fault {c : Catalogue} {l : Language} {f : CatalogueFault} (h : c.fault? l = some f) :
    c.add l = .error (.catalogue source f) := by
  simp [add, h]

theorem add_of_no_fault {c : Catalogue} {l : Language} (h : c.fault? l = none) :
    c.add l = .ok (c.push l) := by
  simp [add, h]

@[simp] theorem languages_push (c : Catalogue) (l : Language) :
    (c.push l).languages = c.languages ++ [l] := rfl

end Catalogue

end LangBench
