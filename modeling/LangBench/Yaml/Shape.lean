import LangBench.Catalogue.Basic
import LangBench.RuleBook
import LangBench.Yaml.Node

/-!
# Catalogues and rule books in YAML

* `Node.text`, `Node.texts`, `Node.optionalText`: a node read as a text, as a list of texts, and
  as a text that may be missing;
* `Node.fields`: a node read as a mapping with certain keys;
* `Catalogue.ofYaml`, `RuleBook.ofYaml`: the catalogue and the rule book of a text.
-/

namespace LangBench

namespace Yaml.Node

/-- A node read as a text: any scalar is one. -/
def text : Node → Except YamlFault String
  | scalar s _ => .ok s
  | _ => .error .wrongShape

/-- A node read as a list; where nothing is written there is an empty one. -/
def list : Node → Except YamlFault (List Node)
  | sequence items => .ok items
  | scalar "" true => .ok []
  | _ => .error .wrongShape

/-- A node read as a list of texts. -/
def texts (n : Node) : Except YamlFault (List String) := do
  (← n.list).mapM text

/-- The ways to write that a value is missing. -/
def nullWords : List String :=
  ["", "~", "null", "Null", "NULL"]

/-- A node read as a text that may be missing. -/
def optionalText : Node → Except YamlFault (Option String)
  | scalar s plain => .ok (if plain && nullWords.contains s then none else some s)
  | _ => .error .wrongShape

/-- The first key of some entries that comes twice, among the keys that are known. -/
def duplicateOf? (known : List String) : List (String × Node) → Option String
  | [] => none
  | (key, _) :: rest =>
    if known.contains key && (rest.lookup key).isSome then some key else duplicateOf? known rest

/-- A node read as a mapping whose keys are texts; no known key may come twice.  Where nothing is
written there is a mapping without entries. -/
def fields (known : List String) : Node → Except YamlFault (List (String × Node))
  | mapping entries => do
    let named ← entries.mapM fun (key, value) => return (← key.text, value)
    match duplicateOf? known named with
    | some key => throw (.duplicateKey key)
    | none => return named
  | scalar "" true => .ok []
  | _ => .error .wrongShape

/-- The value of a key that must be there. -/
def required (entries : List (String × Node)) (key : String) : Except YamlFault Node :=
  match entries.lookup key with
  | some value => .ok value
  | none => .error (.missingKey key)

/-- The list of texts of a key; without the key there is an empty one. -/
def textsOf (entries : List (String × Node)) (key : String) : Except YamlFault (List String) :=
  match entries.lookup key with
  | some value => value.texts
  | none => .ok []

/-- A node read as a language. -/
def language (n : Node) : Except YamlFault Language := do
  let entries ← n.fields ["name", "aliases", "extensions", "filenames", "interpreters"]
  let name ← (← required entries "name").text
  let aliases ← textsOf entries "aliases"
  let extensions ← textsOf entries "extensions"
  let filenames ← textsOf entries "filenames"
  let interpreters ← textsOf entries "interpreters"
  return { name, aliases, extensions, filenames, interpreters }

/-- A node read as a rule. -/
def rule (n : Node) : Except YamlFault RuleText := do
  let entries ← n.fields ["language", "pattern"]
  let language ← (← required entries "language").text
  let pattern ← match entries.lookup "pattern" with
    | some value => value.optionalText
    | none => pure none
  return { language, pattern }

/-- A node read as a group of rules. -/
def ruleGroup (n : Node) : Except YamlFault RuleGroupText := do
  let entries ← n.fields ["extensions", "rules"]
  let extensions ← (← required entries "extensions").texts
  let rules ← (← (← required entries "rules").list).mapM rule
  return { extensions, rules }

end Yaml.Node

open Yaml

/-- A text read as a list of values; `source` names it in errors. -/
def readList {α : Type} (source : String) (read : Node → Except YamlFault α) (s : String) :
    Except DetectError (List α) :=
  match (do (← (← Node.ofString s).list).mapM read : Except YamlFault (List α)) with
  | .ok values => .ok values
  | .error fault => .error (.catalogue source (.unreadable fault.message))

/-- The catalogue of a text. -/
def Catalogue.ofYaml (s : String) : Except DetectError Catalogue := do
  Catalogue.ofList (← readList Catalogue.source Node.language s)

/-- The rule book of a text. -/
def RuleBook.ofYaml (s : String) : Except DetectError RuleBook := do
  RuleBook.compile (← readList RuleBook.source Node.ruleGroup s)

end LangBench
