import LangBench.Yaml.Token

/-!
# YAML

* `Node`: scalars, lists and mappings;
* `Node.ofTokens`: the node of the signs of one document;
* `Node.ofString`: the node of a text that holds one document.

Nodes are written in block style, by indentation, or in flow style, in brackets.  Anchors, tags,
directives and block scalars are not read.
-/

namespace LangBench.Yaml

/-- A value in YAML. -/
inductive Node where
  /-- A text; `plain` says that it stands without quotes. -/
  | scalar (text : String) (plain : Bool)
  | sequence (items : List Node)
  | mapping (entries : List (Node × Node))
  deriving Repr, Inhabited

namespace Node

/-- The node where nothing is written. -/
def nothing : Node := scalar "" true

/-- The result of reading: a value and the signs after it. -/
abbrev Reading (α : Type) := Except YamlFault (α × List Token)

/-- Where a node stands. -/
inductive Position where
  /-- Within brackets. -/
  | flow
  /-- Where indentation counts. -/
  | block
  /-- Beside a key or a value of a block mapping, where a list need not be indented. -/
  | entry
  deriving DecidableEq, Repr

/-- Whether one of some signs comes next. -/
def nextIs (signs : List Token) (ts : List Token) : Bool :=
  ts.head?.any signs.contains

mutual

/-- Reads a node. -/
def readNode : Nat → Position → List Token → Reading Node
  | 0, _, _ => .error .badStructure
  | fuel + 1, position, ts =>
    match ts with
    | .scalar text plain :: rest => .ok (scalar text plain, rest)
    | .openList :: rest =>
      (readFlowItems fuel true [] rest).map fun (ns, rest) => (sequence ns, rest)
    | .openMap :: rest =>
      (readFlowEntries fuel true [] rest).map fun (es, rest) => (mapping es, rest)
    | .blockList :: rest =>
      if position = .flow then .error .badStructure
      else (readItems fuel [] rest).map fun (ns, rest) => (sequence ns, rest)
    | .blockMap :: rest =>
      if position = .flow then .error .badStructure
      else (readEntries fuel [] rest).map fun (es, rest) => (mapping es, rest)
    | .item :: _ =>
      if position = .entry then
        (readLooseItems fuel [] ts).map fun (ns, rest) => (sequence ns, rest)
      else .error .badStructure
    | _ => .error .badStructure

/-- Reads a node, unless one of some signs comes next; then there is nothing. -/
def readOptional : Nat → Position → List Token → List Token → Reading Node
  | 0, _, _, _ => .error .badStructure
  | fuel + 1, position, stops, ts =>
    if nextIs stops ts then .ok (nothing, ts) else readNode fuel position ts

/-- Reads the items of a list that is indented, after `done`, which are listed backwards. -/
def readItems : Nat → List Node → List Token → Reading (List Node)
  | 0, _, _ => .error .badStructure
  | fuel + 1, done, ts =>
    match ts with
    | .item :: rest =>
      match readOptional fuel .block [.item, .blockEnd] rest with
      | .ok (n, rest) => readItems fuel (n :: done) rest
      | .error e => .error e
    | .blockEnd :: rest => .ok (done.reverse, rest)
    | _ => .error .badStructure

/-- Reads the items of a list that is not indented; it ends where no item comes. -/
def readLooseItems : Nat → List Node → List Token → Reading (List Node)
  | 0, _, _ => .error .badStructure
  | fuel + 1, done, ts =>
    match ts with
    | .item :: rest =>
      match readOptional fuel .block [.item, .key, .value, .blockEnd] rest with
      | .ok (n, rest) => readLooseItems fuel (n :: done) rest
      | .error e => .error e
    | _ => .ok (done.reverse, ts)

/-- Reads the entries of a block mapping.  A key or a value may be missing. -/
def readEntries : Nat → List (Node × Node) → List Token → Reading (List (Node × Node))
  | 0, _, _ => .error .badStructure
  | fuel + 1, done, ts =>
    match ts with
    | .key :: rest =>
      match readOptional fuel .entry [.key, .value, .blockEnd] rest with
      | .error e => .error e
      | .ok (k, rest) =>
        match rest with
        | .value :: rest =>
          match readOptional fuel .entry [.key, .value, .blockEnd] rest with
          | .ok (v, rest) => readEntries fuel ((k, v) :: done) rest
          | .error e => .error e
        | rest => readEntries fuel ((k, nothing) :: done) rest
    | .blockEnd :: rest => .ok (done.reverse, rest)
    | _ => .error .badStructure

/-- Reads the items of a list in brackets, `first` before the first of them.  A key makes an item
that is a mapping of one entry. -/
def readFlowItems : Nat → Bool → List Node → List Token → Reading (List Node)
  | 0, _, _, _ => .error .badStructure
  | fuel + 1, first, done, ts =>
    match ts with
    | .closeList :: rest => .ok (done.reverse, rest)
    | ts =>
      match if first then some ts else if nextIs [.comma] ts then some ts.tail else none with
      | none => .error .badStructure
      | some (.closeList :: rest) => .ok (done.reverse, rest)
      | some (.key :: rest) =>
        match readPair fuel rest with
        | .ok (entry, rest) => readFlowItems fuel false (mapping [entry] :: done) rest
        | .error e => .error e
      | some ts =>
        match readNode fuel .flow ts with
        | .ok (n, rest) => readFlowItems fuel false (n :: done) rest
        | .error e => .error e

/-- Reads an entry of a mapping that has only this one, in a list.  The sign after a missing key is
passed over. -/
def readPair : Nat → List Token → Reading (Node × Node)
  | 0, _ => .error .badStructure
  | fuel + 1, ts =>
    let key :=
      if nextIs [.value, .comma, .closeList] ts then .ok (nothing, ts.tail)
      else readNode fuel .flow ts
    match key with
    | .error e => .error e
    | .ok (k, .value :: rest) =>
      (readOptional fuel .flow [.comma, .closeList] rest).map fun (v, rest) => ((k, v), rest)
    | .ok (k, rest) => .ok ((k, nothing), rest)

/-- Reads the entries of a mapping in brackets, `first` before the first of them. -/
def readFlowEntries : Nat → Bool → List (Node × Node) → List Token → Reading (List (Node × Node))
  | 0, _, _, _ => .error .badStructure
  | fuel + 1, first, done, ts =>
    match ts with
    | .closeMap :: rest => .ok (done.reverse, rest)
    | ts =>
      match if first then some ts else if nextIs [.comma] ts then some ts.tail else none with
      | none => .error .badStructure
      | some (.closeMap :: rest) => .ok (done.reverse, rest)
      | some (.key :: rest) =>
        match readOptional fuel .flow [.value, .comma, .closeMap] rest with
        | .error e => .error e
        | .ok (k, rest) =>
          match rest with
          | .value :: rest =>
            match readOptional fuel .flow [.comma, .closeMap] rest with
            | .ok (v, rest) => readFlowEntries fuel false ((k, v) :: done) rest
            | .error e => .error e
          | rest => readFlowEntries fuel false ((k, nothing) :: done) rest
      | some ts =>
        match readNode fuel .flow ts with
        | .ok (k, rest) => readFlowEntries fuel false ((k, nothing) :: done) rest
        | .error e => .error e

end

/-! ### Documents -/

/-- The node of the signs of one document.  Every second step of reading takes a sign, so their
number bounds the steps.  Without any signs there is nothing; after the document there may be marks
that end it. -/
def ofTokens (ts : List Token) : Except YamlFault Node :=
  let fuel := 4 * ts.length + 4
  let root : Reading Node :=
    match ts with
    | [] => .ok (nothing, [])
    | .documentStart :: rest =>
      if rest.isEmpty then .ok (nothing, [])
      else readOptional fuel .block [.documentStart, .documentEnd] rest
    | ts => readNode fuel .block ts
  match root with
  | .error e => .error e
  | .ok (node, rest) =>
    if rest.all (· == .documentEnd) then .ok node else .error .secondDocument

/-- The node of a text that holds one document. -/
def ofString (s : String) : Except YamlFault Node := do
  ofTokens (← Token.ofString s)

end Node

end LangBench.Yaml
