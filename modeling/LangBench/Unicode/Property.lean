import LangBench.Unicode.Age
import LangBench.Unicode.Break

/-!
# Properties of characters by name

* `plainName`: a name without what does not count in it;
* `query?`: the property of a text, where it is named alone, as in `Greek`, or with its kind, as in
  `sc=Greek`.
-/

namespace LangBench.Unicode

open Text

/-- Whether a name begins with `is`. -/
def beginsWithIs (name : List Char) : Bool :=
  (name.take 2).map Char.toLower == ['i', 's']

/-- A name in small letters, without blanks, hyphens, underscores, characters outside ASCII and
the `is` that it may begin with.  The abbreviation `isc` has no such beginning. -/
def plainName (name : List Char) : String :=
  let rest := if beginsWithIs name then name.drop 2 else name
  let plain := (rest.filter fun c => c.toNat < 0x80 && !([' ', '-', '_'].contains c)).map Char.toLower
  if beginsWithIs name && plain == ['c'] then "isc" else String.ofList plain

/-- The characters with a property of a kind. -/
def propertyOfKind? (kind value : String) : Option CharSet :=
  match kind with
  | "gc" | "generalcategory" => category? value
  | "sc" | "script" => script? value
  | "scx" | "scriptextensions" => scriptExtension? value
  | "age" => age? value
  | "gcb" | "graphemeclusterbreak" => graphemeBreak? value
  | "wb" | "wordbreak" => wordBreak? value
  | "sb" | "sentencebreak" => sentenceBreak? value
  | _ => none

/-- The characters with a property that is named alone. -/
def loneProperty? (name : String) : Option CharSet :=
  (flag? name).or ((category? name).or (script? name))

/-- What stands before and after the first place of a text where another one stands. -/
def splitAtText (mark : List Char) : List Char → Option (List Char × List Char)
  | [] => none
  | c :: cs =>
    if mark.isPrefixOf (c :: cs) then some ([], (c :: cs).drop mark.length)
    else (splitAtText mark cs).map fun (before, after) => (c :: before, after)

/-- What a property is asked for: the characters that have it, or all others. -/
structure Query where
  set : CharSet
  opposite : Bool := false
  deriving DecidableEq, Repr

/-- The property of a text: a name alone, or a kind and a value, which one of the signs `=`, `:`
or, for the opposite, `!=` stands between. -/
def query? (name : List Char) : Option Query :=
  let ofKind (opposite : Bool) (kind value : List Char) : Option Query :=
    (propertyOfKind? (plainName kind) (plainName value)).map fun set => { set, opposite }
  match splitAtText ['!', '='] name with
  | some (kind, value) => ofKind true kind value
  | none =>
    match splitOnce (· == ':') name with
    | some (kind, value) => ofKind false kind value
    | none =>
      match splitOnce (· == '=') name with
      | some (kind, value) => ofKind false kind value
      | none => (loneProperty? (plainName name)).map fun set => { set }

end LangBench.Unicode
