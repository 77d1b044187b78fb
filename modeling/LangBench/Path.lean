import LangBench.Text.Blank
import LangBench.Text.Pieces
import LangBench.Text.Utf8

/-!
# Paths

A path is a byte string, kept in its own spelling.  Its meaning is a list of components: the
pieces between slashes, without empty pieces and without `.`, except that a path may begin at
the root or with `.`.

* `Path.components`: the meaning of a path; `Path.SameAs` compares paths by it;
* `Path.name`: the last component as text;
* `Path.join`, `Path.stripPrefix?`: going down one step and taking a leading part off;
* `Path.display`, `Path.label`: a path as text, and as text without blanks.
-/

namespace LangBench

/-- The name of a file or directory within its directory. -/
abbrev FileName := List UInt8

/-- A step of a path. -/
inductive Component where
  /-- The root of the file system. -/
  | root
  /-- The current directory, written at the very beginning. -/
  | current
  /-- The directory above. -/
  | parent
  /-- An entry of a directory. -/
  | normal (name : FileName)
  deriving DecidableEq, Repr

/-- A path in its own spelling. -/
structure Path where
  bytes : List UInt8
  deriving DecidableEq, Repr, Inhabited

namespace Path

/-- The slash between components. -/
def slash : UInt8 := 0x2F

/-- The full stop. -/
def dot : UInt8 := 0x2E

/-- A path given as text. -/
def ofString (s : String) : Path :=
  ⟨Text.Utf8.encode s.toList⟩

/-- The pieces of a byte string between slashes. -/
def slashPieces (bs : List UInt8) : List FileName :=
  Text.pieces (· == slash) bs

/-- Whether a piece says nothing: it is empty or `.`. -/
def isSilent (piece : FileName) : Bool :=
  piece == [] || piece == [dot]

/-- The component that a piece stands for, if it says anything. -/
def Component.ofPiece? (piece : FileName) : Option Component :=
  if isSilent piece then none
  else if piece = [dot, dot] then some .parent
  else some (.normal piece)

/-- How a path begins, the root or a leading `.`, and the pieces after that. -/
def cut (p : Path) : Option Component × List FileName :=
  match slashPieces p.bytes with
  | [] => (none, [])
  | [] :: rest => if rest.isEmpty then (none, []) else (some .root, rest)
  | piece :: rest => if piece = [dot] then (some .current, rest) else (none, piece :: rest)

/-- The components of a path. -/
def components (p : Path) : List Component :=
  p.cut.1.toList ++ p.cut.2.filterMap Component.ofPiece?

/-- Whether two paths have the same components. -/
def SameAs (p q : Path) : Prop :=
  p.components = q.components

instance (p q : Path) : Decidable (p.SameAs q) :=
  inferInstanceAs (Decidable (_ = _))

/-- The last component, if it is an entry of a directory. -/
def fileName? (p : Path) : Option FileName :=
  match p.components.getLast? with
  | some (.normal name) => some name
  | _ => none

/-- A byte string as text, if it is UTF-8. -/
def text? (bs : List UInt8) : Option String :=
  match Text.Utf8.decode bs with
  | .ok cs => some (String.ofList cs)
  | .error _ => none

/-- The last component as text; empty if there is none or it is not UTF-8. -/
def name (p : Path) : String :=
  (p.fileName?.bind text?).getD ""

/-- The path of an entry of the directory `p`. -/
def join (p : Path) (name : FileName) : Path :=
  if p.bytes = [] then ⟨name⟩
  else if p.bytes.getLast? = some slash then ⟨p.bytes ++ name⟩
  else ⟨p.bytes ++ slash :: name⟩

/-- Pieces joined by slashes. -/
def joinPieces (pieces : List FileName) : List UInt8 :=
  (pieces.intersperse [slash]).flatten

/-- Pieces without the silent ones at the end. -/
def trimPieces (pieces : List FileName) : List FileName :=
  (pieces.reverse.dropWhile isSilent).reverse

/-- The pieces left after `n` components. -/
def dropComponents : Nat → List FileName → List FileName
  | _, [] => []
  | 0, piece :: rest => piece :: rest
  | n + 1, piece :: rest =>
    if isSilent piece then dropComponents (n + 1) rest else dropComponents n rest

/-- The spelling of how a path begins. -/
def startBytes : Option Component → List UInt8
  | some .root => [slash]
  | some .current => [dot]
  | _ => []

/-- A path without silent pieces at its end. -/
def trimmed (p : Path) : Path :=
  let (start, pieces) := p.cut
  let pieces := trimPieces pieces
  if start = some .current ∧ pieces ≠ [] then ⟨dot :: slash :: joinPieces pieces⟩
  else ⟨startBytes start ++ joinPieces pieces⟩

/-- The part of `p` after its first `n` components. -/
def afterComponents (p : Path) : Nat → Path
  | 0 => p.trimmed
  | n + 1 =>
    let (start, pieces) := p.cut
    let left := if start.isSome then dropComponents n pieces else dropComponents (n + 1) pieces
    ⟨joinPieces (trimPieces (left.dropWhile isSilent))⟩

/-- The part of `p` below `base`, if the components of `base` begin those of `p`. -/
def stripPrefix? (p base : Path) : Option Path :=
  if base.components.isPrefixOf p.components then
    some (p.afterComponents base.components.length)
  else none

/-- The characters of a path, with U+FFFD for what is not UTF-8. -/
def chars (p : Path) : List Char :=
  Text.Utf8.decodeLossy p.bytes

/-- A path as text. -/
def display (p : Path) : String :=
  String.ofList p.chars

/-- A path as text, with `_` for every blank. -/
def label (p : Path) : String :=
  String.ofList (p.chars.map fun c => if Text.isBlank c then '_' else c)

/-- A label holds no blank. -/
theorem not_isBlank_of_mem_label {p : Path} {c : Char} (h : c ∈ p.label.toList) :
    Text.isBlank c = false := by
  simp only [label, String.toList_ofList, List.mem_map] at h
  obtain ⟨d, -, rfl⟩ := h
  split
  · decide
  · next hd => simpa using hd

/-- Comparing paths by their components is an equivalence. -/
theorem SameAs.refl (p : Path) : p.SameAs p := rfl

theorem SameAs.symm {p q : Path} (h : p.SameAs q) : q.SameAs p := Eq.symm h

theorem SameAs.trans {p q r : Path} (h₁ : p.SameAs q) (h₂ : q.SameAs r) : p.SameAs r :=
  Eq.trans h₁ h₂

end Path

end LangBench
