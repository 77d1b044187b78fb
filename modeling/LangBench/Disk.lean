import LangBench.Corpus.Tree

/-!
# Directories with symbolic links

* `Disk`: a directory tree in which links are still links;
* `Disk.Spot`: a directory and what is above it, such as the working directory of a program;
* `Disk.resolve`: what a path leads to;
* `Disk.tree`: the tree of an entry with every link resolved;
* `Disk.readFile`, `Sample.load`, `Corpus.load`: files and corpora on a disk.
-/

namespace LangBench

/-- A directory entry in which links are still links. -/
inductive Disk where
  | file (data : List UInt8)
  | directory (entries : List (FileName × Disk))
  /-- A symbolic link. -/
  | link (target : Path)
  deriving Repr, Inhabited

namespace Disk

/-- The entries of a directory. -/
abbrev Entries := List (FileName × Disk)

/-- The longest name that a directory entry may have. -/
def nameLimit : Nat := 255

/-- The length from which on a path is too long. -/
def pathLimit : Nat := 4096

/-- The number of links that may be followed on the way to a file. -/
def linkLimit : Nat := 40

/-- The steps of a path: its pieces that are not empty, and one more that stays in place if it
ends in a slash. -/
def steps (p : Path) : List FileName :=
  let pieces := Path.slashPieces p.bytes
  pieces.filter (!List.isEmpty ·) ++ if pieces.getLast? = some [] then [[Path.dot]] else []

/-- Whether a path begins at the root of the file system. -/
def isAbsolute (p : Path) : Bool :=
  p.bytes.head? == some Path.slash

/-- A directory with the directories above it, the nearest first.  The last one is the root of the
file system. -/
structure Spot where
  entries : Entries
  above : List Entries
  deriving Inhabited

namespace Spot

/-- The directory above, which is the root itself for the root. -/
def parent : Spot → Spot
  | ⟨entries, []⟩ => ⟨entries, []⟩
  | ⟨_, next :: above⟩ => ⟨next, above⟩

/-- The root of the file system. -/
def root (spot : Spot) : Spot :=
  ⟨spot.above.getLast?.getD spot.entries, []⟩

/-- The directory with the entries `inner` in the directory at `spot`. -/
def enter (spot : Spot) (inner : Entries) : Spot :=
  ⟨inner, spot.entries :: spot.above⟩

/-- Where the steps of a path begin. -/
def start (spot : Spot) (p : Path) : Spot :=
  if isAbsolute p then spot.root else spot

/-- A directory above which nothing is known but that there is a root. -/
instance : Coe Entries Spot :=
  ⟨fun entries => ⟨entries, [[]]⟩⟩

end Spot

/-- What a path leads to. -/
inductive Place where
  | file (data : List UInt8)
  | directory (spot : Spot)
  deriving Inhabited

/-- What some steps lead to from `spot`, when `links` more links may be followed.  The links that
are left are told too. -/
def resolveFrom (links : Nat) (spot : Spot) (todo : List FileName) :
    Except DiskFault (Place × Nat) :=
  match todo with
  | [] => .ok (.directory spot, links)
  | step :: rest =>
    if step = [Path.dot] then resolveFrom links spot rest
    else if step = [Path.dot, Path.dot] then resolveFrom links spot.parent rest
    else if nameLimit < step.length then .error .nameTooLong
    else
      match spot.entries.lookup step with
      | none => .error .notFound
      | some (.file data) =>
        if rest = [] then .ok (.file data, links) else .error .notADirectory
      | some (.directory inner) => resolveFrom links (spot.enter inner) rest
      | some (.link target) =>
        match links with
        | 0 => .error .tooManyLinks
        | links + 1 => resolveFrom links (spot.start target) (steps target ++ rest)
termination_by (links, todo.length)

/-- What a path leads to from the working directory. -/
def resolve (cwd : Spot) (p : Path) : Except DiskFault (Place × Nat) :=
  if p.bytes.contains 0 then .error .zeroByte
  else if p.bytes = [] then .error .notFound
  else if pathLimit ≤ p.bytes.length then .error .nameTooLong
  else resolveFrom linkLimit (cwd.start p) (steps p)

/-- The tree of a link in the directory at `spot`. -/
def linkTree (links : Nat) (spot : Spot) (target : Path) : Tree :=
  match links with
  | 0 => .unreadable .tooManyLinks
  | links + 1 =>
    match resolveFrom links (spot.start target) (steps target) with
    | .ok (.file data, _) => .linkedFile data
    | .ok (.directory _, _) => .linkedDirectory
    | .error fault => .unreadable fault

/-- The tree of what is at `here`, which cannot be read there if the path is too long. -/
def within (here : Path) (found : Tree) : Tree :=
  if pathLimit ≤ here.bytes.length then .unreadable .nameTooLong else found

mutual

/-- The tree of the entry at `here` of the directory at `spot`, when `links` more links may be
followed. -/
def tree (links : Nat) (here : Path) (spot : Spot) : Disk → Tree
  | file data => within here (.file data)
  | directory inner => within here (.directory (trees links here (spot.enter inner) inner))
  | link target => within here (linkTree links spot target)

/-- The trees of some entries of the directory at `spot`, to which the path `here` leads. -/
def trees (links : Nat) (here : Path) (spot : Spot) :
    List (FileName × Disk) → List (FileName × Tree)
  | [] => []
  | (name, disk) :: rest =>
    (name, tree links (here.join name) spot disk) :: trees links here spot rest

end

/-- The content of the file that a path leads to. -/
def readFile (cwd : Spot) (p : Path) : Except DiskFault (List UInt8) :=
  match resolve cwd p with
  | .ok (.file data, _) => .ok data
  | .ok (.directory _, _) => .error .isADirectory
  | .error fault => .error fault

/-- The entries of the directory that a path leads to, with every link resolved. -/
def listTrees (cwd : Spot) (p : Path) : Except DiskFault (List (FileName × Tree)) :=
  match resolve cwd p with
  | .ok (.directory spot, links) => .ok (trees links p spot spot.entries)
  | .ok (.file _, _) => .error .rootNotADirectory
  | .error fault => .error fault

/-! ### Building -/

/-- The entries of a directory with one more, or with another one of the same name. -/
def put (entries : Entries) (name : FileName) (disk : Disk) : Entries :=
  match entries with
  | [] => [(name, disk)]
  | (other, old) :: rest =>
    if other = name then (name, disk) :: rest else (other, old) :: put rest name disk

/-- The entries of a directory with what is put at the end of some steps.  Directories on the way
are made where there are none, and a directory that is there already stays. -/
def insert (entries : Entries) (what : Disk) : List FileName → Entries
  | [] => entries
  | [name] =>
    match entries.lookup name, what with
    | some (.directory _), .directory _ => entries
    | _, _ => put entries name what
  | name :: rest =>
    let inner := match entries.lookup name with
      | some (.directory inner) => inner
      | _ => []
    put entries name (.directory (insert inner what rest))

end Disk

/-- The sample of the file at `path` in a corpus at `root`. -/
def Sample.load (cwd : Disk.Spot) (root path : Path) : Except BenchError Sample :=
  match Disk.readFile cwd path with
  | .ok data => .ok (.loaded root path data)
  | .error fault => .error (.filesystem path fault)

/-- The corpus of the directory at `root`. -/
def Corpus.load (cwd : Disk.Spot) (root : Path) : Except BenchError Corpus :=
  match Disk.listTrees cwd root with
  | .ok entries => Corpus.ofEntries root entries
  | .error fault => .error (.filesystem root fault)

end LangBench
