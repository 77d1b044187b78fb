import LangBench.Corpus.Basic

/-!
# Corpora from directory trees

* `Tree`: what a directory entry is, with everything below it;
* `Tree.samples`: the samples of an entry and of all entries below it, in depth-first order,
  siblings by the bytes of their names;
* `Corpus.ofEntries`: the corpus of a directory.

A link to a file counts as a file, and what is below a link to a directory does not count.  One
entry that cannot be read spoils the whole corpus.
-/

namespace LangBench

/-- A directory entry with everything below it. -/
inductive Tree where
  | file (data : List UInt8)
  | directory (entries : List (FileName × Tree))
  /-- A link to a file with this content. -/
  | linkedFile (data : List UInt8)
  /-- A link to a directory. -/
  | linkedDirectory
  /-- An entry that cannot be read, such as a link that leads nowhere. -/
  | unreadable (fault : DiskFault)
  deriving Repr, Inhabited

/-- What loading found, or why it failed. -/
abbrev Loaded := Except BenchError (List Sample)

namespace Tree

/-- Entries in the order of the bytes of their names. -/
def byName {α : Type} (entries : List (FileName × α)) : List (FileName × α) :=
  entries.mergeSort fun a b => decide (a.1 ≤ b.1)

/-- What was found one after the other, or the first failure. -/
def gather (found : List Loaded) : Loaded :=
  (found.mapM id).map List.flatten

mutual

/-- The samples of the entry at `here` and below it, in a corpus at `root`. -/
def samples (root here : Path) : Tree → Loaded
  | file data => .ok [.loaded root here data]
  | linkedFile data => .ok [.loaded root here data]
  | linkedDirectory => .ok []
  | unreadable fault => .error (.filesystem here fault)
  | directory entries => gather ((byName (samplesEach root here entries)).map Prod.snd)

/-- The samples of each of the entries of the directory at `here`. -/
def samplesEach (root here : Path) : List (FileName × Tree) → List (FileName × Loaded)
  | [] => []
  | (name, tree) :: rest => (name, samples root (here.join name) tree) :: samplesEach root here rest

end

end Tree

/-- The corpus of the directory at `root` with these entries. -/
def Corpus.ofEntries (root : Path) (entries : List (FileName × Tree)) : Except BenchError Corpus :=
  ((Tree.directory entries).samples root root).map fun samples => { root, samples }

end LangBench
