/-!
# Tries of words

Words that stand in order of preference are kept in a tree.  A node lists the letters that may come
next.  A word that ends at a node goes before the longer ones that come later, so there the list is
closed, and later letters make a new chunk of it.

* `WordTrie`, `WordTrie.ofWords`.
-/

namespace LangBench

/-- What may come next at a node, the latest chunk first. -/
inductive WordTrie (α : Type) where
  /-- Nothing. -/
  | nothing
  /-- A letter, the node that it leads to, and what else may come next. -/
  | letter (a : α) (next others : WordTrie α)
  /-- The end of a word, after some earlier chunks. -/
  | close (earlier : WordTrie α)
  deriving DecidableEq, Repr

namespace WordTrie

variable {α : Type}

/-- Whether no letter comes next. -/
def isLeaf : WordTrie α → Bool
  | nothing => true
  | letter .. => false
  | close earlier => earlier.isLeaf

/-- A node where a word ends; without letters one end is enough. -/
def closed (t : WordTrie α) : WordTrie α :=
  match t with
  | close earlier => if earlier.isLeaf then t else close t
  | t => close t

/-- Changes what a letter of the latest chunk leads to. -/
def alter [BEq α] (a : α) (f : WordTrie α → WordTrie α) : WordTrie α → WordTrie α
  | letter b next others =>
    if b == a then letter b (f next) others else letter b next (alter a f others)
  | t => letter a (f nothing) t

/-- One more word. -/
def insert [BEq α] : List α → WordTrie α → WordTrie α
  | [], t => t.closed
  | a :: word, t => t.alter a (insert word)

/-- The trie of some words, the first one preferred. -/
def ofWords [BEq α] (words : List (List α)) : WordTrie α :=
  words.foldl (fun t word => insert word t) nothing

end WordTrie

end LangBench
