import LangBench.Pattern.Build
import LangBench.Pattern.ByteSpan
import LangBench.Pattern.WordTrie
import Std.Data.HashMap

/-!
# The size of patterns

The size of a pattern is the memory of the automata that look for it: one that reads the bytes of a
text, and one that reads them backwards.  Each of them is held to a limit.

* `Footprint`: the states of an automaton, and the memory that they take;
* `Footprint.measure?`: the footprint after a pattern is added, unless that goes beyond the limit;
* `Pattern.fits`: whether both automata of a pattern keep to the limit.

States are numbered in the order in which they are added.
-/

namespace LangBench

/-- The direction in which an automaton reads. -/
inductive Direction where
  | forward
  | backward
  deriving DecidableEq, Repr

/-- The number of states, and the bytes that they take beyond those that every state takes. -/
structure Footprint where
  states : Nat
  extra : Nat
  deriving DecidableEq, Repr

namespace Footprint

/-- The bytes that every state takes. -/
def stateBytes : Nat := 32

/-- The bytes of a transition in a list of transitions. -/
def transitionBytes : Nat := 8

/-- The bytes of a state's number in a list of states. -/
def choiceBytes : Nat := 4

/-- The most bytes that an automaton may take. -/
def limit : Nat := 10485760

/-- The memory that a footprint stands for. -/
def bytes (f : Footprint) : Nat :=
  stateBytes * f.states + f.extra

/-- A footprint that keeps to the limit. -/
def check? (f : Footprint) : Option Footprint :=
  if f.bytes ≤ limit then some f else none

/-- A footprint after some states and bytes are added. -/
def add (states extra : Nat) (f : Footprint) : Footprint :=
  { states := f.states + states, extra := f.extra + extra }

/-- As `add`, but within the limit. -/
def add? (states extra : Nat) (f : Footprint) : Option Footprint :=
  (f.add states extra).check?

/-! ### Sets -/

/-- A number that stands for some others. -/
def hash (ns : List Nat) : UInt64 :=
  ns.foldl (fun h n => (h ^^^ UInt64.ofNat n) * 1099511628211) 14695981039346656037

/-- States that are known already, so that they need not be added again.  They are kept in places
that are chosen by the hash of what they are; a new state takes the place of an old one. -/
structure Known where
  /-- The number of places. -/
  size : Nat
  /-- What is in a place, and the number of its state. -/
  entries : Std.HashMap Nat (List Nat × Nat) := {}

namespace Known

/-- The place of a state. -/
def place (k : Known) (key : List Nat) : Nat :=
  (hash key).toNat % k.size

/-- The number of a state that is known. -/
def find? (k : Known) (key : List Nat) : Option Nat :=
  (k.entries[k.place key]?).bind fun (other, state) => if other = key then some state else none

/-- One more state. -/
def insert (k : Known) (key : List Nat) (state : Nat) : Known :=
  { k with entries := k.entries.insert (k.place key) (key, state) }

end Known

/-- A footprint, and the states that can be used again. -/
structure Sharing where
  footprint : Footprint
  known : Known

/-- The state with a key: one that is known, or a new one that takes `extra` bytes. -/
def Sharing.state (s : Sharing) (key : List Nat) (extra : Nat) : Nat × Sharing :=
  match s.known.find? key with
  | some state => (state, s)
  | none =>
    let state := s.footprint.states
    (state, { footprint := s.footprint.add 1 extra, known := s.known.insert key state })

/-- Sequences with the same first span, side by side, put together. -/
def byFirst : List (List ByteSpan) → List (ByteSpan × List (List ByteSpan))
  | [] => []
  | [] :: seqs => byFirst seqs
  | (r :: rest) :: seqs =>
    match byFirst seqs with
    | (r', rests) :: groups =>
      if r = r' then (r, (rest :: rests)) :: groups else (r, [rest]) :: (r', rests) :: groups
    | [] => [(r, [rest])]

/-- The state that reads one of some sequences, of at most `depth` spans each, on the way to
`target`. -/
def readSequences (target : Nat) : Nat → List (List ByteSpan) → Sharing → Nat × Sharing
  | 0, _, s => (target, s)
  | _, [[]], s => (target, s)
  | depth + 1, seqs, s =>
    let (transitions, s) := (byFirst seqs).foldl
      (fun (done, s) (r, rests) =>
        let (next, s) := readSequences target depth rests s
        ([r.lo, r.hi, next] :: done, s))
      (([] : List (List Nat)), s)
    s.state transitions.reverse.flatten (transitionBytes * transitions.length)

/-- The state that reads a sequence backwards on the way to `target`. -/
def readBackwards (target : Nat) (seq : List ByteSpan) (s : Sharing) : Nat × Sharing :=
  seq.foldl (fun (next, s) r => s.state [next, r.lo, r.hi] 0) (target, s)

/-- The longest sequences of spans. -/
def longest : Nat := 4

/-- A footprint after a set is added.  A set within ASCII is a list of transitions.  Otherwise the
sequences of the set are joined in a tree, whose nodes are shared, or, backwards, side by side. -/
def addSet (d : Direction) (set : CharSet) (f : Footprint) : Footprint :=
  if set.isAscii then f.add 2 (transitionBytes * set.ranges.length)
  else
    match d with
    | .forward =>
      let s : Sharing := { footprint := f.add 1 0, known := { size := 10000 } }
      (readSequences f.states longest set.byteSpans s).2.footprint
    | .backward =>
      let s : Sharing := { footprint := f.add 2 0, known := { size := 1000 } }
      let seqs := set.byteSpans
      (seqs.foldl (fun s seq => (readBackwards (f.states + 1) seq s).2) s).footprint.add 0
        (choiceBytes * seqs.length)

/-! ### Words -/

/-- A footprint after a chunk of `n` letters is added. -/
def addChunk (n : Nat) (f : Footprint) : Footprint :=
  match n with
  | 0 => f
  | 1 => f.add 1 choiceBytes
  | n => f.add 1 (choiceBytes + transitionBytes * n)

/-- A footprint after the rest of a node is added, `n` letters of whose chunk are done. -/
def addNode : Nat → WordTrie Nat → Footprint → Footprint
  | n, .nothing, f => addChunk n f
  | n, .close earlier, f => addNode 0 earlier ((addChunk n f).add 0 choiceBytes)
  | n, .letter _ next others, f =>
    addNode (n + 1) others (if next.isLeaf then f else addNode 0 next (f.add 1 0))

/-- The bytes of a text in the order in which they are read. -/
def word (d : Direction) (cs : List Char) : List Nat :=
  let bytes := (Text.Utf8.encode cs).map UInt8.toNat
  match d with
  | .forward => bytes
  | .backward => bytes.reverse

/-- A footprint after a choice of texts is added. -/
def addTexts (d : Direction) (texts : List (List Char)) (f : Footprint) : Footprint :=
  addNode 0 (.ofWords (texts.map (word d))) (f.add 2 0)

/-! ### Patterns -/

/-- Which branch of a choice a pattern is. -/
inductive Branch where
  /-- The first one, or no branch. -/
  | first
  | second
  | later
  deriving DecidableEq, Repr

namespace Branch

/-- The branch after another one. -/
def next : Branch → Branch
  | first => second
  | _ => later

/-- The second branch is followed by the states where branches begin and end, and each branch is an
entry there. -/
def close? : Branch → Footprint → Option Footprint
  | first, f => some f
  | second, f => f.add? 2 (2 * choiceBytes)
  | later, f => f.add? 0 choiceBytes

end Branch

/-- Does something `n` times, as long as it succeeds. -/
def times? (step : Footprint → Option Footprint) : Nat → Footprint → Option Footprint
  | 0, f => some f
  | n + 1, f =>
    match step f with
    | some f => times? step n f
    | none => none

/-- The texts of a choice that has nothing else. -/
def texts? (p : Pattern) : Option (List (List Char)) :=
  p.branches.mapM fun
    | .text cs => some cs
    | _ => none

/-- A footprint after a repetition is added, given what adds the pattern repeated. -/
def addRepetition? (step : Footprint → Option Footprint) (nonempty : Bool) (least : Nat)
    (most : Option Nat) (f : Footprint) : Option Footprint :=
  match least, most with
  | 0, none =>
    if nonempty then (f.add? 1 (2 * choiceBytes)).bind step
    else (step f).bind (add? 3 (4 * choiceBytes))
  | least + 1, none => (times? step (least + 1) f).bind (add? 1 (2 * choiceBytes))
  | 0, some 1 => ((f.add? 1 (2 * choiceBytes)).bind step).bind (add? 1 0)
  | least, some most =>
    let optional (f : Footprint) : Option Footprint := (add? 1 (2 * choiceBytes) f).bind step
    if least = most then if least = 0 then f.add? 1 0 else times? step least f
    else
      ((if least = 0 then f.add? 1 0 else times? step least f).bind (add? 1 0)).bind
        (times? optional (most - least))

/-- A footprint after a pattern is added, which is a branch of a choice or stands alone. -/
def measure? (d : Direction) : Branch → Pattern → Footprint → Option Footprint
  | b, .empty, f => (f.add? 1 0).bind b.close?
  | b, .text cs, f => (f.add? (Text.Utf8.encode cs).length 0).bind b.close?
  | b, .chars set, f => (f.addSet d set).check?.bind b.close?
  | b, .anchor _, f => (f.add? 1 0).bind b.close?
  | b, .seq p q, f =>
    (match d with
      | .forward => (measure? d .first p f).bind (measure? d .first q)
      | .backward => (measure? d .first q f).bind (measure? d .first p)).bind b.close?
  | b, .alt p q, f =>
    match if b = .first then texts? (.alt p q) else none with
    | some texts => (f.addTexts d texts).check?
    | none => (measure? d b p f).bind (measure? d b.next q)
  | b, .rep p least most _, f =>
    (addRepetition? (measure? d .first p) (p.leastLength.any (0 < ·)) least most f).bind b.close?
  | b, .group _ p, f =>
    (match d with
      | .forward => ((f.add? 1 0).bind (measure? d .first p)).bind (add? 1 0)
      | .backward => measure? d .first p f).bind b.close?

end Footprint

namespace Pattern

/-- Whether every match begins at the start of the text. -/
def fromTextStart : Pattern → Bool
  | anchor .textStart => true
  | seq p q => fromTextStart p || (mostLength p = some 0 && fromTextStart q)
  | alt p q => fromTextStart p && fromTextStart q
  | rep p min _ _ => min != 0 && fromTextStart p
  | group _ p => fromTextStart p
  | _ => false

/-- Whether every match ends at the end of the text. -/
def toTextEnd : Pattern → Bool
  | anchor .textEnd => true
  | seq p q => toTextEnd q || (mostLength q = some 0 && toTextEnd p)
  | alt p q => toTextEnd p && toTextEnd q
  | rep p min _ _ => min != 0 && toTextEnd p
  | group _ p => toTextEnd p
  | _ => false

/-- The footprint of the automaton that looks for a pattern, within the limit.  Unless the pattern
holds the place fast, it begins with a loop over any bytes. -/
def footprint? (d : Direction) (p : Pattern) : Option Footprint :=
  let held := match d with
    | .forward => fromTextStart p
    | .backward => toTextEnd p
  let start := if held then ⟨1, 0⟩ else ⟨3, Footprint.transitionBytes + 2 * Footprint.choiceBytes⟩
  (Footprint.measure? d .first (group 0 p) start).bind (Footprint.add? 1 0)

/-- Whether both automata of a pattern keep to the limit. -/
def fits (p : Pattern) : Bool :=
  (footprint? .forward p).isSome && (footprint? .backward p).isSome

end Pattern

end LangBench
