import LangBench.Error
import LangBench.Extension

/-!
# Samples

* `Blob`: what never changes about a file: its path and its bytes;
* `Cache`: what was derived from a blob and kept;
* `ViewT`, `View`: computations that read a blob and may fill its cache;
* `View.encoding`, `View.lines`, `View.mediaType`: the derived views, computed once;
* `Sample`: a blob with its cache.
-/

namespace LangBench

/-- A file in memory. -/
structure Blob where
  path : Path
  /-- The path below the corpus root. -/
  relative : Path
  data : List UInt8
  deriving DecidableEq, Repr

namespace Blob

/-- The last component of the path. -/
def name (b : Blob) : String :=
  b.path.name

/-- The path as reports write it. -/
def label (b : Blob) : String :=
  b.path.label

/-- The encoding of the content. -/
def encoding (b : Blob) : Encoding :=
  .sniff b.data

/-- The lines of the content, or why there are none. -/
def lines (b : Blob) : Except DetectError (List String) :=
  (Encoding.decodeLines b.data b.encoding).mapError .malformed

/-- The media type of the file. -/
def mediaType (b : Blob) : String :=
  LangBench.mediaType b.name b.encoding

end Blob

/-- The derived views of a blob that are kept. -/
structure Cache where
  encoding : Option Encoding := none
  lines : Option (Except DetectError (List String)) := none
  mediaType : Option String := none

/-- Whether no view is kept. -/
def Cache.isEmpty (c : Cache) : Bool :=
  c.encoding.isNone && c.lines.isNone && c.mediaType.isNone

/-- A computation in `m` that reads a blob and may fill its cache. -/
abbrev ViewT (m : Type → Type) (α : Type) : Type :=
  ReaderT Blob (StateT Cache m) α

/-- A computation that reads a blob and may fill its cache. -/
abbrev View (α : Type) : Type :=
  ViewT Id α

namespace View

/-- The result of a view of a blob, and the cache after it. -/
def run {α : Type} (v : View α) (b : Blob) (c : Cache) : α × Cache :=
  Id.run ((ReaderT.run v b).run c)

/-- A view inside any other monad. -/
def lift {m : Type → Type} [Monad m] {α : Type} (v : View α) : ViewT m α :=
  fun b c => pure (v.run b c)

/-- The last component of the path. -/
def name : View String := do
  return (← read).name

/-- The bytes of the file. -/
def data : View (List UInt8) := do
  return (← read).data

/-- The encoding of the content; it is looked for once. -/
def encoding : View Encoding := do
  match (← get).encoding with
  | some e => return e
  | none =>
    let e := Encoding.sniff (← data)
    modify fun c => { c with encoding := some e }
    return e

/-- The lines of the content, or why there are none; it is decoded once. -/
def lines : View (Except DetectError (List String)) := do
  match (← get).lines with
  | some ls => return ls
  | none =>
    let e ← encoding
    let ls := (Encoding.decodeLines (← data) e).mapError .malformed
    modify fun c => { c with lines := some ls }
    return ls

/-- The media type of the file; it is looked for once. -/
def mediaType : View String := do
  match (← get).mediaType with
  | some t => return t
  | none =>
    let e ← encoding
    let t := LangBench.mediaType (← name) e
    modify fun c => { c with mediaType := some t }
    return t

end View

/-- A file in memory with the views derived from it so far. -/
structure Sample extends Blob where
  cache : Cache := {}

namespace Sample

/-- A sample of content in memory. -/
def new (path : Path) (data : List UInt8) : Sample where
  path
  relative := path
  data

/-- A sample of content read from `path`, found below `root`. -/
def loaded (root path : Path) (data : List UInt8) : Sample where
  path
  relative := (path.stripPrefix? root).getD path
  data

/-- The sample with no view kept. -/
def reset (s : Sample) : Sample :=
  { s with cache := {} }

/-- Whether no view is kept. -/
def isClean (s : Sample) : Bool :=
  s.cache.isEmpty

/-- The result of a view of a sample, and the sample after it. -/
def view {α : Type} (s : Sample) (v : View α) : α × Sample :=
  let (a, cache) := v.run s.toBlob s.cache
  (a, { s with cache })

@[simp] theorem isClean_new (path : Path) (data : List UInt8) : (new path data).isClean = true :=
  rfl

@[simp] theorem isClean_loaded (root path : Path) (data : List UInt8) :
    (loaded root path data).isClean = true :=
  rfl

@[simp] theorem isClean_reset (s : Sample) : s.reset.isClean = true := rfl

@[simp] theorem toBlob_reset (s : Sample) : s.reset.toBlob = s.toBlob := rfl

@[simp] theorem toBlob_view {α : Type} (s : Sample) (v : View α) :
    (s.view v).2.toBlob = s.toBlob := rfl

/-- A clean sample is one that was reset. -/
theorem reset_of_isClean {s : Sample} (h : s.isClean = true) : s.reset = s := by
  obtain ⟨b, ⟨e, l, t⟩⟩ := s
  simp only [isClean, Cache.isEmpty, Bool.and_eq_true, Option.isNone_iff_eq_none] at h
  obtain ⟨⟨rfl, rfl⟩, rfl⟩ := h
  rfl

end Sample

end LangBench
