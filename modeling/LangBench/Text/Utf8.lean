/-!
# UTF-8

A byte string is cut from the left into chunks: well-formed characters, and the longest
pieces that begin like a character but do not become one.

* `next`: the first chunk and the bytes after it;
* `chunks`, `chunks_induct`: all chunks, and induction along them;
* `decode`: the characters, or the first fault with its index;
* `decodeLossy`: the characters, with U+FFFD for each chunk that is none.
-/

namespace LangBench.Text.Utf8

/-- A piece of a byte string as UTF-8 sees it. -/
inductive Chunk where
  /-- A well-formed character. -/
  | char (c : Char)
  /-- The beginning of a character, `width` bytes long, that the next byte does not continue. -/
  | invalid (width : Nat)
  /-- The beginning of a character, `width` bytes long, where the input ends. -/
  | truncated (width : Nat)
  deriving DecidableEq, Repr

/-- The number of bytes of a chunk. -/
def Chunk.width : Chunk → Nat
  | .char c => c.utf8Size
  | .invalid w => w
  | .truncated w => w

/-- Whether a chunk is a character. -/
def Chunk.isChar : Chunk → Bool
  | .char _ => true
  | _ => false

/-- The character of a chunk. -/
def Chunk.char? : Chunk → Option Char
  | .char c => some c
  | _ => none

/-- The character shown for a chunk: U+FFFD stands for what is not one. -/
def Chunk.display : Chunk → Char
  | .char c => c
  | _ => '\uFFFD'

/-- Whether a byte continues a character. -/
def isTail (b : UInt8) : Bool :=
  0x80 ≤ b && b ≤ 0xBF

/-- The six bits that a continuing byte carries. -/
def tailBits (b : UInt8) : Nat :=
  b.toNat - 0x80

/-- Whether `b` may follow the lead byte `lead`.  After E0 and F0 small values would be
overlong, after ED they would be surrogates, and after F4 they would be too large. -/
def isSecond (lead b : UInt8) : Bool :=
  isTail b &&
    (if lead = 0xE0 then 0xA0 ≤ b
    else if lead = 0xED then b ≤ 0x9F
    else if lead = 0xF0 then 0x90 ≤ b
    else if lead = 0xF4 then b ≤ 0x8F
    else true)

/-- The chunk that begins with `b`, and the bytes after it. -/
def next (b : UInt8) (rest : List UInt8) : Chunk × List UInt8 :=
  let n := b.toNat
  if n < 0x80 then (.char (Char.ofNat n), rest)
  else if n < 0xC2 then (.invalid 1, rest)
  else if n < 0xE0 then
    match rest with
    | [] => (.truncated 1, [])
    | b₁ :: r₁ =>
      if isSecond b b₁ then (.char (Char.ofNat ((n - 0xC0) * 64 + tailBits b₁)), r₁)
      else (.invalid 1, rest)
  else if n < 0xF0 then
    match rest with
    | [] => (.truncated 1, [])
    | b₁ :: r₁ =>
      if isSecond b b₁ then
        match r₁ with
        | [] => (.truncated 2, [])
        | b₂ :: r₂ =>
          if isTail b₂ then
            (.char (Char.ofNat (((n - 0xE0) * 64 + tailBits b₁) * 64 + tailBits b₂)), r₂)
          else (.invalid 2, r₁)
      else (.invalid 1, rest)
  else if n < 0xF5 then
    match rest with
    | [] => (.truncated 1, [])
    | b₁ :: r₁ =>
      if isSecond b b₁ then
        match r₁ with
        | [] => (.truncated 2, [])
        | b₂ :: r₂ =>
          if isTail b₂ then
            match r₂ with
            | [] => (.truncated 3, [])
            | b₃ :: r₃ =>
              if isTail b₃ then
                (.char (Char.ofNat ((((n - 0xF0) * 64 + tailBits b₁) * 64 + tailBits b₂) * 64
                  + tailBits b₃)), r₃)
              else (.invalid 3, r₂)
          else (.invalid 2, r₁)
      else (.invalid 1, rest)
  else (.invalid 1, rest)

/-- A chunk takes at least its first byte. -/
theorem length_next_le (b : UInt8) (rest : List UInt8) : (next b rest).2.length ≤ rest.length := by
  fun_cases next b rest <;> simp <;> omega

/-- The chunks of a byte string, after those in `done`, which are listed backwards. -/
def chunksFrom (done : List Chunk) : List UInt8 → List Chunk
  | [] => done.reverse
  | b :: rest => chunksFrom ((next b rest).1 :: done) (next b rest).2
termination_by bs => bs.length
decreasing_by
  have := length_next_le b rest
  simp only [List.length_cons]
  omega

/-- The chunks of a byte string. -/
def chunks (bs : List UInt8) : List Chunk :=
  chunksFrom [] bs

theorem chunksFrom_nil (done : List Chunk) : chunksFrom done [] = done.reverse := by
  rw [chunksFrom]

theorem chunksFrom_cons (done : List Chunk) (b : UInt8) (rest : List UInt8) :
    chunksFrom done (b :: rest) = chunksFrom ((next b rest).1 :: done) (next b rest).2 := by
  rw [chunksFrom]

/-- The chunks found so far stand in front of those of the rest. -/
theorem chunksFrom_eq (done : List Chunk) (bs : List UInt8) :
    chunksFrom done bs = done.reverse ++ chunks bs := by
  generalize hn : bs.length = n
  induction n using Nat.strongRecOn generalizing done bs with
  | _ n ih =>
    cases bs with
    | nil => simp [chunks, chunksFrom_nil]
    | cons b rest =>
      have hlt : (next b rest).2.length < n := by
        have := length_next_le b rest
        simp only [List.length_cons] at hn
        omega
      rw [chunks, chunksFrom_cons, chunksFrom_cons, ih _ hlt _ _ rfl, ih _ hlt [_] _ rfl]
      simp

@[simp] theorem chunks_nil : chunks [] = [] := by
  simp [chunks, chunksFrom_nil]

theorem chunks_cons (b : UInt8) (rest : List UInt8) :
    chunks (b :: rest) = (next b rest).1 :: chunks (next b rest).2 := by
  rw [chunks, chunksFrom_cons, chunksFrom_eq]
  simp

/-- Induction along the chunks of a byte string. -/
@[elab_as_elim]
theorem chunks_induct {motive : List UInt8 → Prop} (nil : motive [])
    (cons : ∀ b rest, motive (next b rest).2 → motive (b :: rest)) (bs : List UInt8) : motive bs :=
  match bs with
  | [] => nil
  | b :: rest => cons b rest (chunks_induct nil cons (next b rest).2)
termination_by bs.length
decreasing_by
  have := length_next_le b rest
  simp only [List.length_cons]
  omega

/-- Why a byte string is not UTF-8. -/
inductive Fault where
  /-- The `width` bytes from `index` on begin a character that the next byte does not continue. -/
  | invalid (width index : Nat)
  /-- The input ends inside the character that begins at `index`. -/
  | truncated (index : Nat)
  deriving DecidableEq, Repr

/-- The text of a fault. -/
def Fault.message : Fault → String
  | .invalid width index => s!"invalid utf-8 sequence of {width} bytes from index {index}"
  | .truncated index => s!"incomplete utf-8 byte sequence from index {index}"

/-- The fault of a chunk at `index`. -/
def Chunk.fault (index : Nat) : Chunk → Fault
  | .invalid w => .invalid w index
  | _ => .truncated index

/-- The number of bytes of some chunks. -/
def totalWidth (cs : List Chunk) : Nat :=
  cs.foldr (fun c n => c.width + n) 0

/-- The characters of a byte string, or its first fault. -/
def decode (bs : List UInt8) : Except Fault (List Char) :=
  let cs := chunks bs
  match cs.dropWhile Chunk.isChar with
  | [] => .ok (cs.filterMap Chunk.char?)
  | bad :: _ => .error (bad.fault (totalWidth (cs.takeWhile Chunk.isChar)))

/-- Whether a byte string is UTF-8. -/
def isValid (bs : List UInt8) : Bool :=
  (chunks bs).all Chunk.isChar

/-- The characters of a byte string, with U+FFFD for each chunk that is none. -/
def decodeLossy (bs : List UInt8) : List Char :=
  (chunks bs).map Chunk.display

/-- The bytes of a character. -/
def encodeChar (c : Char) : List UInt8 :=
  let n := c.toNat
  if n < 0x80 then [UInt8.ofNat n]
  else if n < 0x800 then [UInt8.ofNat (0xC0 + n / 64), UInt8.ofNat (0x80 + n % 64)]
  else if n < 0x10000 then
    [UInt8.ofNat (0xE0 + n / 4096), UInt8.ofNat (0x80 + n / 64 % 64),
      UInt8.ofNat (0x80 + n % 64)]
  else
    [UInt8.ofNat (0xF0 + n / 262144), UInt8.ofNat (0x80 + n / 4096 % 64),
      UInt8.ofNat (0x80 + n / 64 % 64), UInt8.ofNat (0x80 + n % 64)]

/-- The bytes of a text. -/
def encode (cs : List Char) : List UInt8 :=
  cs.flatMap encodeChar

end LangBench.Text.Utf8
