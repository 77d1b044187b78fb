/-!
# UTF-16

* `ByteOrder`: which byte of a unit comes first;
* `decode`: the characters of a byte string of even length, if every surrogate has its
  partner;
* `encode`: the bytes of a text.
-/

namespace LangBench.Text.Utf16

/-- Which byte of a 16-bit unit comes first. -/
inductive ByteOrder where
  | little
  | big
  deriving DecidableEq, Repr

/-- The unit made of two bytes in the order in which they stand. -/
def ByteOrder.unit : ByteOrder → UInt8 → UInt8 → Nat
  | .little, a, b => a.toNat + 256 * b.toNat
  | .big, a, b => 256 * a.toNat + b.toNat

/-- The two bytes of a unit. -/
def ByteOrder.bytes : ByteOrder → Nat → List UInt8
  | .little, u => [UInt8.ofNat (u % 256), UInt8.ofNat (u / 256)]
  | .big, u => [UInt8.ofNat (u / 256), UInt8.ofNat (u % 256)]

/-- Whether a unit is the first of a surrogate pair. -/
def isHigh (u : Nat) : Bool :=
  0xD800 ≤ u && u < 0xDC00

/-- Whether a unit is the second of a surrogate pair. -/
def isLow (u : Nat) : Bool :=
  0xDC00 ≤ u && u < 0xE000

/-- The characters of a byte string, after those in `done`, which are listed backwards.  An odd
byte at the end is ignored. -/
def decodeFrom (order : ByteOrder) (done : List Char) : List UInt8 → Option (List Char)
  | a :: b :: rest =>
    let u := order.unit a b
    if isHigh u then
      match rest with
      | c :: d :: rest' =>
        let v := order.unit c d
        if isLow v then
          decodeFrom order (Char.ofNat (0x10000 + (u - 0xD800) * 1024 + (v - 0xDC00)) :: done) rest'
        else none
      | _ => none
    else if isLow u then none
    else decodeFrom order (Char.ofNat u :: done) rest
  | _ => some done.reverse

/-- The characters of a byte string of even length, if every surrogate has its partner. -/
def decode (order : ByteOrder) (bs : List UInt8) : Option (List Char) :=
  decodeFrom order [] bs

/-- The units of a character. -/
def units (c : Char) : List Nat :=
  let n := c.toNat
  if n < 0x10000 then [n]
  else [0xD800 + (n - 0x10000) / 1024, 0xDC00 + (n - 0x10000) % 1024]

/-- The bytes of a text. -/
def encode (order : ByteOrder) (cs : List Char) : List UInt8 :=
  cs.flatMap fun c => (units c).flatMap order.bytes

end LangBench.Text.Utf16
