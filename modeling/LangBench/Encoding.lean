import LangBench.Text.Line
import LangBench.Text.Utf16
import LangBench.Text.Utf8

/-!
# Encodings of files

* `Encoding.sniff`: the encoding of a byte string, judged by a byte order mark, by zero bytes
  near the beginning and by whether it is UTF-8;
* `Encoding.decode`: the text of a byte string in a given encoding, or why there is none;
* `Encoding.decodeLines`: its lines; a binary file has none.
-/

namespace LangBench

open Text

/-- How the bytes of a file stand for text. -/
inductive Encoding where
  | utf8
  | utf16 (order : Utf16.ByteOrder)
  /-- One character for each byte. -/
  | latin1
  /-- No text at all. -/
  | binary
  deriving DecidableEq, Repr

/-- Why content is not text in its encoding. -/
inductive ContentFault where
  | utf8 (fault : Utf8.Fault)
  /-- UTF-16 content of `length` bytes, an odd number. -/
  | oddLength (length : Nat)
  | unpairedSurrogate
  /-- Any other reason, in words. -/
  | other (reason : String)
  deriving DecidableEq, Repr

/-- The text of a fault. -/
def ContentFault.message : ContentFault → String
  | .utf8 fault => "invalid UTF-8: " ++ fault.message
  | .oddLength n => s!"UTF-16 payload has odd length {n}"
  | .unpairedSurrogate => "unpaired UTF-16 surrogate"
  | .other reason => reason

namespace Encoding

/-- The usual name of an encoding. -/
def name : Encoding → String
  | .utf8 => "utf-8"
  | .utf16 .little => "utf-16le"
  | .utf16 .big => "utf-16be"
  | .latin1 => "iso-8859-1"
  | .binary => "binary"

/-- The encodings there are. -/
def all : List Encoding :=
  [.utf8, .utf16 .little, .utf16 .big, .latin1, .binary]

/-- Whether a file in this encoding is binary. -/
def isBinary (e : Encoding) : Bool :=
  e == .binary

/-- The byte order mark of UTF-8. -/
def utf8Mark : List UInt8 := [0xEF, 0xBB, 0xBF]

/-- The byte order mark of UTF-16. -/
def utf16Mark : Utf16.ByteOrder → List UInt8
  | .little => [0xFF, 0xFE]
  | .big => [0xFE, 0xFF]

/-- The number of leading bytes in which a zero byte makes a file binary. -/
def sniffLength : Nat := 8000

/-- The encoding of a byte string.  A byte order mark decides first, then a zero byte near the
beginning, then validity as UTF-8. -/
def sniff (data : List UInt8) : Encoding :=
  if utf8Mark.isPrefixOf data then .utf8
  else if (utf16Mark .little).isPrefixOf data then .utf16 .little
  else if (utf16Mark .big).isPrefixOf data then .utf16 .big
  else if (data.take sniffLength).contains 0 then .binary
  else if Utf8.isValid data then .utf8
  else .latin1

/-- `data` without the byte order mark `mark`, if it begins with it. -/
def dropMark (mark data : List UInt8) : List UInt8 :=
  if mark.isPrefixOf data then data.drop mark.length else data

/-- The text of UTF-16 content; an odd length is noticed before a surrogate without partner. -/
def decodeUtf16 (order : Utf16.ByteOrder) (body : List UInt8) : Except ContentFault (List Char) :=
  if body.length % 2 = 1 then .error (.oddLength body.length)
  else
    match Utf16.decode order body with
    | some cs => .ok cs
    | none => .error .unpairedSurrogate

/-- The text of a byte string in a given encoding; a byte order mark is no part of it. -/
def decode (data : List UInt8) : Encoding → Except ContentFault (List Char)
  | .utf8 => (Utf8.decode (dropMark utf8Mark data)).mapError .utf8
  | .utf16 order => decodeUtf16 order (dropMark (utf16Mark order) data)
  | .latin1 => .ok (data.map fun b => Char.ofNat b.toNat)
  | .binary => .ok []

/-- The lines of a byte string in a given encoding. -/
def decodeLines (data : List UInt8) (e : Encoding) : Except ContentFault (List String) :=
  (decode data e).map fun cs => (lines cs).map String.ofList

@[simp] theorem decode_binary (data : List UInt8) : decode data .binary = .ok [] := rfl

@[simp] theorem decodeLines_binary (data : List UInt8) : decodeLines data .binary = .ok [] := rfl

end Encoding

end LangBench
