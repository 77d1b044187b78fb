import LangBench.Text.Blank
import LangBench.Text.Utf8

/-!
# Interpreter lines

A script may say on its first line, after `#!`, which program runs it.

* `Shebang.scriptOf line`: the program named on a line, the `#!` left out;
* `interpreter data`: the program named on the first line of a file.

The directory and a trailing version are no part of the name, and `env` is looked through, past
its options and assignments.
-/

namespace LangBench

open Text

namespace Shebang

/-- What stands after the last slash of a word. -/
def baseName (word : List Char) : List Char :=
  (word.reverse.takeWhile (· != '/')).reverse

/-- Whether a character may belong to a version. -/
def isVersionChar (c : Char) : Bool :=
  c.isDigit || c == '.'

/-- A name without the version at its end. -/
def dropVersion (name : List Char) : List Char :=
  (name.reverse.dropWhile isVersionChar).reverse

/-- Whether `env` takes a word for itself: an option or an assignment. -/
def isForEnv (word : List Char) : Bool :=
  word.head? == some '-' || word.contains '='

/-- The word that names the program: the first one, or, if that is `env`, the first one after it
that `env` does not take. -/
def programWord : List (List Char) → Option (List Char)
  | [] => none
  | first :: rest =>
    if baseName first = ['e', 'n', 'v'] then (rest.find? (!isForEnv ·)).map baseName
    else some (baseName first)

/-- A name, unless it is empty. -/
def nonEmpty? (name : List Char) : Option (List Char) :=
  if name = [] then none else some name

/-- The program named on a line. -/
def scriptOf (line : List Char) : Option (List Char) :=
  (programWord (words line)).bind fun name => nonEmpty? (dropVersion name)

/-- The bytes of `#!`. -/
def mark : List UInt8 := [0x23, 0x21]

/-- The line feed as a byte. -/
def lineFeed : UInt8 := 0x0A

end Shebang

/-- The program named on the first line of a file. -/
def interpreter (data : List UInt8) : Option String :=
  if Shebang.mark.isPrefixOf data then
    let line := (data.drop 2).takeWhile (· != Shebang.lineFeed)
    (Shebang.scriptOf (Utf8.decodeLossy line)).map String.ofList
  else none

end LangBench
