import LangBench.Encoding
import LangBench.Path

/-!
# Errors

* `CatalogueFault`, `DetectError`: what can be wrong with the data that detection rests on, and
  with the content of a file;
* `DiskFault`: why a file cannot be read;
* `BenchError`: what ends a run, or a strategy's part in it.

Each has one function `message` for its text.
-/

namespace LangBench

/-- What is wrong with a catalogue or a rule book. -/
inductive CatalogueFault where
  /-- A language without a name. -/
  | blankName
  /-- A second language of the same name. -/
  | duplicate (name : String)
  /-- The text is not a list of the right shape. -/
  | unreadable (reason : String)
  deriving DecidableEq, Repr

/-- The text of a fault. -/
def CatalogueFault.message : CatalogueFault → String
  | .blankName => "language with empty name"
  | .duplicate name => s!"duplicate language '{name}'"
  | .unreadable reason => reason

/-- Why detection has no answer. -/
inductive DetectError where
  /-- The data named `source` is wrong. -/
  | catalogue (source : String) (fault : CatalogueFault)
  /-- A rule for `language` has a pattern that is none. -/
  | invalidPattern (language reason : String)
  /-- The content is no text in its encoding. -/
  | malformed (fault : ContentFault)
  deriving DecidableEq, Repr

/-- The text of an error. -/
def DetectError.message : DetectError → String
  | .catalogue source fault => s!"Invalid catalogue data in {source}: {fault.message}"
  | .invalidPattern language reason => s!"Invalid pattern for {language}: {reason}"
  | .malformed fault => s!"Malformed content: {fault.message}"

/-- Why a file or directory cannot be read. -/
inductive DiskFault where
  | notFound
  | notADirectory
  | isADirectory
  | nameTooLong
  | tooManyLinks
  /-- A zero byte in a path. -/
  | zeroByte
  /-- What was meant as a corpus is no directory. -/
  | rootNotADirectory
  /-- Any other reason, in words. -/
  | other (reason : String)
  deriving DecidableEq, Repr

/-- The text of a fault, with the number that the system gives it. -/
def DiskFault.message : DiskFault → String
  | .notFound => "No such file or directory (os error 2)"
  | .notADirectory => "Not a directory (os error 20)"
  | .isADirectory => "Is a directory (os error 21)"
  | .nameTooLong => "File name too long (os error 36)"
  | .tooManyLinks => "Too many levels of symbolic links (os error 40)"
  | .zeroByte => "file name contained an unexpected NUL byte"
  | .rootNotADirectory => "corpus root is not a directory"
  | .other reason => reason

/-- Why a run, or a strategy's part in it, came to an end. -/
inductive BenchError where
  /-- The file or directory at `path` cannot be read. -/
  | filesystem (path : Path) (fault : DiskFault)
  /-- A strategy failed on a target. -/
  | strategy (strategy target reason : String)
  /-- The data that detection rests on is wrong. -/
  | detect (error : DetectError)
  /-- A report could not be delivered. -/
  | report (reason : String)
  deriving DecidableEq, Repr

/-- The text of an error. -/
def BenchError.message : BenchError → String
  | .filesystem path fault => s!"Filesystem error for '{path.display}': {fault.message}"
  | .strategy label target reason => s!"{label} failed on {target}: {reason}"
  | .detect error => s!"Detection setup failed: {error.message}"
  | .report reason => s!"Report output failed: {reason}"

end LangBench
