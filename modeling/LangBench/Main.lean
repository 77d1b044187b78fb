import LangBench.Bench
import LangBench.Corpus.Tree
import LangBench.Sink.Console

/-!
# The command line

`main` runs the standard strategies over the samples below the working directory, as often as the
first argument says, and shows the reports on standard output.  An error goes to standard error.
Everything that decides anything is elsewhere; here files are read and texts are written.
-/

namespace LangBench.CommandLine

/-- The fault with a number of the system.  Some calls give the number with its sign changed. -/
def faultOfNumber? (code : UInt32) : Option DiskFault :=
  match if code < 0x80000000 then code else 0 - code with
  | 2 => some .notFound
  | 20 => some .notADirectory
  | 21 => some .isADirectory
  | 36 => some .nameTooLong
  | 40 => some .tooManyLinks
  | _ => none

/-- The number that the system gives an error. -/
def errorNumber : IO.Error → UInt32
  | .noFileOrDirectory _ code _ => code
  | .inappropriateType _ code _ => code
  | .invalidArgument _ code _ => code
  | _ => 0

/-- Why the system could not read a file. -/
def diskFault (e : IO.Error) : DiskFault :=
  (faultOfNumber? (errorNumber e)).getD (.other (toString e))

mutual

/-- An entry of a directory with everything below it. -/
partial def readTree (entry : IO.FS.DirEntry) : IO Tree := do
  try
    match (← entry.path.symlinkMetadata).type with
    | .dir => return .directory (← readEntries entry)
    | .symlink =>
      if (← entry.path.metadata).type == .dir then return .linkedDirectory
      else return .linkedFile (← IO.FS.readBinFile entry.path).toList
    | _ => return .file (← IO.FS.readBinFile entry.path).toList
  catch e => return .unreadable (diskFault e)

/-- The entries of a directory with everything below them. -/
partial def readEntries (directory : IO.FS.DirEntry) : IO (List (FileName × Tree)) := do
  let entries ← directory.path.readDir
  entries.toList.mapM fun entry => do
    return ((Path.ofString entry.fileName).bytes, ← readTree entry)

end

/-- The corpus of a directory below the working directory. -/
def loadCorpus (root : Path) : IO (Except BenchError Corpus) := do
  let directory : IO.FS.DirEntry := ⟨← IO.currentDir, root.display⟩
  try
    if (← directory.path.metadata).type == .dir then
      return Corpus.ofEntries root (← readEntries directory)
    else return .error (.filesystem root .rootNotADirectory)
  catch e => return .error (.filesystem root (diskFault e))

/-- The time that has passed since some moment in the past. -/
def clock : IO Duration := do
  return ⟨← IO.monoNanosNow⟩

/-- Writes a text on standard output, or tells why that is not possible. -/
def write (text : String) : IO (Except String Unit) := do
  try
    let out ← IO.getStdout
    out.putStr text
    out.flush
    return .ok ()
  catch e => return .error (toString e)

end LangBench.CommandLine

open LangBench

/-- Runs the standard strategies over the samples below the working directory. -/
def main (args : List String) : IO UInt32 := do
  let config := Config.ofArgs (args.map fun arg => arg.toUTF8.toList)
  let corpus ← CommandLine.loadCorpus config.corpusRoot
  let result ← Bench.run config CommandLine.clock (Console.sink CommandLine.write) corpus
  (Bench.errorLines result).forM IO.eprintln
  return (Bench.exitCode result).toUInt32
