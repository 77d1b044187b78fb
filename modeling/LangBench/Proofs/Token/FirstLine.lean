import LangBench.Proofs.Shebang.Name
import LangBench.Proofs.Text.Lossy
import LangBench.Proofs.Token.Reading

/-!
# Tokens and the first line

The program of an interpreter line is looked for twice: among the bytes of the first line, read on
their own, and in the text of the whole file.  Both find the same, since broken bytes in front of a
line feed are read as at the end of a file.

* `scan_interpreterLine`, `scan_decodeLossy_interpreterLine`: the tokens of a text that begins with
  an interpreter line, and of such bytes;
* `behindFirstLine`, `take_eq_firstLine`: what is read of a file, cut behind its first line;
* `first_line`: the program that the first line names, and then the tokens of what is behind it.
-/

namespace LangBench

open Text

namespace Token

/-- An interpreter line has one token if it names a program and otherwise none, and what stands
behind it has its own. -/
theorem scan_interpreterLine {line rest : List Char} (oneLine : '\n' ∉ line)
    (ends : ∀ c ∈ rest.head?, c = '\n') :
    scan (['#', '!'] ++ (line ++ rest)) =
      ((Shebang.scriptOf line).map Token.script).toList ++ scan rest := by
  have atEnd : ∀ c ∈ rest.head?, (c != '\n') = false := by
    intro c head
    rw [ends c head]
    rfl
  obtain ⟨taken, left⟩ := takeWhile_append_of_apart (ne_lineFeed_of_notMem oneLine) atEnd
  have behind : fromLineEnd ('!' :: (line ++ rest)) = rest := by
    rw [fromLineEnd, List.dropWhile_cons_of_pos rfl, left]
  have unmarked : ¬ ['#', '!'] <+: rest := by
    rintro ⟨tail, rfl⟩
    exact absurd (ends '#' rfl) (by decide)
  have first : step true '#' ('!' :: (line ++ rest)) =
      ((Shebang.scriptOf ((line ++ rest).takeWhile (· != '\n'))).map .script,
        fromLineEnd ('!' :: (line ++ rest))) := rfl
  rw [scan, List.cons_append, List.cons_append, List.nil_append, scanAt_cons, first, taken, behind,
    scan, scanAt_of_not_mark unmarked]

/-- So it is with bytes, which are read apart on both sides of the line end. -/
theorem scan_decodeLossy_interpreterLine {line rest : List UInt8} (oneLine : 0x0A ∉ line)
    (ends : ∀ b ∈ rest.head?, b = 0x0A) :
    scan (Utf8.decodeLossy ([0x23, 0x21] ++ (line ++ rest))) =
      ((Shebang.scriptOf (Utf8.decodeLossy line)).map Token.script).toList ++
        scan (Utf8.decodeLossy rest) := by
  obtain ⟨apart, oneLine', ends'⟩ := Utf8.decodeLossy_line oneLine ends
  have mark : [0x23, 0x21] = Utf8.encode ['#', '!'] := rfl
  rw [mark, Utf8.decodeLossy_encode_append, apart, scan_interpreterLine oneLine' ends']

/-- The token of an interpreter line is spelled with the name of the program behind the mark. -/
theorem map_text_script (named : Option (List Char)) :
    (named.map Token.script).toList.map (fun t => String.ofList t.text) =
      ((named.map String.ofList).map ("SHEBANG#!" ++ ·)).toList := by
  cases named with
  | none => rfl
  | some name =>
    have mark : String.ofList scriptMark = "SHEBANG#!" := String.ofList_toList
    simp only [Option.map_some, Option.toList_some, List.map_cons, List.map_nil, text,
      String.ofList_append, mark]

end Token

/-! ### Files -/

/-- What is read of a file from the end of its first line on. -/
def behindFirstLine (data : List UInt8) : List UInt8 :=
  (data.take 100000).drop (data.takeWhile (· != 0x0A)).length

variable {d : List UInt8}

/-- If a file is read to the end of its first line, what is read is that line and what stands behind
it, which begins with a line feed if it is not empty. -/
theorem take_eq_firstLine (short : (d.takeWhile (· != 0x0A)).length ≤ 100000) :
    d.take 100000 = d.takeWhile (· != 0x0A) ++ behindFirstLine d ∧
      ∀ b ∈ (behindFirstLine d).head?, b = 0x0A := by
  have read : d.take 100000 = d.takeWhile (· != 0x0A) ++
      (d.dropWhile (· != 0x0A)).take (100000 - (d.takeWhile (· != 0x0A)).length) := by
    calc d.take 100000
        = (d.takeWhile (· != 0x0A) ++ d.dropWhile (· != 0x0A)).take 100000 := by
          rw [List.takeWhile_append_dropWhile]
      _ = d.takeWhile (· != 0x0A) ++
          (d.dropWhile (· != 0x0A)).take (100000 - (d.takeWhile (· != 0x0A)).length) := by
          rw [List.take_append, List.take_of_length_le short]
  have behind : behindFirstLine d =
      (d.dropWhile (· != 0x0A)).take (100000 - (d.takeWhile (· != 0x0A)).length) := by
    rw [behindFirstLine, read, List.drop_left]
  rw [behind]
  refine ⟨read, fun b head => ?_⟩
  rw [List.head?_take] at head
  split_ifs at head
  · cases head
  · have stops := List.head?_dropWhile_not (· != 0x0A) d
    rw [head] at stops
    exact bne_eq_false_iff_eq.1 stops

/-- What stands behind the first line is read as a whole. -/
theorem length_behindFirstLine_le (d : List UInt8) : (behindFirstLine d).length ≤ 100000 := by
  rw [behindFirstLine, List.length_drop, List.length_take]
  omega

/-- The tokens of a file that begins with an interpreter line. -/
theorem tokenize_interpreterLine (marked : [0x23, 0x21] <+: d)
    (short : (d.takeWhile (· != 0x0A)).length ≤ 100000) : tokenize d =
      ((interpreter d).map ("SHEBANG#!" ++ ·)).toList ++ tokenize (behindFirstLine d) := by
  obtain ⟨read, ends⟩ := take_eq_firstLine short
  have within := length_behindFirstLine_le d
  obtain ⟨body, rfl⟩ := marked
  have oneLine : 0x0A ∉ body.takeWhile (· != 0x0A) := fun mem =>
    absurd (List.mem_takeWhile_imp mem) (by decide)
  have first : ([0x23, 0x21] ++ body).takeWhile (· != 0x0A) =
      [0x23, 0x21] ++ body.takeWhile (· != 0x0A) := rfl
  rw [tokenize, tokenLimit, read, first, List.append_assoc,
    Token.scan_decodeLossy_interpreterLine oneLine ends, List.map_append, Token.map_text_script,
    ← interpreter_append, tokenize, tokenLimit, List.take_of_length_le within]

/-- **The first line.**  If a file begins with an interpreter line that is read to its end, its
tokens are the program that the bytes of this line name, if they name one, and then those of the
bytes behind the line, whether they are UTF-8 or not. -/
theorem first_line (marked : [0x23, 0x21] <+: d)
    (short : (d.takeWhile (· != 0x0A)).length ≤ 100000) :
    (∀ s, interpreter d = some s →
      tokenize d = ("SHEBANG#!" ++ s) :: tokenize (behindFirstLine d)) ∧
    (interpreter d = none → tokenize d = tokenize (behindFirstLine d)) := by
  rw [tokenize_interpreterLine marked short]
  constructor
  · intro s named
    rw [named]
    rfl
  · intro unnamed
    rw [unnamed]
    rfl

/-- A program whose name breaks off in front of the line end, behind which a byte stands that would
complete it. -/
theorem first_line_broken :
    let d := Utf8.encode "#! /usr/bin/env -S p".toList ++ [0xE2, 0x82, 0x0A, 0xAC] ++
      Utf8.encode "#!x".toList
    [0x23, 0x21] <+: d ∧ (d.takeWhile (· != 0x0A)).length ≤ 100000 ∧
    interpreter d = some "p\uFFFD" ∧
    tokenize d = "SHEBANG#!p\uFFFD" :: tokenize (behindFirstLine d) ∧
    tokenize (behindFirstLine d) = ["#!", "x"] := by
  intro d
  have marked : [0x23, 0x21] <+: d := by decide +kernel
  have short : (d.takeWhile (· != 0x0A)).length ≤ 100000 := by decide +kernel
  have named : interpreter d = some "p\uFFFD" := by decide +kernel
  exact ⟨marked, short, named, (first_line marked short).1 _ named, by decide +kernel⟩

end LangBench
