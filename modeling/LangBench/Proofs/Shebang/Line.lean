import LangBench.Proofs.Shebang.Name
import LangBench.Proofs.Text.Line
import LangBench.Proofs.Text.Lossy
import LangBench.Proofs.Text.Trim

/-!
# Interpreter lines

What an interpreter line may look like, and the program that it names.

* `IsDirectory`, `IsProgram`: how a program is written, with a directory and a version;
* `Behind`: what may stand behind the last word that counts;
* `IsForEnv`: a word that `env` takes for itself;
* `scriptOf_word`, `scriptOf_env`: the program of a line that names it, and of one that runs it
  through `env`;
* `interpreter_line`: the program of a file, and what a file that names one looks like.
-/

namespace LangBench

open Text

namespace Shebang

/-! ### Words -/

/-- Whether a text is a directory in front of a program: nothing, or a word up to a slash. -/
structure IsDirectory (dir : List Char) : Prop where
  noBlank : ∀ c ∈ dir, isBlank c = false
  endsInSlash : dir = [] ∨ dir.getLast? = some '/'

/-- Whether a program is written with the directory `dir`, the name `base` and the version `ver`.
None of them holds an equals sign, so that `env` does not take the word for an assignment. -/
structure IsProgram (dir base ver : List Char) : Prop where
  directory : IsDirectory dir
  name : IsName base
  version : ∀ c ∈ ver, isVersionChar c = true
  noAssignment : '=' ∉ dir ∧ '=' ∉ base

/-- Blanks that do not end the line. -/
def IsPadding (pad : List Char) : Prop :=
  ∀ c ∈ pad, isBlank c = true ∧ c ≠ '\n'

-- Not by `inferInstanceAs`: that may go through all characters there are.
instance (pad : List Char) : Decidable (IsPadding pad) :=
  decidable_of_iff ((pad.all fun c => isBlank c && c != '\n') = true) (by simp [IsPadding])

/-- Whether `env` takes a word for itself, which stands behind some blanks: it begins with a hyphen
or holds an equals sign. -/
structure IsForEnv (gap word : List Char) : Prop where
  gap_ne_nil : gap ≠ []
  padding : IsPadding gap
  noBlank : ∀ c ∈ word, isBlank c = false
  taken : word.head? = some '-' ∨ '=' ∈ word

/-- What may stand behind a word in a file: nothing, or a blank, which may end the line, and then
any bytes. -/
inductive Behind : List UInt8 → Prop
  | nothing : Behind []
  | blank {c : Char} (isBlank : isBlank c = true) (bytes : List UInt8) :
      Behind (Utf8.encodeChar c ++ bytes)

variable {pad dir base ver gap word rest : List Char}

theorem noBlank_of_any (h : word.any isBlank = false) : ∀ c ∈ word, isBlank c = false := by
  simpa using h

theorem isVersionChar_not_isBlank {c : Char} (h : isVersionChar c = true) : isBlank c = false := by
  rw [isVersionChar, Bool.or_eq_true, beq_iff_eq] at h
  rcases h with digit | rfl
  · exact isBlank_of_isDigit digit
  · rfl

theorem baseName_append (directory : IsDirectory dir) (noSlash : '/' ∉ word) :
    baseName (dir ++ word) = word := by
  have inWord : ∀ c ∈ word.reverse, (c != '/') = true := by
    intro c mem
    rw [bne_iff_ne]
    rintro rfl
    exact noSlash (List.mem_reverse.1 mem)
  have stops : ∀ c ∈ dir.reverse.head?, (c != '/') = false := by
    intro c head
    rw [List.head?_reverse] at head
    rcases directory.endsInSlash with rfl | slash
    · cases head
    · rw [slash] at head
      cases head
      rfl
  rw [baseName, List.reverse_append, (takeWhile_append_of_apart inWord stops).1,
    List.reverse_reverse]

theorem dropVersion_append (name : IsName base) (version : ∀ c ∈ ver, isVersionChar c = true) :
    dropVersion (base ++ ver) = base := by
  have inVersion : ∀ c ∈ ver.reverse, isVersionChar c = true :=
    fun c mem => version c (List.mem_reverse.1 mem)
  have stops : ∀ c ∈ base.reverse.head?, isVersionChar c = false := by
    intro c head
    rw [List.head?_reverse] at head
    exact name.noVersion c head
  rw [dropVersion, List.reverse_append, (takeWhile_append_of_apart inVersion stops).2,
    List.reverse_reverse]

namespace IsProgram

variable (h : IsProgram dir base ver)

include h

theorem slash_notMem : '/' ∉ base ++ ver := by
  rw [List.mem_append, not_or]
  exact ⟨h.name.noSlash, fun mem => absurd (h.version _ mem) (by decide)⟩

theorem baseName_eq : baseName (dir ++ base ++ ver) = base ++ ver := by
  rw [List.append_assoc, baseName_append h.directory h.slash_notMem]

theorem noBlank : ∀ c ∈ dir ++ base ++ ver, isBlank c = false := by
  simp only [List.mem_append]
  rintro c ((inDir | inBase) | inVer)
  · exact h.directory.noBlank c inDir
  · exact h.name.noBlank c inBase
  · exact isVersionChar_not_isBlank (h.version c inVer)

theorem ne_nil : dir ++ base ++ ver ≠ [] := by
  simp [h.name.ne_nil]

theorem isForEnv_eq_false (noOption : (dir ++ base ++ ver).head? ≠ some '-') :
    isForEnv (dir ++ base ++ ver) = false := by
  have noAssignment : '=' ∉ dir ++ base ++ ver := by
    simp only [List.mem_append, not_or]
    exact ⟨h.noAssignment, fun mem => absurd (h.version _ mem) (by decide)⟩
  rw [isForEnv, Bool.or_eq_false_iff]
  exact ⟨beq_false_of_ne noOption, by simpa using noAssignment⟩

/-- What is left of the word without its directory and its version. -/
theorem dropVersion_baseName :
    nonEmpty? (dropVersion (baseName (dir ++ base ++ ver))) = some base := by
  rw [h.baseName_eq, dropVersion_append h.name h.version, nonEmpty?, if_neg h.name.ne_nil]

end IsProgram

/-! ### Lines -/

/-- A line names its first word, unless that is `env`. -/
theorem scriptOf_word (padding : ∀ c ∈ pad, isBlank c = true) (program : IsProgram dir base ver)
    (notEnv : base ++ ver ≠ ['e', 'n', 'v']) (ends : ∀ c ∈ rest.head?, isBlank c = true) :
    scriptOf (pad ++ (dir ++ base ++ ver) ++ rest) = some base := by
  have first : words (pad ++ (dir ++ base ++ ver) ++ rest) = (dir ++ base ++ ver) :: words rest := by
    rw [List.append_assoc, words_padding padding, words_word program.ne_nil program.noBlank ends]
  rw [scriptOf, first, programWord, if_neg (program.baseName_eq ▸ notEnv), Option.bind_some,
    program.dropVersion_baseName]

theorem isForEnv_of_taken (h : word.head? = some '-' ∨ '=' ∈ word) : isForEnv word = true := by
  rw [isForEnv, Bool.or_eq_true]
  exact h.imp (fun option => beq_iff_eq.2 option) (fun mem => List.contains_iff_mem.2 mem)

theorem IsForEnv.isSpaced (h : IsForEnv gap word) : IsSpaced gap word where
  gap_ne_nil := h.gap_ne_nil
  gap_blank c mem := (h.padding c mem).1
  word_ne_nil := by
    rintro rfl
    rcases h.taken with option | assignment
    · cases option
    · cases assignment
  word_noBlank := h.noBlank

/-- If the first word is `env`, the line names the first word after it that `env` does not take. -/
theorem scriptOf_env {d : List Char} {skipped : List (List Char × List Char)}
    (padding : ∀ c ∈ pad, isBlank c = true) (directory : IsDirectory d)
    (each : ∀ p ∈ skipped, IsForEnv p.1 p.2) (gap_ne_nil : gap ≠ [])
    (gap_blank : ∀ c ∈ gap, isBlank c = true) (program : IsProgram dir base ver)
    (noOption : (dir ++ base ++ ver).head? ≠ some '-') (ends : ∀ c ∈ rest.head?, isBlank c = true) :
    scriptOf (pad ++ (d ++ ['e', 'n', 'v']) ++ (spaced skipped ++ (gap ++ (dir ++ base ++ ver))) ++
      rest) = some base := by
  have all : ∀ p ∈ skipped ++ [(gap, dir ++ base ++ ver)], IsSpaced p.1 p.2 := by
    rw [List.forall_mem_append, List.forall_mem_singleton]
    exact ⟨fun p mem => (each p mem).isSpaced, gap_ne_nil, gap_blank, program.ne_nil,
      program.noBlank⟩
  have together : spaced skipped ++ (gap ++ (dir ++ base ++ ver)) =
      spaced (skipped ++ [(gap, dir ++ base ++ ver)]) := by
    simp [spaced]
  have env : ∀ c ∈ d ++ ['e', 'n', 'v'], isBlank c = false := by
    rw [List.forall_mem_append]
    exact ⟨directory.noBlank, noBlank_of_any (by decide)⟩
  have read : words (pad ++ (d ++ ['e', 'n', 'v']) ++
      (spaced skipped ++ (gap ++ (dir ++ base ++ ver))) ++ rest) =
      (d ++ ['e', 'n', 'v']) :: (skipped.map Prod.snd ++ (dir ++ base ++ ver) :: words rest) := by
    rw [together, List.append_assoc, List.append_assoc, words_padding padding,
      words_word (by simp) env (isBlank_head?_spaced all ends), words_spaced all ends,
      List.map_append, List.append_assoc]
    rfl
  have skips : (skipped.map Prod.snd).find? (!isForEnv ·) = none := by
    rw [List.find?_eq_none]
    intro word mem
    obtain ⟨p, member, rfl⟩ := List.mem_map.1 mem
    simp [isForEnv_of_taken (each p member).taken]
  have stops : (!isForEnv (dir ++ base ++ ver)) = true := by
    rw [program.isForEnv_eq_false noOption, Bool.not_false]
  rw [scriptOf, read, programWord, if_pos (baseName_append directory (by decide)),
    List.find?_append, skips, Option.none_or, List.find?_cons_of_pos (p := (!isForEnv ·)) stops,
    Option.map_some, Option.bind_some, program.dropVersion_baseName]

/-! ### Files -/

theorem lineFeed_notMem_of_noBlank {cs : List Char} (h : ∀ c ∈ cs, isBlank c = false) :
    '\n' ∉ cs :=
  fun mem => absurd (h _ mem) (by decide)

theorem lineFeed_notMem_of_isPadding (h : IsPadding pad) : '\n' ∉ pad :=
  fun mem => (h _ mem).2 rfl

theorem lineFeed_notMem_spaced {skipped : List (List Char × List Char)}
    (each : ∀ p ∈ skipped, IsForEnv p.1 p.2) : '\n' ∉ spaced skipped := by
  intro mem
  obtain ⟨p, member, inside⟩ := List.mem_flatMap.1 mem
  rcases List.mem_append.1 inside with inGap | inWord
  · exact lineFeed_notMem_of_isPadding (each p member).padding inGap
  · exact lineFeed_notMem_of_noBlank (each p member).noBlank inWord

/-- The first line of a file that begins with a text without line feeds, behind which a word may
end. -/
theorem exists_firstLine {cs : List Char} (oneLine : '\n' ∉ cs) {tail : List UInt8}
    (behind : Behind tail) : ∃ rest, Utf8.decodeLossy
      ((Utf8.encode cs ++ tail).takeWhile (· != 0x0A)) = cs ++ rest ∧
        ∀ c ∈ rest.head?, isBlank c = true := by
  have inLine : (Utf8.encode cs).takeWhile (· != 0x0A) = Utf8.encode cs := by
    rw [Utf8.takeWhile_encode, List.takeWhile_eq_self_iff.2 (ne_lineFeed_of_notMem oneLine)]
  refine ⟨Utf8.decodeLossy (tail.takeWhile (· != 0x0A)), ?_, ?_⟩
  · rw [List.takeWhile_append_of_pos (List.takeWhile_eq_self_iff.1 inLine),
      Utf8.decodeLossy_encode_append]
  · cases behind with
    | nothing => simp [Utf8.decodeLossy_nil]
    | @blank c hc bytes =>
      by_cases ended : c = '\n'
      · subst ended
        simp [Utf8.encodeChar, Utf8.decodeLossy_nil]
      · have own : (Utf8.encode [c]).takeWhile (· != 0x0A) = Utf8.encode [c] := by
          rw [Utf8.takeWhile_encode, List.takeWhile_cons_of_pos (by simpa using ended),
            List.takeWhile_nil]
        have single : Utf8.encodeChar c = Utf8.encode [c] := (List.append_nil _).symm
        rw [single, List.takeWhile_append_of_pos (List.takeWhile_eq_self_iff.1 own),
          Utf8.decodeLossy_encode_append]
        rintro d head
        obtain rfl : c = d := Option.some.inj head
        exact hc

end Shebang

open Shebang

/-- The program of a file that begins with `#!` and a text without line feeds, behind which a word
may end, is what every line names that begins with this text. -/
theorem interpreter_of_line {cs : List Char} (oneLine : '\n' ∉ cs) {tail : List UInt8}
    (behind : Behind tail) {name : List Char}
    (named : ∀ rest : List Char, (∀ c ∈ rest.head?, isBlank c = true) →
      scriptOf (cs ++ rest) = some name) :
    interpreter (Utf8.encode (['#', '!'] ++ cs) ++ tail) = some (String.ofList name) := by
  obtain ⟨rest, read, ends⟩ := exists_firstLine oneLine behind
  have marked : Utf8.encode (['#', '!'] ++ cs) ++ tail =
      [0x23, 0x21] ++ (Utf8.encode cs ++ tail) := rfl
  rw [marked, interpreter_append, read, named rest ends, Option.map_some]

/-- A file that names a program begins with `#!`, and its first line names the program alone. -/
theorem interpreter_eq_some {data : List UInt8} {s : String} (h : interpreter data = some s) :
    [0x23, 0x21] <+: data ∧ IsName s.toList ∧
      interpreter (data.takeWhile (· != 0x0A)) = some s := by
  have marked : [0x23, 0x21] <+: data := by
    rw [interpreter] at h
    split_ifs at h with marked
    exact List.isPrefixOf_iff_prefix.1 marked
  refine ⟨marked, ?_⟩
  obtain ⟨body, rfl⟩ := marked
  have first : ([0x23, 0x21] ++ body).takeWhile (· != 0x0A) =
      [0x23, 0x21] ++ body.takeWhile (· != 0x0A) := rfl
  rw [interpreter_append] at h
  obtain ⟨name, named, rfl⟩ := Option.map_eq_some_iff.1 h
  constructor
  · rw [String.toList_ofList]
    exact isName_of_scriptOf named
  · rw [first, interpreter_append, List.takeWhile_idem, named, Option.map_some]

/-- **Interpreter lines.**  A line names the program in its first word, without the directory and the
version, unless that is `env`.  Then it names the program in the first word that `env` does not take
for itself, if there is one.  It does not matter what stands behind that word.  And a file that names
a program begins with `#!`; what it names is a word without slashes and without a version at its end,
and the first line alone names the same. -/
theorem interpreter_line :
    (∀ (pad dir base ver : List Char) (tail : List UInt8), IsPadding pad →
      IsProgram dir base ver → base ++ ver ≠ ['e', 'n', 'v'] → Behind tail →
      interpreter (Utf8.encode (['#', '!'] ++ (pad ++ (dir ++ base ++ ver))) ++ tail) =
        some (String.ofList base)) ∧
    (∀ (pad d : List Char) (skipped : List (List Char × List Char))
        (gap dir base ver : List Char) (tail : List UInt8), IsPadding pad → IsDirectory d →
      (∀ p ∈ skipped, IsForEnv p.1 p.2) → gap ≠ [] → IsPadding gap → IsProgram dir base ver →
      (dir ++ base ++ ver).head? ≠ some '-' → Behind tail →
      interpreter (Utf8.encode (['#', '!'] ++ (pad ++ (d ++ ['e', 'n', 'v']) ++
        (spaced skipped ++ (gap ++ (dir ++ base ++ ver))))) ++ tail) = some (String.ofList base)) ∧
    ∀ (data : List UInt8) (s : String), interpreter data = some s →
      [0x23, 0x21] <+: data ∧ IsName s.toList ∧
        interpreter (data.takeWhile (· != 0x0A)) = some s := by
  refine ⟨?_, ?_, fun data s => interpreter_eq_some⟩
  · intro pad dir base ver tail padding program notEnv behind
    refine interpreter_of_line ?_ behind fun rest ends => ?_
    · exact List.not_mem_append (lineFeed_notMem_of_isPadding padding)
        (lineFeed_notMem_of_noBlank program.noBlank)
    · exact scriptOf_word (fun c mem => (padding c mem).1) program notEnv ends
  · intro pad d skipped gap dir base ver tail padding directory each gap_ne_nil gap_padding program
      noOption behind
    refine interpreter_of_line ?_ behind fun rest ends => ?_
    · have inEnv : '\n' ∉ d ++ ['e', 'n', 'v'] :=
        List.not_mem_append (lineFeed_notMem_of_noBlank directory.noBlank) (by decide)
      have inProgram : '\n' ∉ gap ++ (dir ++ base ++ ver) :=
        List.not_mem_append (lineFeed_notMem_of_isPadding gap_padding)
          (lineFeed_notMem_of_noBlank program.noBlank)
      exact List.not_mem_append
        (List.not_mem_append (lineFeed_notMem_of_isPadding padding) inEnv)
        (List.not_mem_append (lineFeed_notMem_spaced each) inProgram)
    · exact scriptOf_env (fun c mem => (padding c mem).1) directory each gap_ne_nil
        (fun c mem => (gap_padding c mem).1) program noOption ends

/-- A line that runs a program through `env`, with an option and an assignment before it, and with
broken bytes and a further line behind it; and one that names a program with a digit inside. -/
theorem interpreter_line_python :
    IsProgram ['.', '/'] ['p', 'y', 'p', 'y'] ['3', '.', '1'] ∧
    interpreter (Utf8.encode "#!\t/usr/bin/env -S  A=b ./pypy3.1".toList ++
      [0x20, 0xFF, 0x0A, 0x23]) = some "pypy" ∧
    interpreter (Utf8.encode "#!./pypy3.1".toList) = some "pypy" ∧ IsName "pypy".toList := by
  have program : IsProgram ['.', '/'] ['p', 'y', 'p', 'y'] ['3', '.', '1'] := {
    directory := ⟨noBlank_of_any (by decide), by decide⟩
    name := ⟨by decide, noBlank_of_any (by decide), by decide, by rintro c ⟨⟩; decide⟩
    version := List.all_eq_true.1 (by decide)
    noAssignment := by decide }
  have blank : IsPadding [' '] := by decide
  have each : ∀ p ∈ [([' '], ['-', 'S']), ([' ', ' '], ['A', '=', 'b'])], IsForEnv p.1 p.2 := by
    rw [List.forall_mem_cons, List.forall_mem_singleton]
    exact ⟨⟨by decide, blank, noBlank_of_any (by decide), by decide⟩,
      ⟨by decide, by decide, noBlank_of_any (by decide), by decide⟩⟩
  obtain ⟨named, throughEnv, conversely⟩ := interpreter_line
  have direct := named [] ['.', '/'] ['p', 'y', 'p', 'y'] ['3', '.', '1'] []
    (by decide) program (by decide) .nothing
  have behind : Behind [0x20, 0xFF, 0x0A, 0x23] :=
    .blank (c := ' ') (by decide) [0xFF, 0x0A, 0x23]
  exact ⟨program,
    throughEnv ['\t'] "/usr/bin/".toList [([' '], ['-', 'S']), ([' ', ' '], ['A', '=', 'b'])] [' ']
      ['.', '/'] ['p', 'y', 'p', 'y'] ['3', '.', '1'] [0x20, 0xFF, 0x0A, 0x23]
      (by decide) ⟨noBlank_of_any (by decide), by decide⟩ each (by decide) blank program
      (by decide) behind,
    direct, (conversely _ _ direct).2.1⟩

end LangBench
