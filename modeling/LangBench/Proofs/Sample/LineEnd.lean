import LangBench.Proofs.Sample.Stored
import LangBench.Proofs.Token.LineEnd

/-!
# Files whose lines end differently

A text and the same text with a carriage return before every line feed, both in UTF-8, are two
files.  Strategies do not tell them apart.

* `interpreter_encode`, `interpreter_crlf`: the program that the first line names;
* `exists_stored`: both files store a text, the second one the same with carriage returns;
* `decodeLines_crlf`, `answer_crlf`: they have the same lines, and the same is said of them;
* `line_ends`: all of it, and the classifier for files that it reads as a whole.
-/

namespace LangBench

open Text

/-! ### The first line -/

/-- The program that a text in UTF-8 names. -/
theorem interpreter_encode (t : List Char) :
    interpreter (Utf8.encode t) =
      if ['#', '!'].isPrefixOf t then
        (Shebang.scriptOf ((t.drop 2).takeWhile (· != '\n'))).map String.ofList
      else none := by
  have marks : Shebang.mark.isPrefixOf (Utf8.encode t) = ['#', '!'].isPrefixOf t :=
    Utf8.isPrefixOf_encode ['#', '!'] t
  rw [interpreter, marks]
  split
  · rename_i marked
    obtain ⟨rest, rfl⟩ := List.isPrefixOf_iff_prefix.1 marked
    have body : (Utf8.encode (['#', '!'] ++ rest)).drop 2 = Utf8.encode rest := rfl
    have line : (Utf8.encode rest).takeWhile (· != Shebang.lineFeed) =
        Utf8.encode (rest.takeWhile (· != '\n')) := Utf8.takeWhile_encode rest
    simp only [body, line, Utf8.decodeLossy_encode]
    rfl
  · rfl

/-- The program does not depend on how lines end. -/
theorem interpreter_crlf (t : List Char) :
    interpreter (Utf8.encode (crlf t)) = interpreter (Utf8.encode t) := by
  rw [interpreter_encode, interpreter_encode, isPrefixOf_crlf _ (by decide) (by decide)]
  split
  · rename_i marked
    obtain ⟨rest, rfl⟩ := List.isPrefixOf_iff_prefix.1 marked
    have first : Shebang.scriptOf ((crlf rest).takeWhile (· != '\n')) =
        Shebang.scriptOf (rest.takeWhile (· != '\n')) := by
      rw [Shebang.scriptOf, words_firstLine_crlf, ← Shebang.scriptOf]
    exact congrArg (Option.map String.ofList) first
  · rfl

/-! ### Lines -/

section Files

variable {t : List Char} (noReturn : '\r' ∉ t) (noZero : '\x00' ∉ t)

include noZero in
/-- A text in UTF-8 stores itself, or, if it begins with U+FEFF, what follows; and so does the text
with carriage returns. -/
theorem exists_stored : ∃ u, u <:+ t ∧ Stored u (Utf8.encode t) .utf8 ∧
    Stored (crlf u) (Utf8.encode (crlf t)) .utf8 := by
  by_cases head : t.head? = some '\uFEFF'
  · obtain ⟨u, rfl⟩ : ∃ u, t = '\uFEFF' :: u := by
      cases t with
      | nil => cases head
      | cons c u => exact ⟨u, by rw [Option.some.inj head]⟩
    exact ⟨u, List.suffix_cons _ u, .marked, .marked⟩
  · have bare : ∀ {u : List Char}, u.head? ≠ some '\uFEFF' → '\x00' ∉ u →
        Stored u (Utf8.encode u) .utf8 := by
      intro u head clear
      refine .bare head fun mem => ?_
      exact Utf8.zero_notMem_encode clear (List.mem_of_mem_take mem)
    refine ⟨t, List.suffix_refl t, bare head noZero, bare ?_ ?_⟩
    · intro head'
      have same := head?_crlf (c := '\uFEFF') (by decide) (by decide) t
      rw [head', beq_self_eq_true] at same
      exact head (beq_iff_eq.1 same.symm)
    · intro mem
      rcases mem_crlf mem with mem | zero
      · exact noZero mem
      · exact absurd zero (by decide)

include noReturn noZero

/-- Both files have the same encoding and the same lines. -/
theorem decodeLines_crlf :
    Encoding.sniff (Utf8.encode (crlf t)) = Encoding.sniff (Utf8.encode t) ∧
      Encoding.decodeLines (Utf8.encode (crlf t)) (Encoding.sniff (Utf8.encode (crlf t))) =
        Encoding.decodeLines (Utf8.encode t) (Encoding.sniff (Utf8.encode t)) := by
  obtain ⟨u, part, stored, stored'⟩ := exists_stored noZero
  have clear : '\r' ∉ u := fun mem => noReturn (part.subset mem)
  constructor
  · rw [stored.sniff_eq, stored'.sniff_eq]
  · rw [stored.decodeLines_eq, stored'.decodeLines_eq, lines_crlf clear]

/-- What is said of a file without the classifier does not depend on how its lines end. -/
theorem answer_crlf (rules : RuleBook) (context : Context) (path : Path) {m : Method}
    (hm : m ≠ .naiveBayes) :
    m.answer rules context (Sample.new path (Utf8.encode (crlf t))).toBlob =
      m.answer rules context (Sample.new path (Utf8.encode t)).toBlob := by
  obtain ⟨encoding, lines⟩ := decodeLines_crlf noReturn noZero
  have encoding' : (Sample.new path (Utf8.encode (crlf t))).encoding =
      (Sample.new path (Utf8.encode t)).encoding := encoding
  have lines' : (Sample.new path (Utf8.encode (crlf t))).lines =
      (Sample.new path (Utf8.encode t)).lines := by
    rw [Blob.lines, Blob.lines]
    exact congrArg (Except.mapError DetectError.malformed) lines
  have program : interpreter (Sample.new path (Utf8.encode (crlf t))).data =
      interpreter (Sample.new path (Utf8.encode t)).data := interpreter_crlf t
  cases m with
  | naiveBayes => exact absurd rfl hm
  | modeline => rw [Method.answer, lines', Method.answer]
  | filename => rfl
  | shebang => rw [Method.answer, encoding', Strategy.byInterpreter, program, Method.answer,
      Strategy.byInterpreter]
  | extension => rfl
  | content =>
    rw [Method.answer, lines', Method.answer]
    rfl

end Files

/-- **Line ends.**  A text without carriage returns and zeros and the same text with a carriage
return before every line feed, both stored in UTF-8 under one path, get the same answer from every
strategy but the classifier.  If the second file is read as a whole and no backslash stands right
before a line feed, they have the same tokens, and the classifier ranks them alike. -/
theorem line_ends (t : List Char) (noReturn : '\r' ∉ t) (noZero : '\x00' ∉ t) (rules : RuleBook)
    (context : Context) (path : Path) :
    (∀ (W : Type) (m : Method) (w w' : W), m ≠ .naiveBayes →
      (m.registered rules).answer context (.new path (Utf8.encode (crlf t))) w =
        (m.registered rules).answer context (.new path (Utf8.encode t)) w') ∧
    ((Utf8.encode (crlf t)).length ≤ 100000 → ¬ ['\\', '\n'] <:+: t →
      tokenize (Utf8.encode (crlf t)) = tokenize (Utf8.encode t) ∧
      ∀ (W : Type) (w w' : W),
        (Method.naiveBayes.registered rules).answer context (.new path (Utf8.encode (crlf t))) w =
          (Method.naiveBayes.registered rules).answer context (.new path (Utf8.encode t)) w') := by
  constructor
  · intro W m w w' hm
    have computed := m.answer_registered rules context (Sample.new path (Utf8.encode t)).toBlob w'
    have computed' :=
      m.answer_registered rules context (Sample.new path (Utf8.encode (crlf t))).toBlob w
    exact computed'.trans ((answer_crlf noReturn noZero rules context path hm).trans computed.symm)
  · intro read clear
    have tokens := tokenize_crlf read clear
    refine ⟨tokens, ?_⟩
    intro W w w'
    have ranked : NaiveBayes.classify context.statistics (Utf8.encode (crlf t)) =
        NaiveBayes.classify context.statistics (Utf8.encode t) := by
      rw [NaiveBayes.classify, tokens, ← NaiveBayes.classify]
    have computed :=
      Method.naiveBayes.answer_registered rules context (Sample.new path (Utf8.encode t)).toBlob w'
    have computed' := Method.naiveBayes.answer_registered rules context
      (Sample.new path (Utf8.encode (crlf t))).toBlob w
    have same := congrArg (Call.returned (ε := DetectError)) ranked
    exact computed'.trans (same.trans computed.symm)

/-- A script that names its program, with a comment and a string that is not closed, in which a
backslash stands. -/
def unclosed : List Char :=
  "#!/usr/bin/env awk -f\n# x\nprint \"\\a\n".toList

theorem line_ends_unclosed :
    '\r' ∉ unclosed ∧ '\x00' ∉ unclosed ∧ (Utf8.encode (crlf unclosed)).length ≤ 100000 ∧
    ¬ ['\\', '\n'] <:+: unclosed ∧
    tokenize (Utf8.encode (crlf unclosed)) = tokenize (Utf8.encode unclosed) ∧
    ∀ (context : Context) (path : Path),
      (Method.shebang.registered ⟨[]⟩).answer context (.new path (Utf8.encode (crlf unclosed))) () =
        (Method.shebang.registered ⟨[]⟩).answer context (.new path (Utf8.encode unclosed)) () := by
  have noReturn : '\r' ∉ unclosed := by decide
  have noZero : '\x00' ∉ unclosed := by decide
  have length : (Utf8.encode (crlf unclosed)).length = 39 := rfl
  have read : (Utf8.encode (crlf unclosed)).length ≤ 100000 := by omega
  have clear : ¬ ['\\', '\n'] <:+: unclosed := by decide +kernel
  refine ⟨noReturn, noZero, read, clear, ?_, ?_⟩
  · have whole := (line_ends unclosed noReturn noZero ⟨[]⟩ ⟨.empty, .empty⟩ (.ofString "a")).2
    exact (whole read clear).1
  · intro context path
    have answers := (line_ends unclosed noReturn noZero ⟨[]⟩ context path).1
    exact answers Unit .shebang () () (by decide)

end LangBench
