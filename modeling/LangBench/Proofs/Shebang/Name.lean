import LangBench.Shebang
import Mathlib.Data.List.DropRight

/-!
# Names of programs

What an interpreter line names is the last part of a word, without directory and version.

* `of_mem_pieces`, `not_isBlank_of_mem_words`: pieces have no separators, and words no blanks;
* `IsName`: texts that can be named;
* `isName_of_scriptOf`: a line names nothing else;
* `interpreter_append`: the line that counts in a file.
-/

namespace LangBench

namespace Text

variable {α : Type _}

/-- No piece has a separator. -/
theorem of_mem_pieces {p : α → Bool} {xs l : List α} (h : l ∈ pieces p xs) :
    ∀ x ∈ l, p x = false := by
  induction xs generalizing l with
  | nil =>
    rw [pieces_nil, List.mem_singleton] at h
    simp [h]
  | cons y ys ih =>
    rw [pieces_cons] at h
    split_ifs at h with separator
    · rcases List.mem_cons.1 h with rfl | later
      · simp
      · exact ih later
    · cases rest : pieces p ys with
      | nil => exact absurd rest (pieces_ne_nil p ys)
      | cons first others =>
        rw [rest, consPiece, List.mem_cons] at h
        rw [rest] at ih
        rcases h with rfl | later
        · rw [List.forall_mem_cons]
          exact ⟨Bool.not_eq_true _ ▸ separator, ih List.mem_cons_self⟩
        · exact ih (List.mem_cons_of_mem first later)

theorem not_isBlank_of_mem_words {cs w : List Char} (h : w ∈ words cs) :
    ∀ c ∈ w, isBlank c = false :=
  of_mem_pieces (List.mem_of_mem_filter h)

end Text

open Text

namespace Shebang

/-- Whether a text can be the name of a program: it is a word, and has neither a directory nor a
version. -/
structure IsName (name : List Char) : Prop where
  ne_nil : name ≠ []
  noBlank : ∀ c ∈ name, isBlank c = false
  noSlash : '/' ∉ name
  noVersion : ∀ c ∈ name.getLast?, isVersionChar c = false

variable {name word : List Char}

theorem baseName_eq (word : List Char) : baseName word = word.rtakeWhile (· != '/') := rfl

theorem dropVersion_eq (name : List Char) : dropVersion name = name.rdropWhile isVersionChar := rfl

/-- What is named is the last part of one of the words. -/
theorem exists_of_programWord {ws : List (List Char)} (h : programWord ws = some name) :
    ∃ word ∈ ws, baseName word = name := by
  cases ws with
  | nil => cases h
  | cons first rest =>
    rw [programWord] at h
    split_ifs at h
    · obtain ⟨word, found, same⟩ := Option.map_eq_some_iff.1 h
      exact ⟨word, List.mem_cons_of_mem first (List.mem_of_find?_eq_some found), same⟩
    · exact ⟨first, List.mem_cons_self, Option.some.inj h⟩

theorem slash_notMem_baseName (word : List Char) : '/' ∉ baseName word := by
  intro mem
  rw [baseName_eq] at mem
  exact absurd (List.mem_rtakeWhile_imp mem) (by decide)

theorem baseName_subset (word : List Char) : baseName word ⊆ word :=
  List.IsSuffix.subset (List.rtakeWhile_suffix _ word)

theorem dropVersion_subset (name : List Char) : dropVersion name ⊆ name :=
  List.IsPrefix.subset (List.rdropWhile_prefix _ name)

/-- No version is left at the end of a name. -/
theorem isVersionChar_getLast?_dropVersion (name : List Char) :
    ∀ c ∈ (dropVersion name).getLast?, isVersionChar c = false := by
  intro c last
  rw [dropVersion_eq] at last
  have nonempty : name.rdropWhile isVersionChar ≠ [] := List.ne_nil_of_mem
    (List.mem_of_getLast? last)
  have stops := List.rdropWhile_last_not isVersionChar name nonempty
  rw [List.getLast?_eq_some_getLast nonempty, Option.mem_some_iff] at last
  rw [last] at stops
  exact Bool.eq_false_iff.2 stops

/-- A line names nothing but a name. -/
theorem isName_of_scriptOf {line : List Char} (h : scriptOf line = some name) : IsName name := by
  obtain ⟨base, named, kept⟩ := Option.bind_eq_some_iff.1 h
  obtain ⟨word, mem, rfl⟩ := exists_of_programWord named
  rw [nonEmpty?] at kept
  split_ifs at kept with empty
  obtain rfl := Option.some.inj kept
  have part : dropVersion (baseName word) ⊆ word :=
    List.Subset.trans (dropVersion_subset _) (baseName_subset word)
  exact {
    ne_nil := empty
    noBlank := fun c inside => not_isBlank_of_mem_words mem c (part inside)
    noSlash := fun inside => slash_notMem_baseName word (dropVersion_subset _ inside)
    noVersion := isVersionChar_getLast?_dropVersion _ }

end Shebang

/-- The program that an interpreter line names. -/
theorem interpreter_append (body : List UInt8) : interpreter ([0x23, 0x21] ++ body) =
    (Shebang.scriptOf (Utf8.decodeLossy (body.takeWhile (· != 0x0A)))).map String.ofList :=
  rfl

end LangBench
