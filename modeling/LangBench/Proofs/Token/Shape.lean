import LangBench.Proofs.Shebang.Name
import LangBench.Proofs.Token.Identifier

/-!
# Shapes of tokens

Whatever bytes are read, each token has one of four forms, and its spelling tells which one, so to
count spellings is to count tokens.

* `WellFormed`: the four forms;
* `wellFormed_of_step`, `wellFormed_of_mem_scanAt`: a step finds nothing else, nor does a run;
* `WellFormed.text_ne_nil`, `WellFormed.noBlank`: spellings are not empty and have no white space;
* `ofText`, `WellFormed.ofText_text`: a token is read back from its spelling;
* `token_shapes`: all of it, for the tokens of a file.
-/

namespace LangBench

open Text

namespace Token

/-- The forms of tokens: the program of an interpreter line, an identifier, a bracket, and a run of
ASCII punctuation without brackets and quotes, which does not begin like an identifier. -/
inductive WellFormed : Token → Prop
  | script {name : List Char} : Shebang.IsName name → WellFormed (.script name)
  | word {c : Char} {cs : List Char} : (isAlphabetic c = true ∨ c = '_') →
      (∀ d ∈ c :: cs, isAlphanumeric d = true ∨ d = '_') → WellFormed (.word (c :: cs))
  | bracket {c : Char} : c ∈ ['(', ')', '[', ']', '{', '}', ';'] → WellFormed (.bracket c)
  | operator {c : Char} {cs : List Char} : c ≠ '_' →
      (∀ d ∈ c :: cs, isAsciiPunct d = true ∧
        d ∉ ['(', ')', '[', ']', '{', '}', ';'] ∧ d ≠ '"' ∧ d ≠ '\x27') →
      WellFormed (.operator (c :: cs))

/-! ### Characters -/

variable {c : Char}

theorem isWordStart_iff : isWordStart c = true ↔ isAlphabetic c = true ∨ c = '_' := by
  rw [isWordStart, Bool.or_eq_true, beq_iff_eq]

theorem isWordPart_iff : isWordPart c = true ↔ isAlphanumeric c = true ∨ c = '_' := by
  rw [isWordPart, Bool.or_eq_true, beq_iff_eq]

theorem isOperatorChar_iff : isOperatorChar c = true ↔ isAsciiPunct c = true ∧
    c ∉ ['(', ')', '[', ']', '{', '}', ';'] ∧ c ≠ '"' ∧ c ≠ '\x27' := by
  simp [isOperatorChar, isBracket, isQuote, and_assoc]

/-- What begins a word stands in it. -/
theorem isWordPart_of_isWordStart (h : isWordStart c = true) : isWordPart c = true := by
  rw [isWordStart, Bool.or_eq_true] at h
  rw [isWordPart, isAlphanumeric, Bool.or_eq_true, Bool.or_eq_true]
  exact h.imp_left .inl

/-- The underscore alone begins a word and is punctuation. -/
theorem isWordStart_of_isAsciiPunct (punct : isAsciiPunct c = true) (ne : c ≠ '_') :
    isWordStart c = false := by
  simp only [isAsciiPunct, Bool.and_eq_true, decide_eq_true_eq, Bool.not_eq_true',
    Char.isAlphanum, Bool.or_eq_false_iff] at punct
  obtain ⟨⟨-, ascii⟩, letter, -⟩ := punct
  rw [isWordStart, isAlphabetic_of_ascii (by omega), letter, beq_false_of_ne ne, Bool.or_self]

/-! ### Steps and runs -/

variable {lineStart : Bool} {cs : List Char} {t : Token}

/-- A step finds only well-formed tokens. -/
theorem wellFormed_of_step (h : t ∈ (step lineStart c cs).1) : t.WellFormed := by
  revert h
  -- four of the branches find a token, and each finds one of another form
  fun_cases step lineStart c cs with
  | case1 =>
    intro h
    obtain ⟨name, named, rfl⟩ := Option.map_eq_some_iff.1 h
    exact .script (Shebang.isName_of_scriptOf named)
  | case8 _ _ _ _ _ _ _ start =>
    rintro ⟨⟩
    refine .word (isWordStart_iff.1 start) (List.forall_mem_cons.2 ⟨?_, fun d mem => ?_⟩)
    · exact isWordPart_iff.1 (isWordPart_of_isWordStart start)
    · exact isWordPart_iff.1 (List.mem_takeWhile_imp mem)
  | case9 _ _ _ _ _ _ _ _ bracket =>
    rintro ⟨⟩
    exact .bracket (List.contains_iff_mem.1 bracket)
  | case10 _ _ _ _ _ notQuote _ notWord notBracket punct =>
    rintro ⟨⟩
    refine .operator ?_ (List.forall_mem_cons.2 ⟨?_, fun d mem => ?_⟩)
    · rintro rfl
      exact notWord rfl
    · refine isOperatorChar_iff.1 ?_
      simp [isOperatorChar, punct, notBracket, notQuote]
    · exact isOperatorChar_iff.1 (List.mem_takeWhile_imp mem)
  | _ =>
    intro h
    cases h

/-- So does a run. -/
theorem wellFormed_of_mem_scanAt (h : t ∈ scanAt lineStart cs) : t.WellFormed := by
  obtain ⟨_, _, _, -, found⟩ := exists_step_of_mem_scanAt h
  exact wellFormed_of_step found

/-! ### Spellings -/

namespace WellFormed

/-- A spelling is not empty. -/
theorem text_ne_nil (h : t.WellFormed) : t.text ≠ [] := by
  cases h with
  | script => exact List.append_ne_nil_of_left_ne_nil (by decide) _
  | word => exact List.cons_ne_nil _ _
  | bracket => exact List.cons_ne_nil _ _
  | operator => exact List.cons_ne_nil _ _

/-- A spelling has no white space. -/
theorem noBlank (h : t.WellFormed) : ∀ d ∈ t.text, isBlank d = false := by
  intro d mem
  rw [Bool.eq_false_iff]
  intro blank
  obtain ⟨notWord, notOperator, -⟩ := isBlank_char blank
  cases h with
  | script name =>
    rw [text, List.mem_append] at mem
    rcases mem with mark | inner
    · have clear : ∀ e ∈ scriptMark, isBlank e = false := List.all_iff_forall_prop.1 (by decide)
      exact absurd blank (Bool.eq_false_iff.1 (clear d mark))
    · exact absurd blank (Bool.eq_false_iff.1 (name.noBlank d inner))
  | word _ parts => exact absurd (isWordPart_iff.2 (parts d mem)) (Bool.eq_false_iff.1 notWord)
  | bracket bracket =>
    obtain rfl := List.mem_singleton.1 mem
    have notBlank := (isBracket_char (List.contains_iff_mem.2 bracket)).1
    exact absurd blank (Bool.eq_false_iff.1 notBlank)
  | operator _ parts =>
    exact absurd (isOperatorChar_iff.2 (parts d mem)) (Bool.eq_false_iff.1 notOperator)

end WellFormed

/-- The token that a text spells. -/
def ofText : List Char → Token
  | [] => .operator []
  | c :: cs =>
    if scriptMark.isPrefixOf (c :: cs) then .script ((c :: cs).drop scriptMark.length)
    else if isWordStart c then .word (c :: cs)
    else if isBracket c then .bracket c
    else .operator (c :: cs)

/-- What spells no mark of an interpreter line is told from it by one of its characters. -/
theorem not_scriptMark_isPrefixOf {p : Char → Bool} {m : Char} (mark : m ∈ scriptMark)
    (other : p m = false) (all : ∀ d ∈ cs, p d = true) : scriptMark.isPrefixOf cs = false := by
  rw [Bool.eq_false_iff, Ne, List.isPrefixOf_iff_prefix]
  intro starts
  exact absurd (all m (starts.subset mark)) (Bool.eq_false_iff.1 other)

/-- A token is read back from its spelling. -/
theorem WellFormed.ofText_text (h : t.WellFormed) : ofText t.text = t := by
  cases h with
  | script => rfl
  | word start parts =>
    have unmarked := not_scriptMark_isPrefixOf (m := '#') (by decide) (by decide)
      fun d mem => isWordPart_iff.2 (parts d mem)
    rw [text, ofText, unmarked, isWordStart_iff.2 start]
    rfl
  | @bracket c bracket =>
    have isBracket : isBracket c = true := List.contains_iff_mem.2 bracket
    have unmarked := not_scriptMark_isPrefixOf (m := '#') (by decide) (by decide)
      (List.forall_mem_singleton.2 isBracket)
    rw [text, ofText, unmarked, (isBracket_char isBracket).2.2.1, isBracket]
    rfl
  | @operator c cs ne parts =>
    have head := parts c List.mem_cons_self
    have unmarked := not_scriptMark_isPrefixOf (m := 'S') (by decide) (by decide)
      fun d mem => isOperatorChar_iff.2 (parts d mem)
    have notBracket : isBracket c = false := by
      rw [isBracket, ← Bool.not_eq_true, List.contains_iff_mem]
      exact head.2.1
    rw [text, ofText, unmarked, isWordStart_of_isAsciiPunct head.1 ne, notBracket]
    rfl

end Token

/-- **Shapes.**  A token of a file is not empty, has no white space, and is the spelling of one
well-formed token: an identifier, a bracket, a run of other punctuation, or the mark of an
interpreter line and the name of a program. -/
theorem token_shapes {data : List UInt8} {s : String} (h : s ∈ tokenize data) :
    s ≠ "" ∧ (∀ c ∈ s.toList, isBlank c = false) ∧
      ∃! t : Token, t.WellFormed ∧ s = String.ofList t.text := by
  obtain ⟨t, found, rfl⟩ := List.mem_map.1 h
  have formed := Token.wellFormed_of_mem_scanAt found
  refine ⟨?_, ?_, t, ⟨formed, rfl⟩, ?_⟩
  · intro empty
    exact formed.text_ne_nil (String.ofList_injective empty)
  · rw [String.toList_ofList]
    exact formed.noBlank
  · rintro u ⟨formed', same⟩
    rw [← formed'.ofText_text, ← formed.ofText_text, String.ofList_injective same]

/-- The mark of an interpreter line, in a file that is not UTF-8 and has white space and letters
beyond ASCII. -/
theorem token_shapes_broken :
    let data :=
      Utf8.encode "#! /usr/bin/env -S x=1 ./perl5.36\u00a0-w\n\u00e9_1 +=_[".toList ++ [0xFF, 0x41]
    tokenize data = ["SHEBANG#!perl", "\u00e9_1", "+=_", "[", "A"] ∧
    "SHEBANG#!perl" ∈ tokenize data ∧ "SHEBANG#!perl" ≠ "" ∧
    (∀ c ∈ "SHEBANG#!perl".toList, isBlank c = false) ∧
    ∃! t : Token, t.WellFormed ∧ "SHEBANG#!perl" = String.ofList t.text := by
  intro data
  have tokens : tokenize data = ["SHEBANG#!perl", "\u00e9_1", "+=_", "[", "A"] := by
    decide +kernel
  have found : "SHEBANG#!perl" ∈ tokenize data := by
    rw [tokens]
    exact List.mem_cons_self
  exact ⟨tokens, found, token_shapes found⟩

end LangBench
