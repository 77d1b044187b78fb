import LangBench.Proofs.Text.WellFormed

/-!
# Broken bytes read in parts

A byte that does not continue a character begins a chunk of its own, whatever broken chunk stands
before it.  So bytes can be cut in front of it, and at line feeds in particular, before they are
read or after.

* `next_append`, `decodeLossy_append`: what is read in front of such a byte, and from it on;
* `mem_decodeLossy`: what is read stands for broken bytes or is made of its own;
* `decodeLossy_line`: so a line is read apart from what stands behind it.
-/

namespace LangBench.Text.Utf8

@[simp] theorem decodeLossy_nil : decodeLossy [] = [] := by
  rw [decodeLossy, chunks_nil, List.map_nil]

theorem decodeLossy_cons (b : UInt8) (rest : List UInt8) :
    decodeLossy (b :: rest) = (next b rest).1.display :: decodeLossy (next b rest).2 := by
  rw [decodeLossy, chunks_cons, List.map_cons, ← decodeLossy]

theorem isSecond_of_not_isTail {b : UInt8} (h : isTail b = false) (lead : UInt8) :
    isSecond lead b = false := by
  rw [isSecond, h, Bool.false_and]

/-- A chunk stops in front of a byte that does not continue it, as at the end of the bytes, and is
shown alike. -/
theorem next_append {b : UInt8} (notTail : isTail b = false) (a : UInt8) (as rest : List UInt8) :
    (next a (as ++ b :: rest)).map Chunk.display id =
      (next a as).map Chunk.display (· ++ b :: rest) := by
  have notSecond := isSecond_of_not_isTail notTail
  -- a character has at most three bytes behind its first one
  rcases as with _ | ⟨b₁, _ | ⟨b₂, _ | ⟨b₃, r₃⟩⟩⟩
  all_goals
    simp only [next, List.nil_append, List.cons_append, notSecond, notTail, Bool.false_eq_true,
      if_false, apply_ite (Prod.map Chunk.display _), Prod.map_apply, Chunk.display, id]

/-- What is read in front of a byte that continues no character, and from it on. -/
theorem decodeLossy_append {b : UInt8} (notTail : isTail b = false) (bs rest : List UInt8) :
    decodeLossy (bs ++ b :: rest) = decodeLossy bs ++ decodeLossy (b :: rest) := by
  induction bs using chunks_induct with
  | nil => rw [List.nil_append, decodeLossy_nil, List.nil_append]
  | cons a as ih =>
    obtain ⟨shown, left⟩ := Prod.ext_iff.1 (next_append notTail a as rest)
    simp only [Prod.map_fst, Prod.map_snd, id] at shown left
    rw [List.cons_append, decodeLossy_cons, decodeLossy_cons, shown, left, ih, List.cons_append]

/-- A text in front of any bytes is read as it is. -/
theorem decodeLossy_encode_append (cs : List Char) (bs : List UInt8) :
    decodeLossy (encode cs ++ bs) = cs ++ decodeLossy bs := by
  rw [decodeLossy, chunks_encode_append, List.map_append, List.map_map, ← decodeLossy]
  congr 1
  exact List.map_id cs

theorem next_suffix (b : UInt8) (rest : List UInt8) : (next b rest).2 <:+ rest := by
  fun_cases next b rest <;> simp [List.suffix_cons_iff]

/-- A character that is read stands for broken bytes, or its own bytes are there. -/
theorem mem_decodeLossy {c : Char} {bs : List UInt8} (h : c ∈ decodeLossy bs) :
    c = '\uFFFD' ∨ encodeChar c ⊆ bs := by
  induction bs using chunks_induct with
  | nil =>
    rw [decodeLossy_nil] at h
    cases h
  | cons b rest ih =>
    rw [decodeLossy_cons, List.mem_cons] at h
    rcases h with here | later
    · cases first : (next b rest).1 with
      | char d =>
        rw [first] at here
        obtain rfl : c = d := here
        rw [← encodeChar_of_next first]
        exact .inr (List.subset_append_left _ _)
      | invalid w =>
        rw [first] at here
        exact .inl here
      | truncated w =>
        rw [first] at here
        exact .inl here
    · have part := (next_suffix b rest).trans (List.suffix_cons b rest)
      exact (ih later).imp_right fun own => List.Subset.trans own part.subset

/-- No line feed is read where none is. -/
theorem lineFeed_notMem_decodeLossy {bs : List UInt8} (h : 0x0A ∉ bs) : '\n' ∉ decodeLossy bs := by
  intro mem
  rcases mem_decodeLossy mem with broken | own
  · exact absurd broken (by decide)
  · exact h (own (by decide))

/-- A line and what stands behind it are read apart, and the line ends where its bytes do. -/
theorem decodeLossy_line {line rest : List UInt8} (oneLine : 0x0A ∉ line)
    (ends : ∀ b ∈ rest.head?, b = 0x0A) :
    decodeLossy (line ++ rest) = decodeLossy line ++ decodeLossy rest ∧
      '\n' ∉ decodeLossy line ∧ ∀ c ∈ (decodeLossy rest).head?, c = '\n' := by
  refine ⟨?_, lineFeed_notMem_decodeLossy oneLine, ?_⟩
  · cases rest with
    | nil => rw [List.append_nil, decodeLossy_nil, List.append_nil]
    | cons b rest =>
      obtain rfl := ends b rfl
      exact decodeLossy_append rfl line rest
  · intro c head
    cases rest with
    | nil =>
      rw [decodeLossy_nil] at head
      cases head
    | cons b rest =>
      obtain rfl := ends b rfl
      rw [decodeLossy_cons] at head
      exact (Option.some.inj head).symm

end LangBench.Text.Utf8
