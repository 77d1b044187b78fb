import LangBench.Proofs.Text.Word

/-!
# Texts between blanks

Trimming takes the blanks off both ends of a text, and nothing else.

* `IsPadded`: a text with blanks around it;
* `isPadded_trim`: every text is its trimmed text with blanks around it;
* `trim_eq_of_isPadded`: blanks around a text without blanks are taken off;
* `isBlank_of_isDigit`: no digit is a blank.
-/

namespace LangBench.Text

/-- The second text is the first one with blanks around it. -/
inductive IsPadded (core : List Char) : List Char → Prop
  | intro {lead trail : List Char} (lead_blank : ∀ c ∈ lead, isBlank c = true)
      (trail_blank : ∀ c ∈ trail, isBlank c = true) : IsPadded core (lead ++ (core ++ trail))

variable {core lead trail cs : List Char}

theorem trimEnd_append_takeWhile (cs : List Char) :
    trimEnd cs ++ (cs.reverse.takeWhile isBlank).reverse = cs := by
  rw [trimEnd, ← List.reverse_append, List.takeWhile_append_dropWhile, List.reverse_reverse]

/-- Every text is its trimmed text with blanks around it. -/
theorem isPadded_trim (cs : List Char) : IsPadded (trim cs) cs := by
  have whole : cs.takeWhile isBlank ++
      (trim cs ++ ((trimStart cs).reverse.takeWhile isBlank).reverse) = cs := by
    rw [trim, trimEnd_append_takeWhile, trimStart, List.takeWhile_append_dropWhile]
  have padded : IsPadded (trim cs) (cs.takeWhile isBlank ++
      (trim cs ++ ((trimStart cs).reverse.takeWhile isBlank).reverse)) :=
    .intro (fun c mem => List.mem_takeWhile_imp mem)
      fun c mem => List.mem_takeWhile_imp (List.mem_reverse.1 mem)
  rwa [whole] at padded

/-- Blanks in front of a text without blanks are taken off. -/
theorem trimStart_append (lead_blank : ∀ c ∈ lead, isBlank c = true) (nonempty : core ≠ [])
    (noBlank : ∀ c ∈ core, isBlank c = false) (rest : List Char) :
    trimStart (lead ++ (core ++ rest)) = core ++ rest := by
  refine (takeWhile_append_of_apart lead_blank ?_).2
  obtain ⟨d, ds, rfl⟩ := List.exists_cons_of_ne_nil nonempty
  rintro c head
  obtain rfl : d = c := Option.some.inj head
  exact noBlank d List.mem_cons_self

/-- Blanks around a text without blanks are taken off. -/
theorem trim_eq_of_isPadded (padded : IsPadded core cs) (nonempty : core ≠ [])
    (noBlank : ∀ c ∈ core, isBlank c = false) : trim cs = core := by
  obtain ⟨lead_blank, trail_blank⟩ := padded
  next lead trail =>
  -- Read backwards, the blanks behind the text are those in front of it.
  have backwards : trimStart (trail.reverse ++ (core.reverse ++ [])) = core.reverse ++ [] :=
    trimStart_append (fun c mem => trail_blank c (List.mem_reverse.1 mem))
      (mt List.reverse_eq_nil_iff.1 nonempty)
      (fun c mem => noBlank c (List.mem_reverse.1 mem)) []
  rw [List.append_nil, ← List.reverse_append] at backwards
  rw [trim, trimStart_append lead_blank nonempty noBlank, trimEnd, ← trimStart, backwards,
    List.reverse_reverse]

/-- No digit is a blank. -/
theorem isBlank_of_isDigit {c : Char} (digit : c.isDigit = true) : isBlank c = false := by
  have low : 48 ≤ c.toNat ∧ c.toNat ≤ 57 := by
    simpa [Char.isDigit, UInt32.le_iff_toNat_le] using digit
  have bounded : ∀ n : Nat, n ≤ 57 → 48 ≤ n → inRanges blankRanges n = false := by decide
  exact bounded c.toNat low.2 low.1

end LangBench.Text
