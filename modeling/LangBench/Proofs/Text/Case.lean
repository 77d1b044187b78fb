import LangBench.Text.Case
import Mathlib.Data.List.Basic

/-!
# Lower case twice

A text in lower case is its own lower-case form, and so is every part of it.

* `Holds`, `lowerCode_cases`, `lowerCode_of_forall`: the run of the table that decides for a code,
  and codes that are in none;
* `misses`, `lowerRuns_miss`: no image of a run is in a run;
* `IsLower`, `isLower_lowerChar`: so lower case changes no character twice;
* `isLower_of_mem_lowerList`, `lowerFrom_of_isLower`: texts in lower case;
* `lower_of_infix`: what stands in a text in lower case is in lower case.
-/

namespace LangBench.Text

/-! ### Runs of the table -/

/-- Whether the code `n` is in a run. -/
def Holds (run : Nat × Nat × Nat × Nat) (n : Nat) : Prop :=
  run.1 ≤ n ∧ n ≤ run.2.1 ∧ (n - run.1) % run.2.2.1 = 0

/-- The image of the code `n` under a run. -/
def imageOf (run : Nat × Nat × Nat × Nat) (n : Nat) : Nat :=
  run.2.2.2 + (n - run.1)

/-- A code stays as it is, or one of the runs holds it and gives its image. -/
theorem lowerCode_cases (runs : List (Nat × Nat × Nat × Nat)) (n : Nat) :
    lowerCode runs n = n ∨ ∃ run ∈ runs, Holds run n ∧ lowerCode runs n = imageOf run n := by
  induction runs with
  | nil => exact .inl rfl
  | cons run rest ih =>
    obtain ⟨lo, hi, step, image⟩ := run
    unfold lowerCode
    split_ifs with below held
    · exact .inl rfl
    · simp only [Bool.and_eq_true, decide_eq_true_eq, beq_iff_eq] at held
      exact .inr ⟨_, List.mem_cons_self, ⟨by omega, held.1, held.2⟩, rfl⟩
    · exact ih.imp_right fun ⟨run, mem, found⟩ => ⟨run, List.mem_cons_of_mem _ mem, found⟩

/-- A code that is in no run stays as it is. -/
theorem lowerCode_of_forall {runs : List (Nat × Nat × Nat × Nat)} {n : Nat}
    (h : ∀ run ∈ runs, ¬ Holds run n) : lowerCode runs n = n := by
  rcases lowerCode_cases runs n with same | ⟨run, mem, held, -⟩
  · exact same
  · exact absurd held (h run mem)

/-- Whether no image of the run `r` is in the run `s`: it lies on one side of it, or `s` holds every
second code only and the image is always the one between. -/
def misses (r s : Nat × Nat × Nat × Nat) : Bool :=
  Nat.blt (r.2.2.2 + (r.2.1 - r.1)) s.1 || Nat.blt s.2.1 r.2.2.2 ||
    (r.2.2.1 == 2 || r.1 == r.2.1) && s.2.2.1 == 2 && (r.2.2.2 + s.1) % 2 == 1

theorem not_holds_of_misses {r s : Nat × Nat × Nat × Nat} (h : misses r s = true) {n : Nat}
    (held : Holds r n) : ¬ Holds s (imageOf r n) := by
  obtain ⟨lo, hi, step, image⟩ := r
  obtain ⟨lo', hi', step', image'⟩ := s
  simp only [misses, Bool.or_eq_true, Bool.and_eq_true, Nat.blt_eq, beq_iff_eq, Holds,
    imageOf] at *
  rintro ⟨above, below, inStep⟩
  rcases h with (before | behind) | ⟨⟨rfl | rfl, rfl⟩, odd⟩ <;> omega

/-- No image is in a run. -/
theorem lowerRuns_miss : (lowerRuns.all fun r => lowerRuns.all (misses r)) = true := by
  decide +kernel

/-- Images that are in ASCII are lower case there, and none is the capital with a dot, which has a
rule of its own. -/
theorem lowerRuns_image : ∀ r ∈ lowerRuns,
    (0x80 ≤ r.2.2.2 ∨ r.2.2.2 = 0x6b ∧ r.1 = r.2.1) ∧
      (r.2.2.2 + (r.2.1 - r.1) < 0x130 ∨ 0x130 < r.2.2.2) := by
  decide +kernel

theorem lowerCode_lowerCode (n : Nat) :
    lowerCode lowerRuns (lowerCode lowerRuns n) = lowerCode lowerRuns n := by
  rcases lowerCode_cases lowerRuns n with same | ⟨r, mem, held, image⟩
  · rw [same, same]
  · rw [image]
    refine lowerCode_of_forall fun s mem' => not_holds_of_misses ?_ held
    exact List.all_eq_true.1 (List.all_eq_true.1 lowerRuns_miss r mem) s mem'

/-! ### Characters -/

/-- A character that lower case leaves alone. -/
structure IsLower (c : Char) : Prop where
  lowerChar_eq : lowerChar c = c
  ne_dotted : c ≠ 'İ'

theorem toLower_of_ascii {c : Char} (h : c.toNat < 0x80) :
    c.toLower.toNat < 0x80 ∧ c.toLower.toLower = c.toLower := by
  have all : ∀ n : Nat, n < 0x80 → (Char.ofNat n).toLower.toNat < 0x80 ∧
      (Char.ofNat n).toLower.toLower = (Char.ofNat n).toLower := by decide
  have own := all c.toNat h
  rwa [Char.ofNat_toNat] at own

/-- A code that lower case leaves alone is that of a character that it leaves alone, unless it is a
capital letter of ASCII. -/
theorem isLower_ofNat {n : Nat} (fixed : lowerCode lowerRuns n = n) (high : 0x80 ≤ n ∨ n = 0x6b)
    (ne : n ≠ 0x130) : IsLower (Char.ofNat n) := by
  by_cases valid : n.isValidChar
  · have code : (Char.ofNat n).toNat = n := by
      rw [Char.ofNat, dif_pos valid]
      rfl
    rcases high with high | rfl
    · refine ⟨?_, ?_⟩
      · rw [lowerChar, if_neg (by omega), code, fixed]
      · intro dotted
        rw [dotted] at code
        exact ne code.symm
    · exact ⟨by decide, by decide⟩
  · rw [Char.ofNat, dif_neg valid]
    exact ⟨by decide, by decide⟩

/-- Lower case changes no character twice. -/
theorem isLower_lowerChar {c : Char} (h : c ≠ 'İ') : IsLower (lowerChar c) := by
  by_cases ascii : c.toNat < 0x80
  · obtain ⟨low, same⟩ := toLower_of_ascii ascii
    have image : lowerChar c = c.toLower := by rw [lowerChar, if_pos ascii]
    rw [image]
    refine ⟨by rw [lowerChar, if_pos low, same], ?_⟩
    intro dotted
    rw [dotted] at low
    exact absurd low (by decide)
  · have image : lowerChar c = Char.ofNat (lowerCode lowerRuns c.toNat) := by
      rw [lowerChar, if_neg ascii]
    rw [image]
    rcases lowerCode_cases lowerRuns c.toNat with same | ⟨r, mem, held, moved⟩
    · refine isLower_ofNat (lowerCode_lowerCode c.toNat) (.inl (by omega)) ?_
      rw [same]
      exact fun dotted => h (Char.toNat_inj.1 dotted)
    · have bounds := lowerRuns_image r mem
      refine isLower_ofNat (lowerCode_lowerCode c.toNat) ?_ ?_
      · simp only [moved, imageOf, Holds] at *
        omega
      · simp only [moved, imageOf, Holds] at *
        omega

/-! ### Texts -/

theorem isLower_of_mem_lowerFrom {before cs : List Char} {c : Char}
    (h : c ∈ lowerFrom before cs) : IsLower c := by
  induction cs generalizing before with
  | nil => cases h
  | cons d cs ih =>
    unfold lowerFrom at h
    split_ifs at h with sigma ends dotted
    · rcases List.mem_cons.1 h with rfl | later
      · exact ⟨by decide, by decide⟩
      · exact ih later
    · rcases List.mem_cons.1 h with rfl | later
      · exact ⟨by decide, by decide⟩
      · exact ih later
    · rcases List.mem_cons.1 h with rfl | later
      · exact ⟨by decide, by decide⟩
      · rcases List.mem_cons.1 later with rfl | later
        · exact ⟨by decide, by decide⟩
        · exact ih later
    · rcases List.mem_cons.1 h with rfl | later
      · exact isLower_lowerChar dotted
      · exact ih later

/-- Every character of a text in lower case is left alone. -/
theorem isLower_of_mem_lowerList {cs : List Char} {c : Char} (h : c ∈ lowerList cs) : IsLower c :=
  isLower_of_mem_lowerFrom h

/-- So a text of such characters is its own lower-case form. -/
theorem lowerFrom_of_isLower {cs : List Char} (h : ∀ c ∈ cs, IsLower c) (before : List Char) :
    lowerFrom before cs = cs := by
  induction cs generalizing before with
  | nil => rfl
  | cons c cs ih =>
    rw [List.forall_mem_cons] at h
    have notSigma : c ≠ 'Σ' := by
      rintro rfl
      exact absurd h.1.lowerChar_eq (by decide)
    rw [lowerFrom, if_neg notSigma, if_neg h.1.ne_dotted, h.1.lowerChar_eq, ih h.2]

/-- What stands in a text in lower case is in lower case. -/
theorem lower_of_infix {s : String} {cs : List Char} (h : s.toList <:+: lowerList cs) :
    lower s = s := by
  have each : ∀ c ∈ s.toList, IsLower c := fun c mem => isLower_of_mem_lowerList (h.subset mem)
  rw [lower, lowerList, lowerFrom_of_isLower each, String.ofList_toList]

end LangBench.Text
