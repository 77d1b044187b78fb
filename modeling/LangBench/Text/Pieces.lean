/-!
# Pieces between separators

* `pieces p xs`: the list `xs` cut at every element that satisfies `p`, the separators left
  out; there is one piece more than there are separators;
* `splitOnce p xs`: what stands before and after the first element that satisfies `p`.
-/

namespace LangBench.Text

variable {α : Type _}

/-- `x` in front of the first piece. -/
def consPiece (x : α) : List (List α) → List (List α)
  | [] => [[x]]
  | l :: ls => (x :: l) :: ls

/-- The pieces of a list between the elements that satisfy `p`. -/
def pieces (p : α → Bool) (xs : List α) : List (List α) :=
  xs.foldr (fun x ls => if p x then [] :: ls else consPiece x ls) [[]]

/-- What stands before and after the first element that satisfies `p`, if there is one. -/
def splitOnce (p : α → Bool) (xs : List α) : Option (List α × List α) :=
  match xs.dropWhile (!p ·) with
  | [] => none
  | _ :: after => some (xs.takeWhile (!p ·), after)

/-- In a list without `a` nothing is equal to the separator `a`. -/
theorem beq_eq_false_of_notMem [BEq α] [LawfulBEq α] {a : α} {xs : List α} (h : a ∉ xs) :
    ∀ x ∈ xs, (x == a) = false := by
  intro x mem
  rw [beq_eq_false_iff_ne]
  rintro rfl
  exact h mem

@[simp] theorem pieces_nil (p : α → Bool) : pieces p [] = [[]] := rfl

theorem pieces_cons (p : α → Bool) (x : α) (xs : List α) :
    pieces p (x :: xs) = if p x then [] :: pieces p xs else consPiece x (pieces p xs) := rfl

theorem pieces_ne_nil (p : α → Bool) (xs : List α) : pieces p xs ≠ [] := by
  cases xs with
  | nil => simp
  | cons x xs =>
    rw [pieces_cons]
    split
    · simp
    · cases h : pieces p xs <;> simp [consPiece]

/-- A list without separators is a single piece. -/
theorem pieces_of_forall {p : α → Bool} {xs : List α} (h : ∀ x ∈ xs, p x = false) :
    pieces p xs = [xs] := by
  induction xs with
  | nil => rfl
  | cons x xs ih =>
    rw [pieces_cons, h x (by simp), ih fun y hy => h y (by simp [hy])]
    rfl

/-- A separator cuts a list wherever it stands. -/
theorem pieces_append {p : α → Bool} {x : α} (hx : p x = true) (xs ys : List α) :
    pieces p (xs ++ x :: ys) = pieces p xs ++ pieces p ys := by
  induction xs with
  | nil => rw [List.nil_append, pieces_cons, if_pos hx, pieces_nil, List.singleton_append]
  | cons z zs ih =>
    rw [List.cons_append, pieces_cons, pieces_cons, ih]
    split
    · rfl
    · cases first : pieces p zs with
      | nil => exact absurd first (pieces_ne_nil p zs)
      | cons piece rest => rfl

/-- A separator ends the piece before it. -/
theorem pieces_append_cons {p : α → Bool} {xs : List α} {x : α} (h : ∀ y ∈ xs, p y = false)
    (hx : p x = true) (ys : List α) : pieces p (xs ++ x :: ys) = xs :: pieces p ys := by
  rw [pieces_append hx, pieces_of_forall h, List.singleton_append]

/-- A separator begins the last piece. -/
theorem pieces_append_last {p : α → Bool} {x : α} (hx : p x = true) (xs : List α)
    {ys : List α} (h : ∀ y ∈ ys, p y = false) : pieces p (xs ++ x :: ys) = pieces p xs ++ [ys] := by
  rw [pieces_append hx, pieces_of_forall h]

@[simp] theorem splitOnce_nil (p : α → Bool) : splitOnce p [] = none := rfl

theorem splitOnce_cons (p : α → Bool) (x : α) (xs : List α) :
    splitOnce p (x :: xs) = if p x then some ([], xs) else
      (splitOnce p xs).map fun (before, after) => (x :: before, after) := by
  unfold splitOnce
  rw [List.dropWhile_cons, List.takeWhile_cons]
  cases p x with
  | true => rfl
  | false => cases xs.dropWhile (!p ·) <;> rfl

/-- A list without separators is not cut. -/
theorem splitOnce_of_forall {p : α → Bool} {xs : List α} (h : ∀ x ∈ xs, p x = false) :
    splitOnce p xs = none := by
  induction xs with
  | nil => rfl
  | cons x xs ih =>
    rw [splitOnce_cons, h x (by simp), ih fun y hy => h y (by simp [hy])]
    rfl

/-- A list is cut at its first separator. -/
theorem splitOnce_append_cons {p : α → Bool} {xs : List α} {x : α} (h : ∀ y ∈ xs, p y = false)
    (hx : p x = true) (ys : List α) : splitOnce p (xs ++ x :: ys) = some (xs, ys) := by
  induction xs with
  | nil => rw [List.nil_append, splitOnce_cons, if_pos hx]
  | cons z zs ih =>
    rw [List.cons_append, splitOnce_cons, h z (by simp), ih fun y hy => h y (by simp [hy])]
    rfl

end LangBench.Text
