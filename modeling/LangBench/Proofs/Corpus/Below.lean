import Mathlib.Data.List.Basic
import LangBench.Disk

/-!
# Paths below a directory

Going down from a directory adds one name after the other to its path.  Whatever the spelling of
the directory is, the names are the components that are added, and the part below the directory is
spelled with just these names.

* `FileName.IsProper`: the names that a directory can have for its entries;
* `Path.below`: the path at the end of some names;
* `Path.stem`: the pieces of a path that the pieces of everything below it begin with;
* `Path.components_below`, `Path.stripPrefix?_below`: components, and the part below.
-/

namespace LangBench

open Text

/-- A name that a directory can have for an entry. -/
structure FileName.IsProper (name : FileName) : Prop where
  ne_nil : name ≠ []
  ne_current : name ≠ [Path.dot]
  ne_parent : name ≠ [Path.dot, Path.dot]
  noSlash : Path.slash ∉ name
  noZero : 0 ∉ name
  short : name.length ≤ Disk.nameLimit

namespace FileName.IsProper

instance (name : FileName) : Decidable name.IsProper :=
  decidable_of_iff (name ≠ [] ∧ name ≠ [Path.dot] ∧ name ≠ [Path.dot, Path.dot] ∧
      Path.slash ∉ name ∧ 0 ∉ name ∧ name.length ≤ Disk.nameLimit)
    ⟨fun ⟨h₁, h₂, h₃, h₄, h₅, h₆⟩ => ⟨h₁, h₂, h₃, h₄, h₅, h₆⟩,
      fun ⟨h₁, h₂, h₃, h₄, h₅, h₆⟩ => ⟨h₁, h₂, h₃, h₄, h₅, h₆⟩⟩

variable {name : FileName}

theorem not_isSilent (h : name.IsProper) : Path.isSilent name = false := by
  simp [Path.isSilent, h.ne_nil, h.ne_current]

theorem ofPiece?_eq (h : name.IsProper) : Path.Component.ofPiece? name = some (.normal name) := by
  rw [Path.Component.ofPiece?, if_neg (by simp [h.not_isSilent]), if_neg h.ne_parent]

end FileName.IsProper

namespace Path

/-! ### Pieces -/

/-- What follows the first slash begins a new piece. -/
theorem slashPieces_append_slash {front : List UInt8} (clear : slash ∉ front)
    (below : List UInt8) : slashPieces (front ++ slash :: below) = front :: slashPieces below :=
  pieces_append_cons (p := (· == slash)) (beq_eq_false_of_notMem clear) (beq_self_eq_true slash)
    below

/-- What follows the last slash is the last piece. -/
theorem slashPieces_append (front : List UInt8) {tail : List UInt8} (h : slash ∉ tail) :
    slashPieces (front ++ slash :: tail) = slashPieces front ++ [tail] :=
  pieces_append_last (p := (· == slash)) (beq_self_eq_true slash) front
    (beq_eq_false_of_notMem h)

theorem slashPieces_of_notMem {bs : List UInt8} (h : slash ∉ bs) : slashPieces bs = [bs] :=
  pieces_of_forall (beq_eq_false_of_notMem h)

/-- The last piece is empty if there is nothing, or a slash at the end. -/
theorem getLast?_slashPieces (bs : List UInt8) :
    (slashPieces bs).getLast? = some [] ↔ bs = [] ∨ bs.getLast? = some slash := by
  by_cases slashed : slash ∈ bs
  · obtain ⟨back, front, backwards, clear⟩ :=
      List.eq_append_cons_of_mem (List.mem_reverse.2 slashed)
    have split : bs = front.reverse ++ slash :: back.reverse := by
      simpa using congrArg List.reverse backwards
    have clear' : slash ∉ back.reverse := by simpa using clear
    rw [split, slashPieces_append _ clear']
    cases back with
    | nil => simp
    | cons b back =>
      have ne : b ≠ slash := fun same => clear (same ▸ List.mem_cons_self)
      have last : (front.reverse ++ slash :: (b :: back).reverse).getLast? = some b := by
        rw [List.reverse_cons, ← List.cons_append, ← List.append_assoc, List.getLast?_concat]
      rw [last]
      simp [ne]
  · rw [slashPieces_of_notMem slashed]
    have last : bs.getLast? ≠ some slash := fun h => slashed (List.mem_of_getLast? h)
    simp [last]

/-! ### Going down -/

/-- The path at the end of some names below `p`. -/
def below (p : Path) (names : List FileName) : Path :=
  names.foldl join p

@[simp] theorem below_nil (p : Path) : p.below [] = p := rfl

@[simp] theorem below_cons (p : Path) (name : FileName) (names : List FileName) :
    p.below (name :: names) = (p.join name).below names := rfl

/-- The pieces of a path without an empty one at its end. -/
def stem (p : Path) : List FileName :=
  if (slashPieces p.bytes).getLast? = some [] then (slashPieces p.bytes).dropLast
  else slashPieces p.bytes

/-- Only an empty piece may follow the stem. -/
theorem slashPieces_eq (p : Path) :
    slashPieces p.bytes =
      p.stem ++ if (slashPieces p.bytes).getLast? = some [] then [[]] else [] := by
  by_cases ended : (slashPieces p.bytes).getLast? = some []
  · rw [stem, if_pos ended, if_pos ended]
    exact (List.dropLast_append_getLast? [] ended).symm
  · rw [stem, if_neg ended, if_neg ended, List.append_nil]

variable {name : FileName}

/-- A name that is added becomes the piece after the stem. -/
theorem slashPieces_join (p : Path) (h : name.IsProper) :
    slashPieces (p.join name).bytes = p.stem ++ [name] := by
  rw [join]
  split_ifs with empty ended
  · have none : p.stem = [] := by
      rw [stem, empty]
      rfl
    rw [slashPieces_of_notMem h.noSlash, none, List.nil_append]
  · obtain ⟨front, rfl⟩ : ∃ front, p = ⟨front ++ [slash]⟩ :=
      ⟨p.bytes.dropLast, by rw [List.dropLast_append_getLast? slash ended]⟩
    have last : slashPieces (front ++ [slash]) = slashPieces front ++ [[]] :=
      slashPieces_append front (by simp)
    have before : stem ⟨front ++ [slash]⟩ = slashPieces front := by
      rw [stem, last, if_pos (by simp), List.dropLast_concat]
    rw [before, List.append_assoc]
    exact slashPieces_append front h.noSlash
  · have whole : p.stem = slashPieces p.bytes := by
      rw [stem, if_neg]
      rw [getLast?_slashPieces]
      exact not_or.2 ⟨empty, ended⟩
    rw [whole]
    exact slashPieces_append p.bytes h.noSlash

theorem stem_join (p : Path) (h : name.IsProper) : (p.join name).stem = p.stem ++ [name] := by
  rw [stem, slashPieces_join p h, if_neg (by simpa using h.ne_nil)]

/-- The pieces of a path below `p` are the stem of `p` and the names. -/
theorem slashPieces_below (p : Path) {names : List FileName} (h : ∀ n ∈ names, n.IsProper)
    (nonempty : names ≠ []) : slashPieces (p.below names).bytes = p.stem ++ names := by
  induction names generalizing p with
  | nil => exact absurd rfl nonempty
  | cons name names ih =>
    have proper := h name List.mem_cons_self
    cases names with
    | nil => exact slashPieces_join p proper
    | cons next names =>
      rw [below_cons, ih _ (fun n mem => h n (List.mem_cons_of_mem _ mem)) (by simp),
        stem_join p proper, List.append_assoc, List.singleton_append]

/-! ### Components -/

theorem cut_root {p : Path} {rest : List FileName} (h : slashPieces p.bytes = [] :: rest)
    (nonempty : rest ≠ []) : p.cut = (some .root, rest) := by
  rw [cut, h]
  simp [nonempty]

theorem cut_current {p : Path} {rest : List FileName} (h : slashPieces p.bytes = [dot] :: rest) :
    p.cut = (some .current, rest) := by
  rw [cut, h]
  rfl

theorem cut_name {p : Path} {piece : FileName} {rest : List FileName}
    (h : slashPieces p.bytes = piece :: rest) (spoken : isSilent piece = false) :
    p.cut = (none, piece :: rest) := by
  rw [cut, h]
  cases piece with
  | nil => simp [isSilent] at spoken
  | cons b bs =>
    have ne : b :: bs ≠ [dot] := by
      intro same
      rw [same] at spoken
      cases spoken
    simp [ne]

/-- Paths with the same pieces at the front are cut alike. -/
theorem cut_alike {p q : Path} {piece : FileName} {rest tail tail' : List FileName}
    (own : slashPieces p.bytes = piece :: (rest ++ tail))
    (new : slashPieces q.bytes = piece :: (rest ++ tail'))
    (rooted : piece = [] → rest ++ tail ≠ [] ∧ rest ++ tail' ≠ []) :
    ∃ start body, p.cut = (start, body ++ tail) ∧ q.cut = (start, body ++ tail') ∧
      (start = none → ∀ x ∈ body.head?, isSilent x = false) := by
  by_cases root : piece = []
  · obtain ⟨more, more'⟩ := rooted root
    subst root
    exact ⟨some .root, rest, cut_root own more, cut_root new more', nofun⟩
  by_cases current : piece = [dot]
  · subst current
    exact ⟨some .current, rest, cut_current own, cut_current new, nofun⟩
  · have spoken : isSilent piece = false := by simp [isSilent, root, current]
    exact ⟨none, piece :: rest, cut_name own spoken, cut_name new spoken,
      fun _ => by simpa using spoken⟩

/-- How a path below `p` begins: like `p`, but for silent pieces at the end of `p`. -/
theorem cut_below (p : Path) {names : List FileName} (h : ∀ n ∈ names, n.IsProper)
    (nonempty : names ≠ []) : ∃ start body tail, p.cut = (start, body ++ tail) ∧
      (p.below names).cut = (start, body ++ names) ∧ (∀ x ∈ tail, isSilent x = true) ∧
      (start = none → ∀ x ∈ body.head?, isSilent x = false) := by
  have new := p.slashPieces_below h nonempty
  obtain ⟨tail, own, ending⟩ : ∃ tail, slashPieces p.bytes = p.stem ++ tail ∧
      (tail = [[]] ∨ tail = [] ∧ (slashPieces p.bytes).getLast? ≠ some []) := by
    refine ⟨_, p.slashPieces_eq, ?_⟩
    by_cases ended : (slashPieces p.bytes).getLast? = some []
    · exact .inl (if_pos ended)
    · exact .inr ⟨if_neg ended, ended⟩
  have silent : ∀ x ∈ tail, isSilent x = true := by
    rcases ending with rfl | ⟨rfl, -⟩ <;> simp [isSilent]
  cases stem : p.stem with
  | nil =>
    obtain ⟨name, names, rfl⟩ := List.exists_cons_of_ne_nil nonempty
    rw [stem, List.nil_append] at own new
    refine ⟨none, [], [], ?_, cut_name new (h name List.mem_cons_self).not_isSilent, nofun, nofun⟩
    rcases ending with rfl | ⟨rfl, -⟩
    · rw [cut, own]
      rfl
    · exact absurd own (pieces_ne_nil _ _)
  | cons piece rest =>
    rw [stem, List.cons_append] at own new
    obtain ⟨start, body, cut, cut', spoken⟩ := cut_alike own new (by
      rintro rfl
      refine ⟨fun none => ?_, by simp [nonempty]⟩
      obtain ⟨rfl, rfl⟩ := List.append_eq_nil_iff.1 none
      simp [own] at ending)
    exact ⟨start, body, tail, cut, cut', silent, spoken⟩

theorem exists_ofPiece?_eq {piece : FileName} (spoken : isSilent piece = false) :
    ∃ c, Component.ofPiece? piece = some c := by
  rw [Component.ofPiece?, if_neg (by simp [spoken])]
  split <;> exact ⟨_, rfl⟩

theorem filterMap_ofPiece?_silent {tail : List FileName} (h : ∀ x ∈ tail, isSilent x = true) :
    tail.filterMap Component.ofPiece? = [] := by
  rw [List.filterMap_eq_nil_iff]
  intro x mem
  rw [Component.ofPiece?, if_pos (h x mem)]

theorem filterMap_ofPiece?_proper {names : List FileName} (h : ∀ n ∈ names, n.IsProper) :
    names.filterMap Component.ofPiece? = names.map .normal := by
  rw [← List.filterMap_eq_map]
  exact List.filterMap_congr fun n mem => (h n mem).ofPiece?_eq

/-- Names below a directory are components after those of the directory. -/
theorem components_below (p : Path) {names : List FileName} (h : ∀ n ∈ names, n.IsProper) :
    (p.below names).components = p.components ++ names.map .normal := by
  cases names with
  | nil => simp
  | cons name names =>
    obtain ⟨start, body, tail, own, new, silent, -⟩ := p.cut_below h (by simp)
    rw [components, components, own, new, List.filterMap_append, List.filterMap_append,
      filterMap_ofPiece?_silent silent, filterMap_ofPiece?_proper h, List.append_nil,
      List.append_assoc]

/-! ### The part below -/

/-- Without as many components as the pieces before them say, names are left. -/
theorem dropComponents_append (body : List FileName) {names : List FileName}
    (spoken : ∀ x ∈ names.head?, isSilent x = false) :
    (dropComponents (body.filterMap Component.ofPiece?).length (body ++ names)).dropWhile isSilent =
      names := by
  induction body with
  | nil =>
    cases names with
    | nil => rfl
    | cons name names =>
      have first : isSilent name = false := spoken name rfl
      simp [dropComponents, first]
  | cons piece body ih =>
    by_cases silent : isSilent piece = true
    · have skipped : Component.ofPiece? piece = none := by rw [Component.ofPiece?, if_pos silent]
      rw [List.filterMap_cons_none skipped, List.cons_append]
      generalize (body.filterMap Component.ofPiece?).length = n at ih
      cases n with
      | zero =>
        have all : dropComponents 0 (body ++ names) = body ++ names := by
          cases body ++ names <;> rfl
        rw [all] at ih
        rw [dropComponents, List.dropWhile_cons_of_pos silent, ih]
      | succ n => rw [dropComponents, if_pos silent, ih]
    · obtain ⟨c, said⟩ := exists_ofPiece?_eq (eq_false_of_ne_true silent)
      rw [List.filterMap_cons_some said, List.length_cons, List.cons_append, dropComponents,
        if_neg silent, ih]

theorem trimPieces_of_getLast? {pieces : List FileName}
    (spoken : ∀ x ∈ pieces.getLast?, isSilent x = false) : trimPieces pieces = pieces := by
  rw [trimPieces]
  cases last : pieces.reverse with
  | nil => simpa using last.symm
  | cons x rest =>
    have first : isSilent x = false := by
      apply spoken
      rw [← List.head?_reverse, last]
      rfl
    rw [List.dropWhile_cons_of_neg (by simp [first]), ← last, List.reverse_reverse]

theorem afterComponents_succ (p : Path) (n : Nat) : p.afterComponents (n + 1) =
    ⟨joinPieces (trimPieces ((if p.cut.1.isSome then dropComponents n p.cut.2
      else dropComponents (n + 1) p.cut.2).dropWhile isSilent))⟩ := rfl

/-- The part of a path below a directory is spelled with the names that lead there. -/
theorem stripPrefix?_below (p : Path) {names : List FileName} (h : ∀ n ∈ names, n.IsProper)
    (nonempty : names ≠ []) : (p.below names).stripPrefix? p = some ⟨joinPieces names⟩ := by
  obtain ⟨start, body, tail, own, new, silent, spoken⟩ := p.cut_below h nonempty
  have leading : p.components.isPrefixOf (p.below names).components = true := by
    rw [components_below p h]
    exact List.isPrefixOf_iff_prefix.2 (List.prefix_append _ _)
  have count : p.components.length =
      start.toList.length + (body.filterMap Component.ofPiece?).length := by
    rw [components, own, List.filterMap_append, filterMap_ofPiece?_silent silent, List.append_nil,
      List.length_append]
  have first : ∀ x ∈ names.head?, isSilent x = false :=
    fun x mem => (h x (List.mem_of_mem_head? mem)).not_isSilent
  have kept : trimPieces names = names :=
    trimPieces_of_getLast? fun x mem => (h x (List.mem_of_getLast? mem)).not_isSilent
  have left := dropComponents_append body first
  rw [stripPrefix?, if_pos leading, count]
  congr 1
  cases start with
  | some c =>
    rw [Option.toList_some, List.length_singleton, Nat.add_comm, afterComponents_succ, new]
    simp only [Option.isSome_some, if_true, left, kept]
  | none =>
    rw [Option.toList_none, List.length_nil, Nat.zero_add]
    cases body with
    | nil =>
      rw [List.nil_append] at new
      show (p.below names).trimmed = _
      simp only [trimmed, new, kept]
      rfl
    | cons piece body =>
      obtain ⟨c, said⟩ := exists_ofPiece?_eq (spoken rfl piece rfl)
      rw [List.filterMap_cons_some said, List.length_cons] at left ⊢
      rw [afterComponents_succ, new, if_neg (by simp), left, kept]

theorem joinPieces_singleton (name : FileName) : joinPieces [name] = name := by
  simp [joinPieces]

theorem joinPieces_cons (name : FileName) {names : List FileName} (nonempty : names ≠ []) :
    joinPieces (name :: names) = name ++ slash :: joinPieces names := by
  obtain ⟨next, names, rfl⟩ := List.exists_cons_of_ne_nil nonempty
  simp [joinPieces, List.intersperse_cons_cons]

theorem slashPieces_joinPieces {names : List FileName} (h : ∀ n ∈ names, n.IsProper)
    (nonempty : names ≠ []) : slashPieces (joinPieces names) = names := by
  induction names with
  | nil => exact absurd rfl nonempty
  | cons name names ih =>
    have clear := (h name List.mem_cons_self).noSlash
    cases names with
    | nil => exact (joinPieces_singleton name).symm ▸ slashPieces_of_notMem clear
    | cons next names =>
      have rest := ih (fun n mem => h n (List.mem_cons_of_mem _ mem)) (by simp)
      rw [joinPieces_cons name (by simp), slashPieces_append_slash clear, rest]

/-- Whatever is added to a path, the same bytes come before it. -/
theorem exists_join_eq (p : Path) : ∃ front, ∀ name, p.join name = ⟨front ++ name⟩ := by
  by_cases empty : p.bytes = []
  · exact ⟨[], fun name => by rw [join, if_pos empty, List.nil_append]⟩
  by_cases ended : p.bytes.getLast? = some slash
  · exact ⟨p.bytes, fun name => by rw [join, if_neg empty, if_pos ended]⟩
  · refine ⟨p.bytes ++ [slash], fun name => ?_⟩
    rw [join, if_neg empty, if_neg ended, List.append_assoc, List.singleton_append]

theorem join_join (p : Path) (h : name.IsProper) (rest : FileName) :
    (p.join name).join rest = p.join (name ++ slash :: rest) := by
  obtain ⟨front, added⟩ := p.exists_join_eq
  have spelled : front ++ name ≠ [] := by simp [h.ne_nil]
  have last : (front ++ name).getLast? ≠ some slash := by
    intro same
    rw [List.getLast?_append_of_ne_nil _ h.ne_nil] at same
    exact h.noSlash (List.mem_of_getLast? same)
  rw [added, added, join, if_neg spelled, if_neg last, List.append_assoc]

/-- The path below `p` is `p` with the names joined by slashes. -/
theorem below_eq_join (p : Path) {names : List FileName} (h : ∀ n ∈ names, n.IsProper)
    (nonempty : names ≠ []) : p.below names = p.join (joinPieces names) := by
  induction names generalizing p with
  | nil => exact absurd rfl nonempty
  | cons name names ih =>
    cases names with
    | nil => rw [joinPieces_singleton, below_cons, below_nil]
    | cons next names =>
      rw [below_cons, ih _ (fun n mem => h n (List.mem_cons_of_mem _ mem)) (by simp),
        join_join p (h name List.mem_cons_self), ← joinPieces_cons name (by simp)]

/-- Names joined by slashes are the components of that path. -/
theorem components_joinPieces {names : List FileName} (h : ∀ n ∈ names, n.IsProper) :
    (⟨joinPieces names⟩ : Path).components = names.map .normal := by
  cases names with
  | nil => rfl
  | cons name names =>
    have pieces := slashPieces_joinPieces h (by simp)
    have loud := (h name List.mem_cons_self).not_isSilent
    rw [components, cut_name (p := ⟨joinPieces (name :: names)⟩) pieces loud,
      filterMap_ofPiece?_proper h]
    rfl

end Path

end LangBench
