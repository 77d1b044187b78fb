import LangBench.Proofs.Corpus.Walk

/-!
# What paths below a directory lead to

* `Disk.resolveFrom_current`, `resolveFrom_parent`, `resolveFrom_entry`: single steps;
* `Disk.resolveFrom_append`: steps one after the other, by `Disk.resume`;
* `Disk.resolve_join`: the path of an entry leads to what the entry leads to, `Disk.follow`;
* `Disk.resolve_below`: so do the paths of all entries further below.
-/

namespace LangBench.Disk

section Steps

variable (links : Nat) (spot : Spot) (rest : List FileName)

theorem resolveFrom_nil : resolveFrom links spot [] = .ok (.directory spot, links) := by
  rw [resolveFrom.eq_def]

theorem resolveFrom_current :
    resolveFrom links spot ([Path.dot] :: rest) = resolveFrom links spot rest := by
  rw [resolveFrom.eq_def]
  exact if_pos rfl

theorem resolveFrom_parent : resolveFrom links spot ([Path.dot, Path.dot] :: rest) =
    resolveFrom links spot.parent rest := by
  rw [resolveFrom.eq_def]
  rfl

variable {step : FileName}

theorem resolveFrom_long (current : ¬step = [Path.dot]) (parent : ¬step = [Path.dot, Path.dot])
    (long : nameLimit < step.length) :
    resolveFrom links spot (step :: rest) = .error .nameTooLong := by
  rw [resolveFrom.eq_def]
  simp only [if_neg current, if_neg parent, if_pos long]

theorem resolveFrom_entry (current : ¬step = [Path.dot]) (parent : ¬step = [Path.dot, Path.dot])
    (short : ¬nameLimit < step.length) : resolveFrom links spot (step :: rest) =
      match spot.entries.lookup step, links with
      | none, _ => .error .notFound
      | some (.file data), links =>
        if rest = [] then .ok (.file data, links) else .error .notADirectory
      | some (.directory inner), links => resolveFrom links (spot.enter inner) rest
      | some (.link _), 0 => .error .tooManyLinks
      | some (.link target), links + 1 =>
        resolveFrom links (spot.start target) (steps target ++ rest) := by
  rw [resolveFrom.eq_def]
  simp only [if_neg current, if_neg parent, if_neg short]
  rcases spot.entries.lookup step with _ | _ | _ | _ <;> cases links <;> rfl

end Steps

/-! ### Steps one after the other -/

/-- What more steps lead to from what was reached. -/
def resume (todo : List FileName) :
    Except DiskFault (Place × Nat) → Except DiskFault (Place × Nat)
  | .ok (.directory spot, links) => resolveFrom links spot todo
  | .ok (.file data, links) =>
    if todo = [] then .ok (.file data, links) else .error .notADirectory
  | .error fault => .error fault

/-- Steps lead where the second part of them leads from what the first part led to. -/
theorem resolveFrom_append (links : Nat) (spot : Spot) (first second : List FileName) :
    resolveFrom links spot (first ++ second) = resume second (resolveFrom links spot first) := by
  -- following a link spends one, and puts any number of steps in front of the rest
  induction links using Nat.strongRecOn generalizing spot first with
  | ind links fewer =>
  induction first generalizing spot with
  | nil => rw [resolveFrom_nil]; rfl
  | cons step rest ih =>
    rw [List.cons_append]
    by_cases current : step = [Path.dot]
    · subst current
      rw [resolveFrom_current, resolveFrom_current, ih]
    by_cases parent : step = [Path.dot, Path.dot]
    · subst parent
      rw [resolveFrom_parent, resolveFrom_parent, ih]
    by_cases long : nameLimit < step.length
    · rw [resolveFrom_long _ _ _ current parent long, resolveFrom_long _ _ _ current parent long]
      rfl
    rw [resolveFrom_entry _ _ _ current parent long, resolveFrom_entry _ _ _ current parent long]
    rcases spot.entries.lookup step with _ | data | inner | target
    · rfl
    · cases rest <;> simp [resume]
    · exact ih (spot.enter inner)
    · cases links with
      | zero => rfl
      | succ links =>
        simp only [← List.append_assoc]
        exact fewer links (Nat.lt_succ_self links) (spot.start target) (steps target ++ rest)

theorem resume_nil (reached : Except DiskFault (Place × Nat)) : resume [] reached = reached := by
  rcases reached with _ | ⟨_ | spot, links⟩
  · rfl
  · rfl
  · exact resolveFrom_nil links spot

/-- Only a directory has an entry that stays in place. -/
theorem eq_of_resume_current {reached : Except DiskFault (Place × Nat)} {place : Place}
    {links : Nat} (h : resume [[Path.dot]] reached = .ok (place, links)) :
    reached = .ok (place, links) := by
  rcases reached with _ | ⟨_ | spot, links⟩
  · cases h
  · cases h
  · rwa [resume, resolveFrom_current, resolveFrom_nil] at h

/-! ### Entries of a directory -/

/-- The steps of a path without the one that stays in place at its end. -/
def firm (p : Path) : List FileName :=
  p.stem.filter (!List.isEmpty ·)

theorem steps_eq (p : Path) : steps p =
    firm p ++ if (Path.slashPieces p.bytes).getLast? = some [] then [[Path.dot]] else [] := by
  have kept : (Path.slashPieces p.bytes).filter (!List.isEmpty ·) = firm p := by
    rw [p.slashPieces_eq, List.filter_append, firm]
    split <;> simp
  rw [steps, kept]

theorem steps_join (p : Path) {name : FileName} (proper : name.IsProper) :
    steps (p.join name) = firm p ++ [name] := by
  have loud : name.isEmpty = false := by simp [proper.ne_nil]
  have last : (p.stem ++ [name]).getLast? ≠ some [] := by simpa using proper.ne_nil
  rw [steps, p.slashPieces_join proper, if_neg last, firm]
  simp [loud]

theorem isAbsolute_join {p : Path} (spelled : p.bytes ≠ []) (name : FileName) :
    isAbsolute (p.join name) = isAbsolute p := by
  obtain ⟨b, bs, h⟩ := List.exists_cons_of_ne_nil spelled
  rw [isAbsolute, isAbsolute, Path.join, if_neg spelled]
  split <;> rw [h] <;> rfl

theorem contains_join (p : Path) {name : FileName} (proper : name.IsProper) :
    (p.join name).bytes.contains 0 = p.bytes.contains 0 := by
  have clear := proper.noZero
  rw [Path.join]
  split_ifs with empty <;> simp [*, Path.slash]

/-- What an entry of the directory at `spot` leads to: itself, or where a link leads. -/
def follow (links : Nat) (spot : Spot) : Disk → Except DiskFault (Place × Nat)
  | file data => .ok (.file data, links)
  | directory inner => .ok (.directory (spot.enter inner), links)
  | link target =>
    match links with
    | 0 => .error .tooManyLinks
    | links + 1 => resolveFrom links (spot.start target) (steps target)

theorem resolveFrom_singleton (links : Nat) {spot : Spot} {name : FileName}
    (proper : name.IsProper) {disk : Disk} (found : spot.entries.lookup name = some disk) :
    resolveFrom links spot [name] = follow links spot disk := by
  rw [resolveFrom_entry _ _ _ proper.ne_current proper.ne_parent (Nat.not_lt.2 proper.short),
    found]
  cases disk with
  | file data => rfl
  | directory inner => exact resolveFrom_nil ..
  | link target =>
    cases links with
    | zero => rfl
    | succ links => simp only [List.append_nil]; rfl

/-- **Entries.**  The path of an entry of a directory leads to what the entry leads to, unless the
path is too long. -/
theorem resolve_join {cwd spot : Spot} {links : Nat} {here : Path}
    (reached : resolve cwd here = .ok (.directory spot, links)) {name : FileName}
    (proper : name.IsProper) {disk : Disk} (found : spot.entries.lookup name = some disk) :
    resolve cwd (here.join name) =
      if pathLimit ≤ (here.join name).bytes.length then .error .nameTooLong
      else follow links spot disk := by
  rw [resolve] at reached
  split_ifs at reached with zero empty long
  have spelled : (here.join name).bytes ≠ [] := by
    rw [Path.join, if_neg empty]
    split <;> simp [empty]
  have start : cwd.start (here.join name) = cwd.start here := by
    rw [Spot.start, Spot.start, isAbsolute_join empty]
  -- a slash at the end of the directory's path is a step that stays in place
  have arrived : resolveFrom linkLimit (cwd.start here) (firm here) =
      .ok (.directory spot, links) := by
    rw [steps_eq, resolveFrom_append] at reached
    split at reached
    · exact eq_of_resume_current reached
    · rwa [resume_nil] at reached
  rw [resolve, contains_join here proper, if_neg zero, if_neg spelled, start,
    steps_join here proper, resolveFrom_append, arrived, resume,
    resolveFrom_singleton links proper found]

/-! ### Entries further below -/

/-- The place at the end of some names, as far as they lead through directories. -/
def Spot.descend (spot : Spot) : List FileName → Spot
  | [] => spot
  | name :: rest =>
    match spot.entries.lookup name with
    | some (.directory inner) => (spot.enter inner).descend rest
    | _ => spot

theorem length_le_below (p : Path) (names : List FileName) :
    p.bytes.length ≤ (p.below names).bytes.length := by
  induction names generalizing p with
  | nil => exact Nat.le_refl _
  | cons name names ih =>
    have step : p.bytes.length ≤ (p.join name).bytes.length := by
      rw [Path.join]
      split_ifs with empty <;> simp [*]
    exact Nat.le_trans step (ih (p.join name))

theorem contains_below (p : Path) {names : List FileName} (h : ∀ name ∈ names, name.IsProper) :
    (p.below names).bytes.contains 0 = p.bytes.contains 0 := by
  induction names generalizing p with
  | nil => rfl
  | cons name names ih =>
    rw [Path.below_cons, ih _ fun n mem => h n (List.mem_cons_of_mem _ mem),
      contains_join p (h name List.mem_cons_self)]

/-- A path that is too long leads nowhere. -/
theorem resolve_below_long {cwd spot : Spot} {links : Nat} {here : Path}
    (reached : resolve cwd here = .ok (.directory spot, links)) {names : List FileName}
    (h : ∀ name ∈ names, name.IsProper) (long : pathLimit ≤ (here.below names).bytes.length) :
    resolve cwd (here.below names) = .error .nameTooLong := by
  rw [resolve] at reached
  split_ifs at reached with zero empty
  have spelled : (here.below names).bytes ≠ [] := by
    have length := length_le_below here names
    intro none
    rw [none] at length
    exact empty (List.length_eq_zero_iff.1 (Nat.le_zero.1 length))
  rw [resolve, contains_below here h, if_neg zero, if_neg spelled, if_pos long]

/-- **Entries below.**  The path of everything below a directory leads to what the entry leads to,
unless the path is too long. -/
theorem resolve_below {cwd spot : Spot} {links : Nat} {here : Path}
    (reached : resolve cwd here = .ok (.directory spot, links))
    (proper : (directory spot.entries).Proper) {names : List FileName} {disk : Disk}
    (found : find? spot.entries names = some disk) :
    resolve cwd (here.below names) =
      if pathLimit ≤ (here.below names).bytes.length then .error .nameTooLong
      else follow links (spot.descend names.dropLast) disk := by
  split_ifs with long
  · have met := (mem_walk proper).2 (Option.isSome_of_mem found)
    exact resolve_below_long reached (isProper_of_mem_walk proper names met) long
  induction names generalizing here spot with
  | nil => cases found
  | cons name rest ih =>
    have short : ¬pathLimit ≤ (here.join name).bytes.length :=
      fun high => long (Nat.le_trans high (length_le_below (here.join name) rest))
    cases rest with
    | nil =>
      have entry := (lookup_eq_some_iff proper.distinct).1 found
      rw [Path.below_cons, Path.below_nil, resolve_join reached (proper.named entry) found,
        if_neg short]
      rfl
    | cons next rest =>
      rw [find?] at found
      cases first : spot.entries.lookup name with
      | none => rw [first] at found; cases found
      | some disk' =>
        rw [first] at found
        cases disk' with
        | file => cases found
        | link => cases found
        | directory inner =>
          have entry := (lookup_eq_some_iff proper.distinct).1 first
          have resolved := resolve_join reached (proper.named entry) first
          rw [if_neg short] at resolved
          have further := ih resolved (proper.inner entry) found long
          have down : spot.descend (name :: next :: rest).dropLast =
              (spot.enter inner).descend (next :: rest).dropLast := by
            rw [List.dropLast_cons_cons, Spot.descend, first]
          rw [Path.below_cons, further, down]

end LangBench.Disk
