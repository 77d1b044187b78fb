import Mathlib.Data.List.Forall2
import Mathlib.Data.List.Sort
import LangBench.Proofs.Corpus.Resolve
import LangBench.Proofs.Corpus.Walk

/-!
# Directories listed in another order

* `Disk.Relisted`: the same tree, with the entries of any directory listed in another order;
* `Disk.Matches`, `Disk.Spot.Matches`: the same for trees with proper names;
* `Disk.walk_eq`: a walk does not depend on the order of listing;
* `Disk.resolve_matches`: nor does what a path leads to.
-/

namespace LangBench.Disk

/-- The same tree, with the entries of any directory listed in another order. -/
inductive Relisted : Disk → Disk → Prop where
  | file (data : List UInt8) : Relisted (file data) (file data)
  | link (target : Path) : Relisted (link target) (link target)
  | directory {entries entries' : Entries}
      (names : (entries.map Prod.fst).Perm (entries'.map Prod.fst))
      (inner : ∀ name disk disk', (name, disk) ∈ entries → (name, disk') ∈ entries' →
        Relisted disk disk') : Relisted (directory entries) (directory entries')

/-- An entry of one listing has an entry of the same name in the other one. -/
theorem exists_of_names {entries entries' : Entries}
    (names : (entries.map Prod.fst).Perm (entries'.map Prod.fst)) {name : FileName} {disk : Disk}
    (mem : (name, disk) ∈ entries) : ∃ disk', (name, disk') ∈ entries' := by
  have listed := names.mem_iff.1 (List.mem_map_of_mem (f := Prod.fst) mem)
  obtain ⟨⟨_, disk'⟩, mem', rfl⟩ := List.mem_map.1 listed
  exact ⟨disk', mem'⟩

theorem Proper.relisted {disk disk' : Disk} (h : disk.Relisted disk') (proper : disk.Proper) :
    disk'.Proper := by
  induction h with
  | file data => exact .file data
  | link target => exact .link target
  | @directory entries entries' names inner ih =>
    refine .directory (names.nodup_iff.1 proper.distinct) ?_ ?_
    · rintro ⟨name, disk'⟩ mem'
      obtain ⟨disk, mem⟩ := exists_of_names names.symm mem'
      exact proper.named mem
    · rintro ⟨name, disk'⟩ mem'
      obtain ⟨disk, mem⟩ := exists_of_names names.symm mem'
      exact ih name disk disk' mem mem' (proper.inner mem)

theorem Relisted.refl {disk : Disk} (proper : disk.Proper) : disk.Relisted disk := by
  induction proper with
  | file data => exact .file data
  | link target => exact .link target
  | @directory entries distinct named inner ih =>
    refine .directory (.refl _) fun name disk disk' mem mem' => ?_
    have same := (lookup_eq_some_iff distinct).2 mem
    rw [(lookup_eq_some_iff distinct).2 mem'] at same
    cases same
    exact ih (name, disk) mem

/-- A tree with proper names, and the same in another order. -/
structure Matches (disk disk' : Disk) : Prop where
  proper : disk.Proper
  relisted : disk.Relisted disk'

namespace Matches

theorem proper' {disk disk' : Disk} (h : Matches disk disk') : disk'.Proper :=
  h.proper.relisted h.relisted

variable {entries entries' : Entries} (h : Matches (.directory entries) (.directory entries'))

include h

theorem names : (entries.map Prod.fst).Perm (entries'.map Prod.fst) := by
  cases h.relisted with
  | directory names => exact names

theorem inner {name : FileName} {disk disk' : Disk} (mem : (name, disk) ∈ entries)
    (mem' : (name, disk') ∈ entries') : Matches disk disk' := by
  cases h.relisted with
  | directory _ inner => exact ⟨h.proper.inner mem, inner name disk disk' mem mem'⟩

/-- Under one name there is the same entry. -/
theorem lookup (name : FileName) :
    Option.Rel Matches (entries.lookup name) (entries'.lookup name) := by
  have look := @lookup_eq_some_iff _ h.proper.distinct name
  have look' := @lookup_eq_some_iff _ h.proper'.distinct name
  cases found : entries.lookup name with
  | none =>
    cases found' : entries'.lookup name with
    | none => exact .none
    | some disk' =>
      obtain ⟨disk, mem⟩ := exists_of_names h.names.symm (look'.1 found')
      rw [look.2 mem] at found
      cases found
  | some disk =>
    obtain ⟨disk', mem'⟩ := exists_of_names h.names (look.1 found)
    rw [look'.2 mem']
    exact .some (h.inner (look.1 found) mem')

/-- The same names lead somewhere. -/
theorem isSome_find? (names : List FileName) :
    (find? entries names).isSome = (find? entries' names).isSome := by
  induction names generalizing entries entries' with
  | nil => rfl
  | cons name rest ih =>
    have same := h.lookup name
    cases rest with
    | nil =>
      rw [find?, find?]
      generalize entries.lookup name = found, entries'.lookup name = found' at same
      cases same <;> rfl
    | cons next rest =>
      rw [find?, find?]
      generalize entries.lookup name = found, entries'.lookup name = found' at same
      cases same with
      | none => rfl
      | some matching =>
        cases matching.relisted with
        | file => rfl
        | link => rfl
        | directory => exact ih matching

end Matches

/-- A walk does not depend on the order of listing. -/
theorem walk_eq {disk disk' : Disk} (h : Matches disk disk') : walk disk = walk disk' := by
  refine (walk_sorted h.proper).eq_of_mem_iff (walk_sorted h.proper') fun names => ?_
  cases h.relisted with
  | file => rfl
  | link => rfl
  | directory => rw [mem_walk h.proper, mem_walk h.proper', h.isSome_find?]

/-! ### Directories and what is above them -/

namespace Spot

/-- Whether all names are proper, in the directories above too. -/
structure Proper (spot : Spot) : Prop where
  here : (directory spot.entries).Proper
  above : ∀ entries ∈ spot.above, (directory entries).Proper

/-- The same place, with the entries of any directory listed in another order. -/
structure Relisted (spot spot' : Spot) : Prop where
  here : (directory spot.entries).Relisted (directory spot'.entries)
  above : List.Forall₂ (fun entries entries' => (directory entries).Relisted (directory entries'))
    spot.above spot'.above

/-- A place with proper names, and the same in another order. -/
structure Matches (spot spot' : Spot) : Prop where
  here : (directory spot.entries).Matches (directory spot'.entries)
  above : List.Forall₂ (fun entries entries' => (directory entries).Matches (directory entries'))
    spot.above spot'.above

theorem Relisted.matches {spot spot' : Spot} (h : spot.Relisted spot') (proper : spot.Proper) :
    spot.Matches spot' where
  here := ⟨proper.here, h.here⟩
  above := ((List.forall₂_and_left ..).2 ⟨proper.above, h.above⟩).imp
    fun _ _ both => ⟨both.1, both.2⟩

theorem Proper.matches {spot : Spot} (proper : spot.Proper) : spot.Matches spot where
  here := ⟨proper.here, .refl proper.here⟩
  above := List.forall₂_same.2 fun entries mem =>
    ⟨proper.above entries mem, .refl (proper.above entries mem)⟩

namespace Matches

variable {spot spot' : Spot}

theorem enter (h : spot.Matches spot') {inner inner' : Entries}
    (matching : (directory inner).Matches (directory inner')) :
    (spot.enter inner).Matches (spot'.enter inner') :=
  ⟨matching, .cons h.here h.above⟩

theorem parent (h : spot.Matches spot') : spot.parent.Matches spot'.parent := by
  obtain ⟨entries, above⟩ := spot
  obtain ⟨entries', above'⟩ := spot'
  cases h.above with
  | nil => exact h
  | cons next above => exact ⟨next, above⟩

theorem root (h : spot.Matches spot') : spot.root.Matches spot'.root := by
  obtain ⟨entries, above⟩ := spot
  obtain ⟨entries', above'⟩ := spot'
  induction above generalizing entries entries' above' with
  | nil =>
    cases h.above
    exact h
  | cons next above ih =>
    cases h.above with
    | cons first rest =>
      have up := ih _ _ _ ⟨first, rest⟩
      simpa only [Spot.root, List.getLast?_cons, Option.getD_some] using up

theorem start (h : spot.Matches spot') (p : Path) : (spot.start p).Matches (spot'.start p) := by
  rw [Spot.start, Spot.start]
  split
  · exact h.root
  · exact h

end Matches

end Spot

/-! ### What paths lead to -/

/-- The same fault, or the same file, or the same directory in another order. -/
inductive SameResult : Except DiskFault (Place × Nat) → Except DiskFault (Place × Nat) → Prop where
  | file (data : List UInt8) (links : Nat) :
      SameResult (.ok (.file data, links)) (.ok (.file data, links))
  | directory {spot spot' : Spot} (h : spot.Matches spot') (links : Nat) :
      SameResult (.ok (.directory spot, links)) (.ok (.directory spot', links))
  | error (fault : DiskFault) : SameResult (.error fault) (.error fault)

theorem resolveFrom_matches {spot spot' : Spot} (h : spot.Matches spot') (links : Nat)
    (todo : List FileName) :
    SameResult (resolveFrom links spot todo) (resolveFrom links spot' todo) := by
  -- as for steps one after the other
  induction links using Nat.strongRecOn generalizing spot spot' todo with
  | ind links fewer =>
  induction todo generalizing spot spot' with
  | nil =>
    rw [resolveFrom_nil, resolveFrom_nil]
    exact .directory h links
  | cons step rest ih =>
    by_cases current : step = [Path.dot]
    · subst current
      rw [resolveFrom_current, resolveFrom_current]
      exact ih h
    by_cases parent : step = [Path.dot, Path.dot]
    · subst parent
      rw [resolveFrom_parent, resolveFrom_parent]
      exact ih h.parent
    by_cases long : nameLimit < step.length
    · rw [resolveFrom_long _ _ _ current parent long, resolveFrom_long _ _ _ current parent long]
      exact .error _
    rw [resolveFrom_entry _ _ _ current parent long, resolveFrom_entry _ _ _ current parent long]
    have same := h.here.lookup step
    generalize spot.entries.lookup step = found, spot'.entries.lookup step = found' at same
    cases same with
    | none => exact .error _
    | some matching =>
      cases matching.relisted with
      | file data =>
        dsimp only
        split
        · exact .file data links
        · exact .error _
      | link target =>
        cases links with
        | zero => exact .error _
        | succ links => exact fewer links (Nat.lt_succ_self links) (h.start target) _
      | directory names inner => exact ih (h.enter matching)

/-- What a path leads to does not depend on the order of listing. -/
theorem resolve_matches {cwd cwd' : Spot} (h : cwd.Matches cwd') (p : Path) :
    SameResult (resolve cwd p) (resolve cwd' p) := by
  rw [resolve, resolve]
  split_ifs
  · exact .error _
  · exact .error _
  · exact .error _
  · exact resolveFrom_matches (h.start p) linkLimit (steps p)

/-- A directory that a path leads to has proper names. -/
theorem proper_of_resolve {cwd spot : Spot} (proper : cwd.Proper) {p : Path} {links : Nat}
    (reached : resolve cwd p = .ok (.directory spot, links)) :
    (directory spot.entries).Proper := by
  have same := resolve_matches proper.matches p
  rw [reached] at same
  cases same with
  | directory h => exact h.here.proper

end LangBench.Disk
