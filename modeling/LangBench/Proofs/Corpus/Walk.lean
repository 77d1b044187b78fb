import LangBench.Proofs.Corpus.Below

/-!
# The entries below a directory

* `Disk.Proper`: trees as a file system keeps them, the entries of one directory all differently
  named;
* `Disk.find?`: the entry at the end of some names;
* `Disk.walk`: the names that lead to each entry below a directory, every directory before what
  is in it and siblings by the bytes of their names;
* `Disk.mem_walk`, `Disk.walk_sorted`: the walk meets every entry once, in the order of the names
  one by one.
-/

namespace LangBench.Disk

open LangBench.Tree (byName)

/-- A directory entry below which every directory has proper names, each once. -/
inductive Proper : Disk → Prop where
  | file (data : List UInt8) : Proper (file data)
  | link (target : Path) : Proper (link target)
  | directory {entries : Entries} (distinct : (entries.map Prod.fst).Nodup)
      (named : ∀ entry ∈ entries, entry.1.IsProper) (inner : ∀ entry ∈ entries, Proper entry.2) :
      Proper (directory entries)

namespace Proper

variable {entries : Entries}

theorem distinct (h : Proper (.directory entries)) : (entries.map Prod.fst).Nodup := by
  cases h with
  | directory distinct => exact distinct

theorem named (h : Proper (.directory entries)) {name : FileName} {disk : Disk}
    (mem : (name, disk) ∈ entries) : name.IsProper := by
  cases h with
  | directory _ named => exact named (name, disk) mem

theorem inner (h : Proper (.directory entries)) {name : FileName} {disk : Disk}
    (mem : (name, disk) ∈ entries) : disk.Proper := by
  cases h with
  | directory _ _ inner => exact inner (name, disk) mem

end Proper

/-! ### Lookups -/

theorem lookup_eq_some_iff {entries : Entries} (distinct : (entries.map Prod.fst).Nodup)
    {name : FileName} {disk : Disk} :
    entries.lookup name = some disk ↔ (name, disk) ∈ entries := by
  constructor
  · intro h
    obtain ⟨before, after, rfl, -⟩ := List.lookup_eq_some_iff.1 h
    simp
  · intro mem
    obtain ⟨before, after, rfl⟩ := List.append_of_mem mem
    rw [List.map_append, List.map_cons] at distinct
    have fresh : ∀ entry ∈ before, (name != entry.1) = true := by
      intro entry earlier
      have apart := (List.nodup_append.1 distinct).2.2 entry.1 (List.mem_map_of_mem earlier)
      exact bne_iff_ne.2 (apart name List.mem_cons_self).symm
    exact List.lookup_eq_some_iff.2 ⟨before, after, rfl, fresh⟩

/-- The entry at the end of some names.  No link is followed on the way. -/
def find? (entries : Entries) : List FileName → Option Disk
  | [] => none
  | [name] => entries.lookup name
  | name :: next :: rest =>
    match entries.lookup name with
    | some (.directory inner) => find? inner (next :: rest)
    | _ => none

/-! ### Entries by name -/

theorem byName_map {α β : Type} (entries : List (FileName × α)) (f : FileName × α → β) :
    byName (entries.map fun entry => (entry.1, f entry)) =
      (byName entries).map fun entry => (entry.1, f entry) :=
  (List.map_mergeSort (f := fun entry : FileName × α => (entry.1, f entry)) fun _ _ _ _ => rfl).symm

theorem mem_byName {α : Type} {entries : List (FileName × α)} {entry : FileName × α} :
    entry ∈ byName entries ↔ entry ∈ entries :=
  List.mem_mergeSort

theorem byName_sorted {α : Type} {entries : List (FileName × α)}
    (distinct : (entries.map Prod.fst).Nodup) :
    (byName entries).Pairwise fun a b => a.1 < b.1 := by
  have sorted : (byName entries).Pairwise fun a b => decide (a.1 ≤ b.1) = true :=
    List.pairwise_mergeSort
      (fun a b c ab bc => by
        simp only [decide_eq_true_eq] at ab bc ⊢
        exact List.le_trans ab bc)
      (fun a b => by
        simp only [Bool.or_eq_true, decide_eq_true_eq]
        exact List.le_total a.1 b.1) entries
  have apart : (byName entries).Pairwise fun a b => a.1 ≠ b.1 :=
    List.pairwise_map.1 (((List.mergeSort_perm _ _).map Prod.fst).nodup_iff.2 distinct)
  refine (sorted.and apart).imp fun {a b} h => ?_
  rcases List.le_iff_lt_or_eq.1 (of_decide_eq_true h.1) with less | same
  · exact less
  · exact absurd same h.2

/-! ### Walks -/

mutual

/-- The names that lead to each entry below a directory, every directory before what is in it and
siblings by the bytes of their names. -/
def walk : Disk → List (List FileName)
  | directory entries => ((byName (walkEach entries)).map Prod.snd).flatten
  | file _ => []
  | link _ => []

/-- The names that lead to each of the entries, and to what is below it. -/
def walkEach : Entries → List (FileName × List (List FileName))
  | [] => []
  | (name, disk) :: rest => (name, [name] :: (walk disk).map (name :: ·)) :: walkEach rest

end

/-- The names that lead to an entry and to what is below it. -/
def walkEntry (entry : FileName × Disk) : List (List FileName) :=
  [entry.1] :: (walk entry.2).map (entry.1 :: ·)

theorem walkEach_eq (entries : Entries) :
    walkEach entries = entries.map fun entry => (entry.1, walkEntry entry) := by
  induction entries with
  | nil => rfl
  | cons entry entries ih => rw [walkEach, ih]; rfl

theorem walk_directory (entries : Entries) :
    walk (.directory entries) = (byName entries).flatMap walkEntry := by
  rw [walk, walkEach_eq, byName_map, List.map_map]
  rfl

theorem mem_walkEntry {entry : FileName × Disk} {name : FileName} {rest : List FileName} :
    name :: rest ∈ walkEntry entry ↔ name = entry.1 ∧ (rest = [] ∨ rest ∈ walk entry.2) := by
  simp only [walkEntry, List.mem_cons, List.mem_map, List.cons.injEq]
  grind

theorem nil_notMem_walkEntry (entry : FileName × Disk) : [] ∉ walkEntry entry := by
  simp [walkEntry]

theorem nil_notMem_walk (disk : Disk) : [] ∉ walk disk := by
  cases disk with
  | file => simp [walk]
  | link => simp [walk]
  | directory entries => simp [walk_directory, nil_notMem_walkEntry]

/-- Names lead somewhere if the first of them is that of an entry, and the others lead on. -/
theorem mem_walk_directory {entries : Entries} (distinct : (entries.map Prod.fst).Nodup)
    {name : FileName} {rest : List FileName} : name :: rest ∈ walk (.directory entries) ↔
      ∃ disk, entries.lookup name = some disk ∧ (rest = [] ∨ rest ∈ walk disk) := by
  simp only [walk_directory, List.mem_flatMap, mem_byName, mem_walkEntry,
    lookup_eq_some_iff distinct]
  constructor
  · rintro ⟨⟨_, disk⟩, mem, rfl, leads⟩
    exact ⟨disk, mem, leads⟩
  · rintro ⟨disk, mem, leads⟩
    exact ⟨(name, disk), mem, rfl, leads⟩

/-- A walk meets what can be found. -/
theorem mem_walk {entries : Entries} (h : Proper (.directory entries)) {names : List FileName} :
    names ∈ walk (.directory entries) ↔ (find? entries names).isSome = true := by
  induction names generalizing entries with
  | nil => exact ⟨fun mem => absurd mem (nil_notMem_walk _), nofun⟩
  | cons name rest ih =>
    rw [mem_walk_directory h.distinct]
    cases rest with
    | nil => simp [find?, Option.isSome_iff_exists]
    | cons next rest =>
      rw [find?]
      cases found : entries.lookup name with
      | none => simp
      | some disk =>
        cases disk with
        | file => simp [walk]
        | link => simp [walk]
        | directory inner =>
          have proper := h.inner ((lookup_eq_some_iff h.distinct).1 found)
          simpa using ih proper

/-- What a walk meets comes in the order of the names, one by one. -/
theorem walk_sorted {disk : Disk} (h : disk.Proper) : (walk disk).Pairwise (· < ·) := by
  induction h with
  | file => simp [walk]
  | link => simp [walk]
  | @directory entries distinct named inner ih =>
    rw [walk_directory, List.pairwise_flatMap]
    constructor
    · intro entry mem
      rw [walkEntry, List.pairwise_cons, List.pairwise_map]
      constructor
      · intro names below
        obtain ⟨rest, met, rfl⟩ := List.mem_map.1 below
        cases rest with
        | nil => exact absurd met (nil_notMem_walk _)
        | cons next rest => exact List.cons_lt_cons_self.2 (List.nil_lt_cons next rest)
      · exact (ih entry (mem_byName.1 mem)).imp List.cons_lt_cons_self.2
    · refine (byName_sorted distinct).imp fun {a b} less x here y there => ?_
      cases x with
      | nil => exact absurd here (nil_notMem_walkEntry a)
      | cons first xs =>
        cases y with
        | nil => exact absurd there (nil_notMem_walkEntry b)
        | cons second ys =>
          obtain ⟨rfl, -⟩ := mem_walkEntry.1 here
          obtain ⟨rfl, -⟩ := mem_walkEntry.1 there
          exact List.Lex.rel less

/-- What a walk meets has proper names. -/
theorem isProper_of_mem_walk {disk : Disk} (h : disk.Proper) :
    ∀ names ∈ walk disk, ∀ name ∈ names, name.IsProper := by
  induction h with
  | file => simp [walk]
  | link => simp [walk]
  | @directory entries distinct named inner ih =>
    rintro (_ | ⟨first, rest⟩) met name mem
    · cases mem
    · obtain ⟨disk, found, leads⟩ := (mem_walk_directory distinct).1 met
      have entry := (lookup_eq_some_iff distinct).1 found
      rcases List.mem_cons.1 mem with rfl | later
      · exact named (name, disk) entry
      · rcases leads with rfl | leads
        · cases later
        · exact ih (first, disk) entry rest leads name later

end LangBench.Disk
