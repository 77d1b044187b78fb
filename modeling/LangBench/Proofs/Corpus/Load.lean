import Mathlib
import LangBench.Proofs.Corpus.Relisting

/-!
# Loading a corpus

* `Disk.visit`: what an entry contributes to a corpus;
* `Corpus.load_eq`: loading visits what a walk of the root meets, one after the other, up to the
  first entry that leads nowhere;
* `Corpus.load_distinct`: no two samples have the same path;
* `Corpus.loading`: the samples of a corpus, and the error if there is none.
-/

namespace LangBench

/-! ### Gathering -/

namespace Tree

@[simp] theorem gather_nil : gather [] = .ok [] := rfl

theorem gather_cons (first : Loaded) (rest : List Loaded) :
    gather (first :: rest) = first.bind fun samples => (gather rest).map (samples ++ ·) := by
  rw [gather, gather, List.mapM_cons]
  cases first with
  | error => rfl
  | ok samples => cases rest.mapM id <;> rfl

theorem gather_cons_nil (rest : List Loaded) : gather (.ok [] :: rest) = gather rest := by
  rw [gather_cons]
  cases gather rest <;> rfl

theorem gather_append (first second : List Loaded) :
    gather (first ++ second) =
      (gather first).bind fun samples => (gather second).map (samples ++ ·) := by
  induction first with
  | nil => cases h : gather second <;> simp [h, Except.bind, Except.map]
  | cons found first ih =>
    rw [List.cons_append, gather_cons, gather_cons, ih]
    cases found with
    | error => rfl
    | ok samples =>
      cases gather first with
      | error => rfl
      | ok more => cases gather second <;> simp [Except.bind, Except.map]

theorem gather_flatMap {α : Type} (parts : List α) (found : α → List Loaded) :
    gather (parts.flatMap found) = gather (parts.map fun part => gather (found part)) := by
  induction parts with
  | nil => rfl
  | cons part parts ih =>
    rw [List.flatMap_cons, gather_append, ih, List.map_cons, gather_cons]

theorem gather_singleton (found : Loaded) : gather [found] = found := by
  cases found <;> simp [gather_cons, Except.bind, Except.map]

/-- Without a failure everything is gathered. -/
theorem gather_ok {α : Type} (parts : List α) (samples : α → List Sample) :
    gather (parts.map fun part => .ok (samples part)) = .ok (parts.flatMap samples) := by
  induction parts with
  | nil => rfl
  | cons part parts ih => rw [List.map_cons, gather_cons, ih]; rfl

/-- The first failure is all that is gathered. -/
theorem gather_error {past future : List Loaded} {samples : List Sample} {error : BenchError}
    (loaded : gather past = .ok samples) :
    gather (past ++ .error error :: future) = .error error := by
  rw [gather_append, loaded, gather_cons]
  rfl

/-- What is gathered has no failure in it. -/
theorem exists_of_gather_ok {found : List Loaded} {samples : List Sample}
    (loaded : gather found = .ok samples) : ∀ part ∈ found, ∃ own, part = .ok own := by
  intro part mem
  cases part with
  | ok own => exact ⟨own, rfl⟩
  | error e =>
    obtain ⟨past, future, rfl⟩ := List.append_of_mem mem
    rw [gather_append, gather_cons] at loaded
    cases before : gather past with
    | ok own =>
      rw [before] at loaded
      cases loaded
    | error e =>
      rw [before] at loaded
      cases loaded

theorem samplesEach_eq (root here : Path) (entries : List (FileName × Tree)) :
    samplesEach root here entries =
      entries.map fun entry => (entry.1, samples root (here.join entry.1) entry.2) := by
  induction entries with
  | nil => rfl
  | cons entry entries ih => rw [samplesEach, ih]; rfl

end Tree

namespace Disk

open LangBench.Tree (gather gather_cons_nil gather_flatMap gather_singleton gather_ok byName)

theorem trees_eq (links : Nat) (here : Path) (spot : Spot) (entries : Entries) :
    trees links here spot entries =
      entries.map fun entry => (entry.1, tree links (here.join entry.1) spot entry.2) := by
  induction entries with
  | nil => rfl
  | cons entry entries ih => rw [trees, ih]; rfl

/-- The samples of a directory are those of its entries, by name. -/
theorem samples_trees (links : Nat) (root here : Path) (spot : Spot) (entries : Entries) :
    (Tree.directory (trees links here spot entries)).samples root here =
      gather ((byName entries).map fun entry =>
        (tree links (here.join entry.1) spot entry.2).samples root (here.join entry.1)) := by
  rw [Tree.samples, trees_eq, Tree.samplesEach_eq, List.map_map]
  exact congrArg gather ((congrArg _ (byName_map entries _)).trans (List.map_map ..))

/-! ### Visiting -/

/-- What an entry at `path` contributes to a corpus at `root`: a sample, unless the path leads to
a directory. -/
def contribution (root path : Path) : Except DiskFault (Place × Nat) → Loaded
  | .ok (.file data, _) => .ok [.loaded root path data]
  | .ok (.directory _, _) => .ok []
  | .error fault => .error (.filesystem path fault)

/-- What the entry at `path` contributes to a corpus at `root`. -/
def visit (cwd : Spot) (root path : Path) : Loaded :=
  contribution root path (resolve cwd path)

/-- A link contributes what it leads to, and nothing below that. -/
theorem samples_linkTree (links : Nat) (root here : Path) (spot : Spot) (target : Path) :
    (linkTree links spot target).samples root here =
      contribution root here (follow links spot (.link target)) := by
  cases links with
  | zero => rfl
  | succ links =>
    rw [linkTree, follow]
    rcases resolveFrom links (spot.start target) (steps target) with _ | ⟨_ | _, _⟩ <;> rfl

/-- Whether the samples of an entry of the directory at `spot` and of everything below it are found
by visiting what a walk meets. -/
def FoundByWalk (cwd : Spot) (root here : Path) (links : Nat) (spot : Spot)
    (entry : FileName × Disk) : Prop :=
  (tree links (here.join entry.1) spot entry.2).samples root (here.join entry.1) =
    gather ((walkEntry entry).map fun names => visit cwd root (here.below names))

/-- Walking a directory is walking its entries, by name. -/
theorem samples_directory {cwd : Spot} {root here : Path} {links : Nat} {spot : Spot}
    (each : ∀ entry ∈ spot.entries, FoundByWalk cwd root here links spot entry) :
    (Tree.directory (trees links here spot spot.entries)).samples root here =
      gather ((walk (.directory spot.entries)).map fun names =>
        visit cwd root (here.below names)) := by
  have each : ∀ entry ∈ byName spot.entries, _ := fun entry mem => each entry (mem_byName.1 mem)
  rw [samples_trees, List.map_congr_left each, ← gather_flatMap, walk_directory, List.map_flatMap]

/-- An entry with nothing below it is found by visiting it. -/
theorem foundByWalk_of_walk_eq_nil {cwd : Spot} {root here : Path} {links : Nat} {spot : Spot}
    {name : FileName} {disk : Disk} (reached : resolve cwd here = .ok (.directory spot, links))
    (proper : name.IsProper) (found : spot.entries.lookup name = some disk) (leaf : walk disk = [])
    (alone : (tree links (here.join name) spot disk).samples root (here.join name) =
      contribution root (here.join name)
        (if pathLimit ≤ (here.join name).bytes.length then .error .nameTooLong
          else follow links spot disk)) :
    FoundByWalk cwd root here links spot (name, disk) := by
  rw [FoundByWalk, walkEntry, leaf, List.map_nil, List.map_singleton, gather_singleton,
    Path.below_cons, Path.below_nil, visit, resolve_join reached proper found, alone]

/-- The samples of every entry are found by a walk. -/
theorem foundByWalk {cwd : Spot} {root : Path} {disk : Disk} (h : disk.Proper) :
    ∀ {here : Path} {spot : Spot} {links : Nat} {name : FileName},
      resolve cwd here = .ok (.directory spot, links) → name.IsProper →
      spot.entries.lookup name = some disk → FoundByWalk cwd root here links spot (name, disk) := by
  induction h with
  | file data =>
    intro here spot links name reached proper found
    refine foundByWalk_of_walk_eq_nil reached proper found rfl ?_
    rw [tree, within]
    split <;> rfl
  | link target =>
    intro here spot links name reached proper found
    refine foundByWalk_of_walk_eq_nil reached proper found rfl ?_
    rw [tree, within]
    split
    · rfl
    · exact samples_linkTree ..
  | @directory inner distinct named _ ih =>
    intro here spot links name reached proper found
    have resolved := resolve_join reached proper found
    have met : (walkEntry (name, directory inner)).map
          (fun names => visit cwd root (here.below names)) =
        visit cwd root (here.join name) :: (walk (directory inner)).map
          fun names => visit cwd root ((here.join name).below names) := by
      rw [walkEntry, List.map_cons, List.map_map]
      rfl
    rw [FoundByWalk, met, visit, resolved, tree, within]
    split
    · rfl
    · next short =>
      rw [if_neg short] at resolved
      have each : ∀ entry ∈ inner,
          FoundByWalk cwd root (here.join name) links (spot.enter inner) entry :=
        fun entry mem => ih entry mem resolved (named entry mem)
          ((lookup_eq_some_iff distinct).2 mem)
      exact (samples_directory each).trans (gather_cons_nil _).symm

/-! ### The samples of a corpus -/

/-- The sample at the end of some names below `root`, if they lead to a file. -/
def sampleAt? (cwd : Spot) (root : Path) (names : List FileName) : Option Sample :=
  match resolve cwd (root.below names) with
  | .ok (.file data, _) =>
    some { path := root.below names, relative := ⟨Path.joinPieces names⟩, data, cache := {} }
  | _ => none

/-- A path that leads somewhere contributes the sample there, if any. -/
theorem visit_eq_ok {cwd : Spot} {root : Path} {names : List FileName} {place : Place × Nat}
    (resolved : resolve cwd (root.below names) = .ok place)
    (h : ∀ name ∈ names, name.IsProper) (nonempty : names ≠ []) :
    visit cwd root (root.below names) = .ok (sampleAt? cwd root names).toList := by
  rw [visit, sampleAt?, resolved]
  obtain ⟨_ | _, _⟩ := place
  · simp only [contribution, Sample.loaded, root.stripPrefix?_below h nonempty]
    rfl
  · rfl

/-- Where everything leads somewhere, the samples are gathered one after the other. -/
theorem gather_visits {cwd : Spot} {root : Path} {met : List (List FileName)}
    (resolved : ∀ names ∈ met, ∃ place, resolve cwd (root.below names) = .ok place)
    (h : ∀ names ∈ met, ∀ name ∈ names, name.IsProper) (nonempty : [] ∉ met) :
    gather (met.map fun names => visit cwd root (root.below names)) =
      .ok (met.filterMap (sampleAt? cwd root)) := by
  have each : ∀ names ∈ met,
      visit cwd root (root.below names) = .ok (sampleAt? cwd root names).toList := by
    intro names mem
    obtain ⟨place, resolved⟩ := resolved names mem
    exact visit_eq_ok resolved (h names mem) fun none => nonempty (none ▸ mem)
  rw [List.map_congr_left each, gather_ok, List.filterMap_eq_flatMap_toList]

end Disk

open Disk

variable {cwd spot : Spot} {links : Nat} {root : Path}

/-- Loading visits what a walk of the root meets. -/
theorem Corpus.load_eq (reached : resolve cwd root = .ok (.directory spot, links))
    (proper : (directory spot.entries).Proper) : Corpus.load cwd root =
      (Tree.gather ((walk (.directory spot.entries)).map fun names =>
        visit cwd root (root.below names))).map fun samples => { root, samples } := by
  rw [Corpus.load, listTrees, reached, ← samples_directory]
  · rfl
  · exact fun entry mem => foundByWalk (proper.inner mem) reached (proper.named mem)
      ((lookup_eq_some_iff proper.distinct).2 mem)

/-- The first of some paths that leads nowhere. -/
theorem exists_first_fault {met : List (List FileName)}
    (failing : ∃ names ∈ met, ∃ fault, resolve cwd (root.below names) = .error fault) :
    ∃ past names future fault, met = past ++ names :: future ∧
      (∀ before ∈ past, ∃ place, resolve cwd (root.below before) = .ok place) ∧
      resolve cwd (root.below names) = .error fault := by
  induction met with
  | nil =>
    obtain ⟨names, mem, -⟩ := failing
    cases mem
  | cons first met ih =>
    cases resolved : resolve cwd (root.below first) with
    | error fault => exact ⟨[], first, met, fault, rfl, by simp, resolved⟩
    | ok place =>
      have failing : ∃ names ∈ met, ∃ fault, resolve cwd (root.below names) = .error fault := by
        obtain ⟨names, mem, fault, failed⟩ := failing
        rcases List.mem_cons.1 mem with rfl | later
        · rw [resolved] at failed
          cases failed
        · exact ⟨names, later, fault, failed⟩
      obtain ⟨past, names, future, fault, rfl, before, failed⟩ := ih failing
      exact ⟨first :: past, names, future, fault, rfl,
        List.forall_mem_cons.2 ⟨⟨place, resolved⟩, before⟩, failed⟩

/-- A sample is at the end of its names. -/
theorem path_of_sampleAt? {names : List FileName} {x : Sample}
    (h : sampleAt? cwd root names = some x) : x.path = root.below names := by
  rw [sampleAt?] at h
  split at h
  · obtain rfl := Option.some.inj h
    rfl
  · cases h

/-- Different samples of a corpus have different paths. -/
theorem Corpus.load_distinct (proper : cwd.Proper) {corpus : Corpus}
    (loaded : Corpus.load cwd root = .ok corpus) :
    (corpus.samples.map fun x => x.path.components).Nodup := by
  cases reached : resolve cwd root with
  | error fault =>
    rw [Corpus.load, listTrees, reached] at loaded
    cases loaded
  | ok place =>
    obtain ⟨data | spot, links⟩ := place
    · rw [Corpus.load, listTrees, reached] at loaded
      cases loaded
    · have proper' := proper_of_resolve proper reached
      have named := isProper_of_mem_walk proper'
      have nonempty := nil_notMem_walk (directory spot.entries)
      rw [Corpus.load_eq reached proper'] at loaded
      cases gathered : Tree.gather ((walk (directory spot.entries)).map fun names =>
          visit cwd root (root.below names)) with
      | error e =>
        rw [gathered] at loaded
        cases loaded
      | ok samples =>
        -- nothing that is met leads nowhere
        have resolved : ∀ names ∈ walk (directory spot.entries),
            ∃ place, resolve cwd (root.below names) = .ok place := by
          intro names mem
          obtain ⟨own, contributed⟩ := Tree.exists_of_gather_ok gathered _
            (List.mem_map_of_mem (f := fun names => visit cwd root (root.below names)) mem)
          cases result : resolve cwd (root.below names) with
          | ok place => exact ⟨place, rfl⟩
          | error fault =>
            simp only [visit, result, contribution] at contributed
            cases contributed
        have found := gathered.symm.trans (gather_visits resolved named nonempty)
        rw [gathered] at loaded
        cases loaded
        cases found
        rw [List.Nodup, List.pairwise_map, List.pairwise_filterMap]
        refine (walk_sorted proper').imp_of_mem ?_
        intro names names' mem mem' less x here y there same
        rw [path_of_sampleAt? here, path_of_sampleAt? there, root.components_below (named _ mem),
          root.components_below (named _ mem')] at same
        have alike := List.append_cancel_left same
        rw [List.map_injective_iff.2 (fun _ _ => Component.normal.inj) alike] at less
        exact List.lt_irrefl _ less

/-- Loading does not depend on the order of listing. -/
theorem Corpus.load_matches {cwd' : Spot} (h : cwd.Matches cwd') (root : Path) :
    Corpus.load cwd' root = Corpus.load cwd root := by
  have visits : ∀ path, visit cwd' root path = visit cwd root path := by
    intro path
    have same := resolve_matches h path
    rw [visit, visit]
    generalize resolve cwd path = result, resolve cwd' path = result' at same
    cases same <;> rfl
  have same := resolve_matches h root
  generalize reached : resolve cwd root = result, reached' : resolve cwd' root = result' at same
  cases same with
  | file data links => rw [Corpus.load, Corpus.load, listTrees, listTrees, reached, reached']
  | error fault => rw [Corpus.load, Corpus.load, listTrees, listTrees, reached, reached']
  | directory h links =>
    rw [Corpus.load_eq reached h.here.proper, Corpus.load_eq reached' h.here.proper',
      walk_eq h.here]
    simp only [visits]

/-- **Loading a corpus.**  Below an existing root, the entries that real directories lead to are met
once each, in the order of their names one by one, so that a directory comes before what is in it.
If every path that is met leads somewhere, the corpus has one sample for each that leads to a file,
links included, at the path below the root and with no view kept.  Otherwise the first one that
leads nowhere is the error.  The order in which directories are listed does not matter. -/
theorem Corpus.loading (proper : cwd.Proper)
    (reached : resolve cwd root = .ok (.directory spot, links)) :
    let met := walk (.directory spot.entries)
    (∀ names, names ∈ met ↔ (find? spot.entries names).isSome = true) ∧
    met.Pairwise (· < ·) ∧
    (∀ names disk, find? spot.entries names = some disk →
      root.below names = root.join (Path.joinPieces names) ∧
      (root.below names).components = root.components ++ names.map .normal ∧
      (⟨Path.joinPieces names⟩ : Path).components = names.map .normal ∧
      resolve cwd (root.below names) =
        if pathLimit ≤ (root.below names).bytes.length then .error .nameTooLong
        else follow links (spot.descend names.dropLast) disk) ∧
    ((∀ names ∈ met, ∃ place, resolve cwd (root.below names) = .ok place) →
      Corpus.load cwd root = .ok { root, samples := met.filterMap (sampleAt? cwd root) }) ∧
    ((∃ names ∈ met, ∃ fault, resolve cwd (root.below names) = .error fault) →
      ∃ past names future fault, met = past ++ names :: future ∧
        (∀ before ∈ past, ∃ place, resolve cwd (root.below before) = .ok place) ∧
        resolve cwd (root.below names) = .error fault ∧
        Corpus.load cwd root = .error (.filesystem (root.below names) fault)) ∧
    ∀ cwd', cwd.Relisted cwd' → Corpus.load cwd' root = Corpus.load cwd root := by
  have proper' := proper_of_resolve proper reached
  have named := isProper_of_mem_walk proper'
  have nonempty := nil_notMem_walk (directory spot.entries)
  refine ⟨fun names => mem_walk proper', walk_sorted proper', ?_, ?_, ?_, ?_⟩
  · intro names disk found
    have met := (mem_walk proper').2 (Option.isSome_of_mem found)
    have h := named names met
    refine ⟨root.below_eq_join h ?_, root.components_below h, Path.components_joinPieces h,
      resolve_below reached proper' found⟩
    exact fun none => nonempty (none ▸ met)
  · intro resolved
    rw [Corpus.load_eq reached proper', gather_visits resolved named nonempty]
    rfl
  · intro failing
    obtain ⟨past, names, future, fault, split, before, failed⟩ := exists_first_fault failing
    refine ⟨past, names, future, fault, split, before, failed, ?_⟩
    rw [split] at named nonempty
    have gathered := gather_visits before
      (fun names mem => named names (List.mem_append_left _ mem))
      (fun mem => nonempty (List.mem_append_left _ mem))
    rw [Corpus.load_eq reached proper', split, List.map_append, List.map_cons, visit, failed,
      contribution, Tree.gather_error gathered]
    rfl
  · exact fun cwd' relisted => Corpus.load_matches (relisted.matches proper) root

/-- The files `a/x` and `a.b`, a link `c` to the second one and a link `d` to the directory `a`, in
no order. -/
def Disk.shelf : Entries :=
  [([0x64], .link ⟨[0x61]⟩), ([0x61, 0x2E, 0x62], .file [2]),
    ([0x63], .link ⟨[0x61, 0x2E, 0x62]⟩), ([0x61], .directory [([0x78], .file [1])])]

/-- A working directory with the shelf at `r`. -/
def Disk.library : Spot :=
  ⟨[([0x72], .directory shelf)], []⟩

/-- The directory `a` comes before `a.b`, although `a/x` is after it as a string of bytes. -/
theorem Corpus.loading_shelf : library.Proper ∧
    resolve library ⟨[0x72]⟩ = .ok (.directory (library.enter shelf), linkLimit) ∧
    Corpus.load library ⟨[0x72]⟩ = .ok
      { root := ⟨[0x72]⟩
        samples :=
          [{ path := ⟨[0x72, 0x2F, 0x61, 0x2F, 0x78]⟩
             relative := ⟨[0x61, 0x2F, 0x78]⟩
             data := [1] },
           { path := ⟨[0x72, 0x2F, 0x61, 0x2E, 0x62]⟩
             relative := ⟨[0x61, 0x2E, 0x62]⟩
             data := [2] },
           { path := ⟨[0x72, 0x2F, 0x63]⟩
             relative := ⟨[0x63]⟩
             data := [2] }] } := by
  have inner : (directory [([0x78], .file [1])]).Proper :=
    .directory (by decide) (by decide) (List.forall_mem_cons.2 ⟨.file _, nofun⟩)
  have onShelf : (directory shelf).Proper := by
    refine .directory (by decide) (by decide) ?_
    simp only [shelf, List.forall_mem_cons]
    exact ⟨.link _, .file _, .link _, inner, nofun⟩
  have proper : library.Proper :=
    ⟨.directory (by decide) (by decide) (List.forall_mem_cons.2 ⟨onShelf, nofun⟩), nofun⟩
  have reached : resolve library ⟨[0x72]⟩ = .ok (.directory (library.enter shelf), linkLimit) := by
    cbv
  have resolved : ∀ names ∈ walk (directory shelf),
      ∃ place, resolve library (Path.below ⟨[0x72]⟩ names) = .ok place := by
    have all : (walk (directory shelf)).all
        (fun names => (resolve library (Path.below ⟨[0x72]⟩ names)).isOk) = true := by cbv
    intro names mem
    have ok := List.all_eq_true.1 all names mem
    cases result : resolve library (Path.below ⟨[0x72]⟩ names) with
    | ok place => exact ⟨place, rfl⟩
    | error fault => rw [result] at ok; cases ok
  obtain ⟨-, -, -, success, -⟩ := Corpus.loading proper reached
  refine ⟨proper, reached, (success resolved).trans ?_⟩
  cbv

-- Of two links that lead to themselves the first by name is the error, wherever it is listed.
example : Corpus.load ⟨[([0x79], .link ⟨[0x79]⟩), ([0x78], .link ⟨[0x78]⟩)], []⟩ ⟨[0x2E]⟩ =
    .error (.filesystem ⟨[0x2E, 0x2F, 0x78]⟩ .tooManyLinks) := by cbv

end LangBench
