import LangBench.Proofs.Corpus.Load
import LangBench.Proofs.Report.Label
import LangBench.Proofs.Run.Refusal
import LangBench.Proofs.Run.Standard
import LangBench.Proofs.Text.Utf8

/-!
# Labels in a run

In a standard run a label tells the strategy and the target of its report.  Two files may have the
same label, since blanks and what is not UTF-8 are not told apart in it; nothing else is mixed up.

* `reportsOf`: all reports in a trace;
* `Runner.exists_pairs`: they are on the first pairs of the modes that run, in order;
* `Registry.pairs_apart`: how two pairs of a standard run differ;
* `Path.label_inj`: paths that labels tell apart;
* `Report.IsOn.label_inj`: pairs that labels tell apart;
* `Runner.OnLookalikes`: two reports that their labels do not tell apart;
* `Runner.labels_run`: which reports of a run have the same label.
-/

namespace LangBench

open Text

variable {W : Type}

/-! ### The reports of a run -/

/-- The report that an event gives the sink, if it gives one. -/
def Event.report? : Event → Option Report
  | .told (.emit report) => some report
  | _ => none

/-- The reports in a trace. -/
def reportsOf (log : List Event) : List Report :=
  log.filterMap Event.report?

theorem reportsOf_append (log log' : List Event) :
    reportsOf (log ++ log') = reportsOf log ++ reportsOf log' :=
  List.filterMap_append

/-- Lists that are partners part by part are partners. -/
theorem forall₂_flatMap {α β γ : Type} {R : α → β → Prop} {f : γ → List α} {g : γ → List β}
    {cs : List γ} (h : ∀ c ∈ cs, List.Forall₂ R (f c) (g c)) :
    List.Forall₂ R (cs.flatMap f) (cs.flatMap g) := by
  have same : List.Forall₂ (fun c c' => c = c' ∧ c ∈ cs) cs cs :=
    List.forall₂_same.2 fun c mem => ⟨rfl, mem⟩
  refine List.rel_flatMap same ?_
  rintro c _ ⟨rfl, mem⟩
  exact h c mem

/-- What holds of any two elements of a list holds, as far as it is told, of their partners. -/
theorem pairwise_of_forall₂ {α β : Type} {R : α → β → Prop} {S : α → α → Prop}
    {T : β → β → Prop} {xs : List α} {ys : List β} (partners : List.Forall₂ R xs ys)
    (told : ∀ {x x' y y'}, S x x' → R x y → R x' y' → T y y') (h : xs.Pairwise S) :
    ys.Pairwise T := by
  induction partners with
  | nil => exact .nil
  | @cons x y xs ys first rest ih =>
    rw [List.pairwise_cons] at h ⊢
    refine ⟨?_, ih h.2⟩
    intro y' mem
    obtain ⟨i, at_i⟩ := List.mem_iff_getElem?.1 mem
    obtain ⟨x', at_i', partner⟩ := exists_getElem?_of_forall₂ rest.flip at_i
    exact told (h.1 x' (List.mem_of_getElem? at_i')) first partner

/-- A pair is on the whole corpus or on one of its samples, as the mode says. -/
theorem Registry.of_mem_pairs {registry : Registry (StateM W)} {bs : List Blob} {mode : Mode}
    {p : Pair W} (h : p ∈ registry.pairs bs mode) : ∃ s ∈ registry,
      (mode = .total ∧ p = .ofCorpus s bs) ∨ (mode = .perSample ∧ ∃ b ∈ bs, p = .ofSample s b) := by
  cases mode with
  | perSample =>
    obtain ⟨s, listed, hp⟩ := List.mem_flatMap.1 h
    obtain ⟨b, mem, rfl⟩ := List.mem_map.1 hp
    exact ⟨s, listed, .inr ⟨rfl, b, mem, rfl⟩⟩
  | total =>
    obtain ⟨s, listed, rfl⟩ := List.mem_map.1 h
    exact ⟨s, listed, .inl ⟨rfl, rfl⟩⟩

/-- The strategy of a pair is registered. -/
theorem Registry.strategy_mem_of_mem_pairs {registry : Registry (StateM W)} {bs : List Blob}
    {mode : Mode} {p : Pair W} (h : p ∈ registry.pairs bs mode) : p.strategy ∈ registry := by
  obtain ⟨s, listed, ⟨-, rfl⟩ | ⟨-, b, -, rfl⟩⟩ := of_mem_pairs h
  · exact listed
  · exact listed

/-- Only a report on the whole corpus has the target of one. -/
theorem Registry.target_eq_total_iff {registry : Registry (StateM W)} {bs : List Blob}
    {mode : Mode} {p : Pair W} (h : p ∈ registry.pairs bs mode) :
    p.target = .total ↔ mode = .total := by
  obtain ⟨s, -, ⟨rfl, rfl⟩ | ⟨rfl, b, -, rfl⟩⟩ := of_mem_pairs h
  · simp [Pair.ofCorpus]
  · simp [Pair.ofSample]

namespace Runner

variable {r : Runner (StateM W)}

theorem reportsOf_flatMap_events {pairs : List (Pair W)} {parts : List Part}
    (h : List.Forall₂ (fun p part => r.Reported p part.log part.report) pairs parts) :
    reportsOf (parts.flatMap Part.events) = parts.map Part.report := by
  induction h with
  | nil => rfl
  | @cons p part pairs parts reported _ ih =>
    rw [List.flatMap_cons, reportsOf_append, ih, Part.events, reportsOf_append, reportsOf,
      reported.filterMap_log fun _ _ _ => rfl]
    rfl

/-- The reports of a run that is seen to its end. -/
theorem Finished.reportsOf_eq {bs : List Blob} {secs : List Section} {summary : RunSummary}
    {log : List Event} (h : r.Finished bs secs summary log) :
    reportsOf log = secs.flatMap Section.reports := by
  have told : reportsOf [.told (.finish summary)] = [] := rfl
  rw [h.log_eq, reportsOf_append, told, List.append_nil, reportsOf, List.filterMap_flatMap]
  refine List.flatMap_congr fun sec mem => ?_
  exact reportsOf_flatMap_events (h.reported sec mem)

/-- The reports of a run are on pairs of the modes that run, in order, as far as the sink lets the
run go. -/
theorem exists_pairs (r : Runner (StateM W)) (sink : Sink (StateM W)) (corpus : Corpus) (w : W) :
    ∃ pairs, pairs <+: (Mode.all.filter r.config.runs).flatMap
        (r.registry.pairs (corpus.samples.map Sample.toBlob)) ∧
      List.Forall₂ (fun p report => p.strategy ∈ r.registry ∧
        report.IsOn p r.config.iterations) pairs (reportsOf (r.trace sink corpus w)) := by
  obtain ⟨secs, summary, -, finished⟩ := r.finished_run sink.infallible_pardoned corpus w
  have whole : List.Forall₂ (fun p report => p.strategy ∈ r.registry ∧
      report.IsOn p r.config.iterations)
      ((Mode.all.filter r.config.runs).flatMap
        (r.registry.pairs (corpus.samples.map Sample.toBlob)))
      (reportsOf (r.trace sink.pardoned corpus w)) := by
    rw [finished.reportsOf_eq, ← finished.modes_eq, List.flatMap_map]
    apply forall₂_flatMap
    intro sec mem
    have reported := forall₂_and_mem (finished.reported sec mem).flip
    refine List.forall₂_map_right_iff.2 (reported.flip.imp ?_)
    rintro p part ⟨hp, reported⟩
    exact ⟨Registry.strategy_mem_of_mem_pairs hp, reported.isOn⟩
  have first : reportsOf (r.trace sink corpus w) <+: reportsOf (r.trace sink.pardoned corpus w) :=
    (r.trace_pardoned sink corpus w).filterMap _
  rw [List.prefix_iff_eq_take.1 first]
  exact ⟨_, List.take_prefix _ _, List.forall₂_take _ whole⟩

end Runner

/-! ### Pairs of a standard run -/

theorem Method.labels_distinct :
    Method.all.Pairwise fun m m' => m.label ≠ m'.label := by
  decide +kernel

theorem Method.label_plain (m : Method) : ¬ ['(', ')'] <:+: m.label.toList := by
  cases m <;> decide +kernel

/-- Two pairs of a standard run differ in the label of the strategy or in the target, unless they
are on the same strategy and two files of different paths that have the same label. -/
theorem Registry.pairs_apart (rules : RuleBook) {bs : List Blob}
    (distinct : (bs.map fun b => b.path.components).Nodup) {modes : List Mode}
    (once : modes.Nodup) :
    (modes.flatMap ((Registry.standard rules : Registry (StateM W)).pairs bs)).Pairwise
      fun p q => p.strategy.label = q.strategy.label → p.target = q.target →
        ∃ m : Method, ∃ x ∈ bs, ∃ y ∈ bs, ¬x.path.SameAs y.path ∧
          p = .ofSample (m.registered rules) x ∧ q = .ofSample (m.registered rules) y := by
  rw [List.pairwise_flatMap]
  constructor
  · intro mode _
    cases mode with
    | perSample =>
      rw [pairs, standard, List.flatMap_map, List.pairwise_flatMap]
      constructor
      · intro m _
        rw [List.Nodup, List.pairwise_map] at distinct
        rw [List.pairwise_map]
        refine distinct.imp_of_mem ?_
        intro x y hx hy apart _ _
        exact ⟨m, x, hx, y, hy, apart, rfl, rfl⟩
      · refine Method.labels_distinct.imp ?_
        intro m m' apart p hp q hq same
        obtain ⟨x, -, rfl⟩ := List.mem_map.1 hp
        obtain ⟨y, -, rfl⟩ := List.mem_map.1 hq
        exact absurd same apart
    | total =>
      rw [pairs, standard, List.map_map, List.pairwise_map]
      refine Method.labels_distinct.imp ?_
      intro m m' apart same
      exact absurd same apart
  · -- two modes differ in whether the target is the whole corpus
    refine once.imp ?_
    intro mode mode' apart p hp q hq _ same
    have both : mode = .total ↔ mode' = .total := by
      rw [← target_eq_total_iff hp, ← target_eq_total_iff hq, same]
    cases mode with
    | total => exact absurd (both.1 rfl).symm apart
    | perSample =>
      cases mode' with
      | total => cases both.2 rfl
      | perSample => exact absurd rfl apart

/-! ### Paths -/

/-- Whether a path is UTF-8 without blanks. -/
def Path.IsPlain (p : Path) : Prop :=
  ∃ cs, p.bytes = Utf8.encode cs ∧ ∀ c ∈ cs, isBlank c = false

/-- The label of a plain path is the path. -/
theorem Path.IsPlain.bytes_eq {p : Path} (h : p.IsPlain) :
    p.bytes = Utf8.encode p.label.toList := by
  obtain ⟨cs, bytes, noBlank⟩ := h
  have kept : cs.map (fun c => if isBlank c then '_' else c) = cs := by
    rw [List.map_congr_left (g := id), List.map_id]
    intro c mem
    rw [noBlank c mem]
    rfl
  rw [Path.label, String.toList_ofList, Path.chars, bytes, Utf8.decodeLossy_encode, kept]

theorem Path.label_inj {p q : Path} (hp : p.IsPlain) (hq : q.IsPlain) (same : p.label = q.label) :
    p = q := by
  have bytes : p.bytes = q.bytes := by rw [hp.bytes_eq, hq.bytes_eq, same]
  obtain ⟨bs⟩ := p
  obtain ⟨bs'⟩ := q
  rw [Path.mk.injEq]
  exact bytes

/-! ### Labels -/

theorem Registry.plain_of_mem {rules : RuleBook} {s : Registered (StateM W)}
    (h : s ∈ (Registry.standard rules : Registry (StateM W))) :
    ¬ ['(', ')'] <:+: s.label.toList := by
  obtain ⟨m, -, rfl⟩ := List.mem_map.1 h
  exact m.label_plain

/-- What the labels of two reports on pairs of a standard run tell apart. -/
theorem Report.IsOn.label_inj {rules : RuleBook} {p q : Pair W} {n : Nat} {a b : Report}
    (onP : a.IsOn p n) (onQ : b.IsOn q n)
    (hp : p.strategy ∈ (Registry.standard rules : Registry (StateM W)))
    (hq : q.strategy ∈ (Registry.standard rules : Registry (StateM W))) :
    a.label = b.label ↔ p.strategy.label = q.strategy.label ∧ p.target = q.target := by
  rw [onP.label, onQ.label, labelFor_inj (Registry.plain_of_mem hp) (Registry.plain_of_mem hq)]
  simp

namespace Runner

variable {r : Runner (StateM W)} {rules : RuleBook}

/-- Two reports of one strategy on two samples of different paths that have the same label. -/
def OnLookalikes (r : Runner (StateM W)) (rules : RuleBook) (corpus : Corpus) (a b : Report) :
    Prop :=
  ∃ m : Method, ∃ x ∈ corpus.samples, ∃ y ∈ corpus.samples,
    ¬x.path.SameAs y.path ∧ x.label = y.label ∧
    a.IsOn (W := W) (.ofSample (m.registered rules) x.toBlob) r.config.iterations ∧
    b.IsOn (W := W) (.ofSample (m.registered rules) y.toBlob) r.config.iterations

/-- Reports with the same label are on files that look alike. -/
theorem onLookalikes_of_label_eq {corpus : Corpus}
    (distinct : (corpus.samples.map fun x => x.path.components).Nodup)
    (standard : r.registry = .standard rules) {pairs : List (Pair W)} {reports : List Report}
    (first : pairs <+: (Mode.all.filter r.config.runs).flatMap
      (r.registry.pairs (corpus.samples.map Sample.toBlob)))
    (on : List.Forall₂ (fun p report => p.strategy ∈ r.registry ∧
      report.IsOn p r.config.iterations) pairs reports) :
    reports.Pairwise fun a b => a.label = b.label → r.OnLookalikes rules corpus a b := by
  have files : ((corpus.samples.map Sample.toBlob).map fun b => b.path.components).Nodup := by
    rw [List.map_map]
    exact distinct
  have once : (Mode.all.filter r.config.runs).Nodup := List.Nodup.filter _ (by decide)
  have apart := Registry.pairs_apart (W := W) rules files once
  rw [standard] at first on
  refine pairwise_of_forall₂ on ?_ (apart.sublist first.sublist)
  rintro p q a b apart ⟨hp, onP⟩ ⟨hq, onQ⟩ same
  obtain ⟨strategy, target⟩ := (onP.label_inj onQ hp hq).1 same
  obtain ⟨m, x, hx, y, hy, different, rfl, rfl⟩ := apart strategy target
  obtain ⟨x, memX, rfl⟩ := List.mem_map.1 hx
  obtain ⟨y, memY, rfl⟩ := List.mem_map.1 hy
  exact ⟨m, x, memX, y, memY, different, Target.sample.inj target, onP, onQ⟩

/-- **Labels in a run.**  The samples of a corpus that was loaded have different paths.  In a run of
the standard strategies over it, in any modes and with any sink, every report is of one of these and
on all samples or on one of them, and its label tells which strategy and target.  Two reports
with the same label are of the same strategy and on two files of different paths, whose labels are
the same.  So if the paths are UTF-8 without blanks, no two reports have the same label. -/
theorem labels_run {cwd : Disk.Spot} (proper : cwd.Proper) {root : Path} {corpus : Corpus}
    (loaded : Corpus.load cwd root = .ok corpus) (standard : r.registry = .standard rules)
    (sink : Sink (StateM W)) (w : W) :
    (corpus.samples.map fun x => x.path.components).Nodup ∧
    (∀ a ∈ reportsOf (r.trace sink corpus w), (∃ m : Method, a.strategy = m.label) ∧
      (a.target = .total ∨ ∃ x ∈ corpus.samples, a.target = .sample x.label)) ∧
    (∀ a ∈ reportsOf (r.trace sink corpus w), ∀ b ∈ reportsOf (r.trace sink corpus w),
      a.label = b.label ↔ a.strategy = b.strategy ∧ a.target = b.target) ∧
    ((reportsOf (r.trace sink corpus w)).Pairwise fun a b =>
      a.label = b.label → r.OnLookalikes rules corpus a b) ∧
    ((∀ x ∈ corpus.samples, x.path.IsPlain) →
      ((reportsOf (r.trace sink corpus w)).map Report.label).Nodup) := by
  have distinct := Corpus.load_distinct proper loaded
  obtain ⟨pairs, first, on⟩ := r.exists_pairs sink corpus w
  have lookalikes := onLookalikes_of_label_eq distinct standard first on
  rw [standard] at first on
  refine ⟨distinct, ?_, ?_, lookalikes, ?_⟩
  · intro a ha
    obtain ⟨i, at_i⟩ := List.mem_iff_getElem?.1 ha
    obtain ⟨p, at_p, -, onP⟩ := exists_getElem?_of_forall₂ on.flip at_i
    obtain ⟨mode, -, paired⟩ := List.mem_flatMap.1 (first.subset (List.mem_of_getElem? at_p))
    obtain ⟨s, listed, kind⟩ := Registry.of_mem_pairs paired
    obtain ⟨m, -, rfl⟩ := List.mem_map.1 listed
    rw [onP.strategy, onP.target]
    rcases kind with ⟨-, rfl⟩ | ⟨-, b, mem, rfl⟩
    · exact ⟨⟨m, rfl⟩, .inl rfl⟩
    · obtain ⟨x, member, rfl⟩ := List.mem_map.1 mem
      exact ⟨⟨m, rfl⟩, .inr ⟨x, member, rfl⟩⟩
  · intro a ha b hb
    obtain ⟨i, at_i⟩ := List.mem_iff_getElem?.1 ha
    obtain ⟨j, at_j⟩ := List.mem_iff_getElem?.1 hb
    obtain ⟨p, -, hp, onP⟩ := exists_getElem?_of_forall₂ on.flip at_i
    obtain ⟨q, -, hq, onQ⟩ := exists_getElem?_of_forall₂ on.flip at_j
    rw [onP.label_inj onQ hp hq, onP.strategy, onP.target, onQ.strategy, onQ.target]
  · intro plain
    rw [List.Nodup, List.pairwise_map]
    refine lookalikes.imp ?_
    intro a b lookalikes same
    obtain ⟨m, x, hx, y, hy, different, labels, -, -⟩ := lookalikes same
    have equal : x.path = y.path := Path.label_inj (plain x hx) (plain y hy) labels
    exact different (congrArg Path.components equal)

end Runner

/-- A working directory with two empty files in the directory `r`. -/
def Disk.twoFiles (name name' : FileName) : Disk.Spot :=
  ⟨[([0x72], .directory [(name, .file []), (name', .file [])])], []⟩

/-- The two files as samples. -/
def Corpus.twoFiles (name name' : FileName) : Corpus where
  root := ⟨[0x72]⟩
  samples := [name, name'].map fun name => .loaded ⟨[0x72]⟩ (Path.join ⟨[0x72]⟩ name) []

theorem Disk.proper_twoFiles {name name' : FileName} (different : name ≠ name')
    (named : name.IsProper) (named' : name'.IsProper) : (twoFiles name name').Proper := by
  have root : FileName.IsProper [0x72] := by decide
  have inner : (directory [(name, .file []), (name', .file [])]).Proper :=
    .directory (by simpa using different)
      (List.forall_mem_cons.2 ⟨named, List.forall_mem_cons.2 ⟨named', nofun⟩⟩)
      (List.forall_mem_cons.2 ⟨.file _, List.forall_mem_cons.2 ⟨.file _, nofun⟩⟩)
  exact ⟨.directory (List.nodup_singleton _) (List.forall_mem_cons.2 ⟨root, nofun⟩)
    (List.forall_mem_cons.2 ⟨inner, nofun⟩), nofun⟩

namespace Runner

/-- The standard strategies without rules and languages, each called once. -/
def unruled : Runner (StateM Unit) where
  config := { iterations := 1 }
  registry := Registry.standard ⟨[]⟩
  context := { languages := .empty, statistics := {} }
  clock := pure .zero

/-- The labels of the files `a` and `b`. -/
theorem labels_run_plain :
    Corpus.load (Disk.twoFiles [0x61] [0x62]) ⟨[0x72]⟩ = .ok (.twoFiles [0x61] [0x62]) ∧
    ((reportsOf (unruled.trace .accepting (.twoFiles [0x61] [0x62]) ())).map
      Report.label).Nodup := by
  have proper : (Disk.twoFiles [0x61] [0x62]).Proper :=
    Disk.proper_twoFiles (by decide) (by decide) (by decide)
  have loaded : Corpus.load (Disk.twoFiles [0x61] [0x62]) ⟨[0x72]⟩ =
      .ok (.twoFiles [0x61] [0x62]) := by cbv
  obtain ⟨-, -, -, -, apart⟩ := unruled.labels_run proper loaded rfl .accepting ()
  refine ⟨loaded, apart ?_⟩
  have plain : ∀ letter, isBlank letter = false →
      Path.IsPlain ⟨Utf8.encode ['r', '/', letter]⟩ := by
    intro letter noBlank
    exact ⟨_, rfl, by simp only [List.forall_mem_cons]; exact ⟨rfl, rfl, noBlank, List.forall_mem_nil _⟩⟩
  rw [Corpus.twoFiles, List.forall_mem_map]
  exact List.forall_mem_cons.2 ⟨plain 'a' rfl, List.forall_mem_cons.2 ⟨plain 'b' rfl,
    List.forall_mem_nil _⟩⟩

/-- The files `a b` and `a_b` have the same label, and so have the reports on them. -/
theorem labels_run_blank :
    (Disk.twoFiles [0x61, 0x20, 0x62] [0x61, 0x5F, 0x62]).Proper ∧
    Corpus.load (Disk.twoFiles [0x61, 0x20, 0x62] [0x61, 0x5F, 0x62]) ⟨[0x72]⟩ =
      .ok (.twoFiles [0x61, 0x20, 0x62] [0x61, 0x5F, 0x62]) ∧
    ¬ ((reportsOf (unruled.trace .accepting
      (.twoFiles [0x61, 0x20, 0x62] [0x61, 0x5F, 0x62]) ())).map Report.label).Nodup := by
  refine ⟨Disk.proper_twoFiles (by decide) (by decide) (by decide), ?_, ?_⟩
  · cbv
  · decide +kernel

end Runner

end LangBench
