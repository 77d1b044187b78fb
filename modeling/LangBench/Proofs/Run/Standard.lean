import LangBench.Proofs.Run.Isolation

/-!
# What fails in a standard run

Of the strategies that detection has by itself, only those that look for lines can fail, and only on
a file whose content is no text in its encoding.

* `Method.decodes`, `Method.contentFault?`: which strategies look for the lines of a file, and what
  they find wrong with it;
* `Subject`, `subjects`: what a mode reports on, in order;
* `Finding`, `findings`: what the reports of a mode say of failures;
* `Runner.findings_run`: that is what they say.
-/

namespace LangBench

namespace Method

variable (rules : RuleBook) (b : Blob)

/-- Whether a strategy looks for the lines of a file. -/
def decodes : Method → Bool
  | .modeline => true
  | .content => !(rules.rulesFor b.name).isEmpty
  | .naiveBayes | .filename | .shebang | .extension => false

/-- What a strategy finds wrong with the content of a file. -/
def contentFault? (m : Method) : Option ContentFault :=
  if m.decodes rules b then faultOf (Encoding.decodeLines b.data (.sniff b.data)) else none

/-- The reason of a failure on some files: what is wrong with the first one with which something
is. -/
def reason? (rules : RuleBook) (m : Method) (bs : List Blob) : Option String :=
  bs.findSome? fun b => (m.contentFault? rules b).map fun fault =>
    s!"{m.label} failed on {b.label}: Malformed content: {fault.message}"

/-- A strategy finds something wrong if and only if it looks for lines and there are none. -/
theorem contentFault?_isSome_iff (m : Method) : (m.contentFault? rules b).isSome = true ↔
    (∃ fault, Encoding.decodeLines b.data (.sniff b.data) = .error fault) ∧
      (m = .modeline ∨ m = .content ∧ rules.rulesFor b.name ≠ []) := by
  have looks : m.decodes rules b = true ↔
      m = .modeline ∨ m = .content ∧ rules.rulesFor b.name ≠ [] := by
    cases m <;> simp [decodes]
  have faulty : (faultOf (Encoding.decodeLines b.data (.sniff b.data))).isSome = true ↔
      ∃ fault, Encoding.decodeLines b.data (.sniff b.data) = .error fault := by
    cases Encoding.decodeLines b.data (.sniff b.data) <;> simp
  rw [contentFault?, ← looks, ← faulty]
  split
  case isTrue h => simp [h]
  case isFalse h => simp [h]

theorem reason?_isSome_iff (m : Method) (bs : List Blob) :
    (m.reason? rules bs).isSome = true ↔ ∃ b ∈ bs,
      (∃ fault, Encoding.decodeLines b.data (.sniff b.data) = .error fault) ∧
        (m = .modeline ∨ m = .content ∧ rules.rulesFor b.name ≠ []) := by
  rw [reason?, List.findSome?_isSome_iff]
  refine exists_congr fun b => and_congr_right fun _ => ?_
  rw [Option.isSome_map, contentFault?_isSome_iff]

/-- The lines of a file or what is wrong with it, for those that look for them. -/
theorem failure?_lines {f : List String → List String} :
    (Call.ofExcept (b.lines.map f) : Answer).failure? =
      (faultOf (Encoding.decodeLines b.data (.sniff b.data))).map fun fault =>
        .error (.malformed fault) := by
  unfold Blob.lines Blob.encoding
  cases Encoding.decodeLines b.data (.sniff b.data) <;> rfl

/-- A call fails only for what is wrong with the content. -/
theorem failure?_answer (context : Context) (m : Method) : (m.answer rules context b).failure? =
    (m.contentFault? rules b).map fun fault => .error (.malformed fault) := by
  have silent : m.decodes rules b = false → (m.answer rules context b).failure? = none := by
    intro never
    cases m with
    | modeline => cases never
    | content =>
      have none : rules.rulesFor b.name = [] := by simpa [decodes] using never
      rw [answer, none]
      rfl
    | naiveBayes | filename | shebang | extension => rfl
  unfold contentFault?
  split
  case isFalse never => exact silent (by simpa using never)
  case isTrue looks =>
    cases m with
    | modeline => exact failure?_lines b
    | content =>
      rw [answer]
      split
      case h_1 none => simp [decodes, none] at looks
      case h_2 => exact failure?_lines b
    | naiveBayes | filename | shebang | extension => cases looks

/-- What a report says of such a failure. -/
theorem message_strategyError {W : Type} (m : Method) (fault : ContentFault) :
    (Runner.strategyError (m.registered rules : Registered (StateM W)) b
      (.error (.malformed fault))).message =
      s!"{m.label} failed on {b.label}: Malformed content: {fault.message}" := by
  have reason : CallFailure.reason DetectError.message (.error (.malformed fault)) =
      "Malformed content: " ++ fault.message := rfl
  have joined : ": Malformed content: " = ": " ++ "Malformed content: " := rfl
  rw [Runner.strategyError, reason]
  change m.label ++ " failed on " ++ b.label ++ ": " ++ ("Malformed content: " ++ fault.message) =
    m.label ++ " failed on " ++ b.label ++ ": Malformed content: " ++ fault.message
  rw [joined]
  simp only [String.append_assoc]

end Method

/-- What a mode reports on: a strategy and what it is measured on. -/
structure Subject where
  method : Method
  target : Target
  blobs : List Blob

/-- What a mode reports on, in order. -/
def subjects (bs : List Blob) : Mode → List Subject
  | .perSample => Method.all.flatMap fun m => bs.map fun b => ⟨m, .sample b.label, [b]⟩
  | .total => Method.all.map fun m => ⟨m, .total, bs⟩

/-- What a report says of a failure: of whom, on what, and why if there is one. -/
structure Finding where
  strategy : String
  target : Target
  reason? : Option String
  deriving DecidableEq, Repr

/-- What a report says of a failure. -/
def Report.finding (report : Report) : Finding :=
  ⟨report.strategy, report.target, report.failure?⟩

/-- What is to be said of a failure, if calls are made at all. -/
def Subject.finding (rules : RuleBook) (iterations : Nat) (subject : Subject) : Finding where
  strategy := subject.method.label
  target := subject.target
  reason? := if iterations = 0 then none else subject.method.reason? rules subject.blobs

/-- What is to be said of failures in a mode. -/
def findings (rules : RuleBook) (iterations : Nat) (bs : List Blob) (mode : Mode) : List Finding :=
  (subjects bs mode).map (Subject.finding rules iterations)

variable {W : Type}

/-- The pair of a subject. -/
def Subject.pair (rules : RuleBook) (mode : Mode) (subject : Subject) : Pair W where
  strategy := subject.method.registered rules
  mode
  target := subject.target
  blobs := subject.blobs

theorem Registry.pairs_standard (rules : RuleBook) (bs : List Blob) (mode : Mode) :
    (Registry.standard rules : Registry (StateM W)).pairs bs mode =
      (subjects bs mode).map (Subject.pair rules mode) := by
  cases mode with
  | perSample =>
    simp only [pairs, standard, subjects, List.flatMap_map, List.map_flatMap, List.map_map]
    rfl
  | total =>
    simp only [pairs, standard, subjects, List.map_map]
    rfl

namespace Runner

variable {r : Runner (StateM W)} {sink : Sink (StateM W)}

/-- The report on a subject whose samples keep only what they can. -/
theorem Reported.finding_eq {rules : RuleBook} {mode : Mode} {subject : Subject}
    {log : List Event} {report : Report} (h : r.Reported (subject.pair rules mode) log report)
    (holds : ∀ strategy b c answer, .called strategy (.sample b c) answer ∈ log → c.Holds b) :
    report.finding = subject.finding rules r.config.iterations := by
  have answers : ∀ x w, r.callEvent (subject.method.registered rules) x w ∈ log →
      (r.answerAt (subject.method.registered rules) x w).failure? =
        (subject.method.contentFault? rules x.toBlob).map fun fault =>
          .error (.malformed fault) := by
    intro x w called
    rw [answerAt, subject.method.answer_of_holds, Method.failure?_answer]
    intro b c given
    rw [callEvent, given] at called
    exact holds _ b c _ called
  have failure := h.failure?_of_answers
    (g := fun b => (subject.method.contentFault? rules b).map fun fault =>
      .error (.malformed fault)) answers
  have heading := h.isOn
  unfold Report.finding Subject.finding
  rw [heading.strategy, heading.target, failure]
  congr 2
  rw [List.map_findSome?]
  refine congrArg (List.findSome? · subject.blobs) (funext fun b => ?_)
  rw [Function.comp, Option.map_map, Option.map_map]
  refine congrArg (Option.map · _) (funext fun fault => ?_)
  exact Method.message_strategyError rules b subject.method fault

/-- The reports on the subjects of a mode. -/
theorem map_finding_parts {rules : RuleBook} {bs : List Blob} {mode : Mode} {parts : List Part}
    (reported : List.Forall₂ (fun p part => r.Reported p part.log part.report)
      ((Registry.standard rules : Registry (StateM W)).pairs bs mode) parts)
    (holds : ∀ part ∈ parts, ∀ strategy b c answer,
      .called strategy (.sample b c) answer ∈ part.log → c.Holds b) :
    (parts.map Part.report).map Report.finding = findings rules r.config.iterations bs mode := by
  rw [Registry.pairs_standard, List.forall₂_map_left_iff] at reported
  have same : List.Forall₂ (fun (subject : Subject) (part : Part) =>
      subject.finding rules r.config.iterations = part.report.finding) (subjects bs mode)
      parts := by
    refine (forall₂_and_mem reported).imp ?_
    rintro subject part ⟨mem, reported⟩
    exact (reported.finding_eq (holds part mem)).symm
  have equal : List.Forall₂ (· = ·)
      ((subjects bs mode).map (Subject.finding rules r.config.iterations))
      (parts.map fun part => part.report.finding) :=
    List.forall₂_map_left_iff.2 (List.forall₂_map_right_iff.2 same)
  rw [List.forall₂_eq_eq_eq] at equal
  rw [findings, equal, List.map_map]
  rfl

/-- A failed report is one that says why. -/
theorem countP_isFailed (reports : List Report) : reports.countP Report.isFailed =
    (reports.map Report.finding).countP fun finding => finding.reason?.isSome := by
  rw [List.countP_map]
  rfl

/-- **What fails in a standard run.**  With a sink that never fails, the reports of each mode say
of failures what is to be said, and the summary counts those that fail.  A strategy fails on some
files if and only if it looks for the lines of one of them whose content is no text in its
encoding. -/
theorem findings_run (r : Runner (StateM W)) {rules : RuleBook}
    (standard : r.registry = Registry.standard rules) {sink : Sink (StateM W)}
    (infallible : sink.Infallible) (corpus : Corpus)
    (kept : ∀ x ∈ corpus.samples, x.cache.Holds x.toBlob) (w : W) :
    (∃ summary, ((r.run sink corpus).run w).1.1 = .ok summary ∧
      (∀ mode ∈ r.config.modes,
        (reportsIn mode (r.trace sink corpus w)).map Report.finding =
          findings rules r.config.iterations (corpus.samples.map Sample.toBlob) mode) ∧
      summary.failed = ((Mode.all.filter r.config.runs).flatMap
        (findings rules r.config.iterations (corpus.samples.map Sample.toBlob))).countP
          fun finding => finding.reason?.isSome) ∧
    ∀ (m : Method) (bs : List Blob), (m.reason? rules bs).isSome = true ↔ ∃ b ∈ bs,
      (∃ fault, Encoding.decodeLines b.data (.sniff b.data) = .error fault) ∧
        (m = .modeline ∨ m = .content ∧ rules.rulesFor b.name ≠ []) := by
  refine ⟨?_, Method.reason?_isSome_iff rules⟩
  obtain ⟨secs, summary, result, finished⟩ := r.finished_run infallible corpus w
  -- a reset sample keeps nothing, so no call meets a cache that the file cannot have
  have holds : ∀ strategy b c answer,
      .called strategy (.sample b c) answer ∈ r.trace sink corpus w → c.Holds b := by
    intro strategy b c answer called
    exact (r.walk_run sink corpus w).of_called (P := fun x => x.cache.Holds x.toBlob)
      (fun _ _ => .empty) kept called
  have told : ∀ sec ∈ secs, sec.reports.map Report.finding =
      findings rules r.config.iterations (corpus.samples.map Sample.toBlob) sec.mode := by
    intro sec mem
    have reported := finished.reported sec mem
    rw [standard] at reported
    exact map_finding_parts reported fun part hpart strategy b c answer called =>
      holds strategy b c answer (finished.mem_of_mem_log mem hpart called)
  refine ⟨summary, result, ?_, ?_⟩
  · intro mode runs
    have named : mode ∈ secs.map Section.mode := by
      rw [finished.modes_eq, List.mem_filter]
      exact ⟨by cases mode <;> decide, by simpa [Config.runs] using runs⟩
    obtain ⟨sec, mem, rfl⟩ := List.mem_map.1 named
    rw [finished.reportsIn_eq mem, told sec mem]
  · have counted : summary.failed = (secs.flatMap Section.reports).countP Report.isFailed := by
      rw [finished.summary_eq, RunSummary.failed_foldl]
      exact Nat.zero_add _
    rw [counted, countP_isFailed, List.map_flatMap, ← finished.modes_eq, List.flatMap_map]
    congr 1
    exact List.flatMap_congr told

/-- A header of half a character in UTF-16, with a rule for headers. -/
def header : Runner (StateM Unit) where
  config := { iterations := 1 }
  registry := Registry.standard ⟨[⟨[".h"], [⟨"C", none⟩]⟩]⟩
  context := { languages := .empty, statistics := {} }
  clock := pure .zero

/-- The header itself. -/
def headers : Corpus where
  root := .ofString ""
  samples := [.new (.ofString "a.h") [0xFF, 0xFE, 0x41]]

theorem findings_header : ∃ summary,
    ((header.run .accepting headers).run ()).1.1 = .ok summary ∧ summary.failed = 4 ∧
    ⟨"GetLanguagesByModeline", .total, some ("GetLanguagesByModeline failed on a.h: " ++
      "Malformed content: UTF-16 payload has odd length 1")⟩ ∈
        (reportsIn .total (header.trace .accepting headers ())).map Report.finding := by
  have kept : ∀ x ∈ headers.samples, x.cache.Holds x.toBlob := by
    intro x mem
    obtain rfl := List.mem_singleton.1 mem
    exact .empty
  obtain ⟨⟨summary, result, told, failed⟩, -⟩ :=
    header.findings_run rfl Sink.infallible_accepting headers kept ()
  refine ⟨summary, result, failed.trans (by decide +kernel), ?_⟩
  rw [told .total (by decide)]
  decide +kernel

end Runner

end LangBench
