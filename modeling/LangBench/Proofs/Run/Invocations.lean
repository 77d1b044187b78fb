import LangBench.Proofs.Run.Schedule

/-!
# The calls of one pair

A strategy is called on the files of a pass as often as the configuration says, and as often before
that if it is rehearsed.  The first call that fails is the last one, and the report tells of it.

* `Invocation`: a call of a strategy, with the sample that it was about and the answer;
* `Runner.Invoked`: what the calls of a pair and its outcome have to do with the schedule;
* `Runner.Tried.exists_invocations`: how far a schedule is followed;
* `Runner.Reported.exists_invocations`: so the calls behind a report are as described;
* `Runner.reported_benchSample`, `Runner.reported_benchCorpus`: a strategy may be measured that is
  not registered;
* `Runner.invocations`: the calls of every pair.
-/

namespace LangBench

open Watched

variable {W : Type}

/-- A call of a strategy: the sample that it was about, and how it ended. -/
structure Invocation where
  sample : Sample
  answer : Answer

namespace Invocation

/-- The file that a call was about. -/
def blob (c : Invocation) : Blob :=
  c.sample.toBlob

/-- What is written down of a call of the strategy `s`. -/
def event (s : Registered (StateM W)) (c : Invocation) : Event :=
  .called s.label (s.given c.sample) c.answer

/-- Whether a call gave no value. -/
def Failed (c : Invocation) : Prop :=
  c.answer.failure? ≠ none

theorem failed_of_failure? {c : Invocation} {f : CallFailure DetectError}
    (h : c.answer.failure? = some f) : c.Failed := by
  rw [Failed, h]
  exact Option.some_ne_none f

end Invocation

theorem length_rounds (k : Nat) (bs : List Blob) : (rounds k bs).length = k * bs.length := by
  induction k with
  | zero => rw [rounds_zero, List.length_nil, Nat.zero_mul]
  | succ k ih =>
    rw [rounds_succ, List.length_append, ih, Nat.succ_mul]
    omega

namespace Runner

variable {r : Runner (StateM W)} {s : Registered (StateM W)}

/-- The calls of the strategy `s` on the files of a pass, and the outcome of their pair. -/
structure Invoked (r : Runner (StateM W)) (s : Registered (StateM W)) (files : List Blob)
    (calls : List Invocation) (outcome : Outcome) : Prop where
  /-- The calls go through the files in turn, pass after pass. -/
  scheduled : calls.map Invocation.blob <+: rounds r.passes files
  /-- No call follows one that failed. -/
  last : ∀ before c after, calls = before ++ c :: after → c.Failed → after = []
  /-- If none failed, the files were gone through in every pass, once more for the rehearsal. -/
  whole : (∀ c ∈ calls, ¬c.Failed) → calls.map Invocation.blob =
    rounds (if r.config.warmup then 2 * r.config.iterations else r.config.iterations) files
  /-- So that many calls were made. -/
  number : (∀ c ∈ calls, ¬c.Failed) → calls.length =
    (if r.config.warmup then 2 * r.config.iterations else r.config.iterations) * files.length
  /-- If a call of the rehearsal failed, nothing was called after the rehearsal. -/
  rehearsal : r.config.warmup = true →
    ∀ c ∈ calls.take (r.config.iterations * files.length), c.Failed →
      calls.length ≤ r.config.iterations * files.length
  /-- The pair failed if and only if a call did. -/
  failed_iff : (∃ reason, outcome = .failed reason) ↔ ∃ c ∈ calls, c.Failed
  /-- An error is told with its text. -/
  error : ∀ c ∈ calls, ∀ e, c.answer = .error e →
    outcome = .failed (s.label ++ " failed on " ++ c.blob.label ++ ": " ++ e.message)
  /-- A panic is told with its message. -/
  panicked : ∀ c ∈ calls, ∀ payload, c.answer = .panicked payload →
    outcome =
      .failed (s.label ++ " failed on " ++ c.blob.label ++ ": panicked: " ++ payload.message)

/-! ### Calls in turn -/

/-- What is tried is a list of calls that follows the schedule.  Either none of them failed and the
schedule was followed to its end, or the last one failed, and only that. -/
theorem Tried.exists_invocations {schedule : List Blob} {log : List Event}
    {fault : Option BenchError} (h : Tried r s schedule log fault) :
    ∃ calls : List Invocation, log = calls.map (Invocation.event s) ∧
      ((fault = none ∧ calls.map Invocation.blob = schedule ∧ ∀ c ∈ calls, ¬c.Failed) ∨
        ∃ before c rest f, calls = before ++ [c] ∧
          calls.map Invocation.blob ++ rest = schedule ∧ (∀ d ∈ before, ¬d.Failed) ∧
          c.answer.failure? = some f ∧ fault = some (strategyError s c.blob f)) := by
  induction h with
  | nil => exact ⟨[], rfl, .inl ⟨rfl, rfl, by simp⟩⟩
  | @passed x w bs log fault answered _ ih =>
    obtain ⟨calls, rfl, followed⟩ := ih
    have first : ¬(Invocation.mk x (r.answerAt s x w)).Failed := by
      rw [Invocation.Failed, answered]
      exact fun h => h rfl
    refine ⟨⟨x, r.answerAt s x w⟩ :: calls, rfl, ?_⟩
    rcases followed with ⟨rfl, rfl, passed⟩ | ⟨before, c, rest, f, rfl, rfl, passed, failed, rfl⟩
    · exact .inl ⟨rfl, rfl, List.forall_mem_cons.2 ⟨first, passed⟩⟩
    · exact .inr ⟨_ :: before, c, rest, f, rfl, rfl, List.forall_mem_cons.2 ⟨first, passed⟩,
        failed, rfl⟩
  | @failed x w bs f answered =>
    exact ⟨[⟨x, r.answerAt s x w⟩], rfl,
      .inr ⟨[], ⟨x, r.answerAt s x w⟩, bs, f, rfl, rfl, by simp, answered, rfl⟩⟩

/-- The passes of a pair, as a number. -/
theorem passes_eq (r : Runner (StateM W)) : r.passes =
    if r.config.warmup then 2 * r.config.iterations else r.config.iterations := by
  unfold passes
  split
  · rw [Nat.two_mul]
  · rfl

/-- The reason that is told of a failed call. -/
theorem message_of_failure? {b : Blob} {answer : Answer} {f : CallFailure DetectError}
    (h : answer.failure? = some f) :
    (∀ e, answer = .error e → (strategyError s b f).message =
      s.label ++ " failed on " ++ b.label ++ ": " ++ e.message) ∧
    ∀ payload, answer = .panicked payload → (strategyError s b f).message =
      s.label ++ " failed on " ++ b.label ++ ": panicked: " ++ payload.message := by
  constructor
  · rintro e rfl
    obtain rfl := Option.some.inj h
    rfl
  · rintro payload rfl
    obtain rfl := Option.some.inj h
    have joined : ": panicked: " = ": " ++ "panicked: " := rfl
    rw [joined, ← String.append_assoc, String.append_assoc]
    rfl

/-- No call failed, and the pair is told to be complete. -/
theorem invoked_of_passed {files : List Blob} {calls : List Invocation} {outcome : Outcome}
    (passed : ∀ c ∈ calls, ¬c.Failed) (followed : calls.map Invocation.blob = rounds r.passes files)
    (completed : ∀ reason, outcome ≠ .failed reason) : r.Invoked s files calls outcome := by
  have length := congrArg List.length followed
  rw [List.length_map, length_rounds, passes_eq] at length
  have returned : ∀ c ∈ calls, c.answer.failure? = none := fun c mem => not_not.1 (passed c mem)
  constructor
  case scheduled => exact ⟨[], by rw [List.append_nil, followed]⟩
  case last =>
    rintro before c after rfl failed
    exact absurd failed (passed c (by simp))
  case whole =>
    intro _
    rw [followed, passes_eq]
  case number =>
    intro _
    exact length
  case rehearsal =>
    intro _ c mem failed
    exact absurd failed (passed c (List.mem_of_mem_take mem))
  case failed_iff =>
    constructor
    · rintro ⟨reason, ended⟩
      exact absurd ended (completed reason)
    · rintro ⟨c, mem, failed⟩
      exact absurd failed (passed c mem)
  case error =>
    intro c mem e answered
    have none := returned c mem
    rw [answered] at none
    cases none
  case panicked =>
    intro c mem payload answered
    have none := returned c mem
    rw [answered] at none
    cases none

/-- The last call failed, and the pair is told to have failed in it. -/
theorem invoked_of_failed {files : List Blob} {before : List Invocation} {c : Invocation}
    {f : CallFailure DetectError} (passed : ∀ d ∈ before, ¬d.Failed)
    (failed : c.answer.failure? = some f)
    (followed : (before ++ [c]).map Invocation.blob <+: rounds r.passes files) :
    r.Invoked s files (before ++ [c]) (.failed (strategyError s c.blob f).message) := by
  have fails : c.Failed := Invocation.failed_of_failure? failed
  have member : c ∈ before ++ [c] := by simp
  have only : ∀ d ∈ before ++ [c], d.Failed → d = c := by
    intro d mem failed
    rcases List.mem_append.1 mem with earlier | now
    · exact absurd failed (passed d earlier)
    · exact List.mem_singleton.1 now
  obtain ⟨error, panicked⟩ := message_of_failure? (s := s) (b := c.blob) failed
  constructor
  case scheduled => exact followed
  case last =>
    intro start d after split failed
    rcases List.eq_nil_or_concat after with rfl | ⟨init, z, rfl⟩
    · rfl
    · -- then `d` is one of the calls before the last one
      rw [List.concat_eq_append, ← List.cons_append, ← List.append_assoc] at split
      obtain ⟨rfl, -⟩ := List.append_inj' split rfl
      exact absurd failed (passed d (by simp))
  case whole =>
    intro none
    exact absurd fails (none c member)
  case number =>
    intro none
    exact absurd fails (none c member)
  case rehearsal =>
    intro _ d mem failed
    by_contra longer
    have early : r.config.iterations * files.length ≤ before.length := by
      rw [List.length_append, List.length_singleton] at longer
      omega
    rw [List.take_append_of_le_length early] at mem
    exact passed d (List.mem_of_mem_take mem) failed
  case failed_iff => exact ⟨fun _ => ⟨c, member, fails⟩, fun _ => ⟨_, rfl⟩⟩
  case error =>
    intro d mem e answered
    obtain rfl := only d mem (by rw [Invocation.Failed, answered]; exact Option.some_ne_none _)
    rw [error e answered]
  case panicked =>
    intro d mem payload answered
    obtain rfl := only d mem (by rw [Invocation.Failed, answered]; exact Option.some_ne_none _)
    rw [panicked payload answered]

/-- The calls behind a report. -/
theorem Reported.exists_invocations {p : Pair W} {log : List Event} {report : Report}
    (h : r.Reported p log report) : ∃ calls : List Invocation,
      log = calls.map (Invocation.event p.strategy) ∧
      r.Invoked p.strategy p.blobs calls report.outcome := by
  obtain ⟨fault, tried, tells⟩ := h.outcome
  obtain ⟨calls, log_eq, followed⟩ := tried.exists_invocations
  refine ⟨calls, log_eq, ?_⟩
  generalize report.outcome = outcome at tells
  rcases followed with ⟨rfl, whole, passed⟩ | ⟨before, c, rest, f, rfl, part, passed, failed, rfl⟩
  · cases tells with
    | completed => exact invoked_of_passed passed whole fun reason ended => nomatch ended
  · cases tells with
    | failed => exact invoked_of_failed passed failed ⟨rest, part⟩

/-! ### Strategies that are not registered -/

section Listing

variable {m : Type → Type} [Monad m] (r : Runner m) (registry : Registry m) (s : Registered m)

theorem sampleLaps_registry (k : Nat) (laps : List Duration) (x : Sample) :
    ({ r with registry } : Runner m).sampleLaps s k laps x = r.sampleLaps s k laps x := by
  induction k generalizing laps x with
  | zero => rfl
  | succ k ih =>
    simp only [sampleLaps, ih]
    rfl

theorem corpusLap_registry (lap : Duration) (seen xs : List Sample) :
    ({ r with registry } : Runner m).corpusLap s lap seen xs = r.corpusLap s lap seen xs := by
  induction xs generalizing lap seen with
  | nil => rfl
  | cons x xs ih =>
    simp only [corpusLap, ih]
    rfl

theorem corpusLaps_registry (k : Nat) (laps : List Duration) (xs : List Sample) :
    ({ r with registry } : Runner m).corpusLaps s k laps xs = r.corpusLaps s k laps xs := by
  induction k generalizing laps xs with
  | zero => rfl
  | succ k ih => simp only [corpusLaps, ih, corpusLap_registry]

theorem benchSample_registry (x : Sample) :
    ({ r with registry } : Runner m).benchSample s x = r.benchSample s x := by
  have block : ({ r with registry } : Runner m).sampleBlock s = r.sampleBlock s :=
    funext fun y => r.sampleLaps_registry registry s r.config.iterations [] y
  rw [benchSample, block]
  rfl

theorem benchCorpus_registry (xs : List Sample) :
    ({ r with registry } : Runner m).benchCorpus s xs = r.benchCorpus s xs := by
  have block : ({ r with registry } : Runner m).corpusBlock s = r.corpusBlock s :=
    funext fun ys => r.corpusLaps_registry registry s r.config.iterations [] ys
  rw [benchCorpus, block]
  rfl

end Listing

theorem Tried.of_registry {registry : Registry (StateM W)} {schedule : List Blob}
    {log : List Event} {fault : Option BenchError}
    (h : Tried { r with registry } s schedule log fault) : Tried r s schedule log fault := by
  induction h with
  | nil => exact .nil
  | passed answered _ ih => exact .passed answered ih
  | failed answered => exact .failed answered

/-- What is told of a pair does not depend on what is registered. -/
theorem Reported.of_registry {registry : Registry (StateM W)} {p : Pair W} {log : List Event}
    {report : Report} (h : ({ r with registry } : Runner (StateM W)).Reported p log report) :
    r.Reported p log report := by
  obtain ⟨heading, fault, tried, tells⟩ := h
  exact ⟨heading, fault, tried.of_registry, tells⟩

variable (r s)

/-- What the report on any strategy and a sample rests on. -/
theorem reported_benchSample (x : Sample) (w : W) :
    r.Reported (.ofSample s x.toBlob) ((r.watched.benchSample s.watched x).run.run w).1.2
      ((r.benchSample s x).run w).1.1 := by
  have listed : s ∈ [s] := List.mem_singleton_self s
  have forgotten := r.watched.benchSample_map Watched.forget s.watched x
  rw [map_forget_watched, Registered.map_forget_watched] at forgotten
  have reported := (ensures_benchSample (r := { r with registry := [s] }) listed [] [] x w).2
  have same := r.watched.benchSample_registry [s.watched] s.watched x
  rw [forgotten, ← same]
  exact reported.of_registry

/-- What the report on any strategy and some samples rests on. -/
theorem reported_benchCorpus (xs : List Sample) (w : W) :
    r.Reported (.ofCorpus s (xs.map Sample.toBlob))
      ((r.watched.benchCorpus s.watched xs).run.run w).1.2 ((r.benchCorpus s xs).run w).1.1 := by
  have listed : s ∈ [s] := List.mem_singleton_self s
  have forgotten := r.watched.benchCorpus_map Watched.forget s.watched xs
  rw [map_forget_watched, Registered.map_forget_watched] at forgotten
  have reported := (ensures_benchCorpus (r := { r with registry := [s] }) listed xs w).2
  have same := r.watched.benchCorpus_registry [s.watched] s.watched xs
  rw [forgotten, ← same]
  exact reported.of_registry

/-- **The calls of one pair.**  Whatever the strategy does, and wherever the world stands, it is
called on the files of the pair in turn, pass after pass, until a call fails: on the sample as often
as there are repetitions, on the samples of a corpus as often one after the other, and twice as
often if there is a rehearsal.  The pair is told to have failed if and only if a call failed, and
then the reason names the file of that call and what went wrong in it. -/
theorem invocations (w : W) :
    (∀ x : Sample, ∃ calls : List Invocation,
      ((r.watched.benchSample s.watched x).run.run w).1.2 = calls.map (Invocation.event s) ∧
      r.Invoked s [x.toBlob] calls ((r.benchSample s x).run w).1.1.outcome) ∧
    ∀ xs : List Sample, ∃ calls : List Invocation,
      ((r.watched.benchCorpus s.watched xs).run.run w).1.2 = calls.map (Invocation.event s) ∧
      r.Invoked s (xs.map Sample.toBlob) calls ((r.benchCorpus s xs).run w).1.1.outcome :=
  ⟨fun x => (r.reported_benchSample s x w).exists_invocations,
    fun xs => (r.reported_benchCorpus s xs w).exists_invocations⟩

end Runner

end LangBench
