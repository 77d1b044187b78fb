import LangBench.Proofs.Run.Trace
import Mathlib.Data.List.Basic

/-!
# Calls of a pair and the samples around them

What is written down while a pair of a strategy and a target is measured says two things.  It
says how the samples of the corpus went from one state to the next (`Runner.Walk`), and it says
that the strategy was called on the blobs of a schedule in turn until a call failed
(`Runner.Tried`).  `Runner.Performed` says both; it holds of every call, every block and every
pair, whatever the strategies do.

* `Runner.Walk.map_toBlob`, `Runner.Walk.eq_of_isClean`: events never change what a sample is a
  file of, and clean samples stay as they are;
* `Runner.Tried.fault_eq`: the fault is that of the first blob on which a call fails;
* `Runner.ensures_benchSample`, `Runner.ensures_benchCorpus`: the report on a pair.
-/

namespace LangBench

open Watched

/-- The error that a result is, if it is one. -/
def faultOf {ε α : Type} : Except ε α → Option ε
  | .ok _ => none
  | .error e => some e

@[simp] theorem faultOf_ok {ε α : Type} (a : α) : faultOf (.ok a : Except ε α) = none := rfl

@[simp] theorem faultOf_error {ε α : Type} (e : ε) :
    faultOf (.error e : Except ε α) = some e := rfl

theorem faultOf_eq_some {ε α : Type} {p : Except ε α} {e : ε} (h : faultOf p = some e) :
    p = .error e := by
  cases p with
  | ok a => cases h
  | error e' => rw [Option.some.inj h]

/-- Some blobs, `k` times over. -/
def rounds (k : Nat) (bs : List Blob) : List Blob :=
  (List.replicate k bs).flatten

@[simp] theorem rounds_zero (bs : List Blob) : rounds 0 bs = [] := rfl

theorem rounds_succ (k : Nat) (bs : List Blob) : rounds (k + 1) bs = bs ++ rounds k bs := rfl

theorem rounds_add (j k : Nat) (bs : List Blob) :
    rounds (j + k) bs = rounds j bs ++ rounds k bs := by
  rw [rounds, List.replicate_add, List.flatten_append, rounds, rounds]

theorem findSome?_rounds {α : Type} (f : Blob → Option α) (bs : List Blob) {k : Nat}
    (hk : k ≠ 0) : (rounds k bs).findSome? f = bs.findSome? f := by
  induction k with
  | zero => exact absurd rfl hk
  | succ k ih =>
    rw [rounds_succ, List.findSome?_append]
    rcases Nat.eq_zero_or_pos k with rfl | hpos
    · simp
    · rw [ih (by omega), Option.or_self]

namespace Runner

variable {W : Type} {r : Runner (StateM W)} {s : Registered (StateM W)}

/-! ### Samples on the way -/

/-- What an event does to the samples of a corpus: a call acts on one of them. -/
inductive Step (r : Runner (StateM W)) : List Sample → Event → List Sample → Prop
  | call {s : Registered (StateM W)} (hs : s ∈ r.registry) (before after : List Sample)
      (x : Sample) (w : W) :
      Step r (before ++ x :: after) (r.callEvent s x w)
        (before ++ ((r.invokeOnce s x).run w).1.2 :: after)
  | tell (xs : List Sample) (call : SinkCall) : Step r xs (.told call) xs

/-- What some events do to the samples of a corpus, one after the other. -/
inductive Walk (r : Runner (StateM W)) : List Sample → List Event → List Sample → Prop
  | nil (xs : List Sample) : Walk r xs [] xs
  | cons {xs ys zs : List Sample} {e : Event} {log : List Event} :
      Step r xs e ys → Walk r ys log zs → Walk r xs (e :: log) zs

theorem Step.map_toBlob {xs ys : List Sample} {e : Event} (h : Step r xs e ys) :
    ys.map Sample.toBlob = xs.map Sample.toBlob := by
  cases h with
  | call hs before after x w => simp [sample_invokeOnce]
  | tell => rfl

/-- A step leaves clean samples as they are. -/
theorem Step.eq_of_isClean {xs ys : List Sample} {e : Event} (h : Step r xs e ys)
    (clean : ∀ x ∈ xs, x.isClean = true) : ys = xs := by
  cases h with
  | call hs before after x w =>
    rw [sample_invokeOnce, Sample.reset_of_isClean (clean x (by simp))]
  | tell => rfl

/-- What holds of some samples, and of a sample that is reset, holds after a step. -/
theorem Step.preserves {P : Sample → Prop} (reset : ∀ x, P x → P x.reset) {xs ys : List Sample}
    {e : Event} (h : Step r xs e ys) (start : ∀ x ∈ xs, P x) : ∀ y ∈ ys, P y := by
  cases h with
  | call hs before after x w =>
    rw [sample_invokeOnce]
    intro y mem
    rcases List.mem_append.1 mem with mem | mem
    · exact start y (List.mem_append_left _ mem)
    · rcases List.mem_cons.1 mem with rfl | mem
      · exact reset x (start x (by simp))
      · exact start y (List.mem_append_right _ (List.mem_cons_of_mem _ mem))
  | tell => exact start

/-- A strategy that sees a cache sees that of one of the samples. -/
theorem Step.of_called {P : Sample → Prop} {xs ys : List Sample} {label : String} {b : Blob}
    {c : Cache} {answer : Answer} (h : Step r xs (.called label (.sample b c) answer) ys)
    (start : ∀ x ∈ xs, P x) : P ⟨b, c⟩ := by
  -- `cases` wants the event of the step to be a variable
  generalize he : Event.called label (.sample b c) answer = e at h
  cases h with
  | @call s hs before after x w =>
    have hx : P x := start x (by simp)
    simp only [callEvent, Event.called.injEq] at he
    obtain ⟨-, hgiven, -⟩ := he
    unfold Registered.given at hgiven
    split at hgiven
    · cases hgiven
      exact hx
    · cases hgiven
  | tell => cases he

namespace Walk

theorem single {xs ys : List Sample} {e : Event} (h : Step r xs e ys) : Walk r xs [e] ys :=
  .cons h (.nil ys)

theorem append {xs ys zs : List Sample} {log log' : List Event} (h : Walk r xs log ys)
    (h' : Walk r ys log' zs) : Walk r xs (log ++ log') zs := by
  induction h with
  | nil => exact h'
  | cons step _ ih => exact .cons step (ih h')

/-- Every moment in a walk splits it into two walks. -/
theorem split {xs zs : List Sample} {log log' : List Event} (h : Walk r xs (log ++ log') zs) :
    ∃ ys, Walk r xs log ys ∧ Walk r ys log' zs := by
  induction log generalizing xs with
  | nil => exact ⟨xs, .nil xs, h⟩
  | cons e log ih =>
    cases h with
    | cons step rest =>
      obtain ⟨ys, before, after⟩ := ih rest
      exact ⟨ys, .cons step before, after⟩

/-- A walk never changes what the samples are files of. -/
theorem map_toBlob {xs ys : List Sample} {log : List Event} (h : Walk r xs log ys) :
    ys.map Sample.toBlob = xs.map Sample.toBlob := by
  induction h with
  | nil => rfl
  | cons step _ ih => rw [ih, step.map_toBlob]

/-- A walk leaves clean samples as they are. -/
theorem eq_of_isClean {xs ys : List Sample} {log : List Event} (h : Walk r xs log ys)
    (clean : ∀ x ∈ xs, x.isClean = true) : ys = xs := by
  induction h with
  | nil => rfl
  | cons step _ ih =>
    obtain rfl := step.eq_of_isClean clean
    exact ih clean

/-- What holds of all samples before a walk, and of samples that are reset, holds of every sample
whose cache a strategy sees. -/
theorem of_called {P : Sample → Prop} (reset : ∀ x, P x → P x.reset) {xs ys : List Sample}
    {log : List Event} (h : Walk r xs log ys) (start : ∀ x ∈ xs, P x) {label : String} {b : Blob}
    {c : Cache} {answer : Answer} (mem : .called label (.sample b c) answer ∈ log) : P ⟨b, c⟩ := by
  induction h with
  | nil => simp at mem
  | cons step _ ih =>
    rcases List.mem_cons.1 mem with rfl | mem
    · exact step.of_called start
    · exact ih (step.preserves reset start) mem

/-- In a walk from clean samples, a strategy that sees a cache sees an empty one. -/
theorem isEmpty_of_isClean {xs ys : List Sample} {log : List Event} (h : Walk r xs log ys)
    (clean : ∀ x ∈ xs, x.isClean = true) {label : String} {b : Blob} {c : Cache}
    {answer : Answer} (mem : .called label (.sample b c) answer ∈ log) : c.isEmpty = true :=
  h.of_called (fun x _ => x.isClean_reset) clean mem

end Walk

/-! ### Calls until one fails -/

/-- A strategy was called on some blobs in turn until a call failed, and nothing else happened;
`fault` is what the failed call gave. -/
inductive Tried (r : Runner (StateM W)) (s : Registered (StateM W)) :
    List Blob → List Event → Option BenchError → Prop
  | nil : Tried r s [] [] none
  | passed {x : Sample} {w : W} {bs : List Blob} {log : List Event} {fault : Option BenchError} :
      (r.answerAt s x w).failure? = none → Tried r s bs log fault →
        Tried r s (x.toBlob :: bs) (r.callEvent s x w :: log) fault
  | failed {x : Sample} {w : W} {bs : List Blob} {f : CallFailure DetectError} :
      (r.answerAt s x w).failure? = some f →
        Tried r s (x.toBlob :: bs) [r.callEvent s x w] (some (strategyError s x.toBlob f))

namespace Tried

theorem append {bs cs : List Blob} {log log' : List Event} {fault : Option BenchError}
    (h : Tried r s bs log none) (h' : Tried r s cs log' fault) :
    Tried r s (bs ++ cs) (log ++ log') fault := by
  -- a fault in the first schedule would be that of the whole
  generalize hnone : none = start at h
  induction h with
  | nil => exact h'
  | passed answered _ ih => exact .passed answered (ih hnone)
  | failed => cases hnone

/-- After a failed call the rest of the schedule is left out. -/
theorem append_right {bs : List Blob} {log : List Event} {e : BenchError}
    (h : Tried r s bs log (some e)) (cs : List Blob) : Tried r s (bs ++ cs) log (some e) := by
  generalize hsome : some e = fault at h
  induction h with
  | nil => cases hsome
  | passed answered _ ih => exact .passed answered (ih hsome)
  | failed answered => exact .failed answered

/-- Where the answers depend on the blobs only, the fault is that of the first blob that has
one. -/
theorem fault_eq {bs : List Blob} {log : List Event} {fault : Option BenchError}
    (h : Tried r s bs log fault) {g : Blob → Option (CallFailure DetectError)}
    (answers : ∀ x w, r.callEvent s x w ∈ log → (r.answerAt s x w).failure? = g x.toBlob) :
    fault = bs.findSome? fun b => (g b).map (strategyError s b) := by
  induction h with
  | nil => rfl
  | @passed x w bs log fault answered _ ih =>
    have hx : g x.toBlob = none := by rw [← answers x w (by simp), answered]
    rw [List.findSome?_cons, hx, Option.map_none]
    exact ih fun y v mem => answers y v (List.mem_cons_of_mem _ mem)
  | @failed x w bs f answered =>
    have hx : g x.toBlob = some f := by rw [← answers x w (by simp), answered]
    rw [List.findSome?_cons, hx, Option.map_some]

/-- Nothing that is tried tells the sink anything. -/
theorem told_notMem {bs : List Blob} {log : List Event} {fault : Option BenchError}
    (h : Tried r s bs log fault) (call : SinkCall) : Event.told call ∉ log := by
  induction h with
  | nil => simp
  | passed _ _ ih => simpa [callEvent] using ih
  | failed => simp [callEvent]

end Tried

/-! ### Both together -/

/-- Some events led from the samples `xs` to the samples `ys`, and in them a strategy was called
on the blobs of a schedule until a call failed. -/
structure Performed (r : Runner (StateM W)) (s : Registered (StateM W)) (schedule : List Blob)
    (xs ys : List Sample) (fault : Option BenchError) (log : List Event) : Prop where
  walk : Walk r xs log ys
  tried : Tried r s schedule log fault

namespace Performed

theorem nil (xs : List Sample) : Performed r s [] xs xs none [] :=
  ⟨.nil xs, .nil⟩

theorem append {bs cs : List Blob} {xs ys zs : List Sample} {log log' : List Event}
    {fault : Option BenchError} (h : Performed r s bs xs ys none log)
    (h' : Performed r s cs ys zs fault log') :
    Performed r s (bs ++ cs) xs zs fault (log ++ log') :=
  ⟨h.walk.append h'.walk, h.tried.append h'.tried⟩

theorem append_right {bs : List Blob} {xs ys : List Sample} {log : List Event} {e : BenchError}
    (h : Performed r s bs xs ys (some e) log) (cs : List Blob) :
    Performed r s (bs ++ cs) xs ys (some e) log :=
  ⟨h.walk, h.tried.append_right cs⟩

theorem map_toBlob {bs : List Blob} {xs ys : List Sample} {fault : Option BenchError}
    {log : List Event} (h : Performed r s bs xs ys fault log) :
    ys.map Sample.toBlob = xs.map Sample.toBlob :=
  h.walk.map_toBlob

/-- The one sample that events may act on stays the same file. -/
theorem toBlob_eq {bs : List Blob} {before after : List Sample} {x y : Sample}
    {fault : Option BenchError} {log : List Event}
    (h : Performed r s bs (before ++ x :: after) (before ++ y :: after) fault log) :
    y.toBlob = x.toBlob := by
  simpa using h.map_toBlob

end Performed

section Blocks

variable (hs : s ∈ r.registry)

include hs

theorem performed_invokeOnce (before after : List Sample) (x : Sample) :
    Ensures (r.watched.invokeOnce s.watched x) fun p log =>
      Performed r s [x.toBlob] (before ++ x :: after) (before ++ p.2 :: after) (faultOf p.1)
        log := by
  refine (r.ensures_invokeOnce s x).imp ?_
  rintro p log ⟨w, rfl, rfl⟩
  refine ⟨.single (.call hs before after x w), ?_⟩
  obtain ⟨time, w', h⟩ := r.run_invokeOnce s x w
  rw [h]
  cases answered : (r.answerAt s x w).failure? with
  | none => simpa [lapOf, answered] using Tried.passed answered .nil
  | some f =>
    have failed : Tried r s [x.toBlob] [r.callEvent s x w] (some (strategyError s x.toBlob f)) :=
      .failed answered
    simpa [lapOf, answered] using failed

theorem performed_sampleLaps (before after : List Sample) (k : Nat) (laps : List Duration)
    (x : Sample) :
    Ensures (r.watched.sampleLaps s.watched k laps x) fun p log =>
      Performed r s (rounds k [x.toBlob]) (before ++ x :: after) (before ++ p.2 :: after)
        (faultOf p.1) log ∧
      ∀ all, p.1 = .ok all → all.length = laps.length + k := by
  induction k generalizing laps x with
  | zero => exact .pure ⟨.nil _, by simp⟩
  | succ k ih =>
    refine (performed_invokeOnce hs before after x).bind ?_
    rintro ⟨lap, y⟩ log call
    cases lap with
    | error e =>
      refine .pure ⟨?_, by simp⟩
      rw [List.append_nil, rounds_succ]
      exact call.append_right _
    | ok lap =>
      refine (ih (lap :: laps) y).imp ?_
      rintro p log' ⟨rest, length⟩
      rw [call.toBlob_eq] at rest
      exact ⟨call.append rest, fun all h => by rw [length all h, List.length_cons]; omega⟩

/-- The samples of this pass that are done stand in `seen`, the last one first. -/
theorem performed_corpusLap (lap : Duration) (seen xs : List Sample) :
    Ensures (r.watched.corpusLap s.watched lap seen xs) fun p log =>
      Performed r s (xs.map Sample.toBlob) (seen.reverse ++ xs) p.2 (faultOf p.1) log := by
  induction xs generalizing lap seen with
  | nil => exact .pure (by simpa using Performed.nil _)
  | cons x xs ih =>
    refine (performed_invokeOnce hs seen.reverse xs x).bind ?_
    rintro ⟨time, y⟩ log call
    cases time with
    | error e => exact .pure (by simpa using call.append_right (xs.map Sample.toBlob))
    | ok time =>
      refine (ih (lap + time) (y :: seen)).imp ?_
      intro p log' rest
      simp only [List.reverse_cons, List.append_assoc, List.singleton_append] at rest
      exact call.append rest

theorem performed_corpusLaps (k : Nat) (laps : List Duration) (xs : List Sample) :
    Ensures (r.watched.corpusLaps s.watched k laps xs) fun p log =>
      Performed r s (rounds k (xs.map Sample.toBlob)) xs p.2 (faultOf p.1) log ∧
      ∀ all, p.1 = .ok all → all.length = laps.length + k := by
  induction k generalizing laps xs with
  | zero => exact .pure ⟨.nil _, by simp⟩
  | succ k ih =>
    refine (performed_corpusLap hs .zero [] xs).bind ?_
    rintro ⟨lap, ys⟩ log pass
    cases lap with
    | error e =>
      refine .pure ⟨?_, by simp⟩
      rw [List.append_nil, rounds_succ]
      exact pass.append_right _
    | ok lap =>
      refine (ih (lap :: laps) ys).imp ?_
      rintro p log' ⟨rest, length⟩
      rw [pass.map_toBlob] at rest
      exact ⟨pass.append rest, fun all h => by rw [length all h, List.length_cons]; omega⟩

end Blocks

end Runner

/-! ### Pairs -/

/-- A strategy and what it is measured on: a target and the blobs of one pass over it. -/
structure Pair (W : Type) where
  strategy : Registered (StateM W)
  mode : Mode
  target : Target
  blobs : List Blob

/-- A strategy and one sample. -/
def Pair.ofSample {W : Type} (s : Registered (StateM W)) (b : Blob) : Pair W where
  strategy := s
  mode := .perSample
  target := .sample b.label
  blobs := [b]

/-- A strategy and the whole corpus. -/
def Pair.ofCorpus {W : Type} (s : Registered (StateM W)) (bs : List Blob) : Pair W where
  strategy := s
  mode := .total
  target := .total
  blobs := bs

/-- The pairs that a mode reports on, in their order. -/
def Registry.pairs {W : Type} (registry : Registry (StateM W)) (bs : List Blob) :
    Mode → List (Pair W)
  | .perSample => registry.flatMap fun s => bs.map (Pair.ofSample s)
  | .total => registry.map fun s => Pair.ofCorpus s bs

/-- The outcome that tells of a fault, or of so many laps if there was none. -/
inductive Outcome.Tells (laps : Nat) (rehearsed : Bool) : Option BenchError → Outcome → Prop
  | completed {rehearsal : Option Duration} {measurement : Measurement} :
      rehearsal.isSome = rehearsed → measurement.laps.length = laps →
        Tells laps rehearsed none (.completed rehearsal measurement)
  | failed (e : BenchError) : Tells laps rehearsed (some e) (.failed e.message)

namespace Runner

variable {W : Type} {r : Runner (StateM W)} {s : Registered (StateM W)}

/-- How often a pair goes over its blobs if no call fails. -/
def passes (r : Runner (StateM W)) : Nat :=
  if r.config.warmup then r.config.iterations + r.config.iterations else r.config.iterations

/-- What is written down and reported of a pair. -/
structure Reported (r : Runner (StateM W)) (p : Pair W) (log : List Event) (report : Report) :
    Prop where
  heading : report = r.report p.strategy p.mode p.target report.outcome
  outcome : ∃ fault, Tried r p.strategy (rounds r.passes p.blobs) log fault ∧
    report.outcome.Tells r.config.iterations r.config.warmup fault

/-- While a pair is measured nothing but calls of strategies is written down. -/
theorem Reported.filterMap_log {α : Type} {p : Pair W} {log : List Event} {report : Report}
    (h : r.Reported p log report) {f : Event → Option α}
    (called : ∀ strategy given answer, f (.called strategy given answer) = none) :
    log.filterMap f = [] := by
  obtain ⟨fault, tried, -⟩ := h.outcome
  refine List.filterMap_eq_nil_iff.2 fun e mem => ?_
  cases e with
  | called strategy given answer => exact called strategy given answer
  | told call => exact absurd mem (tried.told_notMem call)

theorem performed_measure {σ : Type} {block : σ → Watched W (Except BenchError (List Duration) × σ)}
    {around : σ → List Sample} {schedule : List Blob} {laps : Nat} {x : σ}
    (performed : Ensures (block x) fun p log =>
      Performed r s schedule (around x) (around p.2) (faultOf p.1) log ∧
      ∀ all, p.1 = .ok all → all.length = laps) (rehearsal : Option Duration) :
    Ensures (measure block rehearsal x) fun p log =>
      ∃ fault, Performed r s schedule (around x) (around p.2) fault log ∧
        p.1.Tells laps rehearsal.isSome fault := by
  refine performed.bind ?_
  rintro ⟨all, y⟩ log ⟨done, length⟩
  cases all with
  | ok all => exact .pure ⟨none, by simpa using done, .completed rfl (length all rfl)⟩
  | error e => exact .pure ⟨some e, by simpa using done, .failed e⟩

/-- A pair that is rehearsed goes through its block twice, unless the rehearsal fails. -/
theorem performed_measurePair {σ : Type}
    {block : σ → Watched W (Except BenchError (List Duration) × σ)} (around : σ → List Sample)
    {schedule files : List Blob} {laps : Nat}
    (performed : ∀ y, (around y).map Sample.toBlob = files → Ensures (block y) fun p log =>
      Performed r s schedule (around y) (around p.2) (faultOf p.1) log ∧
      ∀ all, p.1 = .ok all → all.length = laps)
    (warmup : Bool) {x : σ} (hx : (around x).map Sample.toBlob = files) :
    Ensures (measurePair warmup block x) fun p log =>
      ∃ fault, Performed r s (if warmup then schedule ++ schedule else schedule) (around x)
        (around p.2) fault log ∧ p.1.Tells laps warmup fault := by
  cases warmup with
  | false => exact performed_measure (performed x hx) none
  | true =>
    refine (performed x hx).bind ?_
    rintro ⟨all, y⟩ log ⟨rehearsed, -⟩
    cases all with
    | error e =>
      refine .pure ⟨some e, ?_, .failed e⟩
      rw [List.append_nil, if_pos rfl]
      exact rehearsed.append_right schedule
    | ok all =>
      -- the rehearsal leaves the files as they are, so the block can be performed again
      have hy : (around y).map Sample.toBlob = files := by rw [rehearsed.map_toBlob, hx]
      refine (performed_measure (performed y hy) (some (.sum all))).imp ?_
      rintro p log' ⟨fault, measured, tells⟩
      exact ⟨fault, rehearsed.append measured, tells⟩

theorem rounds_passes (bs : List Blob) : rounds r.passes bs =
    if r.config.warmup then rounds r.config.iterations bs ++ rounds r.config.iterations bs
    else rounds r.config.iterations bs := by
  unfold passes
  split
  · rw [rounds_add]
  · rfl

/-- What a report on a strategy and a sample rests on. -/
theorem ensures_benchSample (hs : s ∈ r.registry) (before after : List Sample) (x : Sample) :
    Ensures (r.watched.benchSample s.watched x) fun p log =>
      Walk r (before ++ x :: after) log (before ++ p.2 :: after) ∧
      r.Reported (.ofSample s x.toBlob) log p.1 := by
  have block : ∀ y, (before ++ y :: after).map Sample.toBlob =
      (before ++ x :: after).map Sample.toBlob →
      Ensures (r.watched.sampleBlock s.watched y) fun p log =>
        Performed r s (rounds r.config.iterations [x.toBlob]) (before ++ y :: after)
          (before ++ p.2 :: after) (faultOf p.1) log ∧
        ∀ all, p.1 = .ok all → all.length = r.config.iterations := by
    intro y hy
    -- the samples around `y` are the same, so `y` is the file that `x` is
    have file : y.toBlob = x.toBlob := by simpa using hy
    have laps := performed_sampleLaps hs before after r.config.iterations [] y
    simp only [file, List.length_nil, Nat.zero_add] at laps
    exact laps
  refine (performed_measurePair (fun y => before ++ y :: after) block r.config.warmup rfl).bind ?_
  rintro ⟨outcome, y⟩ log ⟨fault, ⟨walk, tried⟩, tells⟩
  rw [← rounds_passes] at tried
  rw [← List.append_nil log] at walk tried
  refine .pure ⟨walk, ?_, fault, tried, tells⟩
  simp [report, Report.make, watched, Pair.ofSample]

/-- What a report on a strategy and the whole corpus rests on. -/
theorem ensures_benchCorpus (hs : s ∈ r.registry) (xs : List Sample) :
    Ensures (r.watched.benchCorpus s.watched xs) fun p log =>
      Walk r xs log p.2 ∧ r.Reported (.ofCorpus s (xs.map Sample.toBlob)) log p.1 := by
  have block : ∀ ys, ys.map Sample.toBlob = xs.map Sample.toBlob →
      Ensures (r.watched.corpusBlock s.watched ys) fun p log =>
        Performed r s (rounds r.config.iterations (xs.map Sample.toBlob)) ys p.2 (faultOf p.1)
          log ∧
        ∀ all, p.1 = .ok all → all.length = r.config.iterations := by
    intro ys files
    have laps := performed_corpusLaps hs r.config.iterations [] ys
    simp only [files, List.length_nil, Nat.zero_add] at laps
    exact laps
  refine (performed_measurePair (fun ys => ys) block r.config.warmup rfl).bind ?_
  rintro ⟨outcome, ys⟩ log ⟨fault, ⟨walk, tried⟩, tells⟩
  rw [← rounds_passes] at tried
  rw [← List.append_nil log] at walk tried
  refine .pure ⟨walk, ?_, fault, tried, tells⟩
  simp [report, Report.make, watched, Pair.ofCorpus]

end Runner

end LangBench
