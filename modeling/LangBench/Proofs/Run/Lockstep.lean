import LangBench.Proofs.Run.Delivery
import LangBench.Proofs.Run.Untimed

/-!
# Runs side by side

Two runs of strategies that behave alike go in step, whatever their clocks show.  If the sink of the
first one refuses a call, the first one breaks off there, while the second one goes on.

* `Registered.Like`, `Runner.Like`, `Sink.Forgives`: strategies, runners and sinks that behave alike
  in worlds that are alike, but that the second sink never fails;
* `Lockstep`: two computations that go in step;
* `Runner.Like.run`: two runs go in step.

There is one lemma for each function of the runner, in the order in which they use each other.
-/

namespace LangBench

variable {W W' : Type}

/-- Two strategies with the same label that answer alike in worlds that are alike. -/
structure Registered.Like (alike : W → W' → Prop) (s : Registered (StateM W))
    (s' : Registered (StateM W')) : Prop where
  label : s'.label = s.label
  kind : s'.kind = s.kind
  invoke : ∀ context b c w w', alike w w' →
    ((s.invoke context b c).run w).1 = ((s'.invoke context b c).run w').1 ∧
      alike ((s.invoke context b c).run w).2 ((s'.invoke context b c).run w').2

/-- Two runners of strategies that behave alike.  If `exact`, their clocks show the same. -/
structure Runner.Like (alike : W → W' → Prop) (exact : Prop) (r : Runner (StateM W))
    (r' : Runner (StateM W')) : Prop where
  config : r'.config = r.config
  context : r'.context = r.context
  registry : List.Forall₂ (Registered.Like alike) r.registry r'.registry
  clock : ∀ w w', alike w w' →
    SameUpTo exact (fun _ => ()) (r.clock.run w).1 (r'.clock.run w').1 ∧
      alike (r.clock.run w).2 (r'.clock.run w').2

/-- The sink `sink'` never fails, and does what `sink` does in a call that it accepts. -/
structure Sink.Forgives (alike : W → W' → Prop) (exact : Prop) (sink : Sink (StateM W))
    (sink' : Sink (StateM W')) : Prop where
  infallible : sink'.Infallible
  receive : ∀ call call' w w', alike w w' → SameUpTo exact SinkCall.untimed call call' →
    ((sink.receive call).run w).1 = .ok () →
      alike ((sink.receive call).run w).2 ((sink'.receive call').run w').2

/-! ### Computations in step -/

theorem Recorded.run_bind {α β : Type} (x : Recorded W α) (f : α → Recorded W β) (w : W) :
    (x >>= f).run.run w =
      let p := x.run.run w
      let q := (f p.1.1).run.run p.2
      ((q.1.1, p.1.2 ++ q.1.2), q.2) := rfl

/-- How two computations ended, with what happened in them: alike, or the first one broke off at a
call that its sink refused. -/
inductive Abreast {α β : Type} (alike : W → W' → Prop) (exact : Prop)
    (fault : α → Option BenchError) (P : α → β → Prop) :
    (α × List Happening) × W → (β × List Happening) × W' → Prop
  | both {a : α} {b : β} {log log' : List Happening} {w : W} {w' : W'} : P a b →
      SameUpTo exact (List.map Happening.untimed) log log' → alike w w' →
        Abreast alike exact fault P ((a, log), w) ((b, log'), w')
  | refused {a : α} {b : β} {e : BenchError} {call : SinkCall} {log log' rest : List Happening}
      {w : W} {w' : W'} : fault a = some e →
      SameUpTo exact (List.map Happening.untimed) (log ++ [.told call (.ok ())]) log' →
        Abreast alike exact fault P ((a, log ++ [.told call (.error e)]), w)
          ((b, log' ++ rest), w')

/-- From worlds that are alike, two computations end abreast. -/
def Lockstep {α β : Type} (alike : W → W' → Prop) (exact : Prop) (fault : α → Option BenchError)
    (P : α → β → Prop) (x : Recorded W α) (y : Recorded W' β) : Prop :=
  ∀ ⦃w w'⦄, alike w w' → Abreast alike exact fault P (x.run.run w) (y.run.run w')

namespace Lockstep

variable {α β γ δ : Type} {alike : W → W' → Prop} {exact : Prop} {fault : α → Option BenchError}
  {fault' : γ → Option BenchError} {P : α → β → Prop} {Q : γ → δ → Prop}

theorem pure {a : α} {b : β} (h : P a b) :
    Lockstep alike exact fault P (pure a : Recorded W α) (pure b : Recorded W' β) :=
  fun _ _ start => .both h (.refl _ []) start

/-- After a refused call nothing more may happen in the first computation. -/
theorem bind {x : Recorded W α} {y : Recorded W' β} {f : α → Recorded W γ} {g : β → Recorded W' δ}
    (hx : Lockstep alike exact fault P x y)
    (hf : ∀ a b, P a b → Lockstep alike exact fault' Q (f a) (g b))
    (stop : ∀ a e, fault a = some e → ∃ c, f a = Pure.pure c ∧ fault' c = some e) :
    Lockstep alike exact fault' Q (x >>= f) (y >>= g) := by
  intro w w' start
  have first := hx start
  rw [Recorded.run_bind, Recorded.run_bind]
  generalize x.run.run w = p at first
  generalize y.run.run w' = q at first
  cases first with
  | @both a b log log' v v' related same after =>
    have second := hf a b related after
    dsimp only
    generalize (f a).run.run v = p at second
    generalize (g b).run.run v' = q at second
    cases second with
    | both related' same' after' => exact .both related' (same.append same') after'
    | refused broke same' =>
      rw [← List.append_assoc, ← List.append_assoc]
      refine .refused broke ?_
      rw [List.append_assoc]
      exact same.append same'
  | @refused a b e call log log' rest v v' broke same =>
    -- whatever the second computation does from here on is left over
    obtain ⟨c, nothing, broke'⟩ := stop a e broke
    dsimp only
    rw [nothing]
    change Abreast _ _ _ _ ((c, (log ++ [.told call (.error e)]) ++ []), v) _
    rw [List.append_nil, List.append_assoc]
    exact .refused broke' same

end Lockstep

namespace Runner.Like

variable {alike : W → W' → Prop} {exact : Prop} {r : Runner (StateM W)} {r' : Runner (StateM W')}
  {s : Registered (StateM W)} {s' : Registered (StateM W')} {sink : Sink (StateM W)}
  {sink' : Sink (StateM W')}

/-! ### Calls and their repetitions -/

/-- The first computation breaks off nowhere. -/
def never {α : Type} : α → Option BenchError :=
  fun _ => none

theorem bind_never {α β γ δ : Type} {P : α → β → Prop} {Q : γ → δ → Prop}
    {fault : γ → Option BenchError} {x : Recorded W α} {y : Recorded W' β} {f : α → Recorded W γ}
    {g : β → Recorded W' δ} (hx : Lockstep alike exact never P x y)
    (hf : ∀ a b, P a b → Lockstep alike exact fault Q (f a) (g b)) :
    Lockstep alike exact fault Q (x >>= f) (y >>= g) :=
  hx.bind hf fun _ _ h => nomatch h

theorem readClock (h : r.Like alike exact r') :
    Lockstep alike exact never (SameUpTo exact fun _ => ()) r.recorded.clock r'.recorded.clock := by
  intro w w' start
  obtain ⟨same, after⟩ := h.clock w w' start
  exact .both same (.refl _ []) after

theorem invoke (hs : s.Like alike s') (context : Context) (b : Blob) (c : Cache) :
    Lockstep alike exact never Eq (s.recorded.invoke context b c)
      (s'.recorded.invoke context b c) := by
  intro w w' start
  obtain ⟨same, after⟩ := hs.invoke context b c w w' start
  obtain ⟨labels, kinds, -⟩ := hs
  obtain ⟨label, detector⟩ := s
  obtain ⟨label', detector'⟩ := s'
  obtain rfl : label' = label := labels
  cases detector with
  | sample call =>
    cases detector' with
    | sample call' =>
      have log : ((call context.languages b c).run w).1.1 =
        ((call' context.languages b c).run w').1.1 := congrArg Prod.fst same
      have noted := congrArg (fun answer => [Happening.called label' (.sample b c) answer]) log
      exact .both same (.of_eq noted) after
    | classifier call' => cases kinds
  | classifier call =>
    cases detector' with
    | sample call' => cases kinds
    | classifier call' =>
      have log : ((call context.statistics b.data).run w).1 =
        ((call' context.statistics b.data).run w').1 := congrArg Prod.fst same
      have noted := congrArg (fun answer => [Happening.called label' (.content b.data) answer]) log
      exact .both same (.of_eq noted) after

/-- Both results are the same, but for what `f` leaves out of their first parts. -/
def sameFirst (exact : Prop) {α β σ : Type} (f : α → β) (p q : α × σ) : Prop :=
  SameUpTo exact f p.1 q.1 ∧ p.2 = q.2

theorem invokeOnce (h : r.Like alike exact r') (hs : s.Like alike s') (x : Sample) :
    Lockstep alike exact never (sameFirst exact (Except.map fun _ => ()))
      (r.recorded.invokeOnce s.recorded x) (r'.recorded.invokeOnce s'.recorded x) := by
  rw [invokeOnce_eq, invokeOnce_eq]
  refine bind_never h.readClock fun start start' hstart => ?_
  have context : r'.recorded.context = r.recorded.context := h.context
  rw [context]
  refine bind_never (invoke hs _ _ _) ?_
  rintro ⟨answer, cache⟩ _ rfl
  refine bind_never h.readClock fun stop stop' hstop => .pure ⟨?_, rfl⟩
  have label : s'.recorded.label = s.recorded.label := hs.label
  have same : lapOf s'.recorded x.toBlob answer = lapOf s.recorded x.toBlob answer := by
    funext time
    simp only [lapOf, strategyError, label]
  rw [same]
  refine hstop.map₂ hstart (fun stop start => lapOf s.recorded x.toBlob answer (stop.since start))
    fun _ _ => ?_
  unfold lapOf
  split <;> rfl

theorem sampleLaps (h : r.Like alike exact r') (hs : s.Like alike s') (k : Nat)
    {laps laps' : List Duration} (hlaps : SameUpTo exact List.length laps laps') (x : Sample) :
    Lockstep alike exact never (sameFirst exact (Except.map List.length))
      (r.recorded.sampleLaps s.recorded k laps x)
      (r'.recorded.sampleLaps s'.recorded k laps' x) := by
  induction k generalizing laps laps' x with
  | zero =>
    refine .pure ⟨hlaps.map (fun laps => Except.ok laps.reverse) fun same => ?_, rfl⟩
    simp [Except.map, same]
  | succ k ih =>
    refine bind_never (h.invokeOnce hs x) ?_
    rintro ⟨lap, y⟩ ⟨lap', _⟩ ⟨same, rfl⟩
    obtain ⟨e, rfl, rfl⟩ | ⟨lap, lap', rfl, rfl, times⟩ := same.except
    · exact .pure ⟨.refl _ _, rfl⟩
    · exact ih (times.map₂ hlaps (· :: ·) fun _ length => congrArg (· + 1) length) y

theorem corpusLap (h : r.Like alike exact r') (hs : s.Like alike s') {lap lap' : Duration}
    (hlap : SameUpTo exact (fun _ => ()) lap lap') (seen xs : List Sample) :
    Lockstep alike exact never (sameFirst exact (Except.map fun _ => ()))
      (r.recorded.corpusLap s.recorded lap seen xs)
      (r'.recorded.corpusLap s'.recorded lap' seen xs) := by
  induction xs generalizing lap lap' seen with
  | nil => exact .pure ⟨hlap.map Except.ok fun _ => rfl, rfl⟩
  | cons x xs ih =>
    refine bind_never (h.invokeOnce hs x) ?_
    rintro ⟨time, y⟩ ⟨time', _⟩ ⟨same, rfl⟩
    obtain ⟨e, rfl, rfl⟩ | ⟨time, time', rfl, rfl, times⟩ := same.except
    · exact .pure ⟨.refl _ _, rfl⟩
    · exact ih (hlap.map₂ times (· + ·) fun _ _ => rfl) (y :: seen)

theorem corpusLaps (h : r.Like alike exact r') (hs : s.Like alike s') (k : Nat)
    {laps laps' : List Duration} (hlaps : SameUpTo exact List.length laps laps')
    (xs : List Sample) :
    Lockstep alike exact never (sameFirst exact (Except.map List.length))
      (r.recorded.corpusLaps s.recorded k laps xs)
      (r'.recorded.corpusLaps s'.recorded k laps' xs) := by
  induction k generalizing laps laps' xs with
  | zero =>
    refine .pure ⟨hlaps.map (fun laps => Except.ok laps.reverse) fun same => ?_, rfl⟩
    simp [Except.map, same]
  | succ k ih =>
    refine bind_never (h.corpusLap hs (.refl _ _) [] xs) ?_
    rintro ⟨lap, ys⟩ ⟨lap', _⟩ ⟨same, rfl⟩
    obtain ⟨e, rfl, rfl⟩ | ⟨lap, lap', rfl, rfl, times⟩ := same.except
    · exact .pure ⟨.refl _ _, rfl⟩
    · exact ih (times.map₂ hlaps (· :: ·) fun _ length => congrArg (· + 1) length) ys

/-! ### Pairs -/

variable {σ : Type} {block : σ → Recorded W (Except BenchError (List Duration) × σ)}
  {block' : σ → Recorded W' (Except BenchError (List Duration) × σ)}

theorem measure
    (hblock : ∀ x, Lockstep alike exact never (sameFirst exact (Except.map List.length)) (block x)
      (block' x))
    {rehearsal rehearsal' : Option Duration}
    (hrehearsal : SameUpTo exact (Option.map fun _ => ()) rehearsal rehearsal') (x : σ) :
    Lockstep alike exact never (sameFirst exact Outcome.untimed) (measure block rehearsal x)
      (measure block' rehearsal' x) := by
  refine bind_never (hblock x) ?_
  rintro ⟨laps, y⟩ ⟨laps', _⟩ ⟨same, rfl⟩
  obtain ⟨e, rfl, rfl⟩ | ⟨laps, laps', rfl, rfl, lengths⟩ := same.except
  · exact .pure ⟨.refl _ _, rfl⟩
  · refine .pure ⟨hrehearsal.map₂ lengths
      (fun rehearsal laps => Outcome.completed rehearsal (.ofLaps laps))
      fun rehearsed length => ?_, rfl⟩
    have rehearsals : rehearsal.map (fun _ => Duration.zero) =
        rehearsal'.map fun _ => Duration.zero := by
      cases rehearsal <;> cases rehearsal' <;> first | rfl | exact nomatch rehearsed
    simp only [Outcome.untimed, Measurement.ofLaps, rehearsals, List.map_const', length]

theorem measurePair
    (hblock : ∀ x, Lockstep alike exact never (sameFirst exact (Except.map List.length)) (block x)
      (block' x))
    (warmup : Bool) (x : σ) :
    Lockstep alike exact never (sameFirst exact Outcome.untimed) (measurePair warmup block x)
      (measurePair warmup block' x) := by
  cases warmup with
  | false => exact measure hblock (.refl _ none) x
  | true =>
    refine bind_never (hblock x) ?_
    rintro ⟨laps, y⟩ ⟨laps', _⟩ ⟨same, rfl⟩
    obtain ⟨e, rfl, rfl⟩ | ⟨laps, laps', rfl, rfl, lengths⟩ := same.except
    · exact .pure ⟨.refl _ _, rfl⟩
    · exact measure hblock (lengths.map (fun laps => some (Duration.sum laps)) fun _ => rfl) y

theorem report (h : r.Like alike exact r') (hs : s.Like alike s') (mode : Mode) (target : Target)
    {outcome outcome' : Outcome} (same : SameUpTo exact Outcome.untimed outcome outcome') :
    SameUpTo exact Report.untimed (r.recorded.report s.recorded mode target outcome)
      (r'.recorded.report s'.recorded mode target outcome') := by
  have reports : r'.recorded.report s'.recorded mode target =
      r.recorded.report s.recorded mode target := by
    funext outcome
    simp only [Runner.report, Registered.label_recorded, Registered.kind_recorded, hs.label,
      hs.kind, Runner.recorded, h.config]
  rw [reports]
  exact same.map _ fun up_to => congrArg
    (fun outcome => r.recorded.report s.recorded mode target outcome) up_to

theorem benchSample (h : r.Like alike exact r') (hs : s.Like alike s') (x : Sample) :
    Lockstep alike exact never (sameFirst exact Report.untimed)
      (r.recorded.benchSample s.recorded x) (r'.recorded.benchSample s'.recorded x) := by
  have config : r'.recorded.config = r.recorded.config := h.config
  unfold Runner.benchSample Runner.sampleBlock
  rw [config]
  refine bind_never (measurePair (fun y => h.sampleLaps hs _ (.refl _ []) y) _ x) ?_
  rintro ⟨outcome, y⟩ ⟨outcome', _⟩ ⟨same, rfl⟩
  exact .pure ⟨h.report hs _ _ same, rfl⟩

theorem benchCorpus (h : r.Like alike exact r') (hs : s.Like alike s') (xs : List Sample) :
    Lockstep alike exact never (sameFirst exact Report.untimed)
      (r.recorded.benchCorpus s.recorded xs) (r'.recorded.benchCorpus s'.recorded xs) := by
  have config : r'.recorded.config = r.recorded.config := h.config
  unfold Runner.benchCorpus Runner.corpusBlock
  rw [config]
  refine bind_never (measurePair (fun ys => h.corpusLaps hs _ (.refl _ []) ys) _ xs) ?_
  rintro ⟨outcome, ys⟩ ⟨outcome', _⟩ ⟨same, rfl⟩
  exact .pure ⟨h.report hs _ _ same, rfl⟩

/-! ### Reports -/

/-- Both computations went on, with the same numbers of reports so far. -/
def sameSummary (exact : Prop) {σ : Type} (p q : Except BenchError RunSummary × σ) : Prop :=
  ∃ s s', p.1 = .ok s ∧ q.1 = .ok s' ∧ SameUpTo exact RunSummary.untimed s s' ∧ p.2 = q.2

/-- The first computation breaks off if the first part of its result is an error. -/
def firstFault {σ : Type} (p : Except BenchError RunSummary × σ) : Option BenchError :=
  faultOf p.1

/-- What is done with the numbers of reports so far goes in step, if an error is passed on. -/
theorem bind_summary {σ τ : Type} {x : Recorded W (Except BenchError RunSummary × σ)}
    {y : Recorded W' (Except BenchError RunSummary × σ)}
    {f : Except BenchError RunSummary × σ → Recorded W (Except BenchError RunSummary × τ)}
    {g : Except BenchError RunSummary × σ → Recorded W' (Except BenchError RunSummary × τ)}
    (hx : Lockstep alike exact firstFault (sameSummary exact) x y)
    (hf : ∀ summary summary' z, SameUpTo exact RunSummary.untimed summary summary' →
      Lockstep alike exact firstFault (sameSummary exact) (f (.ok summary, z))
        (g (.ok summary', z)))
    (stop : ∀ e z, ∃ z', f (.error e, z) = pure (.error e, z')) :
    Lockstep alike exact firstFault (sameSummary exact) (x >>= f) (y >>= g) := by
  refine hx.bind ?_ ?_
  · rintro ⟨_, z⟩ ⟨_, _⟩ ⟨summary, summary', rfl, rfl, counts, rfl⟩
    exact hf summary summary' z counts
  · rintro ⟨result, z⟩ e refused
    obtain rfl : result = .error e := faultOf_eq_some refused
    obtain ⟨z', passed⟩ := stop e z
    exact ⟨_, passed, rfl⟩

/-- Both sinks accept. -/
def bothAccept (a b : Reception) : Prop :=
  a = .ok () ∧ b = .ok ()

theorem receive (h : sink.Forgives alike exact sink') {call call' : SinkCall}
    (same : SameUpTo exact SinkCall.untimed call call') :
    Lockstep alike exact faultOf bothAccept (sink.recorded.receive call)
      (sink'.recorded.receive call') := by
  intro w w' start
  have accepted := h.infallible call' w'
  have after := h.receive call call' w w' start same
  have told : SameUpTo exact (List.map Happening.untimed) [.told call (.ok ())]
      [.told call' (.ok ())] :=
    same.map (fun call => [Happening.told call (.ok ())]) fun untimed => by
      simp only [List.map_cons, Happening.untimed, untimed, List.map_nil]
  rw [Sink.receive_recorded, Sink.receive_recorded, Recorded.run_note, Recorded.run_note, accepted]
  cases answer : ((sink.receive call).run w).1 with
  | ok _ => exact .both ⟨rfl, rfl⟩ told (after answer)
  | error e =>
    -- the second sink accepts what the first one refuses
    have broke : Abreast alike exact faultOf bothAccept
        (((.error e : Reception), [] ++ [.told call (.error e)]), ((sink.receive call).run w).2)
        ((.ok (), [.told call' (.ok ())] ++ []), ((sink'.receive call').run w').2) :=
      .refused rfl told
    exact broke

/-- What is done with a result goes in step, if an error ends it. -/
theorem bind_result {α β γ δ : Type} {P : Except BenchError α → Except BenchError β → Prop}
    {Q : γ → δ → Prop} {fault : γ → Option BenchError} {x : Recorded W (Except BenchError α)}
    {y : Recorded W' (Except BenchError β)} {f : Except BenchError α → Recorded W γ}
    {g : Except BenchError β → Recorded W' δ} (hx : Lockstep alike exact faultOf P x y)
    (hf : ∀ a b, P a b → Lockstep alike exact fault Q (f a) (g b))
    (stop : ∀ e, ∃ c, f (.error e) = pure c ∧ fault c = some e) :
    Lockstep alike exact fault Q (x >>= f) (y >>= g) := by
  refine hx.bind hf ?_
  rintro result e refused
  obtain rfl : result = .error e := faultOf_eq_some refused
  exact stop e

theorem deliver (h : sink.Forgives alike exact sink') {summary summary' : RunSummary}
    (counts : SameUpTo exact RunSummary.untimed summary summary') {report report' : Report}
    (same : SameUpTo exact Report.untimed report report') :
    Lockstep alike exact faultOf
      (fun a b => ∃ s s', a = .ok s ∧ b = .ok s' ∧ SameUpTo exact RunSummary.untimed s s')
      (deliver sink.recorded summary report) (deliver sink'.recorded summary' report') := by
  have emitted : SameUpTo exact SinkCall.untimed (.emit report) (.emit report') :=
    same.map SinkCall.emit (congrArg SinkCall.emit)
  refine bind_result (receive h emitted) ?_ fun e => ⟨.error e, rfl, rfl⟩
  rintro _ _ ⟨rfl, rfl⟩
  refine .pure ⟨_, _, rfl, rfl, counts.map₂ same RunSummary.record fun untimed untimed' => ?_⟩
  rw [RunSummary.untimed_record, untimed, untimed', RunSummary.untimed_record]

theorem eachSample (h : r.Like alike exact r') (hsink : sink.Forgives alike exact sink')
    (hs : s.Like alike s') {summary summary' : RunSummary}
    (counts : SameUpTo exact RunSummary.untimed summary summary') (seen xs : List Sample) :
    Lockstep alike exact firstFault (sameSummary exact)
      (r.recorded.eachSample sink.recorded s.recorded summary seen xs)
      (r'.recorded.eachSample sink'.recorded s'.recorded summary' seen xs) := by
  induction xs generalizing summary summary' seen with
  | nil => exact .pure ⟨_, _, rfl, rfl, counts, rfl⟩
  | cons x xs ih =>
    refine bind_never (h.benchSample hs x) ?_
    rintro ⟨report, y⟩ ⟨report', _⟩ ⟨same, rfl⟩
    refine bind_result (deliver hsink counts same) ?_ fun e => ⟨_, rfl, rfl⟩
    rintro _ _ ⟨counted, counted', rfl, rfl, counts⟩
    exact ih counts (y :: seen)

theorem perSample (h : r.Like alike exact r') (hsink : sink.Forgives alike exact sink')
    {rest : Registry (StateM W)} {rest' : Registry (StateM W')}
    (hrest : List.Forall₂ (Registered.Like alike) rest rest') {summary summary' : RunSummary}
    (counts : SameUpTo exact RunSummary.untimed summary summary') (xs : List Sample) :
    Lockstep alike exact firstFault (sameSummary exact)
      (r.recorded.perSample sink.recorded (rest.map Registered.recorded) summary xs)
      (r'.recorded.perSample sink'.recorded (rest'.map Registered.recorded) summary' xs) := by
  induction hrest generalizing summary summary' xs with
  | nil => exact .pure ⟨_, _, rfl, rfl, counts, rfl⟩
  | cons hs _ ih =>
    refine bind_summary (h.eachSample hsink hs counts [] xs) ?_ fun e ys => ⟨ys, rfl⟩
    intro counted counted' ys counts
    exact ih counts ys

theorem total (h : r.Like alike exact r') (hsink : sink.Forgives alike exact sink')
    {rest : Registry (StateM W)} {rest' : Registry (StateM W')}
    (hrest : List.Forall₂ (Registered.Like alike) rest rest') {summary summary' : RunSummary}
    (counts : SameUpTo exact RunSummary.untimed summary summary') (xs : List Sample) :
    Lockstep alike exact firstFault (sameSummary exact)
      (r.recorded.total sink.recorded (rest.map Registered.recorded) summary xs)
      (r'.recorded.total sink'.recorded (rest'.map Registered.recorded) summary' xs) := by
  induction hrest generalizing summary summary' xs with
  | nil => exact .pure ⟨_, _, rfl, rfl, counts, rfl⟩
  | cons hs _ ih =>
    refine bind_never (h.benchCorpus hs xs) ?_
    rintro ⟨report, ys⟩ ⟨report', _⟩ ⟨same, rfl⟩
    refine bind_result (deliver hsink counts same) ?_ fun e => ⟨_, rfl, rfl⟩
    rintro _ _ ⟨counted, counted', rfl, rfl, counts⟩
    exact ih counts ys

/-! ### The whole run -/

theorem inMode (h : r.Like alike exact r') (hsink : sink.Forgives alike exact sink') (mode : Mode)
    {summary summary' : RunSummary} (counts : SameUpTo exact RunSummary.untimed summary summary')
    (xs : List Sample) :
    Lockstep alike exact firstFault (sameSummary exact)
      (r.recorded.inMode sink.recorded mode summary xs)
      (r'.recorded.inMode sink'.recorded mode summary' xs) := by
  have config : r'.recorded.config = r.recorded.config := h.config
  unfold Runner.inMode
  rw [config]
  refine bind_result (receive hsink (.refl _ (.begin mode r.recorded.config.iterations))) ?_
    fun e => ⟨_, rfl, rfl⟩
  rintro _ _ ⟨rfl, rfl⟩
  cases mode with
  | perSample => exact h.perSample hsink h.registry counts xs
  | total => exact h.total hsink h.registry counts xs

theorem inModes (h : r.Like alike exact r') (hsink : sink.Forgives alike exact sink')
    (modes : List Mode) {summary summary' : RunSummary}
    (counts : SameUpTo exact RunSummary.untimed summary summary') (xs : List Sample) :
    Lockstep alike exact firstFault (sameSummary exact)
      (r.recorded.inModes sink.recorded modes summary xs)
      (r'.recorded.inModes sink'.recorded modes summary' xs) := by
  induction modes generalizing summary summary' xs with
  | nil => exact .pure ⟨_, _, rfl, rfl, counts, rfl⟩
  | cons mode rest ih =>
    refine bind_summary (h.inMode hsink mode counts xs) ?_ fun e ys => ⟨ys, rfl⟩
    intro counted counted' ys counts
    exact ih counts ys

theorem runSamples (h : r.Like alike exact r') (hsink : sink.Forgives alike exact sink')
    (xs : List Sample) :
    Lockstep alike exact firstFault (sameSummary exact)
      (r.recorded.runSamples sink.recorded xs) (r'.recorded.runSamples sink'.recorded xs) := by
  have config : r'.recorded.config = r.recorded.config := h.config
  unfold Runner.runSamples
  rw [config]
  refine bind_never h.readClock fun start start' hstart => ?_
  refine bind_summary (h.inModes hsink _ (.refl _ {}) xs) ?_ fun e ys => ⟨ys, rfl⟩
  intro counted counted' ys counts
  refine bind_never h.readClock fun stop stop' hstop => ?_
  have time : SameUpTo exact (fun _ => ()) (stop.since start) (stop'.since start') :=
    hstop.map₂ hstart Duration.since fun _ _ => rfl
  have timed : SameUpTo exact RunSummary.untimed
      { counted with elapsed := stop.since start }
      { counted' with elapsed := stop'.since start' } :=
    counts.map₂ time (fun counted time => { counted with elapsed := time }) fun same _ => same
  refine bind_result (receive hsink (timed.map SinkCall.finish (congrArg SinkCall.finish))) ?_
    fun e => ⟨_, rfl, rfl⟩
  rintro _ _ ⟨rfl, rfl⟩
  exact .pure ⟨_, _, rfl, rfl, timed, rfl⟩

/-- Two runs go in step. -/
theorem run (h : r.Like alike exact r') (hsink : sink.Forgives alike exact sink')
    (corpus : Corpus) :
    Lockstep alike exact firstFault (sameSummary exact) (r.recorded.run sink.recorded corpus)
      (r'.recorded.run sink'.recorded corpus) := by
  refine bind_summary (h.runSamples hsink corpus.samples) ?_
    fun e ys => ⟨{ corpus with samples := ys }, rfl⟩
  intro counted counted' ys counts
  exact .pure ⟨_, _, rfl, rfl, counts, rfl⟩

end Runner.Like

end LangBench
