import LangBench.Proofs.Run.Natural
import Mathlib.Control.Monad.Writer

/-!
# What happens in a run

Strategies, sink and clock act on a world of any type `W`.  A run is watched by writing down every
call of a strategy and every call of the sink, outside of that world, so that nobody can read what
was written.

* `Event`: what is written down;
* `Registered.watched`, `Sink.watched`, `Runner.watched`: strategies, sinks and runners whose
  calls are written down;
* `Runner.trace`: the events of a run;
* `Runner.forget_run_watched`: apart from its events, a run that is watched is the run itself;
* `Watched.Ensures`: what holds of the result and the events of a computation, wherever it starts.
-/

namespace LangBench

/-- What a strategy is given in a call. -/
inductive Given where
  | sample (blob : Blob) (cache : Cache)
  | content (data : List UInt8)

/-- What happens in a run. -/
inductive Event where
  /-- A strategy, known by its label, was called and gave an answer. -/
  | called (strategy : String) (given : Given) (answer : Answer)
  /-- The sink was told something. -/
  | told (call : SinkCall)

/-- Computations on a world whose events are written down. -/
abbrev Watched (W : Type) : Type → Type :=
  WriterT (List Event) (StateM W)

variable {W α β : Type}

namespace Watched

/-- A computation of which an event is written down. -/
def note (event : α → Event) (x : StateM W α) : Watched W α :=
  WriterT.mk ((fun a => (a, [event a])) <$> x)

/-- A computation without what was written down. -/
def forget : MonadHom (Watched W) (StateM W) where
  app x := Prod.fst <$> x.run
  app_pure _ := rfl
  app_bind _ _ := rfl

@[simp] theorem forget_liftM (x : StateM W α) : forget.app (liftM x : Watched W α) = x := rfl

/-- Wherever a computation starts, its result and its events satisfy `P`. -/
def Ensures (x : Watched W α) (P : α → List Event → Prop) : Prop :=
  ∀ w, P (x.run.run w).1.1 (x.run.run w).1.2

namespace Ensures

variable {x : Watched W α} {f : α → Watched W β} {P Q : α → List Event → Prop}
  {R : β → List Event → Prop}

theorem pure {a : α} (h : P a []) : Ensures (pure a : Watched W α) P :=
  fun _ => h

theorem bind (hx : Ensures x Q)
    (hf : ∀ a log, Q a log → Ensures (f a) fun b log' => R b (log ++ log')) :
    Ensures (x >>= f) R :=
  fun w => hf _ _ (hx w) _

theorem imp (hx : Ensures x P) (h : ∀ a log, P a log → Q a log) : Ensures x Q :=
  fun w => h _ _ (hx w)

/-- Of a computation that is not watched nothing is written down. -/
theorem liftM (x : StateM W α) : Ensures (liftM x : Watched W α) fun _ log => log = [] :=
  fun _ => rfl

end Ensures

end Watched

namespace Registered

/-- What a strategy is given when it is called on a sample. -/
def given (s : Registered (StateM W)) (x : Sample) : Given :=
  match s.detector with
  | .sample _ => .sample x.toBlob x.cache
  | .classifier _ => .content x.data

/-- The answer of a strategy that is called on a sample in the world `w`. -/
def answer (s : Registered (StateM W)) (context : Context) (x : Sample) (w : W) : Answer :=
  ((s.invoke context x.toBlob x.cache).run w).1.1

/-- A strategy whose calls are written down. -/
def watched (s : Registered (StateM W)) : Registered (Watched W) where
  label := s.label
  detector :=
    match s.detector with
    | .sample call => .sample fun languages b c =>
      Watched.note (fun (answer, _) => .called s.label (.sample b c) answer) (call languages b c)
    | .classifier call => .classifier fun statistics data =>
      Watched.note (fun answer => .called s.label (.content data) answer) (call statistics data)

@[simp] theorem label_watched (s : Registered (StateM W)) : s.watched.label = s.label := rfl

@[simp] theorem kind_watched (s : Registered (StateM W)) : s.watched.kind = s.kind := by
  obtain ⟨label, detector⟩ := s
  cases detector <;> rfl

@[simp] theorem map_forget_watched (s : Registered (StateM W)) :
    s.watched.map Watched.forget = s := by
  obtain ⟨label, detector⟩ := s
  cases detector <;> rfl

end Registered

/-- A sink whose calls are written down. -/
def Sink.watched (sink : Sink (StateM W)) : Sink (Watched W) :=
  .ofReceive fun call => Watched.note (fun _ => .told call) (sink.receive call)

@[simp] theorem Sink.map_forget_watched (sink : Sink (StateM W)) :
    sink.watched.map Watched.forget = sink := rfl

namespace Runner

/-- A runner whose strategies are watched. -/
def watched (r : Runner (StateM W)) : Runner (Watched W) where
  config := r.config
  registry := r.registry.map Registered.watched
  context := r.context
  clock := liftM r.clock

theorem map_forget_watched (r : Runner (StateM W)) : r.watched.map Watched.forget = r := by
  obtain ⟨config, registry, context, clock⟩ := r
  have kept : registry.map (Registered.map Watched.forget ∘ Registered.watched) = registry := by
    simp [Function.comp_def]
  simp only [watched, map, List.map_map, kept, Watched.forget_liftM]

/-- The events of a run that starts in the world `w`. -/
def trace (r : Runner (StateM W)) (sink : Sink (StateM W)) (corpus : Corpus) (w : W) :
    List Event :=
  ((r.watched.run sink.watched corpus).run.run w).1.2

/-- To be watched changes nothing about a run. -/
theorem forget_run_watched (r : Runner (StateM W)) (sink : Sink (StateM W)) (corpus : Corpus) :
    Watched.forget.app (r.watched.run sink.watched corpus) = r.run sink corpus := by
  rw [← run_map, map_forget_watched, Sink.map_forget_watched]

/-- What holds of a run that is watched holds of the result of a run and its trace. -/
theorem of_ensures {r : Runner (StateM W)} {sink : Sink (StateM W)} {corpus : Corpus}
    {P : Except BenchError RunSummary × Corpus → List Event → Prop}
    (h : Watched.Ensures (r.watched.run sink.watched corpus) P) (w : W) :
    P ((r.run sink corpus).run w).1 (r.trace sink corpus w) := by
  rw [← forget_run_watched]
  exact h w

/-! ### A single call -/

/-- What becomes of an answer after which so much time has passed. -/
def lapOf {m : Type → Type} (s : Registered m) (b : Blob) (answer : Answer) (time : Duration) :
    Except BenchError Duration :=
  match answer.failure? with
  | none => .ok time
  | some f => .error (strategyError s b f)

/-- A call in which only the last step depends on the answer. -/
theorem invokeOnce_eq {m : Type → Type} [Monad m] (r : Runner m) (s : Registered m) (x : Sample) :
    r.invokeOnce s x = (do
      let start ← r.clock
      let p ← s.invoke r.context x.toBlob x.cache
      let stop ← r.clock
      pure (lapOf s x.toBlob p.1 (stop.since start), x.reset)) := by
  simp only [invokeOnce]
  refine bind_congr fun start => bind_congr fun p => bind_congr fun stop => ?_
  obtain ⟨answer, cache⟩ := p
  cases answer <;> rfl

section Call

variable (r : Runner (StateM W)) (s : Registered (StateM W)) (x : Sample)

/-- The answer of a strategy that is called when the world is `w`; the clock is read first. -/
def answerAt (w : W) : Answer :=
  s.answer r.context x (r.clock.run w).2

/-- What is written down of a call. -/
def callEvent (w : W) : Event :=
  .called s.label (s.given x) (r.answerAt s x w)

theorem run_invokeOnce (w : W) : ∃ time w', (r.invokeOnce s x).run w =
    ((lapOf s x.toBlob (r.answerAt s x w) time, x.reset), w') := by
  rw [invokeOnce_eq]
  exact ⟨_, _, rfl⟩

/-- A sample is clean after a call, whatever the answer. -/
theorem sample_invokeOnce (w : W) : ((r.invokeOnce s x).run w).1.2 = x.reset := by
  obtain ⟨time, w', h⟩ := r.run_invokeOnce s x w
  rw [h]

/-- One event is written down of a call. -/
theorem ensures_invokeOnce :
    Watched.Ensures (r.watched.invokeOnce s.watched x) fun p log =>
      ∃ w, p = ((r.invokeOnce s x).run w).1 ∧ log = [r.callEvent s x w] := by
  intro w
  refine ⟨w, ?_, ?_⟩
  -- what the call gives is what it gives unwatched
  · have forgotten := r.watched.invokeOnce_map Watched.forget s.watched x
    rw [map_forget_watched, Registered.map_forget_watched] at forgotten
    rw [forgotten]
    rfl
  · rw [invokeOnce_eq]
    obtain ⟨label, detector⟩ := s
    cases detector <;> rfl

end Call

end Runner

end LangBench
