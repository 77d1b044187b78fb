import LangBench.Proofs.Run.Trace

/-!
# What happens in a run, with the answers of the sink

A trace tells which calls a sink received, but not what it said to them.  A transcript tells both.

* `Happening`: an event with the answer of the sink, if the sink was told something;
* `Runner.transcript`: what happens in a run;
* `Runner.exchanges`: the calls of the sink with its answers;
* `Runner.map_event_transcript`: without the answers, a transcript is a trace.
-/

namespace LangBench

/-- What a sink says to a call. -/
abbrev Reception := Except BenchError Unit

/-- What happens in a run. -/
inductive Happening where
  /-- A strategy, known by its label, was called and gave an answer. -/
  | called (strategy : String) (given : Given) (answer : Answer)
  /-- The sink was told something, and said this to it. -/
  | told (call : SinkCall) (reception : Reception)

/-- The event without the answer of the sink. -/
def Happening.event : Happening → Event
  | .called strategy given answer => .called strategy given answer
  | .told call _ => .told call

/-- The call of the sink and its answer, if this is one. -/
def Happening.exchange? : Happening → Option (SinkCall × Reception)
  | .called _ _ _ => none
  | .told call reception => some (call, reception)

/-- Computations on a world of which is written down what happens. -/
abbrev Recorded (W : Type) : Type → Type :=
  WriterT (List Happening) (StateM W)

variable {W α : Type}

/-- A computation of which something else is written down. -/
def MonadHom.mapLog {ε δ : Type} (f : ε → δ) :
    MonadHom (WriterT (List ε) (StateM W)) (WriterT (List δ) (StateM W)) where
  app x := WriterT.mk ((fun p => (p.1, p.2.map f)) <$> x.run)
  app_pure _ := rfl
  app_bind x g := by
    refine WriterT.ext _ _ (funext fun w => ?_)
    exact Prod.ext (Prod.ext rfl List.map_append) rfl

namespace Recorded

/-- A computation that is written down. -/
def note (happening : α → Happening) (x : StateM W α) : Recorded W α :=
  WriterT.mk ((fun a => (a, [happening a])) <$> x)

theorem run_note (happening : α → Happening) (x : StateM W α) (w : W) :
    (note happening x).run.run w = (((x.run w).1, [happening (x.run w).1]), (x.run w).2) := rfl

/-- A computation of which only the events are written down. -/
def events : MonadHom (Recorded W) (Watched W) :=
  .mapLog Happening.event

end Recorded

/-- A strategy whose calls are written down. -/
def Registered.recorded (s : Registered (StateM W)) : Registered (Recorded W) where
  label := s.label
  detector :=
    match s.detector with
    | .sample call => .sample fun languages b c =>
      Recorded.note (fun (answer, _) => .called s.label (.sample b c) answer) (call languages b c)
    | .classifier call => .classifier fun statistics data =>
      Recorded.note (fun answer => .called s.label (.content data) answer) (call statistics data)

@[simp] theorem Registered.label_recorded (s : Registered (StateM W)) :
    s.recorded.label = s.label := rfl

@[simp] theorem Registered.kind_recorded (s : Registered (StateM W)) :
    s.recorded.kind = s.kind := by
  obtain ⟨label, detector⟩ := s
  cases detector <;> rfl

theorem Registered.map_events_recorded (s : Registered (StateM W)) :
    s.recorded.map Recorded.events = s.watched := by
  obtain ⟨label, detector⟩ := s
  cases detector <;> rfl

/-- A sink whose calls and answers are written down. -/
def Sink.recorded (sink : Sink (StateM W)) : Sink (Recorded W) :=
  .ofReceive fun call => Recorded.note (.told call) (sink.receive call)

theorem Sink.receive_recorded (sink : Sink (StateM W)) (call : SinkCall) :
    sink.recorded.receive call = Recorded.note (.told call) (sink.receive call) := by
  cases call <;> rfl

theorem Sink.map_events_recorded (sink : Sink (StateM W)) :
    sink.recorded.map Recorded.events = sink.watched := rfl

namespace Runner

/-- A runner of whose runs is written down what happens. -/
def recorded (r : Runner (StateM W)) : Runner (Recorded W) where
  config := r.config
  registry := r.registry.map Registered.recorded
  context := r.context
  clock := liftM r.clock

theorem map_events_recorded (r : Runner (StateM W)) :
    r.recorded.map Recorded.events = r.watched := by
  have registry : (r.registry.map Registered.recorded).map (Registered.map Recorded.events) =
      r.registry.map Registered.watched := by
    rw [List.map_map]
    exact List.map_congr_left fun s _ => s.map_events_recorded
  unfold recorded map watched
  simp only [registry]
  rfl

variable (r : Runner (StateM W)) (sink : Sink (StateM W)) (corpus : Corpus) (w : W)

/-- What happens in a run that starts in the world `w`. -/
def transcript : List Happening :=
  ((r.recorded.run sink.recorded corpus).run.run w).1.2

/-- The calls of the sink in a run and what it said to them. -/
def exchanges : List (SinkCall × Reception) :=
  (r.transcript sink corpus w).filterMap Happening.exchange?

/-- Watching a run is reading what was recorded of it. -/
theorem events_run_recorded :
    Recorded.events.app (r.recorded.run sink.recorded corpus) =
      r.watched.run sink.watched corpus := by
  rw [← run_map, map_events_recorded, Sink.map_events_recorded]

/-- Without the answers of the sink, a transcript is a trace. -/
theorem map_event_transcript :
    (r.transcript sink corpus w).map Happening.event = r.trace sink corpus w := by
  rw [trace, ← events_run_recorded]
  rfl

/-- To be recorded changes nothing about a run. -/
theorem result_recorded :
    ((r.recorded.run sink.recorded corpus).run.run w).1.1 = ((r.run sink corpus).run w).1 := by
  rw [← forget_run_watched, ← events_run_recorded]
  rfl

end Runner

end LangBench
