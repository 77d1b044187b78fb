import LangBench.Bench
import LangBench.Proofs.Run.Lockstep
import LangBench.Proofs.Run.Reset

/-!
# Sinks that refuse a call

A run ends with the first call that its sink refuses.  Up to there it is the run that another sink
would have seen to its end.

* `Runner.Rerun`: the same run once more, with a sink that never fails;
* `Runner.Rerun.pardoned`: such a rerun, for every run;
* `Runner.Rerun.apart`: another one, if the sink acts in a world of its own;
* `Runner.transcript_of_infallible`: a sink that never fails accepts every call;
* `Runner.Rerun.ended`: a run goes in step with a rerun until it ends;
* `Runner.Refused`, `Runner.refused_run`: what is left of a run whose sink refused a call;
* `Runner.trace_pardoned`: what happened in it happens in the same run with the sink pardoned;
* `Bench.LoadFails`: what a standard run rests on cannot be loaded;
* `Bench.runAt_of_loadFails`, `runAt_of_loaded`: such a run is over without any act, and any other
  one is a run of the standard strategies;
* `Bench.aborted`: what a refused call and a failed load do to a run.
-/

namespace LangBench

variable {W W' : Type}

/-! ### Sinks that never fail -/

/-- The event, with the answer of a sink that accepts it. -/
def Event.accepted : Event → Happening
  | .called strategy given answer => .called strategy given answer
  | .told call => .told call (.ok ())

/-- A computation whose sink accepts every call. -/
def Recorded.accept : MonadHom (Watched W) (Recorded W) :=
  .mapLog Event.accepted

theorem Registered.map_accept_watched (s : Registered (StateM W)) :
    s.watched.map Recorded.accept = s.recorded := by
  obtain ⟨label, detector⟩ := s
  cases detector <;> rfl

theorem Sink.receive_watched (sink : Sink (StateM W)) (call : SinkCall) :
    sink.watched.receive call = Watched.note (fun _ => .told call) (sink.receive call) := by
  cases call <;> rfl

theorem Sink.Infallible.map_accept_watched {sink : Sink (StateM W)} (h : sink.Infallible) :
    sink.watched.map Recorded.accept = sink.recorded := by
  have noted : ∀ call, Recorded.accept.app (sink.watched.receive call) =
      Recorded.note (.told call) (sink.receive call) := by
    intro call
    rw [Sink.receive_watched]
    refine WriterT.ext _ _ (funext fun w => ?_)
    refine Prod.ext (Prod.ext rfl ?_) rfl
    exact congrArg (fun answer => [Happening.told call answer]) (h call w).symm
  exact congrArg Sink.ofReceive (funext noted)

namespace Runner

variable {r : Runner (StateM W)} {sink : Sink (StateM W)}

/-- A sink that never fails accepts every call. -/
theorem transcript_of_infallible (h : sink.Infallible) (corpus : Corpus) (w : W) :
    r.transcript sink corpus w = (r.trace sink corpus w).map Event.accepted := by
  have registry : (r.registry.map Registered.watched).map (Registered.map Recorded.accept) =
      r.registry.map Registered.recorded := by
    rw [List.map_map]
    exact List.map_congr_left fun s _ => s.map_accept_watched
  have runner : r.watched.map Recorded.accept = r.recorded := by
    unfold watched map recorded
    simp only [registry]
    rfl
  rw [transcript, ← runner, ← h.map_accept_watched, run_map]
  rfl

/-! ### Reruns -/

/-- The same run once more, with a sink that never fails, maybe in another world.  If `exact`, the
clocks of both runs show the same. -/
structure Rerun (r : Runner (StateM W)) (sink : Sink (StateM W)) (w : W) (W' : Type) where
  runner : Runner (StateM W')
  /-- The sink that never fails. -/
  patient : Sink (StateM W')
  start : W'
  alike : W → W' → Prop
  exact : Prop
  like : r.Like alike exact runner
  forgives : sink.Forgives alike exact patient
  begins : alike w start

end Runner

/-- The sink that does the same but accepts every call. -/
def Sink.pardoned (sink : Sink (StateM W)) : Sink (StateM W) :=
  .ofReceive fun call => (fun _ => .ok ()) <$> sink.receive call

theorem Sink.infallible_pardoned (sink : Sink (StateM W)) : sink.pardoned.Infallible := by
  intro call w
  cases call <;> rfl

theorem Sink.forgives_pardoned (sink : Sink (StateM W)) :
    sink.Forgives (· = ·) True sink.pardoned where
  infallible := sink.infallible_pardoned
  receive := by
    rintro call call' w w' rfl same -
    obtain rfl : call = call' := same.eq trivial
    cases call <;> rfl

/-- A computation in the first of two worlds. -/
def MonadHom.inFirst (K : Type) : MonadHom (StateM W) (StateM (W × K)) where
  app x := fun p => ((x.run p.1).1, ((x.run p.1).2, p.2))
  app_pure _ := rfl
  app_bind _ _ := rfl

/-- A sink in the second of two worlds. -/
def Sink.inSecond {K : Type} (sink : Sink (StateM K)) : Sink (StateM (W × K)) :=
  .ofReceive fun call => fun p =>
    (((sink.receive call).run p.2).1, (p.1, ((sink.receive call).run p.2).2))

namespace Runner

variable {r : Runner (StateM W)} {sink : Sink (StateM W)}

theorem like_refl (r : Runner (StateM W)) : r.Like (· = ·) True r where
  config := rfl
  context := rfl
  registry := List.forall₂_same.2 fun s _ => ⟨rfl, rfl, fun _ _ _ _ _ same => by rw [same]; simp⟩
  clock := by
    rintro w w' rfl
    exact ⟨.refl _ _, rfl⟩

/-- The same run with a sink that does the same but accepts every call. -/
def Rerun.pardoned (r : Runner (StateM W)) (sink : Sink (StateM W)) (w : W) : r.Rerun sink w W where
  runner := r
  patient := sink.pardoned
  start := w
  alike := (· = ·)
  exact := True
  like := r.like_refl
  forgives := sink.forgives_pardoned
  begins := rfl

/-- The same run without its sink, if the sink acts in a world of its own. -/
def Rerun.apart {K : Type} (r : Runner (StateM W)) (sink : Sink (StateM K)) (w : W) (k : K) :
    (r.map (.inFirst K)).Rerun sink.inSecond (w, k) W where
  runner := r
  patient := .accepting
  start := w
  alike p w := p.1 = w
  exact := True
  like := {
    config := rfl
    context := rfl
    registry := by
      refine List.forall₂_map_left_iff.2 (List.forall₂_same.2 fun s _ => ?_)
      refine ⟨rfl, (s.kind_map _).symm, ?_⟩
      rintro context b c ⟨w, k⟩ _ rfl
      rw [Registered.invoke_map]
      exact ⟨rfl, rfl⟩
    clock := by
      rintro ⟨w, k⟩ _ rfl
      exact ⟨.refl _ _, rfl⟩ }
  forgives := {
    infallible := Sink.infallible_accepting
    receive := by
      rintro call call' ⟨w, k⟩ _ rfl same -
      cases call <;> cases call' <;> rfl }
  begins := rfl

variable {w : W}

/-- How a run and a rerun of it ended: alike, or the run broke off at a call that its sink
refused. -/
theorem Rerun.ended (again : r.Rerun sink w W') (corpus : Corpus) :
    (∃ summary summary', ((r.run sink corpus).run w).1.1 = .ok summary ∧
      ((again.runner.run again.patient corpus).run again.start).1.1 = .ok summary' ∧
      SameUpTo again.exact RunSummary.untimed summary summary' ∧
      SameUpTo again.exact (List.map Happening.untimed) (r.transcript sink corpus w)
        (again.runner.transcript again.patient corpus again.start)) ∨
    ∃ before call e past future, ((r.run sink corpus).run w).1.1 = .error e ∧
      r.transcript sink corpus w = before ++ [.told call (.error e)] ∧
      again.runner.transcript again.patient corpus again.start = past ++ future ∧
      SameUpTo again.exact (List.map Happening.untimed) (before ++ [.told call (.ok ())]) past := by
  have abreast := again.like.run again.forgives corpus again.begins
  rw [← result_recorded, ← result_recorded]
  unfold transcript
  generalize (r.recorded.run sink.recorded corpus).run.run w = p at abreast ⊢
  generalize (again.runner.recorded.run again.patient.recorded corpus).run.run again.start = q
    at abreast ⊢
  cases abreast with
  | both related same =>
    obtain ⟨summary, summary', result, result', counts, -⟩ := related
    exact .inl ⟨summary, summary', result, result', counts, same⟩
  | refused broke same =>
    exact .inr ⟨_, _, _, _, _, faultOf_eq_some broke, rfl, rfl, same⟩

/-! ### Calls and answers -/

/-- The calls that the sink receives in a run. -/
def calls (r : Runner (StateM W)) (sink : Sink (StateM W)) (corpus : Corpus) (w : W) :
    List SinkCall :=
  (r.exchanges sink corpus w).map Prod.fst

theorem filterMap_exchange?_untimed (log : List Happening) :
    (log.map Happening.untimed).filterMap Happening.exchange? =
      (log.filterMap Happening.exchange?).map fun p => (p.1.untimed, p.2) := by
  rw [List.filterMap_map, List.map_filterMap]
  exact List.filterMap_congr fun h _ => h.exchange?_untimed

/-- Without durations, the same happened and so the same calls were made. -/
theorem sameUpTo_calls {exact : Prop} {log log' : List Happening}
    (same : SameUpTo exact (List.map Happening.untimed) log log') :
    SameUpTo exact (List.map SinkCall.untimed) ((log.filterMap Happening.exchange?).map Prod.fst)
      ((log'.filterMap Happening.exchange?).map Prod.fst) := by
  refine same.map (fun log => (log.filterMap Happening.exchange?).map Prod.fst) fun untimed => ?_
  have calls : ∀ log : List Happening,
      ((log.filterMap Happening.exchange?).map Prod.fst).map SinkCall.untimed =
        ((log.map Happening.untimed).filterMap Happening.exchange?).map Prod.fst := by
    intro log
    rw [filterMap_exchange?_untimed, List.map_map, List.map_map]
    rfl
  rw [calls, untimed, calls]

/-- Without durations, the same happened and so the same answers were given. -/
theorem answers_eq {log log' : List Happening}
    (same : log.map Happening.untimed = log'.map Happening.untimed) :
    (log.filterMap Happening.exchange?).map Prod.snd =
      (log'.filterMap Happening.exchange?).map Prod.snd := by
  have answers : ∀ log : List Happening, (log.filterMap Happening.exchange?).map Prod.snd =
      ((log.map Happening.untimed).filterMap Happening.exchange?).map Prod.snd := by
    intro log
    rw [filterMap_exchange?_untimed, List.map_map]
    rfl
  rw [answers log, same, ← answers log']

theorem answers_of_infallible (h : sink.Infallible) (corpus : Corpus) (w : W) :
    ∀ answer ∈ (r.exchanges sink corpus w).map Prod.snd, answer = .ok () := by
  intro answer mem
  obtain ⟨p, exchanged, rfl⟩ := List.mem_map.1 mem
  rw [exchanges, transcript_of_infallible h, List.filterMap_map] at exchanged
  obtain ⟨e, -, he⟩ := List.mem_filterMap.1 exchanged
  cases e with
  | called strategy given answer => cases he
  | told call =>
    obtain rfl := Option.some.inj he
    rfl

/-- A refused call after accepted ones is the one with their number. -/
theorem eq_last_of_refused {accepted : List (SinkCall × Reception)}
    (answers : ∀ answer ∈ accepted.map Prod.snd, answer = .ok ()) {last : SinkCall × Reception}
    {k : Nat} {call : SinkCall} {e : BenchError}
    (refused : (accepted ++ [last])[k]? = some (call, .error e)) :
    accepted.length = k ∧ last = (call, .error e) := by
  rcases Nat.lt_trichotomy k accepted.length with earlier | rfl | later
  · rw [List.getElem?_append_left earlier] at refused
    have answered := answers (.error e) (List.mem_map.2 ⟨_, List.mem_of_getElem? refused, rfl⟩)
    cases answered
  · rw [List.getElem?_concat_length] at refused
    exact ⟨rfl, Option.some.inj refused⟩
  · have beyond : (accepted ++ [last]).length ≤ k := by
      rw [List.length_append, List.length_singleton]
      omega
    rw [List.getElem?_eq_none beyond] at refused
    cases refused

/-- What a refused call says of a run and a rerun of it. -/
theorem Rerun.refused (again : r.Rerun sink w W') {corpus : Corpus} {k : Nat} {call : SinkCall}
    {e : BenchError} (refused : (r.exchanges sink corpus w)[k]? = some (call, .error e)) :
    ∃ before past future, ((r.run sink corpus).run w).1.1 = .error e ∧
      r.transcript sink corpus w = before ++ [.told call (.error e)] ∧
      (before.filterMap Happening.exchange?).length = k ∧
      (∀ answer ∈ (before.filterMap Happening.exchange?).map Prod.snd, answer = .ok ()) ∧
      again.runner.transcript again.patient corpus again.start = past ++ future ∧
      SameUpTo again.exact (List.map Happening.untimed) (before ++ [.told call (.ok ())]) past := by
  have patient := answers_of_infallible (r := again.runner) again.forgives.infallible corpus
    again.start
  obtain ⟨summary, summary', -, -, -, same⟩ |
    ⟨before, call', e', past, future, result, ended, goes_on, same⟩ := again.ended corpus
  · -- with the answers of a sink that never fails, no call was refused
    rw [exchanges, ← answers_eq same.up_to] at patient
    have answered := patient (.error e) (List.mem_map.2 ⟨_, List.mem_of_getElem? refused, rfl⟩)
    cases answered
  · have answers : ∀ answer ∈ (before.filterMap Happening.exchange?).map Prod.snd,
        answer = .ok () := by
      intro answer mem
      refine patient answer ?_
      rw [exchanges, goes_on, List.filterMap_append, List.map_append, ← answers_eq same.up_to,
        List.filterMap_append, List.map_append]
      exact List.mem_append_left _ (List.mem_append_left _ mem)
    rw [exchanges, ended, List.filterMap_append] at refused
    obtain ⟨number, last⟩ := eq_last_of_refused answers refused
    cases last
    exact ⟨before, past, future, result, ended, number, answers, goes_on, same⟩

/-! ### Runs that were broken off -/

/-- A run whose sink refused the call with number `k`, counted from 0, giving the error `e`. -/
structure Refused (r : Runner (StateM W)) (sink : Sink (StateM W)) (corpus : Corpus) (w : W)
    (k : Nat) (call : SinkCall) (e : BenchError) : Prop where
  /-- The run gives this error. -/
  result : ((r.run sink corpus).run w).1.1 = .error e
  /-- Nothing happens after the refused call. -/
  last : ∃ before, r.transcript sink corpus w = before ++ [.told call (.error e)]
  /-- All calls before it were accepted. -/
  earlier : ∃ accepted : List SinkCall, accepted.length = k ∧
    r.exchanges sink corpus w = accepted.map (fun call => (call, .ok ())) ++ [(call, .error e)]
  /-- The calls are the first ones of every rerun. -/
  calls : ∀ {W' : Type} (again : r.Rerun sink w W'),
    SameUpTo again.exact (List.map SinkCall.untimed) (r.calls sink corpus w)
      ((again.runner.calls again.patient corpus again.start).take (k + 1))
  /-- Each sample is clean, or as it was before. -/
  samples : List.Forall₂ (fun x y => y.isClean = true ∨ y = x) corpus.samples
    ((r.run sink corpus).run w).1.2.samples
  /-- If all samples were clean, they are clean again. -/
  clean : (∀ x ∈ corpus.samples, x.isClean = true) →
    ∀ y ∈ ((r.run sink corpus).run w).1.2.samples, y.isClean = true

/-- Lists whose elements are related by a transitive relation. -/
theorem forall₂_trans {α : Type} {R : α → α → Prop} (trans : ∀ x y z, R x y → R y z → R x z)
    {xs ys zs : List α} (h : List.Forall₂ R xs ys) (h' : List.Forall₂ R ys zs) :
    List.Forall₂ R xs zs := by
  induction h generalizing zs with
  | nil =>
    cases h'
    exact .nil
  | cons first _ ih =>
    cases h' with
    | cons first' rest' => exact .cons (trans _ _ _ first first') (ih rest')

theorem Step.isClean_or_eq {xs ys : List Sample} {e : Event} (h : Step r xs e ys) :
    List.Forall₂ (fun x y => y.isClean = true ∨ y = x) xs ys := by
  have same : ∀ xs : List Sample,
      List.Forall₂ (fun x y : Sample => y.isClean = true ∨ y = x) xs xs :=
    fun xs => List.forall₂_same.2 fun x _ => .inr rfl
  cases h with
  | call hs before after x w =>
    rw [sample_invokeOnce]
    exact List.rel_append (same before) (.cons (.inl x.isClean_reset) (same after))
  | tell => exact same xs

/-- In a walk each sample becomes clean or stays as it was. -/
theorem Walk.isClean_or_eq {xs ys : List Sample} {log : List Event} (h : Walk r xs log ys) :
    List.Forall₂ (fun x y => y.isClean = true ∨ y = x) xs ys := by
  induction h with
  | nil xs => exact List.forall₂_same.2 fun x _ => .inr rfl
  | cons step _ ih =>
    refine forall₂_trans ?_ step.isClean_or_eq ih
    rintro x y z hy (hz | rfl)
    · exact .inl hz
    · exact hy

/-- Calls that were all accepted. -/
theorem eq_map_of_answers {exchanged : List (SinkCall × Reception)}
    (answers : ∀ answer ∈ exchanged.map Prod.snd, answer = .ok ()) :
    exchanged = (exchanged.map Prod.fst).map fun call => (call, .ok ()) := by
  rw [List.map_map]
  refine (List.map_id _).symm.trans (List.map_congr_left ?_)
  rintro ⟨call, answer⟩ mem
  rw [id, answers answer (List.mem_map.2 ⟨_, mem, rfl⟩)]
  rfl

/-- The calls up to the refused one are the first ones of a rerun. -/
theorem Rerun.take_calls (again : r.Rerun sink w W') {corpus : Corpus} {k : Nat} {call : SinkCall}
    {e : BenchError} (refused : (r.exchanges sink corpus w)[k]? = some (call, .error e)) :
    SameUpTo again.exact (List.map SinkCall.untimed) (r.calls sink corpus w)
      ((again.runner.calls again.patient corpus again.start).take (k + 1)) := by
  obtain ⟨before, past, future, -, ended, number, -, goes_on, same⟩ := again.refused refused
  have calls := sameUpTo_calls same
  rw [List.filterMap_append, List.map_append] at calls
  have length : (past.filterMap Happening.exchange?).length = k + 1 := by
    have equal := congrArg List.length calls.up_to
    simp only [List.length_map, List.length_append, number] at equal
    exact equal.symm
  have first : (again.runner.calls again.patient corpus again.start).take (k + 1) =
      (past.filterMap Happening.exchange?).map Prod.fst := by
    rw [Runner.calls, exchanges, goes_on, List.filterMap_append, List.map_append]
    exact List.take_left' (by rw [List.length_map, length])
  rw [first, Runner.calls, exchanges, ended, List.filterMap_append, List.map_append]
  exact calls

/-- A refused call ends a run. -/
theorem refused_run {corpus : Corpus} {k : Nat} {call : SinkCall} {e : BenchError}
    (refused : (r.exchanges sink corpus w)[k]? = some (call, .error e)) :
    r.Refused sink corpus w k call e := by
  obtain ⟨before, past, future, result, ended, number, answers, -, -⟩ :=
    (Rerun.pardoned r sink w).refused refused
  have exchanged : r.exchanges sink corpus w =
      before.filterMap Happening.exchange? ++ [(call, .error e)] := by
    rw [exchanges, ended, List.filterMap_append]
    rfl
  have walk := r.walk_run sink corpus w
  refine ⟨result, ⟨before, ended⟩, ?_, fun again => again.take_calls refused, walk.isClean_or_eq,
    fun clean => (walk.untouched clean).clean⟩
  refine ⟨(before.filterMap Happening.exchange?).map Prod.fst, by simpa using number, ?_⟩
  rw [exchanged, ← eq_map_of_answers answers]

/-- What happens in a run happens in the same run with the sink pardoned, before anything else. -/
theorem trace_pardoned (r : Runner (StateM W)) (sink : Sink (StateM W)) (corpus : Corpus) (w : W) :
    r.trace sink corpus w <+: r.trace sink.pardoned corpus w := by
  rw [← map_event_transcript, ← map_event_transcript]
  obtain ⟨-, -, -, -, -, same⟩ | ⟨before, call, e, past, future, -, ended, goes_on, same⟩ :=
    (Rerun.pardoned r sink w).ended corpus
  · exact ⟨[], by rw [List.append_nil, same.eq trivial]; rfl⟩
  · refine ⟨future.map Happening.event, ?_⟩
    have continued : r.transcript sink.pardoned corpus w = past ++ future := goes_on
    rw [ended, continued, ← same.eq trivial]
    simp [Happening.event]

end Runner

namespace Bench

/-- What a standard run rests on cannot be loaded: the corpus at `root`, or else the languages, or
else the rules. -/
inductive LoadFails (data : DetectionData) (cwd : Disk.Spot) (root : Path) : BenchError → Prop
  | corpus {e : BenchError} (fails : Corpus.load cwd root = .error e) : LoadFails data cwd root e
  | languages {corpus : Corpus} {e : DetectError} (loaded : Corpus.load cwd root = .ok corpus)
      (fails : data.catalogue = .error e) : LoadFails data cwd root (.detect e)
  | rules {corpus : Corpus} {languages : Catalogue} {e : DetectError}
      (loaded : Corpus.load cwd root = .ok corpus) (listed : data.catalogue = .ok languages)
      (fails : data.ruleBook = .error e) : LoadFails data cwd root (.detect e)

section Load

variable {data : DetectionData} {cwd : Disk.Spot} {config : Config} {e : BenchError}

/-- No corpus is loaded from a root that cannot be listed, be it missing or a file. -/
theorem loadFails_of_listTrees {root : Path} {fault : DiskFault}
    (unlisted : Disk.listTrees cwd root = .error fault) :
    LoadFails data cwd root (.filesystem root fault) := by
  refine .corpus ?_
  rw [Corpus.load, unlisted]

variable {m : Type → Type} [Monad m] (clock : m Duration) (sink : Sink m)

theorem prepare_of_loadFails (h : LoadFails data cwd config.corpusRoot e) :
    prepare data config clock (Corpus.load cwd config.corpusRoot) = .error e := by
  cases h with
  | corpus fails =>
    rw [fails]
    rfl
  | languages loaded fails =>
    rw [loaded, prepare, fails]
    rfl
  | rules loaded listed fails =>
    rw [loaded, prepare, listed, fails]
    rfl

/-- A run that cannot be prepared is over without any act. -/
theorem runAt_of_loadFails (h : LoadFails data cwd config.corpusRoot e) :
    runAt data cwd config clock sink = pure (.error e) := by
  rw [runAt, runWith, prepare_of_loadFails clock h]

/-- Otherwise it is the run of the standard strategies over what was loaded. -/
theorem runAt_of_loaded {corpus : Corpus} {languages : Catalogue} {rules : RuleBook}
    (loaded : Corpus.load cwd config.corpusRoot = .ok corpus)
    (listed : data.catalogue = .ok languages) (compiled : data.ruleBook = .ok rules) :
    runAt data cwd config clock sink =
      (do return (← (runner config languages rules clock corpus).run sink corpus).1) := by
  rw [runAt, runWith, loaded, prepare, listed, compiled]
  rfl

end Load

/-- **Nothing happens after a failure of the sink or of the load.**  The first call that a sink
refuses is the last thing that happens in a run, which gives the error of the sink and was, up to
there, any rerun with a patient sink; each sample is then clean, or as it was before.  If the corpus
that the config names cannot be loaded, or else the languages, or else the rules, a standard run
gives the reason and is over at once: neither sink nor clock nor strategies act.  Otherwise it is
the run of the standard strategies over what was loaded. -/
theorem aborted (r : Runner (StateM W)) (sink : Sink (StateM W)) (corpus : Corpus) (w : W) :
    (∀ k call e, (r.exchanges sink corpus w)[k]? = some (call, .error e) →
      r.Refused sink corpus w k call e) ∧
    ∀ {m : Type → Type} [Monad m] (data : DetectionData) (cwd : Disk.Spot) (config : Config)
      (clock : m Duration) (sink : Sink m),
      (∀ e, LoadFails data cwd config.corpusRoot e →
        runAt data cwd config clock sink = pure (.error e)) ∧
      (∀ fault, Disk.listTrees cwd config.corpusRoot = .error fault →
        runAt data cwd config clock sink = pure (.error (.filesystem config.corpusRoot fault))) ∧
      ∀ corpus languages rules, Corpus.load cwd config.corpusRoot = .ok corpus →
        data.catalogue = .ok languages → data.ruleBook = .ok rules →
        runAt data cwd config clock sink =
          (do return (← (runner config languages rules clock corpus).run sink corpus).1) := by
  refine ⟨fun k call e => Runner.refused_run, fun data cwd config clock sink => ⟨?_, ?_, ?_⟩⟩
  · intro e fails
    exact runAt_of_loadFails clock sink fails
  · intro fault unlisted
    exact runAt_of_loadFails clock sink (loadFails_of_listTrees unlisted)
  · intro corpus languages rules loaded listed compiled
    exact runAt_of_loaded clock sink loaded listed compiled

/-- Data with two languages of one name. -/
def doubled : DetectionData :=
  { DetectionData.standard with languages := .ok [{ name := "Ada" }, { name := "ADA" }] }

/-- Data with one language and no rules. -/
def lone : DetectionData :=
  { DetectionData.standard with languages := .ok [{ name := "Ada" }], rules := .ok [] }

/-- A directory with an empty directory `r` for samples. -/
def bare : Disk.Entries :=
  [([0x72], .directory [])]

theorem load_bare : Corpus.load bare ⟨[0x72]⟩ = .ok ⟨⟨[0x72]⟩, []⟩ := by
  have resolved : Disk.resolve bare ⟨[0x72]⟩ =
      .ok (.directory ((bare : Disk.Spot).enter []), Disk.linkLimit) :=
    (Disk.resolveFrom.eq_def ..).trans (Disk.resolveFrom.eq_def ..)
  have listed : Disk.listTrees bare ⟨[0x72]⟩ = .ok [] := by
    rw [Disk.listTrees, resolved]
    rfl
  rw [Corpus.load, listed]
  simp only [Corpus.ofEntries, Tree.samples, Tree.samplesEach, Tree.byName, List.mergeSort_nil]
  rfl

theorem aborted_faulty_twins : (∃ call,
    (Runner.faulty.exchanges Runner.refusing Runner.twins {})[1]? =
      some (call, .error (.report "full")) ∧
    ((Runner.faulty.run Runner.refusing Runner.twins).run {}).1.1 = .error (.report "full") ∧
    Runner.faulty.calls Runner.refusing Runner.twins {} =
      (Runner.faulty.calls Runner.refusing.pardoned Runner.twins {}).take 2) ∧
    (runAt .standard bare { corpusRoot := ⟨[0x73]⟩ } Runner.faulty.clock Runner.refusing).run {} =
      (.error (.filesystem ⟨[0x73]⟩ .notFound), {}) ∧
    (runAt doubled bare { corpusRoot := ⟨[0x72]⟩ } Runner.faulty.clock Runner.refusing).run {} =
      (.error (.detect (.catalogue Catalogue.source (.duplicate "ADA"))), {}) ∧
    ((runAt lone bare { corpusRoot := ⟨[0x72]⟩ } Runner.faulty.clock Runner.refusing).run {}).1 =
      .error (.report "full") := by
  have refused : (Runner.faulty.exchanges Runner.refusing Runner.twins {})[1]?.map
      (fun p => faultOf p.2) = some (some (.report "full")) := by decide +kernel
  obtain ⟨⟨call, answer⟩, second, fault⟩ := Option.map_eq_some_iff.1 refused
  obtain rfl : answer = .error (.report "full") := faultOf_eq_some fault
  obtain ⟨broken, fails⟩ := aborted Runner.faulty Runner.refusing Runner.twins {}
  have broken := broken 1 call _ second
  refine ⟨⟨call, second, broken.result, (broken.calls (.pardoned _ _ _)).eq trivial⟩, ?_, ?_, ?_⟩
  · have unlisted : Disk.listTrees bare ⟨[0x73]⟩ = .error .notFound := by
      have unresolved : Disk.resolve bare ⟨[0x73]⟩ = .error .notFound := Disk.resolveFrom.eq_def ..
      rw [Disk.listTrees, unresolved]
    rw [(fails .standard bare { corpusRoot := ⟨[0x73]⟩ } Runner.faulty.clock
      Runner.refusing).2.1 _ unlisted]
    rfl
  · have unnamed : doubled.catalogue = .error (.catalogue Catalogue.source (.duplicate "ADA")) :=
      faultOf_eq_some (by decide +kernel)
    rw [(fails doubled bare { corpusRoot := ⟨[0x72]⟩ } Runner.faulty.clock
      Runner.refusing).1 _ (.languages load_bare unnamed)]
    rfl
  · rw [(fails lone bare { corpusRoot := ⟨[0x72]⟩ } Runner.faulty.clock
      Runner.refusing).2.2 _ _ _ load_bare rfl rfl]
    rfl

/-- A sink that does not even hear of modes. -/
def deaf : Sink (StateM CallLog) where
  begin _ _ := pure (.error (.report "full"))
  emit _ := pure (.ok ())
  finish _ := pure (.ok ())

/-- A file whose encoding was looked for. -/
def viewed : Corpus where
  root := .ofString "samples"
  samples := [((Sample.new (.ofString "samples/a.py") [0x31, 0x0A]).view View.encoding).2]

/-- A run that its sink refused at once leaves a sample as it was, which need not be clean. -/
theorem unclean_deaf_viewed : ∃ call,
    (Runner.faulty.exchanges deaf viewed {})[0]? = some (call, .error (.report "full")) ∧
    ((Runner.faulty.run deaf viewed).run {}).1.1 = .error (.report "full") ∧
    ¬ ∀ x ∈ ((Runner.faulty.run deaf viewed).run {}).1.2.samples, x.isClean = true := by
  refine ⟨.begin .perSample 2, rfl, rfl, fun clean => ?_⟩
  cases clean _ List.mem_cons_self

end Bench

end LangBench
