import LangBench.Proofs.Run.Delivery

/-!
# Clean samples in a run

Samples that are clean before a run are clean again after every single call, whatever its answer,
and nothing else about them ever changes.

* `Untouched`: samples that are clean and the same files as others;
* `Runner.Walk.untouched`: events leave clean samples untouched;
* `Runner.untouched_run`: so does a run, at each of its events and in the end.
-/

namespace LangBench

/-- The samples `ys` are clean, and the same files in the same order as the samples `xs`. -/
structure Untouched (xs ys : List Sample) : Prop where
  clean : ∀ y ∈ ys, y.isClean = true
  files : ys.map Sample.toBlob = xs.map Sample.toBlob

namespace Runner

variable {W : Type} {r : Runner (StateM W)}

theorem Step.untouched {xs ys zs : List Sample} {e : Event} (h : Step r ys e zs)
    (start : Untouched xs ys) : Untouched xs zs := by
  rw [h.eq_of_isClean start.clean]
  exact start

theorem Walk.untouched {xs ys : List Sample} {log : List Event} (h : Walk r xs log ys)
    (clean : ∀ x ∈ xs, x.isClean = true) : Untouched xs ys := by
  refine ⟨?_, h.map_toBlob⟩
  rw [h.eq_of_isClean clean]
  exact clean

/-- **Clean samples stay clean.**  Every event of a run that starts from clean samples meets
them untouched and leaves them untouched; a strategy that sees a cache sees an empty one; and the
corpus after the run is the corpus before it, also when the sink ended the run. -/
theorem untouched_run (r : Runner (StateM W)) (sink : Sink (StateM W)) (corpus : Corpus)
    (clean : ∀ x ∈ corpus.samples, x.isClean = true) (w : W) :
    (∀ past e future, r.trace sink corpus w = past ++ e :: future →
      ∃ xs ys, Walk r corpus.samples past xs ∧ Step r xs e ys ∧
        Walk r ys future ((r.run sink corpus).run w).1.2.samples ∧
        Untouched corpus.samples xs ∧ Untouched corpus.samples ys) ∧
    (∀ strategy b c answer,
      .called strategy (.sample b c) answer ∈ r.trace sink corpus w → c.isEmpty = true) ∧
    ((r.run sink corpus).run w).1.2 = corpus := by
  have walk := r.walk_run sink corpus w
  refine ⟨?_, ?_, ?_⟩
  · intro past e future events
    rw [events] at walk
    obtain ⟨xs, before, rest⟩ := walk.split
    cases rest with
    | cons step after =>
      have start := before.untouched clean
      exact ⟨xs, _, before, step, after, start, step.untouched start⟩
  · intro strategy b c answer called
    exact walk.isEmpty_of_isClean clean called
  · have samples := walk.eq_of_isClean clean
    have root := r.root_run sink corpus w
    generalize ((r.run sink corpus).run w).1.2 = after at samples root
    obtain ⟨_, _⟩ := after
    cases samples
    cases root
    rfl

/-- A sink that hears of modes but takes no report. -/
def refusing : Sink (StateM CallLog) where
  begin _ _ := pure (.ok ())
  emit _ := pure (.error (.report "full"))
  finish _ := pure (.ok ())

theorem untouched_faulty_twins : (∀ x ∈ twins.samples, x.isClean = true) ∧
    ((faulty.run refusing twins).run {}).1.2 = twins ∧
    ∀ strategy b c answer,
      .called strategy (.sample b c) answer ∈ faulty.trace refusing twins {} →
        c.isEmpty = true := by
  have clean : ∀ x ∈ twins.samples, x.isClean = true := by simp [twins]
  obtain ⟨-, empty, same⟩ := faulty.untouched_run refusing twins clean {}
  exact ⟨clean, same, empty⟩

end Runner

end LangBench
