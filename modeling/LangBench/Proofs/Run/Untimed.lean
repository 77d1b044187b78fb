import LangBench.Proofs.Run.Transcript

/-!
# Runs without their durations

A clock never shows the same twice.  What two runs have in common is what is left when the measured
durations are taken out.

* `Report.untimed`, `RunSummary.untimed`, `SinkCall.untimed`, `Happening.untimed`: things without
  the durations in them;
* `SameUpTo`: two things are the same up to what a function leaves out, or altogether.
-/

namespace LangBench

/-- An outcome without durations; the number of laps is kept. -/
def Outcome.untimed : Outcome → Outcome
  | .completed rehearsal measurement =>
    .completed (rehearsal.map fun _ => .zero) ⟨.zero, measurement.laps.map fun _ => .zero⟩
  | .failed reason => .failed reason

/-- A report without durations. -/
def Report.untimed (r : Report) : Report :=
  { r with outcome := r.outcome.untimed }

/-- A summary without its duration. -/
def RunSummary.untimed (s : RunSummary) : RunSummary :=
  { s with elapsed := .zero }

/-- A call of a sink without durations. -/
def SinkCall.untimed : SinkCall → SinkCall
  | .begin mode iterations => .begin mode iterations
  | .emit report => .emit report.untimed
  | .finish summary => .finish summary.untimed

/-- What happens, without durations. -/
def Happening.untimed : Happening → Happening
  | .called strategy given answer => .called strategy given answer
  | .told call reception => .told call.untimed reception

@[simp] theorem Report.failure?_untimed (r : Report) : r.untimed.failure? = r.failure? := by
  obtain ⟨label, strategy, kind, mode, target, iterations, outcome⟩ := r
  cases outcome <;> rfl

@[simp] theorem Report.isFailed_untimed (r : Report) : r.untimed.isFailed = r.isFailed := by
  rw [isFailed, failure?_untimed, isFailed]

theorem RunSummary.untimed_record (s : RunSummary) (r : Report) :
    (s.record r).untimed = s.untimed.record r.untimed := by
  simp only [record, untimed, Report.isFailed_untimed]

/-- A call and its answer, without durations. -/
theorem Happening.exchange?_untimed (h : Happening) :
    h.untimed.exchange? = h.exchange?.map fun p => (p.1.untimed, p.2) := by
  cases h <;> rfl

/-- Two things are the same up to what `f` leaves out; if `exact`, nothing is left out. -/
structure SameUpTo {α β : Type} (exact : Prop) (f : α → β) (a b : α) : Prop where
  up_to : f a = f b
  eq : exact → a = b

namespace SameUpTo

variable {α β γ δ ε ζ : Type} {exact : Prop} {f : α → β} {a b : α}

theorem of_eq (h : a = b) : SameUpTo exact f a b :=
  ⟨congrArg f h, fun _ => h⟩

theorem refl (f : α → β) (a : α) : SameUpTo exact f a a :=
  .of_eq rfl

theorem map (h : SameUpTo exact f a b) {f' : γ → δ} (g : α → γ)
    (hg : f a = f b → f' (g a) = f' (g b)) : SameUpTo exact f' (g a) (g b) :=
  ⟨hg h.up_to, fun e => congrArg g (h.eq e)⟩

theorem map₂ (h : SameUpTo exact f a b) {f' : γ → δ} {c d : γ} (h' : SameUpTo exact f' c d)
    {f'' : ε → ζ} (g : α → γ → ε) (hg : f a = f b → f' c = f' d → f'' (g a c) = f'' (g b d)) :
    SameUpTo exact f'' (g a c) (g b d) :=
  ⟨hg h.up_to h'.up_to, fun e => congrArg₂ g (h.eq e) (h'.eq e)⟩

theorem append {f : α → β} {xs xs' ys ys' : List α} (h : SameUpTo exact (List.map f) xs xs')
    (h' : SameUpTo exact (List.map f) ys ys') :
    SameUpTo exact (List.map f) (xs ++ ys) (xs' ++ ys') :=
  h.map₂ h' (· ++ ·) fun same same' => by rw [List.map_append, same, same', List.map_append]

/-- Results that are the same up to something are the same error or both values. -/
theorem except {ε : Type} {p q : Except ε α} (h : SameUpTo exact (Except.map f) p q) :
    (∃ e, p = .error e ∧ q = .error e) ∨
      ∃ a b, p = .ok a ∧ q = .ok b ∧ SameUpTo exact f a b := by
  obtain ⟨up_to, eq⟩ := h
  cases p with
  | error e =>
    cases q with
    | error e' =>
      obtain rfl : e = e' := Except.error.inj up_to
      exact .inl ⟨e, rfl, rfl⟩
    | ok b => exact nomatch up_to
  | ok a =>
    cases q with
    | error e' => exact nomatch up_to
    | ok b => exact .inr ⟨a, b, rfl, rfl, Except.ok.inj up_to, fun e => Except.ok.inj (eq e)⟩

end SameUpTo

end LangBench
