import LangBench.Registry
import Mathlib.Data.List.DropRight

/-!
# Kept views do not show

A sample keeps the views that were asked for.  Whatever it keeps, every answer is the one that is
computed from the path and the bytes alone.

* `Cache.Holds`: the caches that a blob can have;
* `View.Computes`: a view gives the same value on all of them, and keeps something or nothing;
* `Method.answer`, `Method.computes`: how the strategies answer without a cache, and that they do;
* `Use`, `Use.view`: the questions that can be asked of a sample;
* `Use.reply`, `Use.keeps`: the replies without a cache, and which questions leave a view kept;
* `Sample.view_after`: the replies of a sample after any steps, and when it is clean.
-/

namespace LangBench

/-- The caches that a blob can have: nothing is kept, or the encoding and maybe more. -/
inductive Cache.Holds (b : Blob) : Cache → Prop
  | empty : Holds b {}
  | kept {ls : Option (Except DetectError (List String))} {t : Option String} :
      ls = none ∨ ls = some b.lines → t = none ∨ t = some b.mediaType →
        Holds b ⟨some b.encoding, ls, t⟩

/-! ### Views -/

/-- Of the blob `b`, the view `v` gives `a`, whatever is kept of it already, and then more is kept
or the same. -/
def View.Computes {α : Type} (v : View α) (b : Blob) (a : α) (keeps : Bool) : Prop :=
  ∀ c, c.Holds b → ∃ c', v.run b c = (a, c') ∧ c'.Holds b ∧ c'.isEmpty = (c.isEmpty && !keeps)

namespace View.Computes

variable {α β : Type} {b : Blob}

theorem pure (a : α) : (pure a : View α).Computes b a false :=
  fun c hc => ⟨c, rfl, hc, (Bool.and_true _).symm⟩

theorem read (f : Blob → α) : (do return f (← read) : View α).Computes b (f b) false :=
  fun c hc => ⟨c, rfl, hc, (Bool.and_true _).symm⟩

theorem bind {v : View α} {f : α → View β} {a : α} {a' : β} {keeps keeps' : Bool}
    (h : v.Computes b a keeps) (h' : (f a).Computes b a' keeps') :
    (v >>= f).Computes b a' (keeps || keeps') := by
  intro c hc
  obtain ⟨c', run, hc', empty⟩ := h c hc
  obtain ⟨c'', run', hc'', empty'⟩ := h' c' hc'
  refine ⟨c'', ?_, hc'', ?_⟩
  · rw [← run']
    change (f (v.run b c).1).run b (v.run b c).2 = _
    rw [run]
  · rw [empty', empty, Bool.not_or, Bool.and_assoc]

theorem map {v : View α} {a : α} {keeps : Bool} (f : α → β) (h : v.Computes b a keeps) :
    (f <$> v).Computes b (f a) keeps := by
  have applied : (Pure.pure (f a) : View β).Computes b (f a) false := .pure (f a)
  have mapped : (v >>= fun a => Pure.pure (f a)).Computes b (f a) (keeps || false) :=
    h.bind applied
  rwa [Bool.or_false] at mapped

theorem name : View.name.Computes b b.name false :=
  .read Blob.name

theorem data : View.data.Computes b b.data false :=
  .read Blob.data

theorem encoding : View.encoding.Computes b b.encoding true := by
  rintro c (_ | ⟨ls, t⟩)
  · exact ⟨_, rfl, .kept (.inl rfl) (.inl rfl), rfl⟩
  · exact ⟨_, rfl, .kept ls t, rfl⟩

theorem lines : View.lines.Computes b b.lines true := by
  rintro c (_ | ⟨rfl | rfl, t⟩)
  · exact ⟨_, rfl, .kept (.inr rfl) (.inl rfl), rfl⟩
  · exact ⟨_, rfl, .kept (.inr rfl) t, rfl⟩
  · exact ⟨_, rfl, .kept (.inr rfl) t, rfl⟩

theorem mediaType : View.mediaType.Computes b b.mediaType true := by
  rintro c (_ | ⟨ls, rfl | rfl⟩)
  · exact ⟨_, rfl, .kept (.inl rfl) (.inr rfl), rfl⟩
  · exact ⟨_, rfl, .kept ls (.inr rfl), rfl⟩
  · exact ⟨_, rfl, .kept ls (.inr rfl), rfl⟩

/-! ### Strategies -/

theorem extension (languages : Catalogue) :
    (Strategy.extension languages).Computes b (.ok (Strategy.byExtension languages b.name)) false :=
  .read _

theorem filename (languages : Catalogue) :
    (Strategy.filename languages).Computes b (.ok (Strategy.byFilename languages b.name)) false :=
  .read _

theorem shebang (languages : Catalogue) : (Strategy.shebang languages).Computes b
    (.ok (if b.encoding.isBinary then [] else Strategy.byInterpreter languages b.data)) true := by
  have answer : (do
      if b.encoding.isBinary then return .ok []
      return .ok (Strategy.byInterpreter languages (← View.data)) : View Verdict).Computes b
      (.ok (if b.encoding.isBinary then [] else Strategy.byInterpreter languages b.data))
      false := by
    split
    · exact .pure _
    · exact .read _
  exact encoding.bind answer

theorem modeline (languages : Catalogue) : (Strategy.modeline languages).Computes b
    (b.lines.map (Strategy.byModeline languages)) true :=
  lines.bind (.pure _)

theorem content (rules : RuleBook) (languages : Catalogue) :
    (Strategy.content rules languages).Computes b
      (match rules.rulesFor b.name with
        | [] => .ok []
        | found => b.lines.map (Strategy.byRules found languages))
      (!(rules.rulesFor b.name).isEmpty) := by
  have answer : (match rules.rulesFor b.name with
      | [] => return .ok []
      | found => return (← View.lines).map (Strategy.byRules found languages) :
        View Verdict).Computes b
      (match rules.rulesFor b.name with
        | [] => .ok []
        | found => b.lines.map (Strategy.byRules found languages))
      (!(rules.rulesFor b.name).isEmpty) := by
    cases rules.rulesFor b.name with
    | nil => exact .pure _
    | cons rule rest => exact lines.bind (.pure _)
  exact name.bind answer

end View.Computes

namespace Method

variable (rules : RuleBook) (context : Context) (b : Blob)

/-- How a strategy answers on a blob without a cache. -/
def answer : Method → Answer
  | .naiveBayes => .returned (NaiveBayes.classify context.statistics b.data)
  | .modeline => .ofExcept (b.lines.map (Strategy.byModeline context.languages))
  | .filename => .returned (Strategy.byFilename context.languages b.name)
  | .shebang => .returned
    (if b.encoding.isBinary then [] else Strategy.byInterpreter context.languages b.data)
  | .extension => .returned (Strategy.byExtension context.languages b.name)
  | .content =>
    match rules.rulesFor b.name with
    | [] => .returned []
    | found => .ofExcept (b.lines.map (Strategy.byRules found context.languages))

/-- Whether a view is kept after a call of a strategy. -/
def keeps : Method → Bool
  | .shebang | .modeline => true
  | .content => !(rules.rulesFor b.name).isEmpty
  | .naiveBayes | .filename | .extension => false

/-- A strategy that is a view answers what the view computes. -/
theorem computes_ofView {b : Blob} {v : View Verdict} {verdict : Verdict} {keeps : Bool}
    (h : v.Computes b verdict keeps) :
    View.Computes (View.lift do return Call.ofExcept (← v)) b (.ofExcept verdict) keeps :=
  h.map Call.ofExcept

/-- The answer of a strategy is the one without a cache. -/
theorem computes (m : Method) : View.Computes ((m.registered rules).invoke context) b
    (m.answer rules context b) (m.keeps rules b) := by
  cases m with
  | naiveBayes => exact .read _
  | modeline => exact computes_ofView (.modeline _)
  | filename => exact computes_ofView (.filename _)
  | shebang => exact computes_ofView (.shebang _)
  | extension => exact computes_ofView (.extension _)
  | content =>
    have computed := computes_ofView (View.Computes.content (b := b) rules context.languages)
    rw [answer]
    split at computed
    · exact computed
    · exact computed

end Method

/-! ### Questions -/

/-- What can be asked of a sample. -/
inductive Use where
  | encoding
  | lines
  | mediaType
  | name
  | label
  | path
  | relative
  | data
  | method (method : Method)
  deriving DecidableEq, Repr

/-- What a sample replies. -/
inductive Reply where
  | encoding (encoding : Encoding)
  | lines (lines : Except DetectError (List String))
  | text (text : String)
  | path (path : Path)
  | data (bytes : List UInt8)
  | answer (answer : Answer)

namespace Use

variable (rules : RuleBook) (context : Context) (b : Blob)

/-- The view that a question asks for. -/
def view : Use → View Reply
  | .encoding => .encoding <$> View.encoding
  | .lines => .lines <$> View.lines
  | .mediaType => .text <$> View.mediaType
  | .name => .text <$> View.name
  | .label => do return .text (← read).label
  | .path => do return .path (← read).path
  | .relative => do return .path (← read).relative
  | .data => .data <$> View.data
  | .method m => .answer <$> (m.registered rules).invoke context

/-- The reply on a blob without a cache. -/
def reply : Use → Reply
  | .encoding => .encoding (.sniff b.data)
  | .lines => .lines ((Encoding.decodeLines b.data (.sniff b.data)).mapError .malformed)
  | .mediaType => .text (LangBench.mediaType b.name (.sniff b.data))
  | .name => .text b.name
  | .label => .text b.label
  | .path => .path b.path
  | .relative => .path b.relative
  | .data => .data b.data
  | .method m => .answer (m.answer rules context b)

/-- Whether a view is kept after a question. -/
def keeps : Use → Bool
  | .encoding | .lines | .mediaType => true
  | .name | .label | .path | .relative | .data => false
  | .method m => m.keeps rules b

/-- The reply to a question is the one without a cache. -/
theorem computes (use : Use) :
    (use.view rules context).Computes b (use.reply rules context b) (use.keeps rules b) := by
  cases use with
  | encoding => exact View.Computes.encoding.map _
  | lines => exact View.Computes.lines.map _
  | mediaType => exact View.Computes.mediaType.map _
  | name => exact View.Computes.name.map _
  | label => exact .read _
  | path => exact .read _
  | relative => exact .read _
  | data => exact View.Computes.data.map _
  | method m => exact (m.computes rules context b).map _

end Use

/-! ### Any order of questions -/

/-- What can happen to a sample. -/
inductive Sample.Step where
  | ask (use : Use)
  | reset
  deriving DecidableEq, Repr

namespace Sample

variable (rules : RuleBook) (context : Context)

/-- The sample after a step. -/
def step (x : Sample) : Step → Sample
  | .ask use => (x.view (use.view rules context)).2
  | .reset => x.reset

/-- The sample after some steps. -/
def after (x : Sample) (steps : List Step) : Sample :=
  steps.foldl (step rules context) x

/-- The questions since the last reset, or since the beginning. -/
def sinceReset (steps : List Step) : List Step :=
  steps.rtakeWhile (· ≠ .reset)

/-- After any steps a sample is the same file, with a cache that this file can have. -/
theorem after_spec (b : Blob) (steps : List Step) :
    ∃ c, after rules context ⟨b, {}⟩ steps = ⟨b, c⟩ ∧ c.Holds b ∧
      (c.isEmpty = true ↔ ∀ use, .ask use ∈ sinceReset steps → use.keeps rules b = false) := by
  -- from the front, since a reset forgets what was asked before it
  induction steps using List.reverseRecOn with
  | nil => exact ⟨{}, rfl, .empty, by simp [sinceReset, Cache.isEmpty]⟩
  | append_singleton steps s ih =>
    obtain ⟨c, same, holds, empty⟩ := ih
    have last : after rules context ⟨b, {}⟩ (steps ++ [s]) = step rules context ⟨b, c⟩ s := by
      rw [← same, after, after, List.foldl_append, List.foldl_cons, List.foldl_nil]
    rw [last]
    cases s with
    | reset => exact ⟨{}, rfl, .empty, by simp [sinceReset, Cache.isEmpty]⟩
    | ask use =>
      obtain ⟨c', run, holds', empty'⟩ := use.computes rules context b c holds
      refine ⟨c', ?_, holds', ?_⟩
      · rw [step, view, run]
      · have since : sinceReset (steps ++ [.ask use]) = sinceReset steps ++ [.ask use] :=
          List.rtakeWhile_concat_pos _ _ _ (by simp)
        rw [empty', Bool.and_eq_true, empty, since]
        simp only [List.mem_append, List.mem_singleton, Step.ask.injEq, Bool.not_eq_true']
        constructor
        · rintro ⟨before, now⟩ other (earlier | rfl)
          · exact before other earlier
          · exact now
        · intro all
          exact ⟨fun other earlier => all other (.inl earlier), all use (.inr rfl)⟩

/-- **Kept views do not show.**  A new sample is a blob with nothing kept.  Whatever happened to it
since, its reply to any question is the one without a cache, and so the one that it gave when it
was new; and it is clean if and only if no question since the last reset leaves a view kept. -/
theorem view_after (b : Blob) (steps : List Step) :
    (∀ use : Use,
      ((after rules context ⟨b, {}⟩ steps).view (use.view rules context)).1 =
        use.reply rules context b ∧
      ((⟨b, {}⟩ : Sample).view (use.view rules context)).1 = use.reply rules context b) ∧
    ((after rules context ⟨b, {}⟩ steps).isClean = true ↔
      ∀ use, .ask use ∈ sinceReset steps → use.keeps rules b = false) := by
  obtain ⟨c, same, holds, clean⟩ := after_spec rules context b steps
  have reply : ∀ (use : Use) (c : Cache), c.Holds b →
      ((⟨b, c⟩ : Sample).view (use.view rules context)).1 = use.reply rules context b := by
    intro use c holds
    obtain ⟨c', run, -⟩ := use.computes rules context b c holds
    rw [view, run]
  rw [same]
  exact ⟨fun use => ⟨reply use c holds, reply use {} .empty⟩, clean⟩

end Sample

end LangBench
