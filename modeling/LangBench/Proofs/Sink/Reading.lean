import LangBench.Proofs.Measurement.Display
import LangBench.Proofs.Measurement.OrderStatistics
import LangBench.Proofs.Sink.Writing
import Mathlib.Data.List.Forall2

/-!
# Reports read back from their text

A report is shown as two or three lines, and nothing marks where the next one begins.  But the first
line is the label, whatever it looks like, and the beginning of the line behind it tells whether one
or two more lines belong to the report.

* `Report.IsOneLine`: reports whose texts have no line feeds;
* `Outcome.SameShown`, `Report.SameShown`: outcomes and reports of which the same is shown;
* `Console.realLine_append_inj`, `Console.outcome_append_inj`, `Console.report_append_inj`: what the
  first lines of a text are read back to, whatever stands behind them;
* `Console.written_emit_iff`: which reports are written as the same text.
-/

namespace LangBench

open Text

/-! ### What is shown -/

/-- Two outcomes of which the same is shown: the reason of a failure, or the rehearsal, the sum, the
mean and the extremes of the laps. -/
inductive Outcome.SameShown : Outcome → Outcome → Prop
  | completed {rehearsal : Option Duration} {m m' : Measurement} (total : m.total = m'.total)
      (mean : m.statistics.mean = m'.statistics.mean) (min : m.statistics.min = m'.statistics.min)
      (max : m.statistics.max = m'.statistics.max) :
      SameShown (.completed rehearsal m) (.completed rehearsal m')
  | failed {reason : String} : SameShown (.failed reason) (.failed reason)

/-- An outcome without a line feed in its reason. -/
def Outcome.IsOneLine : Outcome → Prop
  | .completed _ _ => True
  | .failed reason => '\n' ∉ reason.toList

namespace Report

/-- Two reports of which the same is shown. -/
structure SameShown (r r' : Report) : Prop where
  label : r.label = r'.label
  outcome : r.outcome.SameShown r'.outcome

/-- A report without line feeds in its label and in the reason of a failure. -/
structure IsOneLine (r : Report) : Prop where
  label : '\n' ∉ r.label.toList
  outcome : r.outcome.IsOneLine

end Report

namespace Console

variable {s t : List Char}

/-! ### Lines -/

/-- A line is read back up to the line feed. -/
theorem line_append_inj {u v : List Char} (hu : '\n' ∉ u) (hv : '\n' ∉ v)
    (h : u ++ '\n' :: s = v ++ '\n' :: t) : u = v ∧ s = t := by
  have inner : ∀ {w : List Char}, '\n' ∉ w → ∀ c ∈ w, (c != '\n') = true := by
    rintro w none c mem
    rw [bne_iff_ne]
    rintro rfl
    exact none mem
  have ends : ∀ rest, ∀ c ∈ ('\n' :: rest).head?, (c != '\n') = false := by
    rintro rest c ⟨⟩
    rfl
  obtain ⟨lines, rest⟩ := append_inj_of_apart (inner hu) (inner hv) (ends s) (ends t) h
  exact ⟨lines, (List.cons.inj rest).2⟩

/-- A duration is read back up to a mark, and what stands behind the mark. -/
theorem figure_append_inj {d d' : Duration} {c : Char} {mark : List Char}
    (stops : Duration.isDisplayChar c = false)
    (h : d.display.toList ++ (c :: mark ++ s) = d'.display.toList ++ (c :: mark ++ t)) :
    d = d' ∧ s = t := by
  have apart : ∀ rest, ∀ e ∈ (c :: mark ++ rest).head?, Duration.isDisplayChar e = false := by
    rintro rest e ⟨⟩
    exact stops
  obtain ⟨same, rest⟩ := Duration.display_append_inj (apart s) (apart t) h
  exact ⟨same, List.append_cancel_left rest⟩

/-- What stands in the line of a measurement. -/
theorem toList_realLine (m : Measurement) : (realLine m).toList =
    "  real       ".toList ++ (m.total.display.toList ++ (' ' :: "(mean ".toList ++
      (m.statistics.mean.display.toList ++ (',' :: " min ".toList ++
        (m.statistics.min.display.toList ++ (',' :: " max ".toList ++
          (m.statistics.max.display.toList ++ [')', '\n']))))))) := by
  have text : realLine m = "  real       " ++ m.total.display ++ " (mean " ++
      m.statistics.mean.display ++ ", min " ++ m.statistics.min.display ++ ", " ++
      ("max " ++ m.statistics.max.display ++ ")\n") := rfl
  rw [text]
  simp only [String.toList_append, List.append_assoc]
  rfl

/-- The figures of a measurement are read back from its line. -/
theorem realLine_append_inj {m m' : Measurement}
    (h : (realLine m).toList ++ s = (realLine m').toList ++ t) :
    (m.total = m'.total ∧ m.statistics.mean = m'.statistics.mean ∧
      m.statistics.min = m'.statistics.min ∧ m.statistics.max = m'.statistics.max) ∧ s = t := by
  rw [toList_realLine, toList_realLine] at h
  simp only [List.append_assoc] at h
  obtain ⟨total, h⟩ := figure_append_inj (by decide) (List.append_cancel_left h)
  obtain ⟨mean, h⟩ := figure_append_inj (by decide) h
  obtain ⟨min, h⟩ := figure_append_inj (by decide) h
  obtain ⟨max, h⟩ := figure_append_inj (by decide) h
  exact ⟨⟨total, mean, min, max⟩, h⟩

/-- What stands in the line of a rehearsal. -/
theorem toList_rehearsalLine (d : Duration) :
    (rehearsalLine d).toList = "  rehearsal  ".toList ++ (d.display.toList ++ ['\n']) := by
  have text : rehearsalLine d = "  rehearsal  " ++ d.display ++ "\n" := rfl
  rw [text]
  simp only [String.toList_append, List.append_assoc]
  rfl

/-- A rehearsal is read back from its line. -/
theorem rehearsalLine_append_inj {d d' : Duration}
    (h : (rehearsalLine d).toList ++ s = (rehearsalLine d').toList ++ t) : d = d' ∧ s = t := by
  rw [toList_rehearsalLine, toList_rehearsalLine] at h
  simp only [List.append_assoc] at h
  exact figure_append_inj (by decide) (List.append_cancel_left h)

/-! ### Outcomes -/

/-- The text of an outcome. -/
def outcomeText (o : Outcome) : List Char :=
  (String.join (outcomeLines o)).toList

theorem outcomeText_completed (rehearsal : Option Duration) (m : Measurement) :
    outcomeText (.completed rehearsal m) =
      rehearsal.elim [] (fun d => (rehearsalLine d).toList) ++ (realLine m).toList := by
  cases rehearsal <;> simp [outcomeText, outcomeLines]

theorem outcomeText_failed (reason : String) : outcomeText (.failed reason) =
    "  FAILED     ".toList ++ (reason.toList ++ ['\n']) := by
  have text : outcomeLines (.failed reason) = ["  FAILED     " ++ reason ++ "\n"] := rfl
  rw [outcomeText, text]
  simp only [String.join_cons, String.join_nil, String.append_empty, String.toList_append,
    List.append_assoc]
  rfl

/-- The fifth character of an outcome, which tells how many lines it has. -/
def outcomeMark : Outcome → Char
  | .completed (some _) _ => 'h'
  | .completed none _ => 'a'
  | .failed _ => 'I'

theorem getElem?_outcomeText (o : Outcome) (s : List Char) :
    (outcomeText o ++ s)[4]? = some (outcomeMark o) := by
  cases o with
  | completed rehearsal m =>
    rw [outcomeText_completed]
    cases rehearsal with
    | none =>
      rw [toList_realLine]
      rfl
    | some d =>
      rw [Option.elim_some, toList_rehearsalLine]
      rfl
  | failed reason =>
    rw [outcomeText_failed]
    rfl

/-- An outcome is read back from its lines. -/
theorem outcome_append_inj {o o' : Outcome} (line : o.IsOneLine) (line' : o'.IsOneLine)
    (h : outcomeText o ++ s = outcomeText o' ++ t) : o.SameShown o' ∧ s = t := by
  have mark : outcomeMark o = outcomeMark o' := by
    rw [← Option.some_inj, ← getElem?_outcomeText o s, h, getElem?_outcomeText]
  rcases o with ⟨_ | d, m⟩ | reason <;> rcases o' with ⟨_ | d', m'⟩ | reason' <;>
    simp only [outcomeMark, Char.reduceEq] at mark
  · rw [outcomeText_completed, outcomeText_completed, Option.elim_none, List.nil_append,
      List.nil_append] at h
    obtain ⟨⟨total, mean, min, max⟩, rest⟩ := realLine_append_inj h
    exact ⟨.completed total mean min max, rest⟩
  · rw [outcomeText_completed, outcomeText_completed, Option.elim_some, Option.elim_some,
      List.append_assoc, List.append_assoc] at h
    obtain ⟨rfl, behind⟩ := rehearsalLine_append_inj h
    obtain ⟨⟨total, mean, min, max⟩, rest⟩ := realLine_append_inj behind
    exact ⟨.completed total mean min max, rest⟩
  · rw [outcomeText_failed, outcomeText_failed] at h
    simp only [List.append_assoc, List.singleton_append] at h
    obtain ⟨reasons, rest⟩ := line_append_inj line line' (List.append_cancel_left h)
    obtain rfl := String.toList_inj.1 reasons
    exact ⟨.failed, rest⟩

/-! ### Reports -/

/-- What stands in the lines of a report. -/
theorem toList_text_emit (r : Report) :
    (text (.emit r)).toList = r.label.toList ++ '\n' :: outcomeText r.outcome := by
  have shown : lines (.emit r) = (r.label ++ "\n") :: outcomeLines r.outcome := rfl
  rw [text, shown, String.join_cons, String.toList_append, String.toList_append, List.append_assoc]
  rfl

/-- A report is read back from its lines. -/
theorem report_append_inj {r r' : Report} (line : r.IsOneLine) (line' : r'.IsOneLine)
    (h : (text (.emit r)).toList ++ s = (text (.emit r')).toList ++ t) :
    r.SameShown r' ∧ s = t := by
  rw [toList_text_emit, toList_text_emit, List.append_assoc, List.append_assoc] at h
  obtain ⟨labels, h⟩ := line_append_inj line.label line'.label h
  obtain ⟨outcomes, rest⟩ := outcome_append_inj line.outcome line'.outcome h
  exact ⟨⟨String.toList_inj.1 labels, outcomes⟩, rest⟩

/-- Reports of which the same is shown have the same text. -/
theorem text_emit_congr {r r' : Report} (same : r.SameShown r') :
    text (.emit r) = text (.emit r') := by
  obtain ⟨label, outcome⟩ := same
  rw [← String.toList_inj, toList_text_emit, toList_text_emit, label]
  generalize r.outcome = o at outcome ⊢
  generalize r'.outcome = o' at outcome ⊢
  cases outcome with
  | completed total mean min max =>
    rw [outcomeText_completed, outcomeText_completed, toList_realLine, toList_realLine, total, mean,
      min, max]
  | failed => rfl

/-- The text of some reports. -/
def emitted (reports : List Report) : List Char :=
  reports.flatMap fun r => (text (.emit r)).toList

theorem written_emit (reports : List Report) :
    written (reports.map .emit) = Utf8.encode (emitted reports) := by
  rw [written_eq, List.flatMap_map, emitted, Utf8.encode, List.flatMap_assoc]
  rfl

/-- Reports are read back one by one. -/
theorem sameShown_of_emitted_eq {reports reports' : List Report}
    (oneLine : ∀ r ∈ reports, r.IsOneLine) (oneLine' : ∀ r ∈ reports', r.IsOneLine)
    (h : emitted reports = emitted reports') : List.Forall₂ Report.SameShown reports reports' := by
  have nonempty : ∀ r rest, emitted (r :: rest) ≠ [] := by
    intro r rest
    rw [emitted, List.flatMap_cons]
    exact List.append_ne_nil_of_left_ne_nil
      (List.ne_nil_of_mem (lineFeed_mem_text (.emit r))) _
  induction reports generalizing reports' with
  | nil =>
    cases reports' with
    | nil => exact .nil
    | cons r' rest' => exact absurd h.symm (nonempty r' rest')
  | cons r rest ih =>
    cases reports' with
    | nil => exact absurd h (nonempty r rest)
    | cons r' rest' =>
      rw [List.forall_mem_cons] at oneLine oneLine'
      rw [emitted, emitted, List.flatMap_cons, List.flatMap_cons] at h
      obtain ⟨same, later⟩ := report_append_inj oneLine.1 oneLine'.1 h
      exact .cons same (ih oneLine.2 oneLine'.2 later)

theorem emitted_congr {reports reports' : List Report}
    (same : List.Forall₂ Report.SameShown reports reports') :
    emitted reports = emitted reports' := by
  induction same with
  | nil => rfl
  | cons shown _ ih =>
    rw [emitted, emitted, List.flatMap_cons, List.flatMap_cons, text_emit_congr shown]
    exact congrArg _ ih

/-- **Reports on a page.**  If no label and no reason has a line feed, two lists of reports are
written as the same text if and only if there are as many reports in both and one by one they have
the same label, are both of failures or both not, and have the same reason, or the same rehearsal,
if any, and the same sum, mean and extremes of their laps. -/
theorem written_emit_iff {reports reports' : List Report} (oneLine : ∀ r ∈ reports, r.IsOneLine)
    (oneLine' : ∀ r ∈ reports', r.IsOneLine) :
    written (reports.map .emit) = written (reports'.map .emit) ↔
      List.Forall₂ Report.SameShown reports reports' := by
  rw [written_emit, written_emit]
  constructor
  · intro h
    have texts := congrArg Utf8.decodeLossy h
    rw [Utf8.decodeLossy_encode, Utf8.decodeLossy_encode] at texts
    exact sameShown_of_emitted_eq oneLine oneLine' texts
  · intro same
    rw [emitted_congr same]

/-- A report on some laps whose label looks like the line of a failure. -/
def disguised (laps : List Duration) : Report :=
  .make "  FAILED     Guess" .sample .total .total 2 (.completed (some ⟨1500000⟩) (.ofLaps laps))

theorem isOneLine_disguised (laps : List Duration) : (disguised laps).IsOneLine where
  label := by
    have label : (disguised laps).label = (disguised []).label := rfl
    rw [label]
    decide +kernel
  outcome := trivial

/-- The order of the laps is not shown, but their sum is. -/
theorem written_emit_iff_disguised :
    (∀ r ∈ [disguised [⟨1⟩, ⟨3⟩]], r.IsOneLine) ∧ (∀ r ∈ [disguised [⟨3⟩, ⟨1⟩]], r.IsOneLine) ∧
    (∀ r ∈ [disguised [⟨2⟩, ⟨3⟩]], r.IsOneLine) ∧
    disguised [⟨1⟩, ⟨3⟩] ≠ disguised [⟨3⟩, ⟨1⟩] ∧
    written ([disguised [⟨1⟩, ⟨3⟩]].map .emit) = written ([disguised [⟨3⟩, ⟨1⟩]].map .emit) ∧
    written ([disguised [⟨1⟩, ⟨3⟩]].map .emit) ≠ written ([disguised [⟨2⟩, ⟨3⟩]].map .emit) := by
  have oneLine : ∀ laps, ∀ r ∈ [disguised laps], r.IsOneLine := fun laps =>
    List.forall_mem_singleton.2 (isOneLine_disguised laps)
  refine ⟨oneLine _, oneLine _, oneLine _, by decide, ?_, ?_⟩
  · have figures : (Measurement.ofLaps [⟨1⟩, ⟨3⟩]).statistics =
        (Measurement.ofLaps [⟨3⟩, ⟨1⟩]).statistics :=
      LapStatistics.ofLaps_eq_of_perm (.swap _ _ _)
    have outcome : (disguised [⟨1⟩, ⟨3⟩]).outcome.SameShown (disguised [⟨3⟩, ⟨1⟩]).outcome :=
      .completed rfl (by rw [figures]) (by rw [figures]) (by rw [figures])
    exact (written_emit_iff (oneLine _) (oneLine _)).2 (.cons ⟨rfl, outcome⟩ .nil)
  · intro same
    have shown := (written_emit_iff (oneLine _) (oneLine _)).1 same
    obtain ⟨⟨-, outcome⟩, -⟩ := List.forall₂_cons.1 shown
    rw [disguised, disguised, Report.make, Report.make] at outcome
    cases outcome with
    | completed total => exact absurd total (by decide)

end Console

end LangBench
