import LangBench.Proofs.Text.Utf8
import LangBench.Sink.Console

/-!
# Writing to a full writer

A writer that runs full keeps what it had room for, and it stays full.  So after any calls it has
the first bytes of what they would have written without a limit, however they are cut into lines.

* `Sink.receiveAll`: calls made one after the other, whatever the answers;
* `Console.print`, `Console.written`: the answers of a console, and what it writes;
* `Console.perform`, `Console.shown`: the same with the panics of calls whose laps are too long
  together;
* `LimitedWriter.given`: a writer after some bytes were given to it;
* `LimitedWriter.writeBytes_given`, `Console.writeAll_given`, `Console.receive_given`,
  `Console.perform_given`: what one write, one call and all calls do to such a writer;
* `Console.writeAll_eq_of_join_eq`: the pieces of a text do not matter, only the text does;
* `Console.receive_of_fits`: where all laps can be added up, there is no panic;
* `Console.truncated`: what a limit makes of the answers and of the text.
-/

namespace LangBench

open Text

/-- The answers to calls made one after the other, also behind one that failed. -/
def Sink.receiveAll {m : Type → Type} [Monad m] (s : Sink m) (calls : List SinkCall) :
    m (List (Except BenchError Unit)) :=
  calls.mapM s.receive

namespace Console

/-- The answers of a console to calls made one after the other, and its writer after them. -/
def print (w : LimitedWriter) (calls : List SinkCall) :
    List (Except BenchError Unit) × LimitedWriter :=
  ((sink LimitedWriter.write).receiveAll calls).run w

/-- The bytes that calls write if there is no limit. -/
def written (calls : List SinkCall) : List UInt8 :=
  (print {} calls).2.written

/-- How calls made one after the other end, and the writer after them.  A panic does not keep those
behind it from being made. -/
def perform (w : LimitedWriter) (calls : List SinkCall) :
    List (Call BenchError Unit) × LimitedWriter :=
  (calls.mapM (receive LimitedWriter.write)).run w

/-- The bytes that calls show if there is no limit. -/
def shown (calls : List SinkCall) : List UInt8 :=
  (perform {} calls).2.written

/-- The bytes of the text of a call. -/
def bytes (call : SinkCall) : List UInt8 :=
  Utf8.encode (text call).toList

/-- The bytes of a call that can be shown. -/
def reachedBytes (call : SinkCall) : List UInt8 :=
  Utf8.encode (String.join (reached call)).toList

end Console

namespace LimitedWriter

/-- A writer that `bytes` were given to.  It has them as far as it had room. -/
def given (limit : Option Nat) (message : String) (bytes : List UInt8) : LimitedWriter where
  limit
  fullMessage := message
  written := limit.elim bytes bytes.take

/-- Whether there is room for `n` bytes when `before` many were given already. -/
def fits (limit : Option Nat) (before n : Nat) : Bool :=
  limit.all (n ≤ · - before)

variable {limit : Option Nat} {message : String}

theorem fits_zero (before : Nat) : fits limit before 0 = true := by
  cases limit <;> simp [fits]

/-- What fits behind bytes that fit would have fitted together with them. -/
theorem fits_add {before m : Nat} (h : fits limit before m = true) (n : Nat) :
    fits limit before (m + n) = fits limit (before + m) n := by
  cases limit with
  | none => rfl
  | some limit =>
    simp only [fits, Option.all_some, decide_eq_true_eq, decide_eq_decide] at h ⊢
    omega

/-- Nothing fits together with bytes that do not fit. -/
theorem fits_add_eq_false {before m : Nat} (h : fits limit before m = false) (n : Nat) :
    fits limit before (m + n) = false := by
  cases limit with
  | none => cases h
  | some limit =>
    simp only [fits, Option.all_some, decide_eq_false_iff_not] at h ⊢
    omega

/-- Behind a character, bytes fit if the limit is not exceeded. -/
theorem fits_eq {before n : Nat} (pos : 0 < n) :
    fits limit before n = limit.all (before + n ≤ ·) := by
  cases limit with
  | none => rfl
  | some limit =>
    simp only [fits, Option.all_some, decide_eq_decide]
    omega

/-- Bytes that do not fit fill the writer, and nothing is written behind them. -/
theorem given_append_of_not_fits {before bytes : List UInt8}
    (h : fits limit before.length bytes.length = false) (rest : List UInt8) :
    given limit message (before ++ (bytes ++ rest)) = given limit message (before ++ bytes) := by
  cases limit with
  | none => cases h
  | some limit =>
    have full : limit ≤ (before ++ bytes).length := by
      simp only [fits, Option.all_some, decide_eq_false_iff_not] at h
      rw [List.length_append]
      omega
    rw [← List.append_assoc, given, given, Option.elim_some, Option.elim_some,
      List.take_append_of_le_length full]

/-- One write succeeds if there is room for all of its bytes, and none of those before are lost. -/
theorem writeBytes_given (before bytes : List UInt8) :
    (given limit message before).writeBytes bytes =
      (if fits limit before.length bytes.length then .ok () else .error message,
        given limit message (before ++ bytes)) := by
  cases limit with
  | none => rfl
  | some limit =>
    have room : limit - (before.take limit).length = limit - before.length := by
      rw [List.length_take]
      omega
    simp only [writeBytes, given, fits, Option.elim_some, Option.all_some, decide_eq_true_eq, room,
      List.take_append]

/-- Acts that each write some bytes write them one after the other, and each act is answered by what
was given up to its end. -/
theorem mapM_given {α β : Type} {act : α → StateM LimitedWriter β} (bytes : α → List UInt8)
    (answer : List UInt8 → α → β)
    (one : ∀ before x, (act x).run (given limit message before) =
      (answer (before ++ bytes x) x, given limit message (before ++ bytes x)))
    (before : List UInt8) (xs : List α) : (xs.mapM act).run (given limit message before) =
      (xs.zipIdx.map fun p => answer (before ++ (xs.take (p.2 + 1)).flatMap bytes) p.1,
        given limit message (before ++ xs.flatMap bytes)) := by
  induction xs generalizing before with
  | nil =>
    rw [List.flatMap_nil, List.append_nil]
    rfl
  | cons x xs ih =>
    have step : ((x :: xs).mapM act).run (given limit message before) =
        let first := (act x).run (given limit message before)
        let rest := (xs.mapM act).run first.2
        (first.1 :: rest.1, rest.2) := by
      rw [List.mapM_cons]
      rfl
    rw [step, one]
    dsimp only
    rw [ih, List.zipIdx_cons, List.map_cons, List.zipIdx_succ, List.map_map]
    simp only [List.take_succ_cons, List.take_zero, List.flatMap_cons, List.flatMap_nil,
      List.append_nil, List.append_assoc, Function.comp_def]

end LimitedWriter

namespace Console

open LimitedWriter (given fits)

variable {limit : Option Nat} {message : String}

/-- A text is written only if the one before it was. -/
theorem run_writeAll_cons (t : String) (ts : List String) (w : LimitedWriter) :
    (writeAll LimitedWriter.write (t :: ts)).run w =
      match w.writeBytes (Utf8.encode t.toList) with
      | (.ok (), w') => (writeAll LimitedWriter.write ts).run w'
      | (.error reason, w') => (.error (.report reason), w') := by
  rw [writeAll, StateT.run_bind]
  have first : (LimitedWriter.write t).run w = w.writeBytes (Utf8.encode t.toList) := rfl
  rw [first]
  rcases w.writeBytes (Utf8.encode t.toList) with ⟨reason | _, w'⟩
  · rfl
  · rfl

/-- Texts written one after the other are written like one text.  The first one that does not fit
fills the writer, so what is not tried behind it would not fit either. -/
theorem writeAll_given (before : List UInt8) (ts : List String) :
    (writeAll LimitedWriter.write ts).run (given limit message before) =
      (if fits limit before.length (Utf8.encode (String.join ts).toList).length then .ok ()
        else .error (.report message),
        given limit message (before ++ Utf8.encode (String.join ts).toList)) := by
  induction ts generalizing before with
  | nil =>
    have none : Utf8.encode (String.join []).toList = [] := rfl
    rw [none, List.append_nil, List.length_nil, if_pos (LimitedWriter.fits_zero _)]
    rfl
  | cons t ts ih =>
    rw [run_writeAll_cons, LimitedWriter.writeBytes_given, String.join_cons, String.toList_append,
      Utf8.encode_append, List.length_append]
    by_cases first : fits limit before.length (Utf8.encode t.toList).length = true
    · rw [if_pos first, LimitedWriter.fits_add first, ← List.length_append, ← List.append_assoc]
      exact ih _
    · rw [Bool.not_eq_true] at first
      rw [first, LimitedWriter.fits_add_eq_false first,
        LimitedWriter.given_append_of_not_fits first]
      rfl

/-- How a text is cut into pieces that are written one after the other makes no difference. -/
theorem writeAll_eq_of_join_eq {ts ts' : List String} (same : String.join ts = String.join ts')
    (before : List UInt8) :
    (writeAll LimitedWriter.write ts).run (given limit message before) =
      (writeAll LimitedWriter.write ts').run (given limit message before) := by
  rw [writeAll_given, writeAll_given, same]

/-- Every call has a text. -/
theorem lineFeed_mem_text (call : SinkCall) : '\n' ∈ (text call).toList := by
  cases call <;> simp [text, lines, beginLines, reportLines, finishLines]

theorem reachedBytes_pos (call : SinkCall) : 0 < (reachedBytes call).length := by
  have lineFeed : '\n' ∈ (String.join (reached call)).toList := by
    cases call <;> simp [reached, lines, beginLines, finishLines]
  exact List.length_pos_of_mem (List.mem_flatMap.2 ⟨'\n', lineFeed, List.mem_cons_self⟩)

/-- A call ends as it should if what it shows ends within the limit. -/
theorem receive_given (before : List UInt8) (call : SinkCall) :
    (receive LimitedWriter.write call).run (given limit message before) =
      (if limit.all ((before ++ reachedBytes call).length ≤ ·) then ending call
        else .error (.report message),
        given limit message (before ++ reachedBytes call)) := by
  rw [receive, StateT.run_bind, writeAll_given, List.length_append,
    ← LimitedWriter.fits_eq (reachedBytes_pos call)]
  unfold reachedBytes
  split <;> rfl

/-- Of calls made one after the other those end as they should whose texts end within the limit. -/
theorem perform_given (before : List UInt8) (calls : List SinkCall) :
    perform (given limit message before) calls =
      (calls.zipIdx.map fun p =>
        if limit.all ((before ++ (calls.take (p.2 + 1)).flatMap reachedBytes).length ≤ ·)
          then ending p.1 else .error (.report message),
        given limit message (before ++ calls.flatMap reachedBytes)) :=
  LimitedWriter.mapM_given reachedBytes
    (fun through call => if limit.all (through.length ≤ ·) then ending call
      else .error (.report message)) receive_given before calls

theorem shown_eq (calls : List SinkCall) : shown calls = calls.flatMap reachedBytes :=
  congrArg (fun performed => performed.2.written) (@perform_given none "sink full" [] calls)

theorem written_eq (calls : List SinkCall) : written calls = calls.flatMap bytes := by
  have one : ∀ before call, ((sink LimitedWriter.write).receive call).run
      (given none "sink full" before) =
        (.ok (), given none "sink full" (before ++ bytes call)) := by
    intro before call
    cases call <;> exact writeAll_given before _
  exact congrArg (fun printed => printed.2.written)
    (LimitedWriter.mapM_given bytes (fun _ _ => (.ok () : Except BenchError Unit)) one [] calls)

/-! ### Laps that can be added up -/

/-- Whether the laps that a call shows, if any, are short enough to be added up. -/
def Fits : SinkCall → Prop
  | .emit report => ∀ m ∈ report.measurement?, Duration.totalNanos m.laps < Duration.limit
  | _ => True

theorem isSome_statistics?_iff {m : Measurement} :
    m.statistics?.isSome = true ↔ Duration.totalNanos m.laps < Duration.limit := by
  unfold Measurement.statistics? Duration.sum?
  split <;> simp [*]

theorem ending_eq_returned_iff {call : SinkCall} : ending call = .returned () ↔ Fits call := by
  cases call with
  | emit report =>
    rw [ending, Fits]
    cases report.measurement? with
    | none => simp
    | some m => simp [isSome_statistics?_iff]
  | begin mode iterations => exact iff_of_true rfl trivial
  | finish summary => exact iff_of_true rfl trivial

/-- Nothing is missing from what is shown of laps that can be added up. -/
theorem reached_of_fits {call : SinkCall} (h : Fits call) : reached call = lines call := by
  cases call with
  | emit report =>
    obtain ⟨label, strategy, kind, mode, target, iterations, outcome⟩ := report
    cases outcome with
    | completed rehearsal m =>
      obtain ⟨figures, hf⟩ := Option.isSome_iff_exists.1 (isSome_statistics?_iff.2 (h m rfl))
      rw [reached, reachedLines, hf]
      rfl
    | failed reason => rfl
  | begin mode iterations => rfl
  | finish summary => rfl

/-- Only the line of the figures is missing from what is shown of laps that are too long together,
and behind the others the call panics. -/
theorem panics_of_not_fits {call : SinkCall} (h : ¬ Fits call) :
    reached call = (lines call).dropLast ∧ ending call = .panicked overflow := by
  cases call with
  | emit report =>
    obtain ⟨label, strategy, kind, mode, target, iterations, outcome⟩ := report
    cases outcome with
    | completed rehearsal m =>
      have long : ¬ m.statistics?.isSome = true := by
        intro computed
        refine h fun m' found => ?_
        cases found
        exact isSome_statistics?_iff.1 computed
      have none : m.statistics? = none := by simpa using long
      refine ⟨?_, if_neg long⟩
      rw [reached, reachedLines, none]
      exact (List.append_nil (_ :: _)).trans List.dropLast_concat.symm
    | failed reason => exact absurd nofun h
  | begin mode iterations => exact absurd trivial h
  | finish summary => exact absurd trivial h

/-- Where all laps can be added up, a call ends as a sink answers. -/
theorem receive_of_fits {m : Type → Type} [Monad m] [LawfulMonad m]
    (write : String → m (Except String Unit)) {call : SinkCall} (h : Fits call) :
    receive write call = Call.ofExcept <$> (sink write).receive call := by
  have received : (sink write).receive call = writeAll write (lines call) := by
    cases call <;> rfl
  rw [receive, received, reached_of_fits h, ending_eq_returned_iff.2 h, map_eq_pure_bind]
  congr 1
  funext answer
  cases answer <;> rfl

/-- **A full writer.**  A writer with a limit has the first bytes of what the same calls show
without one, which is the texts of the calls, and all of it if the limit is not exceeded.  Those
calls end as they should whose texts end within the limit, and all others fail with the message of
the writer, also when they are made after one that failed.

A call should return with all of its lines shown.  Only a report whose laps are too long together to
be added up panics, with all lines but the last one shown, which has the figures. -/
theorem truncated (calls : List SinkCall) (limit : Nat) (message : String) :
    let cut := perform { limit := some limit, fullMessage := message } calls
    shown calls = calls.flatMap (fun call => Utf8.encode (String.join (reached call)).toList) ∧
    cut.2.written = (shown calls).take (min limit (shown calls).length) ∧
    (cut.1 = calls.zipIdx.map fun p =>
      if (shown (calls.take (p.2 + 1))).length ≤ limit then ending p.1
        else .error (.report message)) ∧
    ∀ call, (Fits call ∧ reached call = lines call ∧ ending call = .returned ()) ∨
      (¬ Fits call ∧ reached call = (lines call).dropLast ∧ ending call = .panicked overflow) := by
  have start : ({ limit := some limit, fullMessage := message } : LimitedWriter) =
      given (some limit) message [] := by
    rw [given, Option.elim_some, List.take_nil]
  intro cut
  have performed : cut = _ := (congrArg (perform · calls) start).trans (perform_given [] calls)
  refine ⟨shown_eq calls, ?_, ?_, fun call => ?_⟩
  · rw [performed, shown_eq, List.nil_append, ← List.take_eq_take_min]
    rfl
  · rw [performed]
    simp only [shown_eq, Option.all_some, decide_eq_true_eq, List.nil_append]
  · by_cases fits : Fits call
    · exact .inl ⟨fits, reached_of_fits fits, ending_eq_returned_iff.2 fits⟩
    · exact .inr ⟨fits, panics_of_not_fits fits⟩

/-- A report on laps that are too long together, although each of them can be measured. -/
def endless : Report :=
  .make "A" .sample .total .total 2
    (.completed none ⟨.zero, [⟨Duration.limit - 1⟩, ⟨1⟩]⟩)

/-- A call may panic whose whole text is within the limit. -/
theorem panicked_endless :
    (∀ m ∈ endless.measurement?, ∀ lap ∈ m.laps, lap.nanos < Duration.limit) ∧
    (shown [.emit endless]).length ≤ 100 ∧
    (perform { limit := some 100 } [.emit endless]).1 = [.panicked overflow] := by
  decide +kernel

/-- A writer that is full at the end of the first line of a call. -/
example : perform { limit := some 82 } [.begin .total 1, .finish {}] =
    ([.error (.report "sink full"), .error (.report "sink full")],
      { limit := some 82, written := Utf8.encode ("\n" ++ rule '=' ++ "\n").toList }) := by
  decide +kernel

end Console

end LangBench
