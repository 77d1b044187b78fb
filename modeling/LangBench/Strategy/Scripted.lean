import LangBench.Registry

/-!
# Scripted strategies

Strategies that do what a script says, for trying out what happens around them.

* `Script`: what a strategy does, and on which samples and which calls;
* `CallLog`: the calls so far, in words and in number;
* `Script.detector`: the strategy of a script;
* `CallLog.logged`: any strategy, with its calls written down.
-/

namespace LangBench

/-- What a scripted strategy does where it applies. -/
inductive Deed where
  /-- Returns no language. -/
  | pass
  | fail
  | panic (payload : Payload)
  deriving DecidableEq, Repr

/-- What a strategy does, and when. -/
structure Script where
  deed : Deed
  /-- How the name of a sample, or the content, begins where the script applies. -/
  start : List UInt8 := []
  /-- The number of the call to which the script applies; 0 means every call. -/
  at_ : Nat := 0
  /-- The reason of a failure. -/
  reason : String := ""
  /-- Whether the strategy is given bare content. -/
  classifier : Bool := false
  deriving DecidableEq, Repr

/-- The calls so far. -/
structure CallLog where
  /-- A line for each call, the last one first. -/
  backwards : List String := []
  /-- How often each scripted strategy, known by its number, was called. -/
  counts : List (Nat × Nat) := []
  deriving DecidableEq, Repr

namespace CallLog

/-- A line for each call, the first one first. -/
def lines (log : CallLog) : List String :=
  log.backwards.reverse

/-- One more line. -/
def note (log : CallLog) (line : String) : CallLog :=
  { log with backwards := line :: log.backwards }

@[simp] theorem lines_note (log : CallLog) (line : String) :
    (log.note line).lines = log.lines ++ [line] := by
  simp [lines, note]

/-- How often the strategy with number `id` was called. -/
def count (log : CallLog) (id : Nat) : Nat :=
  (log.counts.lookup id).getD 0

/-- One more call of the strategy with number `id`. -/
def increment (log : CallLog) (id : Nat) : CallLog :=
  { log with counts := (id, log.count id + 1) :: log.counts.filter (·.1 != id) }

end CallLog

/-- A monad in which the log can be changed. -/
structure LogAccess (m : Type → Type) where
  modifyGet : {α : Type} → (CallLog → α × CallLog) → m α

namespace Script

/-- How a call ends whose number is `n` and which is about a text that begins with `text`. -/
def answer (s : Script) (text : List UInt8) (n : Nat) : Answer :=
  if s.start.isPrefixOf text ∧ (s.at_ = 0 ∨ s.at_ = n) then
    match s.deed with
    | .pass => .returned []
    | .fail => .error (.malformed (.other s.reason))
    | .panic payload => .panicked payload
  else .returned []

variable {m : Type → Type} [Monad m]

/-- Counts a call of the strategy with number `id`. -/
def counted (access : LogAccess m) (id : Nat) : m Nat :=
  access.modifyGet fun log => (log.count id + 1, log.increment id)

/-- The strategy of a script.  One for samples asks for the lines and the media type first; a call
that finds no lines ends there and is not counted. -/
def detector (access : LogAccess m) (id : Nat) (s : Script) : Detector m :=
  if s.classifier then
    .classifier fun _ data => do
      return s.answer data (← counted access id)
  else
    .sample fun _ => do
      match ← View.lift View.lines with
      | .error e => return .error e
      | .ok _ =>
        let _ ← View.lift View.mediaType
        let name ← View.lift View.name
        let n ← liftM (counted access id)
        return s.answer (Text.Utf8.encode name.toList) n

end Script

namespace LogAccess

variable {m : Type → Type} [Monad m]

/-- A strategy whose calls are written down before they are made. -/
def logged (access : LogAccess m) (s : Registered m) : Registered m where
  label := s.label
  detector :=
    let note (about : String) : m Unit :=
      access.modifyGet fun log => ((), log.note s!"{s.label} {about}")
    match s.detector with
    | .sample call => .sample fun languages => do
      liftM (note (← View.lift View.name))
      call languages
    | .classifier call => .classifier fun statistics data => do
      note (toString data.length)
      call statistics data

end LogAccess

end LangBench
