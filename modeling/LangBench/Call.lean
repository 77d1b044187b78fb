/-!
# Calls that may fail

A call returns a value, returns an error, or panics; a panic carries something, usually a text.

* `Call`: how a call ended;
* `CallFailure`: a failed call with the message of its panic;
* `Call.failure?`: the failure of a call that did not return a value.
-/

namespace LangBench

/-- What a panic carries. -/
inductive Payload where
  | text (message : String)
  /-- Something that is no text. -/
  | other
  deriving DecidableEq, Repr

/-- The message of a panic. -/
def Payload.message : Payload → String
  | .text message => message
  | .other => "panic with non-string payload"

/-- How a call ended. -/
inductive Call (ε α : Type) where
  | returned (value : α)
  | error (e : ε)
  | panicked (payload : Payload)
  deriving DecidableEq, Repr

/-- Why a call gave no value. -/
inductive CallFailure (ε : Type) where
  | error (e : ε)
  | panic (message : String)
  deriving DecidableEq, Repr

/-- The call that ends with a result. -/
def Call.ofExcept {ε α : Type} : Except ε α → Call ε α
  | .ok a => .returned a
  | .error e => .error e

/-- Why a call gave no value, if it gave none. -/
def Call.failure? {ε α : Type} : Call ε α → Option (CallFailure ε)
  | .returned _ => none
  | .error e => some (.error e)
  | .panicked payload => some (.panic payload.message)

/-- The reason that a report gives for a failure. -/
def CallFailure.reason {ε : Type} (describe : ε → String) : CallFailure ε → String
  | .error e => describe e
  | .panic message => "panicked: " ++ message

end LangBench
