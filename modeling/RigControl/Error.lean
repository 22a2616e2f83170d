/-
What can go wrong when a rig is controlled. Programs act on the kind of an error; the detail is a
sentence for the person at the desk. Only a timeout is worth trying again.

A computation that comes to no outcome is described here as well. No program ever sees this as an error:
nothing goes on from there.
-/

namespace RigControl

/-- Why there is no outcome. -/
inductive Halt where
  /-- The computation goes round for ever. -/
  | endless
  /-- A number has outgrown its type, and the program stops. -/
  | overflow
  /-- A list has nothing at a place, and the program stops. -/
  | outOfRange
deriving DecidableEq, Repr

/-- Why an operation on a rig did not succeed. -/
inductive Error where
  /-- The caller asked for something outside what the model declares. -/
  | invalidParameter (detail : String)
  /-- No reply arrived before the deadline. -/
  | timeout
  /-- The link failed. -/
  | transport (detail : String)
  /-- The link dropped underneath an open session. -/
  | connectionLost
  /-- No link to the rig is open. -/
  | notConnected
  /-- A reply arrived that cannot be understood. -/
  | protocol (detail : String)
  /-- The model does not do this. -/
  | unsupported (detail : String)
  /-- The operation does not apply to its object. -/
  | invalidOperation (detail : String)
  /-- The operating system reported a failure. -/
  | io (detail : String)
  /-- The operation does not come to an outcome. -/
  | halt (why : Halt)
deriving DecidableEq, Repr

namespace Error

/-- The coarse classes of errors; `halt` is for what is none. -/
inductive Kind where
  | invalidParameter
  | timeout
  | io
  | protocol
  | unsupported
  | invalidOperation
  | halt
deriving DecidableEq, Repr

/-- The class of an error: everything the link itself does wrong is one class. -/
def kind : Error → Kind
  | invalidParameter _ => .invalidParameter
  | timeout => .timeout
  | transport _ | connectionLost | notConnected | io _ => .io
  | protocol _ => .protocol
  | unsupported _ => .unsupported
  | invalidOperation _ => .invalidOperation
  | halt _ => .halt

/-- The name of a class, for people. -/
def Kind.label : Kind → String
  | .invalidParameter => "invalid parameter"
  | .timeout => "timeout"
  | .io => "I/O error"
  | .protocol => "protocol error"
  | .unsupported => "unsupported"
  | .invalidOperation => "invalid operation"
  | .halt => "no outcome"

/-- Whether sending the command again may help. -/
def isRetryable (e : Error) : Bool :=
  e.kind == .timeout

/-- The full text of an error. -/
def message : Error → String
  | invalidParameter detail => "invalid parameter: " ++ detail
  | timeout => "timeout waiting for response"
  | transport detail => "transport error: " ++ detail
  | connectionLost => "connection lost"
  | notConnected => "not connected"
  | protocol detail => "protocol error: " ++ detail
  | unsupported detail => "unsupported operation: " ++ detail
  | invalidOperation detail => "invalid operation: " ++ detail
  | io detail => "I/O error: " ++ detail
  | halt .endless => "no outcome: goes round for ever"
  | halt .overflow => "no outcome: arithmetic overflow"
  | halt .outOfRange => "no outcome: place out of range"

theorem isRetryable_iff {e : Error} : e.isRetryable = true ↔ e = .timeout := by
  cases e <;> simp [isRetryable, kind]

end Error

/-- The outcome of a computation that may refuse. -/
abbrev Outcome (α : Type) := Except Error α

/-- The computation comes to an outcome, be it an answer or an error. -/
def Outcome.Ends {α : Type} (o : Outcome α) : Prop :=
  ∀ why, o ≠ .error (.halt why)

theorem Outcome.ends_or_halts {α : Type} (o : Outcome α) :
    o.Ends ∨ ∃ why, o = .error (.halt why) := by
  cases o with
  | ok a => exact .inl nofun
  | error e =>
    cases e with
    | halt why => exact .inr ⟨why, rfl⟩
    | _ => exact .inl nofun

end RigControl
