/-
Failures as they are shown to the user: what was being done, and below it the causes, each the reason
for the one above.
-/
import RigControl.Error

namespace RigControl.CommandLine

/-- A failure and its causes. -/
structure Failure where
  message : String
  causes : List String := []
deriving DecidableEq, Repr

namespace Failure

/-- The text of an error and of what the operating system said. -/
def reasons (e : Error) : List String :=
  match e with
  | .io detail => [e.message, detail]
  | _ => [e.message]

/-- An error on its own. -/
def ofError (e : Error) : Failure :=
  ⟨e.message, (reasons e).tail⟩

/-- An error that ended what was being done. -/
def during (doing : String) (e : Error) : Failure :=
  ⟨doing, reasons e⟩

/-- A text with its further lines set in. -/
def indented (margin text : String) : String :=
  text.replace "\n" ("\n" ++ margin)

/-- The lines of the causes, numbered if there are several. -/
def causeLines : List String → List String
  | [] => []
  | [cause] => ["    " ++ indented "    " cause]
  | causes => causes.mapIdx fun i cause =>
    "".pushn ' ' (5 - (toString i).length) ++ toString i ++ ": " ++ indented "       " cause

def report (f : Failure) : String :=
  let causes := if f.causes = [] then "" else
    "\n\nCaused by:" ++ String.join ((causeLines f.causes).map ("\n" ++ ·))
  "Error: " ++ f.message ++ causes ++ "\n"

end Failure

end RigControl.CommandLine
