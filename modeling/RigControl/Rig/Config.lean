/-
What the user of a session chooses. Whatever is left open is taken from the model.
-/
import RigControl.Capability.Descriptor

namespace RigControl

/-- The choices for one session. -/
structure Config where
  region : Region := .one
  /-- How long a reply may take. -/
  timeout : Option Nat := none
  /-- How often a frame is sent at most. -/
  retry : Option Nat := none
  writeDelay : Option Nat := none
  postWriteDelay : Option Nat := none
  /-- The address on a bus with several rigs. -/
  address : Option UInt8 := none
  /-- Whether settings of the rig that were changed at the start are put back at the end. -/
  restoreOnClose : Bool := true
deriving DecidableEq, Repr

namespace Config

/-- The settings of a line with the choices applied. A frame is sent at least once. -/
def resolve (c : Config) (line : LineSettings) : LineSettings :=
  { line with
    timeout := c.timeout.getD line.timeout
    retry := max (c.retry.getD line.retry) 1
    writeDelay := c.writeDelay.getD line.writeDelay
    postWriteDelay := c.postWriteDelay.getD line.postWriteDelay }

/-- The pauses between writes. -/
def pacing (c : Config) (d : Descriptor) : Pacing :=
  let line := c.resolve d.line
  ⟨line.writeDelay, line.postWriteDelay⟩

def addressFor (c : Config) (d : Descriptor) : Option UInt8 :=
  c.address <|> d.address

end Config

end RigControl
