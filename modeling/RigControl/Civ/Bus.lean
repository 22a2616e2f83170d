/-
Talking to one rig on a CI-V bus. The bus echoes each frame to its sender, so that requests skip their
echo. Writes are answered by a frame that accepts or refuses, reads by the command that was asked, with
the data behind it.
-/
import RigControl.Civ.Frame
import RigControl.Link.Request
import RigControl.Text.Quoted

namespace RigControl.Civ

/-- The two ends of a conversation. -/
structure Bus where
  rig : UInt8
  controller : UInt8 := 0xE0
deriving DecidableEq, Repr

namespace Bus

/-- The longest frame that is read. -/
def maxFrame : Nat := 64

def frame (b : Bus) (command : UInt8) (payload : List UInt8) : List UInt8 :=
  Frame.encode ⟨b.rig, b.controller, command, payload⟩

/-- A request that is answered by the next frame after its echo. -/
def request (b : Bus) (operation : String) (command : UInt8) (payload : List UInt8) : Request where
  operation := operation
  frame := b.frame command payload
  reply := .terminated terminator maxFrame
  skipEcho := true

/-- Reads a frame, which has to come from the rig to the controller. -/
def decode (b : Bus) (reply : List UInt8) : Outcome Frame := do
  let f ← Frame.decode reply
  if f.source ≠ b.rig ∨ f.target ≠ b.controller then
    throw (.protocol
      (s!"CI-V frame from {Text.hexPairUpper f.source} to {Text.hexPairUpper f.target}, " ++
        s!"expected {Text.hexPairUpper b.rig} to {Text.hexPairUpper b.controller}"))
  return f

/-- Reads the answer to a write. -/
def expectAccepted (b : Bus) (reply : List UInt8) : Outcome Unit := do
  let f ← b.decode reply
  if f.isAccepted then return ()
  if f.isRefused then throw (.protocol "rig answered NAK")
  throw (.protocol s!"expected ACK, got command {Text.hexPairUpper f.command}")

/-- Reads the answer to a read and gives the data behind the command and the further command bytes
`sub`. -/
def expectData (b : Bus) (reply : List UInt8) (command : UInt8) (sub : List UInt8) :
    Outcome (List UInt8) := do
  let f ← b.decode reply
  if f.isRefused then throw (.protocol s!"rig answered NAK to {Text.hexPairUpper command}")
  if f.command ≠ command ∨ ¬ sub.isPrefixOf f.payload then
    throw (.protocol
      (s!"reply to {Text.hexPairUpper command} {Text.hexList sub} carries " ++
        s!"{Text.hexPairUpper f.command} {Text.hexList f.payload}"))
  return f.payload.drop sub.length

end Bus

end RigControl.Civ
