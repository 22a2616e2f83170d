/-
The EKD-500, a receiver that can only be tuned. It takes the frequency in kilohertz with six places and
usually says nothing.
-/
import RigControl.Frame.Ascii
import RigControl.Rig.Operation

namespace RigControl.Ekd500

/-- The longest reply that is read. -/
def maxReply : Nat := 64

/-- A frequency in kilohertz. -/
def kilohertz (hz : Nat) : List Char :=
  Nat.toDigits 10 (hz / 1000) ++ '.' :: Text.zeroPadded 3 (hz % 1000) ++ ['0', '0', '0']

def setFrequency (hz : Nat) : Outcome Request := do
  return {
    operation := "set_freq"
    frame := ← AsciiFrame.cr.build "FRQ" [.text (kilohertz hz)]
    reply := .optional (.upTo AsciiFrame.cr.terminator maxReply) }

def setFrequencyOf (d : Descriptor) (region : Region) (v : Vfo) (hz : Nat) : Dialogue Unit := do
  d.checkVfo v
  d.checkRxFrequency region ((← .known).resolve v) hz
  .tell (← setFrequency hz)

/-- What the receiver does for an operation. -/
def respond (d : Descriptor) (config : Config) {α : Type} : Operation α → Dialogue α
  | .getFrequency _ => .fail (.unsupported "EKD-500 cannot report its frequency")
  | .setFrequency v hz => setFrequencyOf d config.region v hz
  | op => op.fallback d

end RigControl.Ekd500
