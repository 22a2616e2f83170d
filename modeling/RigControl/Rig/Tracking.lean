/-
What a session knows about its rig between two operations. The selected VFO is always one that the
model declares.
-/
import RigControl.Capability.Descriptor

namespace RigControl

/-- What is known about a rig. -/
structure Tracking where
  vfo : Vfo
  /-- The memory channel seen or selected last. -/
  channel : Option Nat := none
  /-- The bytes of the last status block. -/
  snapshot : List UInt8 := []
  /-- The pacing value that was sent last. -/
  pacing : UInt8 := 0
  /-- The setting of unsolicited messages that is to be put back at the end. -/
  savedAutoInfo : Option UInt8 := none
deriving DecidableEq, Repr

namespace Tracking

/-- What is assumed about a rig before anything is known: its first VFO is selected. -/
def initial (d : Descriptor) : Tracking where
  vfo := (d.vfos.toList.find? (· ≠ .current)).getD .a

/-- The VFO that is meant: `current` is the selected one. -/
def resolve (k : Tracking) (v : Vfo) : Vfo :=
  if v = .current then k.vfo else v

/-- Records that a VFO was selected; one that the model lacks is refused. -/
def select (k : Tracking) (d : Descriptor) (v : Vfo) : Outcome Tracking := do
  d.checkVfo (k.resolve v)
  return { k with vfo := k.resolve v }

end Tracking

end RigControl
