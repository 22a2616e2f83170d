/-
What a frame tunes to, and when that is allowed.
-/
import RigControl.Proofs.Outcome
import RigControl.Rig.Tracking

namespace RigControl

/-- What a frame tunes. -/
structure Tuning where
  /-- The VFO that the frame names. -/
  vfo : Option Vfo := none
  /-- The frequency in hertz, as the field reads. -/
  hz : Outcome Nat
deriving DecidableEq, Repr

/-- The frequency can be read, and its VFO may be tuned to it. -/
def Tuning.InRange (d : Descriptor) (region : Region) (k : Tracking) (t : Tuning) : Prop :=
  ∃ hz, t.hz = .ok hz ∧ d.checkRxFrequency region (t.vfo.getD k.vfo) hz = .ok ()

theorem Descriptor.checkRxFrequency_ok {d : Descriptor} {region : Region} {v : Vfo} {hz : Nat} :
    d.checkRxFrequency region v hz = .ok () ↔
      ∃ range ∈ d.rxRanges region, range.contains hz = true ∧ range.allows v = true := by
  unfold checkRxFrequency
  split <;> simp_all

end RigControl
