/-
The frequency ranges of a model, and the tuning steps and filters that go with its modes.
-/
import RigControl.Radio.Control
import RigControl.Radio.Frequency
import RigControl.Radio.Mode
import RigControl.Single

namespace RigControl

/-- A range of frequencies, both ends included, and what applies inside it. -/
structure FreqRange where
  min : Nat
  max : Nat
  modes : Flags Mode
  /-- The VFOs that may tune here; none listed means all. -/
  vfos : Flags Vfo
  antennas : Flags Antenna := ∅
  /-- Least transmit power in watts; absent where the rig only receives. -/
  minPower : Option Single := none
  /-- Greatest transmit power in watts. -/
  maxPower : Option Single := none
deriving DecidableEq, Repr

namespace FreqRange

/-- The range with limits of transmit power. -/
def withPower (r : FreqRange) (least greatest : Single) : FreqRange :=
  { r with minPower := some least, maxPower := some greatest }

def contains (r : FreqRange) (hz : Nat) : Bool :=
  r.min ≤ hz && hz ≤ r.max

/-- Whether a VFO may tune inside the range. -/
def allows (r : FreqRange) (v : Vfo) : Bool :=
  r.vfos.isEmpty || v == .current || r.vfos.contains v

def label (r : FreqRange) : String :=
  s!"{megahertz r.min} - {megahertz r.max}"

/-- Whether the least power is above the greatest. -/
def powerInverted (r : FreqRange) : Bool :=
  match r.minPower, r.maxPower with
  | some least, some greatest => greatest.lt least
  | _, _ => false

end FreqRange

/-- A step of the tuning dial, in the modes that have it. -/
structure TuningStep where
  modes : Flags Mode
  hz : Nat
deriving DecidableEq, Repr

/-- A receive filter, in the modes that have it. Without a width it stands for any width. -/
structure Filter where
  modes : Flags Mode
  width : Option Passband
deriving DecidableEq, Repr

/-- The memory channels of a model, both ends included. -/
structure ChannelRange where
  first : Nat
  last : Nat
deriving DecidableEq, Repr

def ChannelRange.contains (r : ChannelRange) (channel : Nat) : Bool :=
  r.first ≤ channel && channel ≤ r.last

end RigControl
