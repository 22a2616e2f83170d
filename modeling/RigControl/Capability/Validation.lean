/-
What makes a descriptor sound: it declares VFOs to tune, its ranges and limits are the right way
round, its meters can be read off, and a command is sent at least once.
-/
import RigControl.Capability.Descriptor

namespace RigControl

/-- Refuses a range whose limits are exchanged. -/
def FreqRange.validate (r : FreqRange) : Except String Unit :=
  if r.max < r.min then .error s!"inverted range {r.label}"
  else if r.powerInverted then .error s!"inverted power limits in {r.label}"
  else .ok ()

/-- Refuses a meter whose calibration is out of order. -/
def validateMeter : Level × CalibrationTable → Except String Unit
  | (level, table) => table.validate.mapError fun e => s!"{level.label} calibration: {e.message}"

namespace Descriptor

/-- The first flaw of a descriptor. -/
def flaw (d : Descriptor) : Except String Unit := do
  if d.vfos.isEmpty then throw "no VFOs declared"
  if d.vfos.contains .current then throw "Vfo::Current is not a declarable VFO"
  (d.rxOne ++ d.txOne ++ d.rxTwo ++ d.txTwo).forM FreqRange.validate
  d.meters.forM validateMeter
  if d.line.retry = 0 then throw "retry must allow at least one attempt"
  if d.line.baudMax < d.line.baudMin then
    throw s!"baud range {d.line.baudMin}..{d.line.baudMax} is inverted"

/-- Refuses a descriptor with a flaw. -/
def validate (d : Descriptor) : Outcome Unit :=
  d.flaw.mapError fun what => .invalidParameter s!"{d.name}: {what}"

end Descriptor

end RigControl
