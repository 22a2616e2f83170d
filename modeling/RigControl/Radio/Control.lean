/-
The smaller choices on a rig's front panel: antennas, switches, parameters, one-shot operations.
-/
import RigControl.Radio.Vfo

namespace RigControl

/-- An antenna connector. -/
inductive Antenna where
  | ant1
  | ant2
  | ant3
  | ant4
  | ant5
deriving DecidableEq, Repr

instance : Enumeration Antenna where
  all := [.ant1, .ant2, .ant3, .ant4, .ant5]
  index a := a.ctorIdx

/-- A switch of the rig. -/
inductive Func where
  | tuner
  | lock
  | noiseBlanker
  | compressor
  | vox
deriving DecidableEq, Repr

namespace Func

instance : Enumeration Func where
  all := [tuner, lock, noiseBlanker, compressor, vox]
  index f := f.ctorIdx

def name : Func → String
  | tuner => "Tuner"
  | lock => "Lock"
  | noiseBlanker => "NoiseBlanker"
  | compressor => "Compressor"
  | vox => "Vox"

def parse (s : String) : Except UnknownName Func :=
  named "function" s <| Text.lookupCapital
    [("TUNER", tuner), ("LOCK", lock), ("NB", noiseBlanker), ("COMP", compressor), ("VOX", vox)] s

end Func

/-- A setting of the rig as a whole. -/
inductive Parm where
  | announce
  | backlight
  | beep
  | time
deriving DecidableEq, Repr

namespace Parm

instance : Enumeration Parm where
  all := [announce, backlight, beep, time]
  index p := p.ctorIdx

def name : Parm → String
  | announce => "Announce"
  | backlight => "Backlight"
  | beep => "Beep"
  | time => "Time"

end Parm

/-- What can be done once with a VFO or a memory. -/
inductive VfoOp where
  /-- Copy the active VFO to the other one. -/
  | copy
  /-- Exchange the two VFOs. -/
  | exchange
  /-- Store the VFO in the selected memory. -/
  | fromVfo
  /-- Load the selected memory into the VFO. -/
  | toVfo
  /-- Erase the selected memory. -/
  | memClear
  /-- Start a tuning cycle of the antenna tuner. -/
  | tune
deriving DecidableEq, Repr

namespace VfoOp

instance : Enumeration VfoOp where
  all := [copy, exchange, fromVfo, toVfo, memClear, tune]
  index o := o.ctorIdx

def name : VfoOp → String
  | copy => "Copy"
  | exchange => "Exchange"
  | fromVfo => "FromVfo"
  | toVfo => "ToVfo"
  | memClear => "MemClear"
  | tune => "Tune"

end VfoOp

/-- Control of the scanner. -/
inductive ScanOp where
  | stop
  /-- Scan between the edges of a band. -/
  | vfo
  /-- Scan the memories. -/
  | memory
deriving DecidableEq, Repr

namespace ScanOp

instance : Enumeration ScanOp where
  all := [stop, vfo, memory]
  index o := o.ctorIdx

def name : ScanOp → String
  | stop => "Stop"
  | vfo => "Vfo"
  | memory => "Memory"

end ScanOp

end RigControl
