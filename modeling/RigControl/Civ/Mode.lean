/-
Modes and filters on the CI-V bus. A data mode is a base mode with the data modulator switched on, and
filters are chosen by slots, which are numbered from the widest.
-/
import RigControl.Error
import RigControl.Radio.Mode
import RigControl.Text.Quoted

namespace RigControl.Civ

/-- The slots of a filter. -/
inductive FilterSlot where
  | wide
  | normal
  | narrow
deriving DecidableEq, Repr

namespace FilterSlot

def code : FilterSlot → UInt8
  | wide => 1
  | normal => 2
  | narrow => 3

def ofCode (byte : UInt8) : Outcome FilterSlot :=
  if byte = 1 then .ok wide
  else if byte = 2 then .ok normal
  else if byte = 3 then .ok narrow
  else .error (.protocol s!"unknown CI-V filter {Text.hexPairUpper byte}")

end FilterSlot

/-- The byte of a mode; a data mode has that of its base mode. -/
def modeCode : Mode → UInt8
  | .lsb | .dataLsb => 0x00
  | .usb | .dataUsb => 0x01
  | .am | .dataAm => 0x02
  | .cw => 0x03
  | .rtty => 0x04
  | .fm | .dataFm => 0x05
  | .cwr => 0x07
  | .rttyr => 0x08

/-- Whether a mode needs the data modulator. -/
def isData : Mode → Bool
  | .dataLsb | .dataUsb | .dataAm | .dataFm => true
  | _ => false

/-- The mode that a base mode becomes with the data modulator. -/
def withData : Mode → Option Mode
  | .lsb => some .dataLsb
  | .usb => some .dataUsb
  | .am => some .dataAm
  | .fm => some .dataFm
  | _ => none

def modeOfCode (byte : UInt8) : Outcome Mode :=
  match [(0x00, Mode.lsb), (0x01, .usb), (0x02, .am), (0x03, .cw), (0x04, .rtty), (0x05, .fm),
      (0x07, .cwr), (0x08, .rttyr)].lookup byte with
  | some m => .ok m
  | none => .error (.protocol s!"unknown CI-V mode {Text.hexPairUpper byte}")

end RigControl.Civ
