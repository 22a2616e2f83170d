/-
Analog settings and meters, and the values they take.
-/
import RigControl.Radio.Vfo
import RigControl.Single

namespace RigControl

/-- An analog setting or a meter. -/
inductive Level where
  /-- Gain of the preamplifier in dB; 0 is off. -/
  | preamp
  /-- Attenuation in dB; 0 is off. -/
  | attenuator
  /-- Set transmit power, from 0 to 1. -/
  | rfPower
  /-- Reading of the S-meter in units of the device. -/
  | rawStrength
  /-- Strength of the signal in dB over S9. -/
  | strength
  | swr
  | alc
  /-- Forward power in watts. -/
  | rfPowerMeter
  /-- Speech compression in dB. -/
  | compression
  | drainVoltage
  | drainCurrent
deriving DecidableEq, Repr

namespace Level

instance : Enumeration Level where
  all := [preamp, attenuator, rfPower, rawStrength, strength, swr, alc, rfPowerMeter, compression,
    drainVoltage, drainCurrent]
  index l := l.ctorIdx

/-- Whether values of the level have a fraction. -/
def isFractional : Level → Bool
  | preamp | attenuator | rawStrength | strength => false
  | _ => true

def label : Level → String
  | preamp => "PREAMP"
  | attenuator => "ATT"
  | rfPower => "RFPOWER"
  | rawStrength => "RAWSTR"
  | strength => "STRENGTH"
  | swr => "SWR"
  | alc => "ALC"
  | rfPowerMeter => "RFPOWER_METER"
  | compression => "COMP_METER"
  | drainVoltage => "VD_METER"
  | drainCurrent => "ID_METER"

/-- Finds a level by its label. Only ASCII letters match in either case. -/
def parse (s : String) : Except UnknownName Level :=
  named "level" s <| (Enumeration.all : List Level).find? fun l =>
    l.label.toList.map Char.toLower == s.toList.map Char.toLower

end Level

/-- The value of a level. -/
inductive LevelValue where
  | int (n : Int)
  | float (x : Single)
deriving DecidableEq, Repr

namespace LevelValue

/-- The value as an integer, the nearest one to a fraction. -/
def toInt : LevelValue → Int
  | int n => n
  | float x => x.round

def toSingle : LevelValue → Single
  | int n => .ofInt n
  | float x => x

def label : LevelValue → String
  | int n => toString n
  | float x => x.toFixed 3

end LevelValue

end RigControl
