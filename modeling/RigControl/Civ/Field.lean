/-
Fields of CI-V frames. Numbers are packed decimals: frequencies with the low byte first, everything
else with the high byte first.
-/
import RigControl.Bcd

namespace RigControl.Civ

/-- A frequency in hertz as five bytes. -/
def encodeFrequency (hz : Nat) : Outcome (List UInt8) := Bcd.encodeLow hz 10

def decodeFrequency (bytes : List UInt8) : Outcome Nat :=
  if bytes.length ≠ 5 then
    .error (.protocol s!"frequency needs 5 BCD bytes, got {bytes.length}")
  else Bcd.decodeLow bytes 10

/-- A level or the reading of a meter as two bytes. -/
def encodeLevel (value : Nat) : Outcome (List UInt8) := Bcd.encodeHigh value 4

def decodeLevel (bytes : List UInt8) : Outcome Nat :=
  if bytes.length ≠ 2 then .error (.protocol s!"level needs 2 BCD bytes, got {bytes.length}")
  else Bcd.decodeHigh bytes 4

/-- A number below a hundred as one byte. -/
def encodeByte (value : UInt8) : Outcome UInt8 :=
  (Bcd.encodeHigh value.toNat 2).map (·.headD 0)

def decodeByte (byte : UInt8) : Outcome UInt8 :=
  (Bcd.decodeHigh [byte] 2).map Nat.toUInt8

end RigControl.Civ
