/-
The data in the answers of a CI-V rig.
-/
import RigControl.Civ.Field
import RigControl.Civ.Mode

namespace RigControl.Civ

/-- A mode and the slot of its filter, which may be left out. -/
def parseMode : List UInt8 → Outcome (Mode × Option FilterSlot)
  | [] => .error (.protocol "empty mode reply")
  | byte :: rest => do
    let m ← modeOfCode byte
    match rest with
    | [] => return (m, none)
    | slot :: _ => return (m, some (← FilterSlot.ofCode slot))

/-- Whether the data modulator is on; its byte counts the slots. -/
def parseDataMode : List UInt8 → Outcome Bool
  | [] => .error (.protocol "unexpected data mode None")
  | byte :: _ =>
    if byte = 0 then .ok false
    else if byte ≤ 3 then .ok true
    else .error (.protocol s!"unexpected data mode Some({Text.hexPairUpper byte})")

def parseSwitch (data : List UInt8) : Outcome Bool :=
  if data = [0x00] then .ok false
  else if data = [0x01] then .ok true
  else .error (.protocol s!"expected 00 or 01, got {Text.hexList data}")

def parseSelector : List UInt8 → Outcome UInt8
  | [byte] => decodeByte byte
  | data => .error (.protocol s!"expected one byte, got {Text.hexList data}")

/-- Year, month and day. -/
def parseDate : List UInt8 → Outcome (UInt16 × UInt8 × UInt8)
  | [century, year, month, day] => do
    let hundreds ← decodeByte century
    let ones ← decodeByte year
    return (100 * hundreds.toUInt16 + ones.toUInt16, ← decodeByte month, ← decodeByte day)
  | data => .error (.protocol s!"date reply {Text.hexList data}")

/-- Hour and minute. -/
def parseTime : List UInt8 → Outcome (UInt8 × UInt8)
  | [hour, minute] => do return (← decodeByte hour, ← decodeByte minute)
  | data => .error (.protocol s!"time reply {Text.hexList data}")

/-- The offset from universal time, west of Greenwich if the last byte is not 0. -/
def parseUtcOffset : List UInt8 → Outcome Int16
  | [hours, minutes, sign] => do
    let h ← decodeByte hours
    let m ← decodeByte minutes
    let magnitude := 100 * h.toUInt16.toInt16 + m.toUInt16.toInt16
    return if sign = 0 then magnitude else -magnitude
  | data => .error (.protocol s!"UTC offset reply {Text.hexList data}")

end RigControl.Civ
