/-
The values in the replies of the newer Yaesu rigs. Lengths are counted in bytes.
-/
import RigControl.Radio.Mode
import RigControl.Text.Numeral
import RigControl.Text.Utf8

namespace RigControl.Newcat

/-- A number that fits a byte. -/
def byte (n : Nat) (error : Error) : Outcome UInt8 :=
  if n < 256 then .ok n.toUInt8 else .error error

/-- A frequency, which has nine digits. -/
def parseFrequency (s : List Char) : Outcome Nat :=
  let size := (Text.utf8 s).length
  if size ≠ 9 then
    .error (.protocol s!"expected 9 digits for frequency, got {size} characters: {Text.quoted s}")
  else Text.parseDecimal s

/-- A mode. The narrow form of FM reads as FM. -/
def parseMode (s : List Char) : Outcome Mode :=
  match [(['1'], Mode.lsb), (['2'], .usb), (['3'], .cw), (['4'], .fm), (['B'], .fm), (['5'], .am),
      (['6'], .rtty), (['7'], .cwr), (['8'], .dataLsb), (['9'], .rttyr), (['A'], .dataFm),
      (['C'], .dataUsb), (['D'], .dataAm)].lookup s with
  | some m => .ok m
  | none => .error (.protocol s!"unknown Yaesu mode code: {Text.quoted s}")

def parseVfo (s : List Char) : Outcome Vfo :=
  if s = ['0'] then .ok .a
  else if s = ['1'] then .ok .b
  else .error (.protocol s!"unexpected VS state: {Text.quoted s}")

/-- Whether the rig transmits, from the microphone or from data. -/
def parsePtt (s : List Char) : Outcome Bool :=
  if s = ['0'] then .ok false
  else if s = ['1'] ∨ s = ['2'] then .ok true
  else .error (.protocol s!"unexpected TX state: {Text.quoted s}")

/-- Whether the rig transmits on the other receiver's VFO. -/
def parseSplit (s : List Char) : Outcome Bool :=
  if s = ['0'] then .ok false
  else if s = ['1'] then .ok true
  else .error (.protocol s!"unexpected split state: {Text.quoted s}")

/-- The place of a selector, which has one or two digits. -/
def parseIndex (s : List Char) : Outcome UInt8 := do
  let size := (Text.utf8 s).length
  if size = 0 ∨ 2 < size then
    throw (.protocol s!"expected 1-2 digit index, got {Text.quoted s}")
  let n ← Text.parseDecimal s
  byte n (.protocol s!"index {n} out of range")

/-- The raw reading of a meter, which has three digits. -/
def parseMeter (s : List Char) : Outcome UInt8 := do
  let size := (Text.utf8 s).length
  if size ≠ 3 then
    throw (.protocol s!"expected 3 digits for meter, got {size} characters: {Text.quoted s}")
  let n ← Text.parseDecimal s
  byte n (.protocol s!"meter value {n} exceeds 255")

end RigControl.Newcat
