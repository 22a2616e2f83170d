/-
Times as people type them: `YYYY-MM-DDTHH:MM`, with seconds and the offset from universal time left
out at will. Only the form is checked here; what the clock of a rig accepts is for the rig to say.
-/
import RigControl.Radio.Clock
import RigControl.Text.Pieces

namespace RigControl.ClockTime

/-- Why a text is not a time. -/
inductive TextError where
  /-- A part is missing, or there is one too many. -/
  | form
  /-- A part is not a number. -/
  | part (e : Text.NumeralError)
deriving DecidableEq, Repr

/-- The sentence about a text that is not a time. -/
def TextError.message (text : List Char) : TextError → String
  | form => s!"expected YYYY-MM-DDTHH:MM[:SS][+HHMM], got {Text.quoted text}"
  | part e => e.message

/-- Reads the first of the remaining parts as a number. -/
def nextPart (greatest : Nat) :
    List (List Char) → Except TextError (Nat × List (List Char))
  | [] => .error .form
  | part :: rest =>
    match Text.unsigned greatest part with
    | .ok n => .ok (n, rest)
    | .error e => .error (.part e)

/-- Reads an offset from universal time; nothing stands for none. -/
def offsetOfText : List Char → Except TextError Int
  | [] => .ok 0
  | s => (Text.signed 0x7FFF s).mapError .part

/-- Reads a time. The date comes first, then the offset, then the time of day, and the first part that
is wrong is reported. -/
def ofText (text : List Char) : Except TextError ClockTime := do
  let date := text.takeWhile (· ≠ 'T')
  let timeAndOffset ← match text.dropWhile (· ≠ 'T') with
    | [] => .error .form
    | _ :: rest => .ok rest
  let (year, date) ← nextPart 0xFFFF (Text.pieces '-' date)
  let (month, date) ← nextPart 0xFF date
  let (day, date) ← nextPart 0xFF date
  let offset ← offsetOfText (timeAndOffset.dropWhile fun c => c ≠ '+' && c ≠ '-')
  let time := timeAndOffset.takeWhile fun c => c ≠ '+' && c ≠ '-'
  let (hour, time) ← nextPart 0xFF (Text.pieces ':' time)
  let (minute, time) ← nextPart 0xFF time
  let (second, time) ← if time = [] then .ok (0, []) else nextPart 0xFF time
  if date ≠ [] ∨ time ≠ [] then .error .form
  return {
    year := year.toUInt16, month := month.toUInt8, day := day.toUInt8, hour := hour.toUInt8
    minute := minute.toUInt8, second := second.toUInt8, utcOffset := offset.toInt16 }

end RigControl.ClockTime
