/-
The clock of a rig. The offset from universal time is written as hours and minutes in one number, so
that -0500 is five hours west.
-/
import RigControl.Text.Numeral

namespace RigControl

structure ClockTime where
  year : UInt16
  month : UInt8
  day : UInt8
  hour : UInt8
  minute : UInt8
  second : UInt8
  utcOffset : Int16
deriving DecidableEq, Repr

namespace ClockTime

/-- The written form, `YYYY-MM-DDTHH:MM:SS±HHMM`. -/
def text (t : ClockTime) : List Char :=
  let two (n : UInt8) := Text.zeroPadded 2 n.toNat
  Text.zeroPadded 4 t.year.toNat ++ '-' :: two t.month ++ '-' :: two t.day ++ 'T' :: two t.hour ++
    ':' :: two t.minute ++ ':' :: two t.second ++ (if t.utcOffset < 0 then '-' else '+') ::
    Text.zeroPadded 4 t.utcOffset.toInt.natAbs

end ClockTime

end RigControl
