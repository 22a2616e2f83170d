/-
Calibration of meters. A model lists a few breakpoints that map the raw reading of a meter to its
unit. Between two breakpoints the reading is interpolated on a straight line; beyond the ends the
value of the nearest end is used.
-/
import RigControl.Error
import RigControl.Single.Arithmetic

namespace RigControl

/-- A raw reading and what it stands for. -/
structure Breakpoint where
  raw : Int32
  value : Single
deriving DecidableEq, Repr

/-- Breakpoints in ascending order of the raw reading. -/
structure CalibrationTable where
  points : List Breakpoint
deriving DecidableEq, Repr

namespace CalibrationTable

/-- The first neighbours whose raw readings do not ascend. -/
def disorder? : List Breakpoint → Option (Breakpoint × Breakpoint)
  | p :: q :: rest => if q.raw ≤ p.raw then some (p, q) else disorder? (q :: rest)
  | _ => none

/-- Refuses tables without breakpoints and tables out of order. -/
def validate (t : CalibrationTable) : Outcome Unit :=
  if t.points.isEmpty then .error (.invalidParameter "calibration table is empty")
  else match disorder? t.points with
    | some (p, q) => .error (.invalidParameter
        s!"calibration raw values not strictly increasing at {p.raw} -> {q.raw}")
    | none => .ok ()

/-- Halves the `size` places from `base` on, towards the last place where `below` holds. -/
def bisect (below : Nat → Bool) (base size : Nat) : Nat :=
  if size ≤ 1 then base
  else if below (base + size / 2) then bisect below (base + size / 2) (size - size / 2)
  else bisect below base (size - size / 2)
termination_by size
decreasing_by all_goals omega

/-- The place of the first breakpoint above a reading. -/
def placeAbove (t : CalibrationTable) (raw : Int32) : Nat :=
  let below i := t.points[i]?.any (·.raw ≤ raw)
  let i := bisect below 0 t.points.length
  if below i then i + 1 else i

/-- How far a reading is below another. Two readings can be farther apart than 32 bits can tell. -/
def distance (low high : Int32) : Outcome Int32 :=
  if high.toBitVec.ssubOverflow low.toBitVec then .error (.halt .overflow) else .ok (high - low)

/-- The value on the line through two breakpoints, reckoned from the upper one. -/
def between (lo hi : Breakpoint) (raw : Int32) : Outcome Single :=
  if raw = lo.raw then .ok lo.value
  else do
    let span := Single.ofInt (← distance lo.raw hi.raw).toInt
    let offset := Single.ofInt (← distance raw hi.raw).toInt
    return hi.value - offset * (hi.value - lo.value) / span

/-- The value of a raw reading. A table without breakpoints leaves the reading as it is. -/
def interpolate (t : CalibrationTable) (raw : Int32) : Outcome Single :=
  match t.points.head?, t.points.getLast? with
  | some first, some last =>
    if raw ≤ first.raw then .ok first.value
    else if last.raw ≤ raw then .ok last.value
    else
      let i := t.placeAbove raw
      match t.points[i - 1]?, t.points[i]? with
      | some lo, some hi => between lo hi raw
      | _, _ => .error (.halt .outOfRange)
  | _, _ => .ok (.ofInt raw.toInt)

end CalibrationTable

end RigControl
