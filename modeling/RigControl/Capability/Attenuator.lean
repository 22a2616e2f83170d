/-
Attenuators and preamplifiers with fixed steps. Callers speak of decibels. On the wire a step is
either its decibels or its place in the model's list, counted from one; zero is off.
-/
import RigControl.Error
import RigControl.Text.Quoted

namespace RigControl

/-- The place of a step in the list, counted from one. -/
def stepToIndex (steps : List UInt8) (db : UInt8) : Outcome UInt8 :=
  if db = 0 then .ok 0
  else match steps.idxOf? db with
    | some i => .ok (i.toUInt8 + 1)
    | none => .error (.invalidParameter
        s!"{db} dB is not one of the steps {Text.natList (steps.map UInt8.toNat)}")

/-- The step at a place in the list. The list is not consulted for zero. -/
def indexToStep (steps : List UInt8) (index : UInt8) : Outcome UInt8 :=
  if index = 0 then .ok 0
  else match steps[index.toNat - 1]? with
    | some db => .ok db
    | none => .error (.protocol
        s!"rig reported step index {index}, model declares {steps.length} steps")

/-- What stands on the wire for a step of the attenuator. -/
inductive AttenuatorCoding where
  | decibel
  | indexed
deriving DecidableEq, Repr

namespace AttenuatorCoding

/-- The value on the wire for a step, which has to be one of the list. -/
def encode (steps : List UInt8) (db : UInt8) : AttenuatorCoding → Outcome UInt8
  | decibel => (stepToIndex steps db).map fun _ => db
  | indexed => stepToIndex steps db

/-- The step for a value on the wire. -/
def decode (steps : List UInt8) (raw : UInt8) : AttenuatorCoding → Outcome UInt8
  | decibel => .ok raw
  | indexed => indexToStep steps raw

end AttenuatorCoding

end RigControl
