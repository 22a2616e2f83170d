/-
Commands of a fixed number of bytes. A complete template is sent as it stands. Into any other one a
payload is written from its first byte on, and then the parameters at their places.
-/
import RigControl.Error

namespace RigControl

/-- A command of fixed length. -/
structure Template where
  isComplete : Bool
  bytes : List UInt8
deriving DecidableEq, Repr

/-- The layout of commands of fixed length. -/
structure FixedFrame where
  length : Nat
  /-- Where the first parameter goes, the second, and so on. -/
  offsets : List Nat
deriving DecidableEq, Repr

namespace FixedFrame

/-- Four parameters in descending order, then the code of the command. -/
def fiveBytes : FixedFrame := ⟨5, [3, 2, 1, 0]⟩

def checkLength (f : FixedFrame) (t : Template) : Outcome Unit :=
  if t.bytes.length = f.length then .ok ()
  else .error (.invalidOperation s!"template is {t.bytes.length} bytes, frame is {f.length}")

/-- The bytes of a complete template. -/
def frame (f : FixedFrame) (t : Template) : Outcome (List UInt8) := do
  unless t.isComplete do throw (.invalidOperation "incomplete template needs parameters")
  f.checkLength t
  return t.bytes

/-- Writes parameters at their places; a later one wins over an earlier one at the same place. -/
def fill (bytes : List UInt8) (placed : List (Nat × UInt8)) : List UInt8 :=
  placed.foldl (fun bytes p => bytes.set p.1 p.2) bytes

/-- Fills a payload and parameters into a template that is not complete. The last byte, which holds
the code of the command, is never part of the payload. -/
def build (f : FixedFrame) (t : Template) (payload params : List UInt8) : Outcome (List UInt8) := do
  if t.isComplete then
    throw (.invalidOperation "cannot substitute parameters into a complete template")
  f.checkLength t
  if f.offsets.length < params.length then
    throw (.invalidParameter
      s!"{params.length} parameters given, frame has {f.offsets.length} slots")
  if f.length ≤ payload.length then
    throw (.invalidParameter
      s!"{payload.length}-byte BCD payload does not fit a {f.length}-byte frame")
  return fill (payload ++ t.bytes.drop payload.length) (f.offsets.zip params)

end FixedFrame

end RigControl
