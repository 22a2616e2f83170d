/-
Frames of the CI-V bus: a preamble of two equal bytes, the address of the receiver, that of the sender,
a command, its payload, and a terminator. Noise in front of the preamble is skipped, and a longer run
of preamble bytes is still one preamble.
-/
import RigControl.Error

namespace RigControl.Civ

/-- Stands twice at the start of a frame. -/
def preamble : UInt8 := 0xFE

/-- Stands at the end of a frame. -/
def terminator : UInt8 := 0xFD

/-- Written over a frame when two devices talk at once. -/
def collision : UInt8 := 0xFC

def accepted : UInt8 := 0xFB

def refused : UInt8 := 0xFA

/-- A frame of the bus. -/
structure Frame where
  /-- The address of the receiver. -/
  target : UInt8
  /-- The address of the sender. -/
  source : UInt8
  command : UInt8
  /-- What follows the command, further command bytes included. -/
  payload : List UInt8
deriving DecidableEq, Repr

namespace Frame

def encode (f : Frame) : List UInt8 :=
  [preamble, preamble, f.target, f.source, f.command] ++ f.payload ++ [terminator]

/-- What follows the first preamble. -/
def afterPreamble? : List UInt8 → Option (List UInt8)
  | a :: b :: rest =>
    if a = preamble ∧ b = preamble then some (rest.dropWhile (· == preamble))
    else afterPreamble? (b :: rest)
  | _ => none

/-- What stands before the terminator at the end. -/
def beforeTerminator? (bytes : List UInt8) : Option (List UInt8) :=
  if bytes.getLast? = some terminator then some bytes.dropLast else none

/-- Reads one whole frame. -/
def decode (bytes : List UInt8) : Outcome Frame :=
  match afterPreamble? bytes with
  | none => .error (.protocol "CI-V reply has no preamble")
  | some rest =>
    match beforeTerminator? rest with
    | none => .error (.protocol "CI-V reply is not terminated")
    | some body =>
      if collision ∈ body then .error (.protocol "CI-V bus collision")
      else match body with
        | target :: source :: command :: payload => .ok ⟨target, source, command, payload⟩
        | _ => .error (.protocol s!"CI-V frame too short: {body.length} body bytes")

def isAccepted (f : Frame) : Bool := f.command == accepted && f.payload.isEmpty

def isRefused (f : Frame) : Bool := f.command == refused && f.payload.isEmpty

end Frame

end RigControl.Civ
