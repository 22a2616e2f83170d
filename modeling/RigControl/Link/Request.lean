/-
Requests: a frame to send and what to expect in return.
-/
import RigControl.Link.Port
import RigControl.Radio.Vfo

namespace RigControl

/-- What the rig says to a frame. -/
inductive Reply where
  /-- Nothing; the frame is only written. -/
  | none
  /-- A block of input. -/
  | required (extent : Extent)
  /-- A block of input, or silence if the frame was accepted. -/
  | optional (extent : Extent)
deriving DecidableEq, Repr

namespace Reply

/-- The block to read, if any. -/
def extent? : Reply → Option Extent
  | none => .none
  | required e | optional e => some e

/-- A block of a set length. -/
def exact (length : Nat) : Reply := required (.exact length)

/-- A block up to a terminator. -/
def terminated (terminator : UInt8) (limit : Nat) : Reply := required (.upTo terminator limit)

end Reply

/-- One frame to send, and its reply. -/
structure Request where
  /-- A short name of what is done. -/
  operation : String
  vfo : Option Vfo := none
  frame : List UInt8
  reply : Reply := .none
  /-- Whether the bus echoes frames to their sender. -/
  skipEcho : Bool := false
deriving DecidableEq, Repr

namespace Request

def about (r : Request) (v : Vfo) : Request := { r with vfo := some v }

/-- Whether a block of input is only the echo of the frame. -/
def isEcho (r : Request) (block : List UInt8) : Bool :=
  r.skipEcho && block == r.frame

end Request

end RigControl
