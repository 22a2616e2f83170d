/-
The line to a rig: how bytes are framed on it, how fast they may come, and how long to wait. Times are
in milliseconds.
-/

namespace RigControl

/-- The kind of line. -/
inductive PortType where
  | serial
  | network
deriving DecidableEq, Repr

inductive Parity where
  | none
  | odd
  | even
deriving DecidableEq, Repr

inductive Handshake where
  | none
  /-- By characters in the stream. -/
  | software
  /-- By lines of their own. -/
  | hardware
deriving DecidableEq, Repr

/-- The settings of a line that a model expects. -/
structure LineSettings where
  portType : PortType := .serial
  baudMin : Nat := 9600
  baudMax : Nat := 9600
  dataBits : Nat := 8
  stopBits : Nat := 1
  parity : Parity := .none
  handshake : Handshake := .none
  /-- Pause between the bytes of a command. -/
  writeDelay : Nat := 0
  /-- Pause after a command. -/
  postWriteDelay : Nat := 0
  /-- How long a reply may take. -/
  timeout : Nat := 1000
  /-- How often a command is sent at most. -/
  retry : Nat := 3
deriving DecidableEq, Repr

/-- The pauses between the writes of a session. -/
structure Pacing where
  writeDelay : Nat := 0
  postWriteDelay : Nat := 0
deriving DecidableEq, Repr

end RigControl
