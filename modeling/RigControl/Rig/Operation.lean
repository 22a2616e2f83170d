/-
The operations on a rig, the same for all models. Each says what it answers with. A model that does
not know an operation refuses it.
-/
import RigControl.Radio.Clock
import RigControl.Rig.Dialogue

namespace RigControl

/-- An operation on a rig, by the type of its answer. Where a VFO is asked for, `current` stands for
the selected one. -/
inductive Operation : Type → Type where
  /-- Brings the rig into a known state. -/
  | start : Operation Unit
  /-- Undoes what the start has changed and takes the link down. -/
  | close : Operation Unit
  | getFrequency (v : Vfo) : Operation Nat
  | setFrequency (v : Vfo) (hz : Nat) : Operation Unit
  /-- The mode and, where it is known, the width of its filter. -/
  | getMode (v : Vfo) : Operation (Mode × Option Passband)
  /-- Without a width the mode gets its normal filter. -/
  | setMode (v : Vfo) (m : Mode) (width : Option Passband) : Operation Unit
  | getVfo : Operation Vfo
  | setVfo (v : Vfo) : Operation Unit
  /-- Whether the rig transmits. -/
  | getPtt (v : Vfo) : Operation Bool
  | setPtt (v : Vfo) (on : Bool) : Operation Unit
  | getSplit (v : Vfo) : Operation Bool
  | setSplit (v : Vfo) (on : Bool) : Operation Unit
  /-- The offset of the receiver in hertz. -/
  | getRit (v : Vfo) : Operation Int
  /-- An offset of 0 turns it off. -/
  | setRit (v : Vfo) (offset : Int) : Operation Unit
  | getLevel (v : Vfo) (l : Level) : Operation LevelValue
  | setLevel (v : Vfo) (l : Level) (value : LevelValue) : Operation Unit
  | getFunc (v : Vfo) (f : Func) : Operation Bool
  | setFunc (v : Vfo) (f : Func) (on : Bool) : Operation Unit
  /-- The selected memory channel. -/
  | getMemory (v : Vfo) : Operation Nat
  | setMemory (v : Vfo) (channel : Nat) : Operation Unit
  | vfoOp (v : Vfo) (o : VfoOp) : Operation Unit
  | scan (v : Vfo) (o : ScanOp) : Operation Unit
  | getClock : Operation ClockTime
  | setClock (t : ClockTime) : Operation Unit
  /-- Sets how fast the rig sends its status. -/
  | setPacing (value : UInt8) : Operation Unit

namespace Operation

variable {α : Type}

/-- The name of an operation, as messages give it. -/
def name : Operation α → String
  | start => "open"
  | close => "close"
  | getFrequency _ => "get_frequency"
  | setFrequency _ _ => "set_frequency"
  | getMode _ => "get_mode"
  | setMode _ _ _ => "set_mode"
  | getVfo => "get_vfo"
  | setVfo _ => "set_vfo"
  | getPtt _ => "get_ptt"
  | setPtt _ _ => "set_ptt"
  | getSplit _ => "get_split"
  | setSplit _ _ => "set_split"
  | getRit _ => "get_rit"
  | setRit _ _ => "set_rit"
  | getLevel _ _ => "get_level"
  | setLevel _ _ _ => "set_level"
  | getFunc _ _ => "get_func"
  | setFunc _ _ _ => "set_func"
  | getMemory _ => "get_mem"
  | setMemory _ _ => "set_mem"
  | vfoOp _ _ => "vfo_op"
  | scan _ _ => "scan"
  | getClock => "get_clock"
  | setClock _ => "set_clock"
  | setPacing _ => "set_pacing"

/-- What a model does that knows nothing about an operation. Opening takes nothing, closing takes the
link down, and the selected VFO is the one that the session has selected. -/
def fallback (d : Descriptor) : Operation α → Dialogue α
  | start => pure ()
  | close => .hangUp (pure ())
  | getVfo => return (← .known).vfo
  | op => .fail (.unsupported s!"{op.name} on {d.name}")

end Operation

end RigControl
