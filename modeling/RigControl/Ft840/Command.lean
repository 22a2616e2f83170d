/-
The commands of the FT-840. Each has five bytes, four parameters in descending order and then the code
of the command, and none is acknowledged. Reading commands make the rig send a status block of a set
length.
-/
import RigControl.Bcd
import RigControl.Frame.Fixed
import RigControl.Radio.Mode

namespace RigControl.Ft840

inductive Command where
  | splitOff
  | splitOn
  /-- The first parameter is a memory channel. -/
  | recallMemory
  /-- The first parameter is a memory channel. -/
  | memoryOps
  | selectVfoA
  | selectVfoB
  /-- The first parameter is a memory channel. -/
  | memoryToVfoA
  /-- An action and the sign of an offset, with the offset itself as payload. -/
  | clarifier
  /-- A frequency in tens of hertz as payload. -/
  | setFrequency
  /-- The first parameter is the code of a mode. -/
  | setMode
  | pacing
  | pttOff
  | pttOn
  | readMemoryChannel
  | readOperatingData
  | readVfoData
  /-- The fourth parameter is a memory channel. -/
  | readMemoryData
  | tunerOff
  | tunerOn
  | tunerStart
  | readMeter
  | readFlags
deriving DecidableEq, Repr

namespace Command

def all : List Command :=
  [splitOff, splitOn, recallMemory, memoryOps, selectVfoA, selectVfoB, memoryToVfoA, clarifier,
    setFrequency, setMode, pacing, pttOff, pttOn, readMemoryChannel, readOperatingData, readVfoData,
    readMemoryData, tunerOff, tunerOn, tunerStart, readMeter, readFlags]

/-- The bytes of a command. Those with parameters are not complete. -/
def template : Command → Template
  | splitOff => ⟨true, [0, 0, 0, 0, 0x01]⟩
  | splitOn => ⟨true, [0, 0, 0, 1, 0x01]⟩
  | recallMemory => ⟨false, [0, 0, 0, 0, 0x02]⟩
  | memoryOps => ⟨false, [0, 0, 0, 0, 0x03]⟩
  | selectVfoA => ⟨true, [0, 0, 0, 0, 0x05]⟩
  | selectVfoB => ⟨true, [0, 0, 0, 1, 0x05]⟩
  | memoryToVfoA => ⟨false, [0, 0, 0, 0, 0x06]⟩
  | clarifier => ⟨false, [0, 0, 0, 0, 0x09]⟩
  | setFrequency => ⟨false, [0, 0, 0, 0, 0x0A]⟩
  | setMode => ⟨false, [0, 0, 0, 0, 0x0C]⟩
  | pacing => ⟨false, [0, 0, 0, 0, 0x0E]⟩
  | pttOff => ⟨true, [0, 0, 0, 0, 0x0F]⟩
  | pttOn => ⟨true, [0, 0, 0, 1, 0x0F]⟩
  | readMemoryChannel => ⟨true, [0, 0, 0, 1, 0x10]⟩
  | readOperatingData => ⟨true, [0, 0, 0, 2, 0x10]⟩
  | readVfoData => ⟨true, [0, 0, 0, 3, 0x10]⟩
  | readMemoryData => ⟨false, [0, 0, 0, 4, 0x10]⟩
  | tunerOff => ⟨true, [0, 0, 0, 0, 0x81]⟩
  | tunerOn => ⟨true, [0, 0, 0, 1, 0x81]⟩
  | tunerStart => ⟨true, [0, 0, 0, 0, 0x82]⟩
  | readMeter => ⟨true, [0, 0, 0, 0, 0xF7]⟩
  | readFlags => ⟨true, [0, 0, 0, 0, 0xFA]⟩

/-- The length of the status block that follows a command, 0 if there is none. -/
def replyLength : Command → Nat
  | readMemoryChannel => 1
  | readOperatingData | readMemoryData => 19
  | readVfoData => 18
  | readMeter | readFlags => 5
  | _ => 0

def frame (c : Command) : Outcome (List UInt8) :=
  FixedFrame.fiveBytes.frame c.template

def frameWith (c : Command) (payload params : List UInt8) : Outcome (List UInt8) :=
  FixedFrame.fiveBytes.build c.template payload params

end Command

/-- Tunes to a frequency. The rig counts in steps of 10 Hz. -/
def setFrequency (hz : Nat) : Outcome (List UInt8) := do
  let digits ← Bcd.encodeLow (hz / 10) 8
  Command.setFrequency.frameWith digits []

/-- Turns the offset of the receiver on or off and leaves its value alone. -/
def switchClarifier (on : Bool) : Outcome (List UInt8) :=
  Command.clarifier.frameWith [] [if on then 0x01 else 0x00]

/-- The greatest offset that the rig takes, in hertz. -/
def maxClarifier : Nat := 9990

/-- Sets the offset of the receiver, as three digits of tens of hertz and a sign. -/
def setClarifier (offset : Int) : Outcome (List UInt8) := do
  if maxClarifier < offset.natAbs then
    throw (.invalidParameter s!"clarifier offset {offset} Hz outside ±{maxClarifier} Hz")
  let digits ← Bcd.encodeLow (offset.natAbs / 10) 3
  Command.clarifier.frameWith digits [0xFF, if offset < 0 then 0xFF else 0x00]

/-- The code of a mode. Only CW and AM have a narrow filter. -/
def modeCode : Mode → Bool → Outcome UInt8
  | .lsb, false => .ok 0x00
  | .usb, false => .ok 0x01
  | .cw, false => .ok 0x02
  | .cw, true => .ok 0x03
  | .am, false => .ok 0x04
  | .am, true => .ok 0x05
  | .fm, false => .ok 0x06
  | m, true => .error (.invalidParameter s!"FT-840 has no narrow filter for {m.label}")
  | m, false => .error (.invalidParameter s!"FT-840 has no {m.label} mode")

def setMode (m : Mode) (narrow : Bool) : Outcome (List UInt8) := do
  Command.setMode.frameWith [] [← modeCode m narrow]

def recallMemory (channel : UInt8) : Outcome (List UInt8) :=
  Command.recallMemory.frameWith [] [channel]

/-- Sets the pause between the bytes of a status block. -/
def setPacing (value : UInt8) : Outcome (List UInt8) :=
  Command.pacing.frameWith [] [value]

end RigControl.Ft840
