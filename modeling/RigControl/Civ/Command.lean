/-
The requests that a CI-V rig knows.
-/
import RigControl.Civ.Bus
import RigControl.Civ.Field
import RigControl.Civ.Mode
import RigControl.Radio.Clock
import RigControl.Radio.Control
import RigControl.Radio.Level

namespace RigControl.Civ

/-- What a read asks for: a command and the further command bytes that its answer repeats. -/
structure Topic where
  command : UInt8
  sub : List UInt8 := []
deriving DecidableEq, Repr

namespace Topic

def frequency : Topic := ⟨0x03, []⟩

def mode : Topic := ⟨0x04, []⟩

def split : Topic := ⟨0x0F, []⟩

def attenuator : Topic := ⟨0x11, []⟩

def rfPower : Topic := ⟨0x14, [0x0A]⟩

def meter (sub : UInt8) : Topic := ⟨0x15, [sub]⟩

def preamp : Topic := ⟨0x16, [0x02]⟩

def dataMode : Topic := ⟨0x1A, [0x06]⟩

/-- An item of the clock, by its number in the settings menu. -/
def clockItem (high low : UInt8) : Topic := ⟨0x1A, [0x05, high, low]⟩

def clockDate : Topic := clockItem 0x00 0x59

def clockTime : Topic := clockItem 0x00 0x60

def clockOffset : Topic := clockItem 0x00 0x62

def ptt : Topic := ⟨0x1C, [0x00]⟩

end Topic

/-- The further command byte of a meter. -/
def meterSub : Level → Option UInt8
  | .rawStrength | .strength => some 0x02
  | .rfPowerMeter => some 0x11
  | .swr => some 0x12
  | .alc => some 0x13
  | .compression => some 0x14
  | .drainVoltage => some 0x15
  | .drainCurrent => some 0x16
  | _ => none

namespace Bus

variable (b : Bus)

/-- Asks about a topic. -/
def read (operation : String) (t : Topic) : Request :=
  b.request operation t.command t.sub

def write (operation : String) (t : Topic) (data : List UInt8) : Request :=
  b.request operation t.command (t.sub ++ data)

def readFrequency : Request := b.read "get_freq" .frequency

def setFrequency (hz : Nat) : Outcome Request := do
  return b.request "set_freq" 0x05 (← encodeFrequency hz)

def readMode : Request := b.read "get_mode" .mode

/-- Sets a base mode, with or without a slot of its filter. -/
def setMode (m : Mode) (slot : Option FilterSlot) : Request :=
  b.request "set_mode" 0x06 (modeCode m :: (slot.map FilterSlot.code).toList)

def readDataMode : Request := b.read "get_mode" .dataMode

/-- Switches the data modulator. The slot is 0 when it goes off. -/
def setDataMode (on : Bool) (slot : FilterSlot) : Request :=
  b.write "set_mode" .dataMode (if on then [0x01, slot.code] else [0x00, 0x00])

def selectVfo : Vfo → Outcome Request
  | .a => .ok (b.request "set_vfo" 0x07 [0x00])
  | .b => .ok (b.request "set_vfo" 0x07 [0x01])
  | .main => .ok (b.request "set_vfo" 0x07 [0xD0])
  | .sub => .ok (b.request "set_vfo" 0x07 [0xD1])
  | .memory => .ok (b.request "set_vfo" 0x08 [])
  | .current => .error (.invalidParameter "cannot select currVFO")

/-- Leaves memory mode without choosing a VFO. -/
def vfoMode : Request := b.request "set_vfo" 0x07 []

def selectMemory (channel : Nat) : Outcome Request := do
  return b.request "set_mem" 0x08 (← Bcd.encodeHigh channel 4)

def vfoOp : VfoOp → Request
  | .copy => b.request "vfo_op" 0x07 [0xA0]
  | .exchange => b.request "vfo_op" 0x07 [0xB0]
  | .fromVfo => b.request "vfo_op" 0x09 []
  | .toVfo => b.request "vfo_op" 0x0A []
  | .memClear => b.request "vfo_op" 0x0B []
  | .tune => b.request "vfo_op" 0x1C [0x01, 0x02]

/-- Stops the scanner, or starts it in whichever mode is selected. -/
def scan : ScanOp → Request
  | .stop => b.request "scan" 0x0E [0x00]
  | .vfo | .memory => b.request "scan" 0x0E [0x01]

def switch (on : Bool) : UInt8 := if on then 0x01 else 0x00

def readSplit : Request := b.read "get_split" .split

def setSplit (on : Bool) : Request := b.write "set_split" .split [switch on]

def readAttenuator : Request := b.read "get_level" .attenuator

/-- Sets the attenuator to a value that the coding of the model has chosen. -/
def setAttenuator (raw : UInt8) : Outcome Request := do
  return b.write "set_level" .attenuator [← encodeByte raw]

def readPreamp : Request := b.read "get_level" .preamp

def setPreamp (index : UInt8) : Request := b.write "set_level" .preamp [index]

def readRfPower : Request := b.read "get_level" .rfPower

/-- Sets the transmit power, from 0 to 255. -/
def setRfPower (raw : Nat) : Outcome Request := do
  return b.write "set_level" .rfPower (← encodeLevel raw)

def readMeter (sub : UInt8) : Request := b.read "get_level" (.meter sub)

def readPtt : Request := b.read "get_ptt" .ptt

def setPtt (on : Bool) : Request := b.write "set_ptt" .ptt [switch on]

def readClockItem (t : Topic) : Request := b.read "get_clock" t

end Bus

/-- Refuses times that no clock shows. -/
def checkClock (t : ClockTime) : Outcome Unit := do
  if t.month < 1 ∨ 12 < t.month ∨ t.day < 1 ∨ 31 < t.day then
    throw (.invalidParameter s!"date {String.ofList t.text}")
  if 23 < t.hour ∨ 59 < t.minute then
    throw (.invalidParameter s!"time {String.ofList t.text}")
  let offset := t.utcOffset.toInt.natAbs
  if 1400 < offset ∨ 59 < offset % 100 then
    throw (.invalidParameter s!"UTC offset {t.utcOffset.toInt}")
  if 255 < t.year.toNat / 100 then
    throw (.invalidParameter s!"year {t.year}")

/-- Sets the clock: the date, then the time, then the offset from universal time, whose last byte is 1
west of Greenwich. -/
def Bus.setClock (b : Bus) (t : ClockTime) : Outcome (List Request) := do
  checkClock t
  let offset := t.utcOffset.toInt.natAbs
  let date ← [(t.year / 100).toUInt8, (t.year % 100).toUInt8, t.month, t.day].mapM encodeByte
  let time ← [t.hour, t.minute].mapM encodeByte
  let zone ← [(offset / 100).toUInt8, (offset % 100).toUInt8].mapM encodeByte
  return [b.write "set_clock" .clockDate date, b.write "set_clock" .clockTime time,
    b.write "set_clock" .clockOffset (zone ++ [if t.utcOffset < 0 then 1 else 0])]

end RigControl.Civ
