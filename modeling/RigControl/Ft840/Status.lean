/-
The status blocks of the FT-840. A block holds records, one for each channel, at set offsets; a block
that is too short for a field is refused.
-/
import RigControl.Ft840.Command

namespace RigControl.Ft840

/-- Where the fields of a record are in a block. -/
structure Layout where
  frequency : Nat
  clarifier : Nat
  mode : Nat
  flag : Nat
deriving DecidableEq, Repr

namespace Layout

/-- The channel on display, or VFO A in the block of both VFOs. -/
def displayed : Layout := ⟨0x01, 0x05, 0x07, 0x08⟩

/-- VFO B in the block of both VFOs. -/
def vfoB : Layout := ⟨0x0A, 0x0E, 0x10, 0x11⟩

end Layout

/-- The command that reads a VFO, and where its record is in the answer. -/
def source : Vfo → Outcome (Command × Layout)
  | .a => .ok (.readVfoData, .displayed)
  | .b => .ok (.readVfoData, .vfoB)
  | .memory | .main => .ok (.readOperatingData, .displayed)
  | v => .error (.invalidParameter s!"FT-840 has no {v.label}")

def field (block : List UInt8) (offset length : Nat) : Outcome (List UInt8) :=
  if offset + length ≤ block.length then .ok ((block.drop offset).take length)
  else .error (.protocol
    s!"status block of {block.length} bytes has no field at {Text.hexLiteral offset.toUInt8}")

/-- The only byte of a field. -/
def byteAt (block : List UInt8) (offset : Nat) : Outcome UInt8 := do
  let bytes ← field block offset 1
  return bytes.headD 0

/-- The number that bytes spell, the highest first. -/
def bigEndian (bytes : List UInt8) : Nat :=
  bytes.foldl (fun n b => 256 * n + b.toNat) 0

/-- The frequency in hertz, from a count of 10 Hz in three bytes. -/
def decodeFrequency (block : List UInt8) (l : Layout) : Outcome Nat := do
  let bytes ← field block l.frequency 3
  return 10 * bigEndian bytes

/-- The offset of the receiver in hertz, from a signed count of 10 Hz in two bytes. -/
def decodeClarifier (block : List UInt8) (l : Layout) : Outcome Int := do
  let bytes ← field block l.clarifier 2
  return 10 * Int.bmod (bigEndian bytes) 0x10000

/-- The mode, and whether its narrow filter is in use. -/
def decodeMode (block : List UInt8) (l : Layout) : Outcome (Mode × Bool) := do
  let code := (← byteAt block l.mode) &&& 0x07
  let flag ← byteAt block l.flag
  if code = 0x00 then return (.lsb, false)
  if code = 0x01 then return (.usb, false)
  if code = 0x02 then return (.cw, flag &&& 0x80 != 0)
  if code = 0x03 then return (.am, flag &&& 0x40 != 0)
  if code = 0x04 then return (.fm, false)
  throw (.protocol s!"unknown FT-840 mode code {Text.hexLiteral code}")

/-- The first byte of the status flags. -/
structure StatusFlags where
  bits : UInt8
deriving DecidableEq, Repr

namespace StatusFlags

def ofBlock (block : List UInt8) : Outcome StatusFlags :=
  (byteAt block 0).map mk

/-- Whether the rig transmits on the other VFO. -/
def split (f : StatusFlags) : Bool := f.bits &&& 0x01 != 0

/-- The VFO on display. A recalled and a retuned memory both count as memory. -/
def activeVfo (f : StatusFlags) : Outcome Vfo :=
  if f.bits &&& 0xC0 = 0x80 then .ok .a
  else if f.bits &&& 0xC0 = 0xC0 then .ok .b
  else if f.bits &&& 0x30 ≠ 0 then .ok .memory
  else .error (.protocol s!"status flags {Text.hexLiteral f.bits} name no VFO or memory mode")

end StatusFlags

/-- The memory channel, which the block counts from zero. -/
def decodeMemoryChannel (block : List UInt8) : Outcome Nat := do
  return (← byteAt block 0).toNat + 1

/-- The raw reading of the meter. -/
def decodeMeter (block : List UInt8) : Outcome UInt8 :=
  byteAt block 0

end RigControl.Ft840
