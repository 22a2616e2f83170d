/-
What a model can do: its VFOs, ranges, filters, meters, switches and line. A descriptor is fixed data,
and every request is checked against it before anything is sent.
-/
import RigControl.Calibration
import RigControl.Capability.Attenuator
import RigControl.Capability.Line
import RigControl.Capability.Range
import RigControl.Radio.Level
import RigControl.Radio.Model

namespace RigControl

/-- The capabilities of one model. -/
structure Descriptor where
  id : ModelId
  maker : Manufacturer
  name : String
  vfos : Flags Vfo := ∅
  /-- Receive ranges in region one. -/
  rxOne : List FreqRange := []
  /-- Transmit ranges in region one. -/
  txOne : List FreqRange := []
  /-- Receive ranges in region two. -/
  rxTwo : List FreqRange := []
  /-- Transmit ranges in region two. -/
  txTwo : List FreqRange := []
  /-- Tuning steps; the first one of a mode is its normal step. -/
  tuningSteps : List TuningStep := []
  /-- Filters; the first width of a mode is its normal width. -/
  filters : List Filter := []
  meters : List (Level × CalibrationTable) := []
  readableLevels : Flags Level := ∅
  writableLevels : Flags Level := ∅
  readableFuncs : Flags Func := ∅
  writableFuncs : Flags Func := ∅
  readableParms : Flags Parm := ∅
  writableParms : Flags Parm := ∅
  vfoOps : Flags VfoOp := ∅
  scanOps : Flags ScanOp := ∅
  /-- Gains of the preamplifier in dB, in the order of its selector. -/
  preamp : List UInt8 := []
  /-- Steps of the attenuator in dB, in the order of its selector. -/
  attenuator : List UInt8 := []
  attenuatorCoding : AttenuatorCoding := .decibel
  /-- The greatest offset of the receiver in hertz; 0 if it has none. -/
  maxRit : Nat := 0
  /-- The greatest offset of the transmitter in hertz; 0 if it has none. -/
  maxXit : Nat := 0
  memory : Option ChannelRange := none
  line : LineSettings := {}
  /-- The address on a bus with several rigs. -/
  address : Option UInt8 := none
deriving DecidableEq, Repr

namespace Descriptor

variable (d : Descriptor)

def rxRanges : Region → List FreqRange
  | .one => d.rxOne
  | .two => d.rxTwo

def txRanges : Region → List FreqRange
  | .one => d.txOne
  | .two => d.txTwo

/-- Refuses VFOs that the model lacks. `current` passes, as it is resolved before it is used. -/
def checkVfo (v : Vfo) : Outcome Unit :=
  if v = .current ∨ v ∈ d.vfos then .ok ()
  else .error (.invalidParameter s!"{d.name} has no {v.label}")

/-- Refuses frequencies outside the receive ranges of a VFO. -/
def checkRxFrequency (region : Region) (v : Vfo) (hz : Nat) : Outcome Unit :=
  if (d.rxRanges region).any fun r => r.contains hz && r.allows v then .ok ()
  else .error (.invalidParameter
    s!"{megahertz hz} is outside the receive ranges of {d.name} for {v.label}")

/-- Refuses modes that no receive range has. -/
def checkMode (region : Region) (m : Mode) : Outcome Unit :=
  if (d.rxRanges region).any (·.modes.contains m) then .ok ()
  else .error (.invalidParameter s!"{d.name} does not support {m.label}")

/-- Refuses an offset that is not available or too large. -/
def checkOffset (what : String) (limit : Nat) (offset : Int) : Outcome Unit :=
  if limit = 0 then .error (.unsupported s!"{what} offset")
  else if limit < offset.natAbs then
    .error (.invalidParameter s!"{what} {offset} Hz exceeds ±{limit} Hz")
  else .ok ()

def checkRit (offset : Int) : Outcome Unit := checkOffset "RIT" d.maxRit offset

def checkXit (offset : Int) : Outcome Unit := checkOffset "XIT" d.maxXit offset

/-- Refuses what is not in a set. -/
def checkMember {α : Type} [Enumeration α] (s : Flags α) (a : α) (what : String) : Outcome Unit :=
  if a ∈ s then .ok () else .error (.unsupported what)

def checkReadLevel (l : Level) : Outcome Unit :=
  checkMember d.readableLevels l s!"get level {l.label}"

def checkWriteLevel (l : Level) : Outcome Unit :=
  checkMember d.writableLevels l s!"set level {l.label}"

def checkReadFunc (f : Func) : Outcome Unit :=
  checkMember d.readableFuncs f s!"function {f.name}"

def checkWriteFunc (f : Func) : Outcome Unit :=
  checkMember d.writableFuncs f s!"function {f.name}"

def checkReadParm (p : Parm) : Outcome Unit :=
  checkMember d.readableParms p s!"parameter {p.name}"

def checkWriteParm (p : Parm) : Outcome Unit :=
  checkMember d.writableParms p s!"parameter {p.name}"

def checkVfoOp (o : VfoOp) : Outcome Unit :=
  checkMember d.vfoOps o s!"VFO operation {o.name}"

def checkScan (o : ScanOp) : Outcome Unit :=
  checkMember d.scanOps o s!"scan {o.name}"

/-- Refuses memory channels outside the range of the model. -/
def checkMemoryChannel (channel : Nat) : Outcome Unit :=
  match d.memory with
  | none => .error (.unsupported s!"{d.name} has no memory channels")
  | some range =>
    if range.contains channel then .ok ()
    else .error (.invalidParameter
      s!"memory channel {channel} outside {range.first}..={range.last}")

def tuningStep (m : Mode) : Option Nat :=
  (d.tuningSteps.find? (·.modes.contains m)).map TuningStep.hz

def calibration (l : Level) : Option CalibrationTable :=
  d.meters.lookup l

/-- The value on the wire for a step of the attenuator. -/
def encodeAttenuator (db : UInt8) : Outcome UInt8 :=
  d.attenuatorCoding.encode d.attenuator db

/-- The step of the attenuator for a value on the wire. -/
def decodeAttenuator (raw : UInt8) : Outcome UInt8 :=
  d.attenuatorCoding.decode d.attenuator raw

end Descriptor

end RigControl
