/-
The operations of a CI-V rig. Every command is answered. Frequency and mode belong to the selected VFO:
an operation on another VFO selects it first and leaves it selected, even if the next command fails.
-/
import RigControl.Capability.Filter
import RigControl.Civ.Answer
import RigControl.Civ.Command
import RigControl.Rig.Operation
import RigControl.Single.Arithmetic
import RigControl.Single.Shortest

namespace RigControl.Civ

namespace Bus

variable (b : Bus)

/-- Runs a write, which the rig has to accept. -/
def command (r : Request) : Dialogue Unit := do
  b.expectAccepted (← .ask r)

/-- Asks about a topic and gives the data of the answer. -/
def ask (operation : String) (t : Topic) : Dialogue (List UInt8) := do
  b.expectData (← .ask (b.read operation t)) t.command t.sub

/-- Selects a VFO unless it is selected. -/
def switchTo (d : Descriptor) (v : Vfo) : Dialogue Unit := do
  let k ← .known
  let target := k.resolve v
  d.checkVfo target
  if target ≠ k.vfo then
    b.command (← b.selectVfo target)
    .selected d target

def meterReading (l : Level) : Dialogue Nat := do
  match meterSub l with
  | some sub => decodeLevel (← b.ask "get_level" (.meter sub))
  | none => .fail (.unsupported s!"level {l.label}")

end Bus

/-- Whether the model has a data modulator. -/
def hasDataModes (d : Descriptor) (region : Region) : Bool :=
  (d.checkMode region .dataUsb).isOk

/-- The slot for a width: its side of the normal width. -/
def filterSlot (d : Descriptor) (m : Mode) : Option Passband → Option FilterSlot
  | none => none
  | some w =>
    match d.defaultFilter m with
    | none => some .normal
    | some normal =>
      if w < normal then some .narrow
      else if normal < w then some .wide
      else some .normal

def slotWidth (d : Descriptor) (m : Mode) : Option FilterSlot → Option Passband
  | some .narrow => d.narrowFilter m
  | some .wide => d.wideFilter m
  | _ => d.defaultFilter m

/-- The mode that a base mode is, given the state of the data modulator. -/
def modeWithData (m : Mode) (data : Bool) : Mode :=
  if data then (withData m).getD m else m

/-- The request, if any, that sets the data modulator for a mode. -/
def dataModeRequest (b : Bus) (d : Descriptor) (region : Region) (m : Mode)
    (slot : Option FilterSlot) : Option Request :=
  if isData m then some (b.setDataMode true (slot.getD .normal))
  else if hasDataModes d region && (withData m).isSome then some (b.setDataMode false .normal)
  else none

/-- The requests that set a mode: the base mode, then the data modulator. -/
def modeRequests (b : Bus) (d : Descriptor) (region : Region) (m : Mode) (width : Option Passband) :
    List Request :=
  let slot := filterSlot d m width
  b.setMode m slot :: (dataModeRequest b d region m slot).toList

/-- A step in dB from a value that callers give. -/
def decibels (l : Level) (value : LevelValue) : Outcome UInt8 :=
  if 0 ≤ value.toInt ∧ value.toInt < 256 then .ok value.toInt.toNat.toUInt8
  else .error (.invalidParameter s!"{l.label} {value.label} dB")

/-- The raw power setting for a fraction of the full power. -/
def rawPower (fraction : Single) : Outcome Nat :=
  if (Single.ofInt 0).le fraction && fraction.le (Single.ofInt 1) then
    .ok (fraction * Single.ofInt 255).round.toNat
  else .error (.invalidParameter s!"RF power {fraction.shortest} outside 0.0..=1.0")

def levelRequest (b : Bus) (d : Descriptor) (l : Level) (value : LevelValue) : Outcome Request :=
  match l with
  | .attenuator => do b.setAttenuator (← d.encodeAttenuator (← decibels l value))
  | .preamp => do return b.setPreamp (← stepToIndex d.preamp (← decibels l value))
  | .rfPower => do b.setRfPower (← rawPower value.toSingle)
  | _ => .error (.unsupported s!"setting level {l.label}")

def getFrequency (b : Bus) (d : Descriptor) (v : Vfo) : Dialogue Nat := do
  d.checkVfo v
  b.switchTo d v
  decodeFrequency (← b.ask "get_freq" .frequency)

def setFrequency (b : Bus) (d : Descriptor) (region : Region) (v : Vfo) (hz : Nat) :
    Dialogue Unit := do
  d.checkVfo v
  let target := (← .known).resolve v
  d.checkRxFrequency region target hz
  let r ← b.setFrequency hz
  b.switchTo d target
  b.command r

def getMode (b : Bus) (d : Descriptor) (region : Region) (v : Vfo) :
    Dialogue (Mode × Option Passband) := do
  d.checkVfo v
  b.switchTo d v
  let (base, slot) ← parseMode (← b.ask "get_mode" .mode)
  let data ←
    if hasDataModes d region && (withData base).isSome then
      parseDataMode (← b.ask "get_mode" .dataMode)
    else pure false
  let m := modeWithData base data
  return (m, slotWidth d m slot)

def setMode (b : Bus) (d : Descriptor) (region : Region) (v : Vfo) (m : Mode)
    (width : Option Passband) : Dialogue Unit := do
  d.checkVfo v
  d.checkMode region m
  let width ← if width.isSome then d.filterFor m width else pure none
  b.switchTo d v
  (modeRequests b d region m width).forM b.command

def setVfo (b : Bus) (d : Descriptor) (v : Vfo) : Dialogue Unit := do
  d.checkVfo v
  let target := (← .known).resolve v
  d.checkVfo target
  b.command (← b.selectVfo target)
  .selected d target

/-- Reads a level. Meters are calibrated, as whole numbers where the level has no fraction. -/
def getLevel (b : Bus) (d : Descriptor) (l : Level) : Dialogue LevelValue := do
  d.checkReadLevel l
  match l with
  | .attenuator =>
    let db ← d.decodeAttenuator (← parseSelector (← b.ask "get_level" .attenuator))
    return .int db.toNat
  | .preamp =>
    let db ← indexToStep d.preamp (← parseSelector (← b.ask "get_level" .preamp))
    return .int db.toNat
  | .rfPower =>
    let raw ← decodeLevel (← b.ask "get_level" .rfPower)
    return .float (Single.ofInt raw / Single.ofInt 255)
  | .rawStrength => return .int (← b.meterReading l)
  | _ =>
    match d.calibration l with
    | none => .fail (.unsupported s!"level {l.label}")
    | some table =>
      let value ← table.interpolate (.ofNat (← b.meterReading l))
      return if l.isFractional then .float value else .int value.round

def setLevel (b : Bus) (d : Descriptor) (l : Level) (value : LevelValue) : Dialogue Unit := do
  d.checkWriteLevel l
  b.command (← levelRequest b d l value)

/-- The channel that was selected last in this session, as the rig cannot be asked. -/
def getMemory : Dialogue Nat := do
  match (← .known).channel with
  | some channel => return channel
  | none => .fail (.invalidOperation "no memory channel selected yet")

/-- Selects a memory channel, which puts the rig into memory mode. -/
def setMemory (b : Bus) (d : Descriptor) (channel : Nat) : Dialogue Unit := do
  d.checkMemoryChannel channel
  b.command (← b.selectMemory channel)
  .learn { ← .known with channel := some channel }
  if d.vfos.contains .memory then .selected d .memory

def vfoOp (b : Bus) (d : Descriptor) (o : VfoOp) : Dialogue Unit := do
  d.checkVfoOp o
  b.command (b.vfoOp o)

/-- Controls the scanner. A scan starts after the rig is put into the mode that it scans in. -/
def scan (b : Bus) (d : Descriptor) (o : ScanOp) : Dialogue Unit := do
  d.checkScan o
  match o with
  | .stop => pure ()
  | .vfo => b.command b.vfoMode
  | .memory =>
    b.command (← b.selectVfo .memory)
    .selected d .memory
  b.command (b.scan o)

/-- Reads the clock, which has no seconds. -/
def getClock (b : Bus) (d : Descriptor) : Dialogue ClockTime := do
  d.checkReadParm .time
  let (year, month, day) ← parseDate (← b.ask "get_clock" .clockDate)
  let (hour, minute) ← parseTime (← b.ask "get_clock" .clockTime)
  let utcOffset ← parseUtcOffset (← b.ask "get_clock" .clockOffset)
  return { year, month, day, hour, minute, second := 0, utcOffset }

def setClock (b : Bus) (d : Descriptor) (t : ClockTime) : Dialogue Unit := do
  d.checkWriteParm .time
  (← b.setClock t).forM b.command

def respond (b : Bus) (d : Descriptor) (config : Config) {α : Type} : Operation α → Dialogue α
  | .getFrequency v => getFrequency b d v
  | .setFrequency v hz => setFrequency b d config.region v hz
  | .getMode v => getMode b d config.region v
  | .setMode v m width => setMode b d config.region v m width
  | .setVfo v => setVfo b d v
  | .getPtt _ => do parseSwitch (← b.ask "get_ptt" .ptt)
  | .setPtt _ on => b.command (b.setPtt on)
  | .getSplit _ => do parseSwitch (← b.ask "get_split" .split)
  | .setSplit _ on => b.command (b.setSplit on)
  | .getLevel _ l => getLevel b d l
  | .setLevel _ l value => setLevel b d l value
  | .getMemory _ => getMemory
  | .setMemory _ channel => setMemory b d channel
  | .vfoOp _ o => vfoOp b d o
  | .scan _ o => scan b d o
  | .getClock => getClock b d
  | .setClock t => setClock b d t
  | op => op.fallback d

end RigControl.Civ
