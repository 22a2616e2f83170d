/-
The operations of the newer Yaesu rigs. Each VFO has mnemonics of its own, so that reading or writing
never moves the selection. While a session is open the rig's messages of its own are off, since they
could be taken for replies; the setting that was found is put back at the end.
-/
import RigControl.Capability.Filter
import RigControl.Newcat.Answer
import RigControl.Newcat.Command
import RigControl.Rig.Operation

namespace RigControl.Newcat

/-- Runs a query and gives the value in its reply. -/
def ask (mnemonic : String) (r : Request) : Dialogue (List Char) := do
  value mnemonic (← .ask r)

/-- Turns the rig's messages of its own off and remembers how they were set. -/
def start : Dialogue Unit := do
  let previous ← parseIndex (← ask "AI" readAutoInfo)
  .tell (← setAutoInfo 0)
  .learn { ← .known with savedAutoInfo := some previous }

/-- Puts the setting of the messages back, if that is wanted, and takes the link down. -/
def close (config : Config) : Dialogue Unit := do
  let k ← .known
  .learn { k with savedAutoInfo := none }
  if config.restoreOnClose then
    if let some previous := k.savedAutoInfo then .tell (← setAutoInfo previous)
  .hangUp (pure ())

/-- A step in dB from a value that callers give. -/
def decibels (l : Level) (value : LevelValue) : Outcome UInt8 :=
  if 0 ≤ value.toInt ∧ value.toInt < 256 then .ok value.toInt.toNat.toUInt8
  else .error (.invalidParameter s!"{l.label} {value.toInt} dB")

def levelRequest (d : Descriptor) (l : Level) (value : LevelValue) : Outcome Request :=
  match l with
  | .attenuator => do setAttenuator (← d.encodeAttenuator (← decibels l value))
  | .preamp => do setPreamp (← stepToIndex d.preamp (← decibels l value))
  | _ => .error (.unsupported s!"setting level {l.label}")

def getFrequency (d : Descriptor) (v : Vfo) : Dialogue Nat := do
  d.checkVfo v
  let v := (← .known).resolve v
  parseFrequency (← ask (← frequencyMnemonic v) (← readFrequency v))

def setFrequencyOf (d : Descriptor) (region : Region) (v : Vfo) (hz : Nat) : Dialogue Unit := do
  d.checkVfo v
  let v := (← .known).resolve v
  d.checkRxFrequency region v hz
  .tell (← setFrequency v hz)

/-- Reads a mode. Its width is the normal one, as the rig is not asked for it. -/
def getMode (d : Descriptor) (v : Vfo) : Dialogue (Mode × Option Passband) := do
  d.checkVfo v
  let v := (← .known).resolve v
  let m ← parseMode (← ask (← modeMnemonic v) (← readMode v))
  return (m, d.defaultFilter m)

def setModeOf (d : Descriptor) (region : Region) (v : Vfo) (m : Mode) (width : Option Passband) :
    Dialogue Unit := do
  d.checkVfo v
  d.checkMode region m
  discard (d.filterFor m width)
  .tell (← setMode ((← .known).resolve v) m)

def getVfo (d : Descriptor) : Dialogue Vfo := do
  let v ← parseVfo (← ask "VS" readVfo)
  .selected d v
  return v

def selectVfo (d : Descriptor) (v : Vfo) : Dialogue Unit := do
  d.checkVfo v
  let v := (← .known).resolve v
  .tell (← setVfo v)
  .selected d v

def getLevel (d : Descriptor) (l : Level) : Dialogue LevelValue := do
  d.checkReadLevel l
  match l with
  | .attenuator =>
    let db ← d.decodeAttenuator (← parseIndex (← ask "RA0" readAttenuator))
    return .int db.toNat
  | .preamp =>
    let db ← indexToStep d.preamp (← parseIndex (← ask "PA0" readPreamp))
    return .int db.toNat
  | .rawStrength =>
    let raw ← parseMeter (← ask "SM0" readMeter)
    return .int raw.toNat
  | .strength =>
    let raw ← parseMeter (← ask "SM0" readMeter)
    match d.calibration .strength with
    | some table => return .int (← table.interpolate (.ofNat raw.toNat)).round
    | none => .fail (.unsupported s!"level {l.label}")
  | _ => .fail (.unsupported s!"level {l.label}")

def setLevel (d : Descriptor) (l : Level) (value : LevelValue) : Dialogue Unit := do
  d.checkWriteLevel l
  .tell (← levelRequest d l value)

def respond (d : Descriptor) (config : Config) {α : Type} : Operation α → Dialogue α
  | .start => start
  | .close => close config
  | .getFrequency v => getFrequency d v
  | .setFrequency v hz => setFrequencyOf d config.region v hz
  | .getMode v => getMode d v
  | .setMode v m width => setModeOf d config.region v m width
  | .getVfo => getVfo d
  | .setVfo v => selectVfo d v
  | .getPtt _ => do parsePtt (← ask "TX" readPtt)
  | .setPtt _ on => do .tell (← setPtt on)
  | .getSplit _ => do parseSplit (← ask "FT" readSplit)
  | .setSplit _ on => do .tell (← setSplit on)
  | .getLevel _ l => getLevel d l
  | .setLevel _ l value => setLevel d l value
  | op => op.fallback d

end RigControl.Newcat
