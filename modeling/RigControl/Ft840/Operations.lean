/-
The operations of the FT-840. The rig acknowledges nothing, so that writes are sent and trusted, and
whatever it reports comes from status blocks, of which the last is kept. An operation on a VFO that is
not selected switches the rig first; if a later step fails, the rig stays there.
-/
import RigControl.Capability.Filter
import RigControl.Ft840.Status
import RigControl.Rig.Operation

namespace RigControl.Ft840

def send (operation : String) (frame : List UInt8) : Dialogue Unit :=
  .tell { operation := operation, frame := frame }

/-- Sends the frame of a complete command. -/
def command (operation : String) (c : Command) : Dialogue Unit := do
  send operation (← c.frame)

/-- Reads a status block and keeps it. -/
def readBlock (c : Command) : Dialogue (List UInt8) := do
  let frame ← c.frame
  let block ← .ask { operation := "read_status", frame := frame, reply := .exact c.replyLength }
  .learn { ← .known with snapshot := block }
  return block

/-- A memory channel as a parameter. -/
def channelByte (channel : Nat) : Outcome UInt8 :=
  if channel < 256 then .ok channel.toUInt8
  else .error (.invalidParameter s!"memory channel {channel}")

/-- The frame that selects a VFO. Memory mode recalls the channel seen last. -/
def selection (k : Tracking) : Vfo → Outcome (List UInt8)
  | .a => Command.selectVfoA.frame
  | .b => Command.selectVfoB.frame
  | .memory => do recallMemory (← channelByte (k.channel.getD 1))
  | v => .error (.invalidParameter s!"FT-840 has no {v.label}")

/-- Selects a VFO and records it. -/
def select (d : Descriptor) (v : Vfo) : Dialogue Unit := do
  let k ← .known
  let target := k.resolve v
  d.checkVfo target
  send "set_vfo" (← selection k target)
  .selected d target

/-- Selects a VFO unless it is selected. -/
def switchTo (d : Descriptor) (v : Vfo) : Dialogue Unit := do
  let k ← .known
  if k.resolve v ≠ k.vfo then select d v

/-- Reads the memory channel and records it. -/
def readChannel : Dialogue Nat := do
  let block ← readBlock .readMemoryChannel
  let channel ← decodeMemoryChannel block
  .learn { ← .known with channel := some channel }
  return channel

/-- Reads which VFO is on display, and in memory mode also the channel. -/
def queryVfo (d : Descriptor) : Dialogue Vfo := do
  let block ← readBlock .readFlags
  let v ← (← StatusFlags.ofBlock block).activeVfo
  if v = .memory then discard readChannel
  .selected d v
  return v

def readRecord (v : Vfo) : Dialogue (List UInt8 × Layout) := do
  let (c, layout) ← source v
  return (← readBlock c, layout)

/-- Whether a width is the narrow filter of a mode. Without a width it is the normal filter. -/
def isNarrow (d : Descriptor) (m : Mode) (width : Option Passband) : Outcome Bool :=
  match width with
  | none => .ok false
  | some w =>
    if some w = d.narrowFilter m then .ok true
    else if some w = d.defaultFilter m then .ok false
    else .error (.invalidParameter s!"FT-840 has no {w.label} filter for {m.label}")

/-- The frames that set the offset of the receiver: zero turns it off, anything else turns it on and
then sets it. -/
def clarifierFrames (offset : Int) : Outcome (List (List UInt8)) := do
  if offset = 0 then return [← switchClarifier false]
  let value ← setClarifier offset
  return [← switchClarifier true, value]

def getFrequency (d : Descriptor) (v : Vfo) : Dialogue Nat := do
  d.checkVfo v
  let v ← if v = .current then queryVfo d else pure v
  let (block, layout) ← readRecord v
  decodeFrequency block layout

def setFrequencyOf (d : Descriptor) (region : Region) (v : Vfo) (hz : Nat) : Dialogue Unit := do
  d.checkVfo v
  let target := (← .known).resolve v
  d.checkRxFrequency region target hz
  let frame ← setFrequency hz
  switchTo d target
  send "set_freq" frame

def getMode (d : Descriptor) (v : Vfo) : Dialogue (Mode × Option Passband) := do
  d.checkVfo v
  let (block, layout) ← readRecord ((← .known).resolve v)
  let (m, narrow) ← decodeMode block layout
  return (m, if narrow then d.narrowFilter m else d.defaultFilter m)

def setModeOf (d : Descriptor) (region : Region) (v : Vfo) (m : Mode) (width : Option Passband) :
    Dialogue Unit := do
  d.checkVfo v
  d.checkMode region m
  let frame ← setMode m (← isNarrow d m width)
  let target := (← .known).resolve v
  if target = .a ∨ target = .b then select d target
  send "set_mode" frame

def setPtt (d : Descriptor) (v : Vfo) (on : Bool) : Dialogue Unit := do
  d.checkVfo v
  switchTo d v
  command "set_ptt" (if on then .pttOn else .pttOff)

def getSplit : Dialogue Bool := do
  let block ← readBlock .readFlags
  return (← StatusFlags.ofBlock block).split

def getRit (d : Descriptor) (v : Vfo) : Dialogue Int := do
  d.checkVfo v
  let (block, layout) ← readRecord ((← .known).resolve v)
  decodeClarifier block layout

def setRit (d : Descriptor) (v : Vfo) (offset : Int) : Dialogue Unit := do
  d.checkVfo v
  d.checkRit offset
  let frames ← clarifierFrames offset
  switchTo d v
  frames.forM (send "set_rit")

/-- Only the meter of the received signal can be read. -/
def getLevel (d : Descriptor) (l : Level) : Dialogue LevelValue := do
  d.checkReadLevel l
  match d.calibration l with
  | none => .fail (.unsupported s!"level {l.label}")
  | some table =>
    let raw ← decodeMeter (← readBlock .readMeter)
    return .int (← table.interpolate (.ofNat raw.toNat)).round

def setFunc (d : Descriptor) (f : Func) (on : Bool) : Dialogue Unit := do
  d.checkWriteFunc f
  if f = .tuner then command "set_func" (if on then .tunerOn else .tunerOff)
  else .fail (.unsupported s!"function {f.name}")

/-- Recalls a memory channel, which puts the rig into memory mode. -/
def setMemory (d : Descriptor) (channel : Nat) : Dialogue Unit := do
  d.checkMemoryChannel channel
  send "set_mem" (← recallMemory (← channelByte channel))
  .learn { ← .known with channel := some channel }
  .selected d .memory

def vfoOp (d : Descriptor) (o : VfoOp) : Dialogue Unit := do
  d.checkVfoOp o
  if o = .tune then command "vfo_op" .tunerStart
  else .fail (.unsupported s!"VFO operation {o.name}")

def sendPacing (value : UInt8) : Dialogue Unit := do
  send "set_pacing" (← setPacing value)

def respond (d : Descriptor) (config : Config) {α : Type} : Operation α → Dialogue α
  | .start => do sendPacing (← .known).pacing
  | .getFrequency v => getFrequency d v
  | .setFrequency v hz => setFrequencyOf d config.region v hz
  | .getMode v => getMode d v
  | .setMode v m width => setModeOf d config.region v m width
  | .getVfo => queryVfo d
  | .setVfo v => select d v
  | .setPtt v on => setPtt d v on
  | .getSplit _ => getSplit
  | .setSplit _ on => command "set_split" (if on then .splitOn else .splitOff)
  | .getRit v => getRit d v
  | .setRit v offset => setRit d v offset
  | .getLevel _ l => getLevel d l
  | .setFunc _ f on => setFunc d f on
  | .getMemory _ => readChannel
  | .setMemory _ channel => setMemory d channel
  | .vfoOp _ o => vfoOp d o
  | .setPacing value => do
    sendPacing value
    .learn { ← .known with pacing := value }
  | op => op.fallback d

end RigControl.Ft840
