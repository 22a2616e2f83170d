/-
Text commands of the TM-D710. A mnemonic is followed by parameters, each after a blank, and a carriage
return. Every command is answered by the mnemonic and the state that results. The rig has two bands,
and each command about frequency names its band.
-/
import RigControl.Frame.Ascii
import RigControl.Link.Request

namespace RigControl.Tmd710

/-- The longest reply that is read. -/
def maxReply : Nat := 128

def reply : Reply := .terminated AsciiFrame.crSpaced.terminator maxReply

/-- Asks for the state of a mnemonic. -/
def query (operation mnemonic : String) : Request where
  operation := operation
  frame := AsciiFrame.crSpaced.query mnemonic
  reply := reply

def command (operation mnemonic : String) (fields : List Field) : Outcome Request := do
  return { operation, frame := ← AsciiFrame.crSpaced.build mnemonic fields, reply }

def fields (mnemonic : String) (reply : List UInt8) : Outcome (List (List Char)) :=
  if reply = Text.utf8 ['?', '\r'] then .error (.protocol s!"rig does not know {mnemonic}")
  else if reply = Text.utf8 ['N', '\r'] then
    .error (.protocol s!"{mnemonic} not available in the rig's current state")
  else AsciiFrame.crSpaced.fields mnemonic reply

def band : Vfo → Outcome Nat
  | .a => .ok 0
  | .b => .ok 1
  | v => .error (.invalidParameter s!"no band for {v.label}")

def vfoOfBand : Nat → Outcome Vfo
  | 0 => .ok .a
  | 1 => .ok .b
  | n => .error (.protocol s!"unknown band {n}")

def readBandControl : Request := query "get_vfo" "BC"

/-- Moves both the controls and the transmitter to a band. -/
def setBandControl (v : Vfo) : Outcome Request := do
  let n ← band v
  command "set_vfo" "BC" [.num n 1, .num n 1]

def readFrequency (v : Vfo) : Outcome Request := do
  let n ← band v
  return (← command "get_freq" "FO" [.num n 1]).about v

def setFrequency (v : Vfo) (hz : Nat) : Outcome Request := do
  let n ← band v
  return (← command "set_freq" "FO" [.num n 1, .num hz 10]).about v

def bandField (field : List Char) : Outcome Vfo := do
  let n ← Text.parseDecimal field
  if n < 256 then vfoOfBand n
  else throw (.protocol s!"band {Text.quoted field}")

def parseBandControl (reply : List UInt8) : Outcome (Vfo × Vfo) := do
  match ← fields "BC" reply with
  | [control, ptt] => return (← bandField control, ← bandField ptt)
  | others => throw (.protocol s!"BC reply has {others.length} fields")

/-- A band and its frequency. Further fields are left alone. -/
def parseFrequency (reply : List UInt8) : Outcome (Vfo × Nat) := do
  match ← fields "FO" reply with
  | number :: hz :: _ => return (← bandField number, ← Text.parseDecimal hz)
  | _ => throw (.protocol "FO reply without frequency")

end RigControl.Tmd710
