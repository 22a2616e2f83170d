/-
Text commands of the newer Yaesu rigs. A query is a bare mnemonic and is answered by the mnemonic, the
value and a semicolon; a command carries its parameters and is not answered. What the rig cannot do it
answers with a question mark.
-/
import RigControl.Frame.Ascii
import RigControl.Link.Request
import RigControl.Radio.Mode

namespace RigControl.Newcat

/-- The longest reply that is read. -/
def maxReply : Nat := 64

/-- Asks for the value of a mnemonic. -/
def query (operation mnemonic : String) : Request where
  operation := operation
  frame := AsciiFrame.semicolon.query mnemonic
  reply := .terminated AsciiFrame.semicolon.terminator maxReply

/-- Sets the value of a mnemonic. -/
def command (operation mnemonic : String) (fields : List Field) : Outcome Request := do
  return { operation := operation, frame := ← AsciiFrame.semicolon.build mnemonic fields }

def value (mnemonic : String) (reply : List UInt8) : Outcome (List Char) :=
  if reply = Text.utf8 ['?', ';'] then .error (.protocol s!"rig rejected {mnemonic} (?;)")
  else AsciiFrame.semicolon.parse mnemonic reply

def modeCode : Mode → Char
  | .lsb => '1'
  | .usb => '2'
  | .cw => '3'
  | .fm => '4'
  | .am => '5'
  | .rtty => '6'
  | .cwr => '7'
  | .dataLsb => '8'
  | .rttyr => '9'
  | .dataFm => 'A'
  | .dataUsb => 'C'
  | .dataAm => 'D'

def frequencyMnemonic : Vfo → Outcome String
  | .a | .main => .ok "FA"
  | .b | .sub => .ok "FB"
  | v => .error (.invalidParameter s!"no frequency command for {v.label}")

def modeMnemonic : Vfo → Outcome String
  | .a | .main => .ok "MD0"
  | .b | .sub => .ok "MD1"
  | v => .error (.invalidParameter s!"no mode command for {v.label}")

def readFrequency (v : Vfo) : Outcome Request := do
  return (query "get_freq" (← frequencyMnemonic v)).about v

def setFrequency (v : Vfo) (hz : Nat) : Outcome Request := do
  return (← command "set_freq" (← frequencyMnemonic v) [.num hz 9]).about v

def readMode (v : Vfo) : Outcome Request := do
  return (query "get_mode" (← modeMnemonic v)).about v

def setMode (v : Vfo) (m : Mode) : Outcome Request := do
  return (← command "set_mode" (← modeMnemonic v) [.text [modeCode m]]).about v

def readVfo : Request := query "get_vfo" "VS"

def setVfo : Vfo → Outcome Request
  | .a | .main => command "set_vfo" "VS" [.text ['0']]
  | .b | .sub => command "set_vfo" "VS" [.text ['1']]
  | v => .error (.invalidParameter s!"cannot select {v.label}")

def readPtt : Request := query "get_ptt" "TX"

def setPtt (on : Bool) : Outcome Request :=
  command "set_ptt" "TX" [.text [if on then '1' else '0']]

def readSplit : Request := query "get_split" "FT"

/-- Transmits on the other receiver's VFO, or on the main one. -/
def setSplit (on : Bool) : Outcome Request :=
  command "set_split" "FT" [.text [if on then '3' else '2']]

def readAttenuator : Request := query "get_level" "RA0"

/-- Sets the attenuator by its selector; 0 is off. -/
def setAttenuator (index : UInt8) : Outcome Request :=
  command "set_level" "RA0" [.num index.toNat 1]

def readPreamp : Request := query "get_level" "PA0"

/-- Sets the preamplifier by its selector; 0 is off. -/
def setPreamp (index : UInt8) : Outcome Request :=
  command "set_level" "PA0" [.num index.toNat 1]

def readMeter : Request := query "get_level" "SM0"

def readAutoInfo : Request := query "get_ai" "AI"

/-- Sets whether the rig sends messages on its own; 0 is off. -/
def setAutoInfo (setting : UInt8) : Outcome Request :=
  command "set_ai" "AI" [.num setting.toNat 1]

end RigControl.Newcat
