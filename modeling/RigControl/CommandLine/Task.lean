/-
What a user can have the program do: the commands with their arguments in place.
-/
import RigControl.CommandLine.Arguments
import RigControl.Radio.Frequency

namespace RigControl.CommandLine

/-- What a user asks of a rig. Times and values of levels are still text, as only the rig says how to
read them. -/
inductive Task where
  | getFrequency (v : Vfo)
  | setFrequency (hz : Nat) (v : Vfo)
  | getMode (v : Vfo)
  | setMode (m : Mode) (width : Option Passband) (v : Vfo)
  | getVfo
  | setVfo (v : Vfo)
  | getPtt
  | setPtt (on : Bool)
  | getRit
  | setRit (offset : Int)
  | getLevel (l : Level)
  | setLevel (l : Level) (value : String)
  | getMemory
  | setMemory (channel : Nat)
  | getClock
  | setClock (time : String)
deriving DecidableEq, Repr

/-- What the program is to do. -/
inductive Command where
  | list
  | info
  | perform (task : Task)
deriving DecidableEq, Repr

namespace Given

def text? (g : Given) (name : String) : Option String :=
  match g.options.lookup name with
  | some (.text s) => some s
  | _ => none

def number? (g : Given) (name : String) : Option Nat :=
  match g.options.lookup name with
  | some (.number n) => some n
  | _ => none

def region? (g : Given) (name : String) : Option Region :=
  match g.options.lookup name with
  | some (.region r) => some r
  | _ => none

def address? (g : Given) (name : String) : Option UInt8 :=
  match g.options.lookup name with
  | some (.address a) => some a
  | _ => none

/-- The VFO of a command, the selected one if none is named. -/
def vfo (g : Given) : Vfo :=
  match g.options.lookup "vfo" with
  | some (.vfo v) => v
  | _ => .current

end Given

/-- The task of a command in a group, if its words are complete. -/
def Task.ofGiven? (group name : String) (g : Given) : Option Task :=
  match group, name, g.words with
  | "freq", "get", [] => some (getFrequency g.vfo)
  | "freq", "set", [.number hz] => some (setFrequency hz g.vfo)
  | "mode", "get", [] => some (getMode g.vfo)
  | "mode", "set", [.mode m] => some (setMode m ((g.number? "passband").map Passband.mk) g.vfo)
  | "vfo", "get", [] => some getVfo
  | "vfo", "set", [.vfo v] => some (setVfo v)
  | "ptt", "get", [] => some getPtt
  | "ptt", "on", [] => some (setPtt true)
  | "ptt", "off", [] => some (setPtt false)
  | "rit", "get", [] => some getRit
  | "rit", "set", [.offset n] => some (setRit n)
  | "level", "get", [.level l] => some (getLevel l)
  | "level", "set", [.level l, .text value] => some (setLevel l value)
  | "mem", "get", [] => some getMemory
  | "mem", "set", [.number channel] => some (setMemory channel)
  | "clock", "get", [] => some getClock
  | "clock", "set", [.text time] => some (setClock time)
  | _, _, _ => none

/-- The command at the end of a path. A group by itself is none. -/
def Command.ofGiven? (path : List String) (g : Given) : Option Command :=
  match path with
  | ["list"] => some list
  | ["info"] => some info
  | [group, name] => (Task.ofGiven? group name g).map perform
  | _ => none

end RigControl.CommandLine
