/-
A whole command line: the settings that come first, and the command.
-/
import RigControl.CommandLine.Commands
import RigControl.CommandLine.Task
import RigControl.Rig.Connect

namespace RigControl.CommandLine

/-- A command with its settings. -/
structure Invocation where
  model : Option String := none
  /-- Where the rig is to be reached. -/
  endpoint : Endpoint := {}
  /-- Whether to talk to a link that answers nothing. -/
  mock : Bool := false
  region : Region := .one
  /-- The address of the rig on its bus, if it is not the usual one. -/
  address : Option UInt8 := none
  restoreOnClose : Bool := true
  command : Command
deriving DecidableEq, Repr

/-- Settings that exclude each other. -/
def exclusive : List (String × String) := [("port", "host"), ("mock", "port"), ("mock", "host")]

/-- Puts a command together with the settings that were given. -/
def Invocation.ofGiven (g : Given) (command : Command) : Invocation where
  model := g.text? "model"
  endpoint := {
    serialPort := g.text? "port"
    networkAddress := g.text? "host"
    baud := g.number? "baud" }
  mock := g.has "mock"
  region := (g.region? "region").getD .one
  address := g.address? "civ-addr"
  restoreOnClose := !g.has "no-restore"
  command

def Invocation.ofArguments (arguments : List String) : Except Stop Invocation := do
  let (t, g) ← standardMenu.read arguments
  if exclusive.any fun pair => g.has pair.1 && g.has pair.2 then .error .misuse
  return ofGiven g (← orMisuse (Command.ofGiven? t.path g))

end RigControl.CommandLine
