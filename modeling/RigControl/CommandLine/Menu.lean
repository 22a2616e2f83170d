/-
What a command line can hold: for each command the flags, options and words that it takes, and which
commands it leads to. The commands form a tree, in which a path of names leads to each.
-/
import RigControl.CommandLine.Value

namespace RigControl.CommandLine

/-- A word that a command takes at its place. -/
structure Word where
  /-- The word as it is shown to the user. -/
  label : String
  kind : Kind
  about : String := ""
deriving DecidableEq, Repr

/-- A name after two hyphens that a command takes. -/
structure Switch where
  name : String
  /-- The kind of the value that follows it; a flag has none. -/
  kind? : Option Kind := none
  about : String := ""
deriving DecidableEq, Repr

/-- A command and what it takes. -/
structure Signature where
  /-- The names that lead to it. -/
  path : List String
  about : String := ""
  /-- Its flags and options. -/
  switches : List Switch := []
  words : List Word := []
deriving DecidableEq, Repr

/-- The commands of a program. -/
structure Menu where
  /-- What the program takes before the name of a command. -/
  root : Signature
  /-- All commands; those with one parent in the order in which they are shown. -/
  commands : List Signature
deriving DecidableEq, Repr

namespace Signature

def name (t : Signature) : String := t.path.getLast?.getD ""

/-- Whether the command shows how another one is used. -/
def isHelp (t : Signature) : Bool := t.name = "help"

def switch? (t : Signature) (name : String) : Option Switch :=
  t.switches.find? (·.name = name)

def within (group : String) (t : Signature) : Signature := { t with path := group :: t.path }

end Signature

namespace Menu

def under (m : Menu) (t : Signature) : List Signature :=
  m.commands.filter fun u => u.path ≠ [] ∧ u.path.dropLast = t.path

/-- The command that a name after another command leads to. -/
def next? (m : Menu) (t : Signature) (name : String) : Option Signature :=
  (m.under t).find? (·.name = name)

def find? (m : Menu) (path : List String) : Option Signature :=
  (m.root :: m.commands).find? (·.path = path)

end Menu

end RigControl.CommandLine
