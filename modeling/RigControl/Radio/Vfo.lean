/-
The tuning channels of a rig, under the names that people and messages use.
-/
import RigControl.Flags
import RigControl.Text.Fold

namespace RigControl

/-- A word that names nothing in a list of choices. -/
structure UnknownName where
  /-- What was to be named. -/
  what : String
  input : String
deriving DecidableEq, Repr

def UnknownName.message (e : UnknownName) : String :=
  s!"unknown {e.what}: {e.input}"

/-- The choice that was found, or the word that names none. -/
def named {α : Type} (what input : String) : Option α → Except UnknownName α
  | some a => .ok a
  | none => .error ⟨what, input⟩

/-- A tuning channel. `current` stands for whichever one is selected. -/
inductive Vfo where
  | a
  | b
  | main
  | sub
  | memory
  | current
deriving DecidableEq, Repr

namespace Vfo

instance : Enumeration Vfo where
  all := [a, b, main, sub, memory, current]
  index v := v.ctorIdx

def label : Vfo → String
  | a => "VFOA"
  | b => "VFOB"
  | main => "Main"
  | sub => "Sub"
  | memory => "MEM"
  | current => "currVFO"

def parse (s : String) : Except UnknownName Vfo :=
  named "VFO" s <| Text.lookupCapital
    [("A", a), ("VFOA", a), ("B", b), ("VFOB", b), ("MAIN", main), ("SUB", sub), ("MEM", memory),
      ("MEMORY", memory), ("CURR", current), ("CURRVFO", current), ("CURRENT", current)] s

end Vfo

end RigControl
