/-
The table of models. Each is kept under its number, in ascending order; of several under one number
the first sound one is kept.
-/
import RigControl.Capability.Validation
import RigControl.Models.Icom
import RigControl.Models.Kenwood
import RigControl.Models.Rft
import RigControl.Models.Yaesu
import RigControl.Rig.Backend

namespace RigControl

/-- A model and the family that it belongs to. -/
structure Entry where
  descriptor : Descriptor
  family : Family
deriving DecidableEq, Repr

namespace Entry

def id (e : Entry) : Nat := e.descriptor.id.raw

/-- The letters and digits of a name, without regard to case. -/
def key (name : String) : List Char :=
  (name.toList.filter Char.isAlphanum).map Char.toLower

/-- A rig of the model at the other end of a link. Nothing is sent yet. -/
def create {σ : Type} [Link σ] (e : Entry) (config : Config) (link : σ) : Outcome (Rig σ) :=
  Rig.create e.family e.descriptor config link

end Entry

/-- A table of models, in ascending order of their numbers. -/
structure Registry where
  entries : List Entry
deriving DecidableEq, Repr

namespace Registry

/-- Puts an entry in its place unless its number is taken. -/
def insertInto : List Entry → Entry → List Entry
  | [], e => [e]
  | first :: rest, e =>
    if e.id < first.id then e :: first :: rest
    else if e.id = first.id then first :: rest
    else first :: insertInto rest e

/-- Registers a model if it is sound and its number is free. -/
def register (r : Registry) (e : Entry) : Registry :=
  if e.descriptor.validate.isOk then ⟨insertInto r.entries e⟩ else r

def ofList (entries : List Entry) : Registry :=
  entries.foldl register ⟨[]⟩

def size (r : Registry) : Nat := r.entries.length

def isEmpty (r : Registry) : Bool := r.entries.isEmpty

def get? (r : Registry) (id : Nat) : Option Entry :=
  r.entries.find? (·.id == id)

/-- The first model with a name, without regard to case and punctuation. -/
def find? (r : Registry) (name : String) : Option Entry :=
  r.entries.find? fun e => Entry.key e.descriptor.name == Entry.key name

end Registry

namespace Models

def yaesu : List Entry := [⟨ft840, .ft840⟩, ⟨ftDx101d, .newcat⟩]

def icom : List Entry := [⟨ic7800, .civ⟩, ⟨ic275, .civ⟩]

def kenwood : List Entry := [⟨tmD710, .tmd710⟩]

def rft : List Entry := [⟨ekd500, .ekd500⟩]

end Models

def Registry.standard : Registry :=
  .ofList (Models.yaesu ++ Models.icom ++ Models.kenwood ++ Models.rft)

end RigControl
