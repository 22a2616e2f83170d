/-
The families of rigs, by the protocol that they speak, and a rig: a session with one of them.
-/
import RigControl.Civ.Operations
import RigControl.Ekd500.Operations
import RigControl.Ft840.Operations
import RigControl.Newcat.Operations
import RigControl.Tmd710.Operations

namespace RigControl

/-- A family of rigs. -/
inductive Family where
  | ft840
  | newcat
  | civ
  | tmd710
  | ekd500
deriving DecidableEq, Repr

/-- A protocol with all that it needs to address one rig. -/
inductive Backend where
  | ft840
  | newcat
  | civ (bus : Civ.Bus)
  | tmd710
  | ekd500
deriving DecidableEq, Repr

/-- The protocol for one rig of a family. A bus with several rigs needs an address. -/
def Family.backend (d : Descriptor) (config : Config) : Family → Outcome Backend
  | ft840 => .ok .ft840
  | newcat => .ok .newcat
  | tmd710 => .ok .tmd710
  | ekd500 => .ok .ekd500
  | civ =>
    match config.addressFor d with
    | some address => .ok (.civ { rig := address })
    | none => .error (.invalidParameter s!"{d.name} needs a CI-V address")

def Backend.respond (b : Backend) (d : Descriptor) (config : Config) {α : Type} (op : Operation α) :
    Dialogue α :=
  match b with
  | ft840 => Ft840.respond d config op
  | newcat => Newcat.respond d config op
  | civ bus => Civ.respond bus d config op
  | tmd710 => Tmd710.respond d config op
  | ekd500 => Ekd500.respond d config op

/-- A rig in a session. -/
structure Rig (σ : Type) where
  backend : Backend
  session : Session σ
deriving Repr

namespace Rig

variable {σ α : Type} [Link σ]

/-- A rig of a family at the other end of a link. Nothing is sent yet. -/
def create (f : Family) (d : Descriptor) (config : Config) (link : σ) : Outcome (Rig σ) := do
  return { backend := ← f.backend d config, session := .start d config link }

/-- The conversation that an operation takes. -/
def dialogue (r : Rig σ) (op : Operation α) : Dialogue α :=
  r.backend.respond r.session.descriptor r.session.config op

/-- Carries out an operation. -/
def perform (op : Operation α) : Action (Rig σ) α := fun r =>
  ((r.dialogue op).run.on Rig.session fun r s => { r with session := s }).run r

end Rig

end RigControl
