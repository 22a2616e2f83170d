/-
A session with one rig: its model, the choices of the user, the engine that talks to it, and what is
known about it.
-/
import RigControl.Link.Engine
import RigControl.Rig.Config
import RigControl.Rig.Tracking

namespace RigControl

/-- A session with one rig. -/
structure Session (σ : Type) where
  descriptor : Descriptor
  config : Config
  engine : Engine σ
  known : Tracking
deriving Repr

namespace Session

variable {σ α : Type} [Link σ]

/-- A session over a link, with the settings of the model and the choices of the user. Nothing is
sent yet. -/
def start (d : Descriptor) (config : Config) (link : σ) : Session σ where
  descriptor := d
  config := config
  engine :=
    let line := config.resolve d.line
    .create { link := link, pacing := config.pacing d } line.retry line.timeout
  known := .initial d

def region (s : Session σ) : Region := s.config.region

def onEngine (x : Action (Engine σ) α) : Action (Session σ) α :=
  x.on Session.engine fun s e => { s with engine := e }

def isConnected (s : Session σ) : Bool := s.engine.port.isConnected

/-- Runs a request and gives its reply. -/
def transact (r : Request) : Action (Session σ) (List UInt8) :=
  onEngine (Engine.transact r)

/-- Builds a request, runs it and decodes its reply. -/
def query (build : Outcome Request) (decode : List UInt8 → Outcome α) : Action (Session σ) α :=
  onEngine (Engine.query build decode)

def close : Action (Session σ) Unit := fun s =>
  if s.isConnected then (onEngine (Engine.onPort Port.close)).run s
  else (.error .notConnected, s)

end Session

end RigControl
