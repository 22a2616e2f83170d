/-
Conversations with a rig, held as data: what is sent, and how to go on with each reply. A conversation
says nothing about the link; run over a session, it becomes a computation.
-/
import RigControl.Rig.Session

namespace RigControl

/-- A conversation that ends with an answer or an error. -/
inductive Dialogue (α : Type) where
  | done (result : Outcome α)
  /-- Goes on with what is known about the rig. -/
  | look (next : Tracking → Dialogue α)
  /-- Replaces what is known about the rig. -/
  | note (known : Tracking) (next : Dialogue α)
  /-- Runs a request and goes on with its reply. If there is none the conversation ends. -/
  | exchange (request : Request) (next : List UInt8 → Dialogue α)
  /-- Ends the session with the rig. -/
  | hangUp (next : Dialogue α)

namespace Dialogue

variable {σ α β : Type}

protected def bind : Dialogue α → (α → Dialogue β) → Dialogue β
  | done (.ok a), f => f a
  | done (.error e), _ => done (.error e)
  | look next, f => look fun k => (next k).bind f
  | note k next, f => note k (next.bind f)
  | exchange r next, f => exchange r fun reply => (next reply).bind f
  | hangUp next, f => hangUp (next.bind f)

instance : Monad Dialogue where
  pure a := done (.ok a)
  bind := Dialogue.bind

instance : MonadLift Outcome Dialogue := ⟨done⟩

def fail (e : Error) : Dialogue α := done (.error e)

/-- What is known about the rig. -/
def known : Dialogue Tracking := look pure

/-- Replaces what is known about the rig. -/
def learn (k : Tracking) : Dialogue Unit := note k (pure ())

/-- Runs a request and gives its reply. -/
def ask (r : Request) : Dialogue (List UInt8) := exchange r pure

/-- Runs a request whose reply, if any, does not matter. -/
def tell (r : Request) : Dialogue Unit := exchange r fun _ => pure ()

/-- Records that a VFO was selected. -/
def selected (d : Descriptor) (v : Vfo) : Dialogue Unit := do
  learn (← (← known).select d v)

/-- Holds a conversation over a session. -/
def run [Link σ] : Dialogue α → Action (Session σ) α
  | done result => .ofOutcome result
  | look next => fun s => (next s.known).run s
  | note k next => fun s => next.run { s with known := k }
  | exchange r next => do (next (← Session.transact r)).run
  | hangUp next => do
    Session.close
    next.run

end Dialogue

end RigControl
