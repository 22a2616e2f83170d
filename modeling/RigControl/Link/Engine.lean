/-
Transactions: a frame is sent and its reply read. Only silence is a reason to send the frame again, up
to a set number of times; whatever else goes wrong is reported at once. Each attempt starts by
discarding stale input, so that a late reply is not taken for the answer to a new frame.
-/
import RigControl.Link.Request

namespace RigControl

/-- How far the last transaction got. -/
inductive Phase where
  | idle
  | building
  | sending
  | awaiting
  | decoding
  | done
  | failed
deriving DecidableEq, Repr

def Phase.label : Phase → String
  | idle => "idle"
  | building => "building"
  | sending => "sending"
  | awaiting => "awaiting response"
  | decoding => "decoding"
  | done => "done"
  | failed => "failed"

/-- Runs transactions over a port. -/
structure Engine (σ : Type) where
  port : Port σ
  /-- How often a frame may be sent again. -/
  repeats : Nat
  /-- How long a reply may take. -/
  timeout : Nat
  phase : Phase := .idle
deriving Repr

namespace Port

variable {σ : Type} [Link σ]

/-- Reads blocks until one is not an echo of the frame. An echo without bytes is met again and again. -/
def awaitBlock (r : Request) (extent : Extent) (timeout : Nat) (p : Port σ) :
    Outcome (List UInt8) × Port σ :=
  match _block : read extent timeout p with
  | (.ok block, q) =>
    if r.isEcho block then
      if block = [] then (.error (.halt .endless), q) else awaitBlock r extent timeout q
    else (.ok block, q)
  | (.error e, q) => (.error e, q)
termination_by p.stock
decreasing_by
  have := read_stock _block
  have : 0 < block.length := List.length_pos_iff.2 ‹_›
  omega

def awaitReply (r : Request) (timeout : Nat) : Action (Port σ) (List UInt8) :=
  match r.reply.extent? with
  | some extent => awaitBlock r extent timeout
  | none => pure []

/-- Discards stale input and writes a frame. -/
def send (frame : List UInt8) : Action (Port σ) Unit := do
  flush
  write frame

end Port

namespace Engine

variable {σ α : Type} [Link σ]

/-- An engine that sends a frame at most `attempts` times, and at least once. -/
def create (port : Port σ) (attempts timeout : Nat) : Engine σ where
  port := port
  repeats := attempts - 1
  timeout := timeout

/-- How often a frame is sent at most. -/
def attempts (e : Engine σ) : Nat := e.repeats + 1

def onPort (x : Action (Port σ) α) : Action (Engine σ) α :=
  x.on Engine.port fun e p => { e with port := p }

def enter (phase : Phase) : Action (Engine σ) Unit :=
  .update ({ · with phase := phase })

def abort (e : Error) : Action (Engine σ) α := do
  enter .failed
  .fail e

/-- Ends the transaction if the computation refuses. -/
def orAbort (x : Action (Engine σ) α) : Action (Engine σ) α := do
  match ← x.attempt with
  | .ok a => return a
  | .error e => abort e

/-- Reads the reply to a request that has been sent; nothing if there is silence where a reply is
required. -/
def listen (r : Request) : Action (Engine σ) (Option (List UInt8)) := do
  match ← (onPort (Port.awaitReply r (← .current).timeout)).attempt, r.reply with
  | .ok reply, _ => return some reply
  | .error .timeout, .optional _ => return some []
  | .error .timeout, _ => return none
  | .error e, _ => abort e

/-- Sends a request once and reads its reply. -/
def sendOnce (r : Request) : Action (Engine σ) (Option (List UInt8)) := do
  enter .sending
  orAbort (onPort (Port.send r.frame))
  if r.reply = .none then return some []
  enter .awaiting
  listen r

/-- Sends a request until there is a reply, at most `repeats` times more than once. -/
def exchange (r : Request) : Nat → Action (Engine σ) (List UInt8)
  | 0 => do
    match ← sendOnce r with
    | some reply => return reply
    | none => abort .timeout
  | repeats + 1 => do
    match ← sendOnce r with
    | some reply => return reply
    | none => exchange r repeats

/-- Runs a request and gives its reply. -/
def transact (r : Request) : Action (Engine σ) (List UInt8) := do
  let reply ← exchange r (← .current).repeats
  enter .done
  return reply

/-- Builds a request, runs it and decodes its reply. A request that cannot be built sends nothing. -/
def query (build : Outcome Request) (decode : List UInt8 → Outcome α) : Action (Engine σ) α := do
  enter .building
  let r ← orAbort build
  let reply ← exchange r (← .current).repeats
  enter .decoding
  let answer ← orAbort (decode reply)
  enter .done
  return answer

end Engine

end RigControl
