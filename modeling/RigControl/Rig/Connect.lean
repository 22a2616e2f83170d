/-
Connecting to a rig: its model is looked up, a link is taken, and the rig is brought into a known state.
-/
import RigControl.Rig.Registry

namespace RigControl

/-- The settings of a serial port. -/
structure SerialSettings where
  baudRate : Nat := 9600
  /-- From 5 to 8. -/
  dataBits : Nat := 8
  /-- 1 or 2. -/
  stopBits : Nat := 1
  parity : Parity := .none
  handshake : Handshake := .none
deriving DecidableEq, Repr

namespace SerialSettings

/-- The settings for a line. Without a rate it is the highest of the model; a rate that the model does
not have is taken as it is. -/
def ofLine (line : LineSettings) (baud : Option Nat) : SerialSettings where
  baudRate := baud.getD line.baudMax
  dataBits := line.dataBits
  stopBits := line.stopBits
  parity := line.parity
  handshake := line.handshake

/-- Refuses settings that no port has. -/
def check (s : SerialSettings) : Outcome Unit := do
  if s.dataBits < 5 ∨ 8 < s.dataBits then throw (.invalidParameter s!"{s.dataBits} data bits")
  if s.stopBits < 1 ∨ 2 < s.stopBits then throw (.invalidParameter s!"{s.stopBits} stop bits")

end SerialSettings

/-- Where a rig is to be reached. -/
structure Endpoint where
  serialPort : Option String := none
  /-- Host and port of a serial bridge. -/
  networkAddress : Option String := none
  baud : Option Nat := none
deriving DecidableEq, Repr

namespace Endpoint

/-- The port of a network address, after its last colon. -/
def portText? (address : List Char) : Option (List Char) :=
  if ':' ∈ address then some (address.reverse.takeWhile (· ≠ ':')).reverse else none

/-- Why a network address cannot be reached when nothing listens there. -/
def refusal (address : String) : Error :=
  match portText? address.toList with
  | none => .io "invalid socket address"
  | some port =>
    match Text.unsigned 0xFFFF port with
    | .error _ => .io "invalid port value"
    | .ok _ => .transport s!"connection refused: {address}"

/-- Why a rig cannot be reached when no port exists and nothing listens. An endpoint has to name
exactly one way, and the settings of a port have to be sound before it is looked for. -/
def failure (line : LineSettings) (e : Endpoint) : Error :=
  match e.serialPort, e.networkAddress with
  | none, none => .invalidParameter "a serial port or TCP address is required"
  | some _, some _ => .invalidParameter "choose either a serial port or a TCP address"
  | none, some address => refusal address
  | some port, none =>
    match (SerialSettings.ofLine line e.baud).check with
    | .error flaw => flaw
    | .ok () => .transport s!"failed to open serial port {port}: No such file or directory"

end Endpoint

namespace Registry

def idOf (r : Registry) (name : String) : Outcome Nat :=
  match r.find? name with
  | some e => .ok e.id
  | none => .error (.invalidParameter s!"unknown rig model {Text.quoted name.toList}")

def entry (r : Registry) (id : Nat) : Outcome Entry :=
  match r.get? id with
  | some e => .ok e
  | none => .error (.invalidParameter s!"unknown model id {id}")

/-- Takes a link to the rig with a number and brings the rig into a known state. The link is given back
whatever happens. -/
def connect {σ : Type} [Link σ] (r : Registry) (id : Nat) (config : Config) (link : σ) :
    Outcome (Rig σ) × σ :=
  match (do (← r.entry id).create config link) with
  | .error e => (.error e, link)
  | .ok rig =>
    match (Rig.perform .start).run rig with
    | (.ok (), rig) => (.ok rig, rig.session.engine.port.link)
    | (.error e, rig) => (.error e, rig.session.engine.port.link)

end Registry

end RigControl
