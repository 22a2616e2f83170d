/-
Links to rigs: what carries the bytes, be it a serial line, a network connection or a script. Time is
counted in milliseconds and is read off the link.

A link holds a finite stock of bytes to deliver, measured by its budget. Sending may raise the budget,
since rigs answer; receiving lowers it by at least what is delivered. So a reader that goes on until
it has enough comes to an end.
-/
import RigControl.Action

namespace RigControl

/-- What carries bytes to a rig and back. -/
class Link (σ : Type) where
  /-- Sends bytes, all of them or none. -/
  send : List UInt8 → Action σ Unit
  /-- Receives at most `room` bytes, waiting up to `timeout` for the first one. -/
  receive (room timeout : Nat) : Action σ (List UInt8)
  /-- Discards the input that has arrived and has not been read. -/
  clearInput : Action σ Unit
  /-- Takes the link down. -/
  close : Action σ Unit
  isConnected : σ → Bool
  /-- The time. -/
  now : σ → Nat
  /-- Lets time pass. -/
  sleep : Nat → Action σ Unit
  /-- A bound on what is left to deliver. -/
  budget : σ → Nat
  receive_budget : ∀ {room timeout : Nat} {s t : σ} {bytes : List UInt8}, 0 < room →
    (receive room timeout).run s = (.ok bytes, t) →
      budget t + bytes.length ≤ budget s ∧ budget t < budget s

end RigControl
