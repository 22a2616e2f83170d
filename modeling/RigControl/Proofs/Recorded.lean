/-
A link that keeps a list of what is asked of it, so that a run can be seen to have asked nothing.
-/
import RigControl.Link.Scripted
import RigControl.Proofs.Errors

namespace RigControl

/-- A call of a link. -/
inductive Call where
  | send (bytes : List UInt8)
  | receive (room timeout : Nat)
  | clearInput
  | close
  | sleep (ms : Nat)
deriving DecidableEq, Repr

/-- A link with the calls that were made so far. -/
structure Recorded (σ : Type) where
  link : σ
  calls : List Call := []
deriving DecidableEq, Repr

namespace Recorded

variable {σ α : Type}

/-- Makes a call and keeps it. -/
def record (c : Call) (x : Action σ α) : Action (Recorded σ) α := fun l =>
  let (r, m) := x l.link
  (r, ⟨m, l.calls ++ [c]⟩)

instance [Link σ] : Link (Recorded σ) where
  send bytes := record (.send bytes) (Link.send bytes)
  receive room timeout := record (.receive room timeout) (Link.receive room timeout)
  clearInput := record .clearInput Link.clearInput
  close := record .close Link.close
  isConnected l := Link.isConnected l.link
  now l := Link.now l.link
  sleep ms := record (.sleep ms) (Link.sleep ms)
  budget l := Link.budget l.link
  receive_budget := by
    intro room timeout l m bytes hroom h
    have hrun : (Link.receive room timeout).run l.link = (.ok bytes, m.link) :=
      Prod.ext (congrArg (·.1) h) (congrArg (·.2.link) h)
    exact Link.receive_budget hroom hrun

theorem record_errs {P : Error → Prop} {c : Call} {x : Action σ α} (hx : x.Errs P) : (record c x).Errs P :=
  fun l => hx l.link

theorem errs {P : Error → Prop} [Link σ] (hσ : Link.Errs P σ) : Link.Errs P (Recorded σ) where
  send bytes := record_errs (hσ.send bytes)
  receive room timeout := record_errs (hσ.receive room timeout)
  clearInput := record_errs hσ.clearInput
  close := record_errs hσ.close
  sleep ms := record_errs (hσ.sleep ms)

end Recorded

end RigControl
