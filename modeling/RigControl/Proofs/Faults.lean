/-
Faults of the link. Over a link that never blames the caller (`Link.Honest`), every refusal in a conversation
is one of its own.
-/
import RigControl.Proofs.Conversation
import RigControl.Proofs.Errors

namespace RigControl

variable {σ α : Type} [Link σ] (hσ : Link.Honest σ)
include hσ

namespace Session

theorem transact_faults {r : Request} :
    (transact r : Action (Session σ) (List UInt8)).Errs fun e => e.isRefusal = false :=
  (Engine.transact_errs hσ rfl fun _ => rfl).on

theorem close_faults : (close : Action (Session σ) Unit).Errs fun e => e.isRefusal = false := by
  intro s
  simp only [Action.run, close]
  split
  · exact (Port.close_errs hσ).on.on s
  · exact Outcome.errs_error.2 rfl

end Session

/-- What the link reports in the course of a conversation is never a refusal. -/
theorem Dialogue.failure_ne_refusal {x : Dialogue α} {s : Session σ} {ev : Event} {e : Error}
    (hev : ev ∈ x.history s) (he : ev.failure? = some e) : e.isRefusal = false := by
  induction x generalizing s with
  | done r => cases hev
  | look next ih => exact ih s.known hev
  | note k next ih => exact ih (s := { s with known := k }) hev
  | exchange r next ih =>
    rw [history] at hev
    have hrun := Session.transact_faults hσ (r := r) s
    rcases ht : (Session.transact r).run s with ⟨e' | reply, t⟩
    · rw [ht, List.mem_singleton] at hev
      subst hev
      cases he
      exact hrun e (by rw [ht])
    · rw [ht, List.mem_cons] at hev
      rcases hev with rfl | hev
      · cases he
      · exact ih reply hev
  | hangUp next ih =>
    rw [history] at hev
    have hrun := Session.close_faults hσ s
    rcases ht : Session.close.run s with ⟨e' | _, t⟩
    · rw [ht, List.mem_singleton] at hev
      subst hev
      cases he
      exact hrun e (by rw [ht])
    · rw [ht, List.mem_cons] at hev
      rcases hev with rfl | hev
      · cases he
      · exact ih hev

end RigControl
