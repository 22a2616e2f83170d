/-
The states that a rig gets into: any operations, one after another, whatever each of them answers.
Between two operations the link may change at will. What every operation keeps holds in all of them.
-/
import RigControl.Proofs.Conversation
import RigControl.Rig.Backend

namespace RigControl.Rig

variable {σ α : Type}

/-- The rig at the end of another link. -/
def withLink (r : Rig σ) (l : σ) : Rig σ :=
  { r with session.engine.port.link := l }

variable [Link σ]

/-- The events of an operation. -/
def history (r : Rig σ) (op : Operation α) : List Event :=
  (r.dialogue op).history r.session

/-- The state after some operations. -/
inductive Reaches (r : Rig σ) : Rig σ → Prop
  | refl : Reaches r r
  | perform {s : Rig σ} {α : Type} (op : Operation α) :
      Reaches r s → Reaches r ((Rig.perform op).run s).2
  | relink {s : Rig σ} (l : σ) : Reaches r s → Reaches r (s.withLink l)

variable {r s : Rig σ}

/-- An operation meets what its conversation promises. -/
theorem perform_wp {op : Operation α} {Q : Dialogue.Post α}
    (h : (r.dialogue op).wp Q r.session.known) :
    Q (r.history op) ((Rig.perform op).run r).1 ((Rig.perform op).run r).2.session.known :=
  Dialogue.wp_run h

/-- The events of an operation are all its traffic, and it changes nothing else but what is known. -/
theorem perform_session (op : Operation α) : ((Rig.perform op).run r).2.session =
    { r.session with
      engine := (r.history op).foldl Event.replay r.session.engine
      known := ((Rig.perform op).run r).2.session.known } :=
  Dialogue.run_eq_replay

theorem perform_engine (op : Operation α) : ((Rig.perform op).run r).2.session.engine =
    (r.history op).foldl Event.replay r.session.engine := by
  rw [perform_session]

/-- An operation without events leaves the engine alone. -/
theorem engine_eq_of_history_nil {op : Operation α} (h : r.history op = []) :
    ((Rig.perform op).run r).2.session.engine = r.session.engine := by
  rw [perform_engine, h]
  rfl

namespace Reaches

/-- The protocol, the model and the choices of the user stay. -/
theorem frame (h : r.Reaches s) : s.backend = r.backend ∧
    s.session.descriptor = r.session.descriptor ∧ s.session.config = r.session.config := by
  induction h with
  | refl => exact ⟨rfl, rfl, rfl⟩
  | @perform s _ op _ ih =>
    rw [perform_session]
    exact ih
  | relink l _ ih => exact ih

theorem dialogue_eq (h : r.Reaches s) (op : Operation α) : s.dialogue op = r.dialogue op := by
  obtain ⟨hb, hd, hc⟩ := h.frame
  rw [dialogue, dialogue, hb, hd, hc]

/-- **What every operation keeps of the tracking holds in every state** that is reached. -/
theorem invariant {P : Tracking → Prop}
    (keeps : ∀ {α : Type} (op : Operation α) (k : Tracking), P k →
      (r.dialogue op).wp (fun _ _ k' => P k') k)
    (h : r.Reaches s) (hr : P r.session.known) : P s.session.known := by
  induction h with
  | refl => exact hr
  | @perform s _ op hs ih =>
    have hkeep := keeps op _ ih
    rw [← hs.dialogue_eq op] at hkeep
    exact perform_wp hkeep
  | relink l _ ih => exact ih

end Reaches

end RigControl.Rig
