/-
Conversations with a simulated rig over a link that is up. What is known and the state of the rig say how a
conversation goes on, so that it is followed one request after another (`Dialogue.Takes`), and one operation
after another (`Rig.perform_in_turn`).
-/
import RigControl.Proofs.Reach
import RigControl.Proofs.Selection
import RigControl.Proofs.Simulated

namespace RigControl

open Engine

/-- The session is at a simulated rig, over a link that is up. -/
structure Session.At {S : Type} (t : Session (Simulated S)) (D : Device S) (timeout : Nat) (s : S) :
    Prop where
  attends : Attends t.engine D timeout s
  connected : t.engine.port.link.connected = true

namespace Dialogue

variable {σ S α β : Type} {D : Device S} {timeout : Nat} {k : Tracking} {s s' : S}
  {p p' p'' : Tracking × S}

theorem run_bind [Link σ] {x : Dialogue α} {f : α → Dialogue β} {t : Session σ} :
    (x >>= f).run.run t = (x.run >>= fun a => (f a).run).run t := by
  show (x.bind f).run.run t = _
  induction x generalizing t with
  | done o => cases o <;> rfl
  | look next ih => exact ih t.known
  | note k next ih => exact ih (t := { t with known := k })
  | exchange r next ih =>
    rcases hrun : (Session.transact r).run t with ⟨o, u⟩
    cases o with
    | ok reply =>
      have hfirst : (exchange r next).run.run t = (next reply).run.run u := run_exchange_ok hrun
      rw [Dialogue.bind, run_exchange_ok hrun, ih reply]
      exact (Action.run_bind_congr hfirst).symm
    | error e =>
      rw [Dialogue.bind, run_exchange_error hrun, Action.run_bind_error (run_exchange_error hrun)]
  | hangUp next ih =>
    rcases hrun : Session.close.run t with ⟨o, u⟩
    cases o with
    | ok v =>
      have hfirst : (hangUp next).run.run t = next.run.run u := run_hangUp_ok hrun
      rw [Dialogue.bind, run_hangUp_ok hrun, ih]
      exact (Action.run_bind_congr hfirst).symm
    | error e =>
      rw [Dialogue.bind, run_hangUp_error hrun, Action.run_bind_error (run_hangUp_error hrun)]

/-- Over a link that is up, the conversation has this outcome, and takes what is known and the state of the
rig from the first pair to the second. -/
def Takes (D : Device S) (timeout : Nat) (p : Tracking × S) (x : Dialogue α) (o : Outcome α)
    (p' : Tracking × S) : Prop :=
  ∀ t : Session (Simulated S), t.known = p.1 → t.At D timeout p.2 →
    (x.run.run t).1 = o ∧ (x.run.run t).2.known = p'.1 ∧ (x.run.run t).2.At D timeout p'.2

namespace Takes

variable {x : Dialogue α} {f : α → Dialogue β} {a : α} {o : Outcome α} {o' : Outcome β} {r : Request}
  {reply : List UInt8} {d : Descriptor} {v : Vfo}

theorem pure : Takes D timeout p (pure a) (.ok a) p := fun _ hk ht => ⟨rfl, hk, ht⟩

theorem lift : Takes D timeout p (liftM o) o p := fun _ hk ht => ⟨rfl, hk, ht⟩

theorem bind (hx : Takes D timeout p x (.ok a) p') (hf : Takes D timeout p' (f a) o' p'') :
    Takes D timeout p (x >>= f) o' p'' := by
  intro t hk ht
  obtain ⟨houtcome, hknown, hafter⟩ := hx t hk ht
  have hrun : x.run.run t = (.ok a, (x.run.run t).2) := Prod.ext houtcome rfl
  rw [run_bind, Action.run_bind_ok hrun]
  exact hf _ hknown hafter

theorem lift_bind (ho : o = .ok a) (hf : Takes D timeout p (f a) o' p') :
    Takes D timeout p ((liftM o : Dialogue α) >>= f) o' p' :=
  bind (a := a) (by rw [← ho]; exact lift) hf

theorem known_bind {f : Tracking → Dialogue β} (hf : Takes D timeout (k, s) (f k) o' p') :
    Takes D timeout (k, s) (known >>= f) o' p' := by
  intro t hk ht
  have hrun : (known >>= f).run.run t = (f k).run.run t := by
    rw [← show t.known = k from hk]
    rfl
  rw [hrun]
  exact hf t hk ht

theorem learn {k' : Tracking} : Takes D timeout (k, s) (learn k') (.ok ()) (k', s) :=
  fun _ _ ht => ⟨rfl, rfl, ht.attends, ht.connected⟩

/-- A VFO that the model has can be selected. -/
theorem selected (hv : d.checkVfo v = .ok ()) (hne : v ≠ .current) :
    Takes D timeout (k, s) (selected d v) (.ok ()) ({ k with vfo := v }, s) := by
  have hresolve : k.resolve v = v := Tracking.resolve_of_ne hne
  refine .known_bind (.lift_bind (Tracking.select_ok.2 ⟨?_, rfl⟩) ?_)
  · rwa [hresolve]
  · rw [hresolve]
    exact .learn

/-- What comes of the request is its reply. -/
theorem ask (h : D.Ends timeout r s (.ok reply) s') :
    Takes D timeout (k, s) (ask r) (.ok reply) (k, s') := by
  intro t hk ht
  obtain ⟨houtcome, hattends, hup⟩ := h _ ht.attends ht.connected
  match hrun : (Session.transact r).run t with
  | (o, u) =>
    obtain rfl : o = .ok reply := (transact_outcome hrun).symm.trans houtcome
    have hengine : u.engine = ((Engine.transact r).run t.engine).2 := by rw [transact_frame hrun]; rfl
    have hasked : (Dialogue.ask r).run.run t = (.ok reply, u) := run_exchange_ok hrun
    rw [hasked]
    exact ⟨rfl, (transact_known hrun).trans hk, hengine ▸ hattends, hengine ▸ hup⟩

theorem tell (h : D.Ends timeout r s (.ok reply) s') :
    Takes D timeout (k, s) (tell r) (.ok ()) (k, s') :=
  bind (ask h) pure

end Takes

end Dialogue

namespace Rig

variable {S α β : Type} {D : Device S} {timeout : Nat} {s : S} {p p' : Tracking × S}
  {r : Rig (Simulated S)}

/-- An operation takes the rig where its conversation does. -/
theorem perform_takes {op : Operation α} {o : Outcome α}
    (hop : (r.dialogue op).Takes D timeout (r.session.known, s) o p) (hr : r.session.At D timeout s) :
    ((Rig.perform op).run r).1 = o ∧ ((Rig.perform op).run r).2.session.known = p.1 ∧
      ((Rig.perform op).run r).2.session.At D timeout p.2 :=
  hop r.session rfl hr

/-- Two operations, one after the other. -/
theorem perform_in_turn {B : Backend} {a : α} {o : Outcome β} (first : Operation α)
    (second : Operation β) (hbackend : r.backend = B) (hr : r.session.At D timeout s)
    (hfirst : (B.respond r.session.descriptor r.session.config first).Takes D timeout
      (r.session.known, s) (.ok a) p)
    (hsecond : (B.respond r.session.descriptor r.session.config second).Takes D timeout p o p') :
    let done := (Rig.perform first).run r
    done.1 = .ok a ∧ done.2.session.At D timeout p.2 ∧ ((Rig.perform second).run done.2).1 = o := by
  intro done
  rw [← hbackend] at hfirst hsecond
  obtain ⟨hok, hknown, hat⟩ := perform_takes hfirst hr
  have hthen : (done.2.dialogue second).Takes D timeout (done.2.session.known, p.2) o p' := by
    rw [(Rig.Reaches.perform first .refl).dialogue_eq, hknown]
    exact hsecond
  exact ⟨hok, hat, (perform_takes hthen hat).1⟩

end Rig

end RigControl
