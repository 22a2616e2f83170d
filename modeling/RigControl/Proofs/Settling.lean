/-
The two ways that a conversation ends. If it fails, only what is known then matters; if it succeeds, the
events and the answer count as well. The rules follow a conversation part by part, and a part that may
still fail needs what a failure has to leave. What is the same either way is kept (`Dialogue.Keeps`).
-/
import RigControl.Proofs.Reach
import RigControl.Proofs.Selection

namespace RigControl

namespace Dialogue

variable {α β : Type}

/-- A condition that always holds is met. -/
theorem wp_of_forall {x : Dialogue α} {Q : Post α} {k : Tracking} (hQ : ∀ h r k, Q h r k) :
    x.wp Q k := by
  induction x generalizing Q k with
  | done r => exact hQ _ _ _
  | look next ih => exact ih k hQ
  | note k' next ih => exact ih hQ
  | exchange r next ih => exact ⟨fun e => hQ _ _ _, fun reply => ih reply fun h => hQ _⟩
  | hangUp next ih => exact ⟨fun e => hQ _ _ _, ih fun h => hQ _⟩

/-- The conversation fails and leaves `E`, or it succeeds as `R` says. -/
def Settles (x : Dialogue α) (E : Tracking → Prop) (k : Tracking)
    (R : List Event → α → Tracking → Prop) : Prop :=
  x.wp (fun h r k' => match r with
    | .ok a => R h a k'
    | .error _ => E k') k

namespace Settles

variable {E : Tracking → Prop} {k k' : Tracking} {R : List Event → α → Tracking → Prop}
  {R' : List Event → β → Tracking → Prop} {x : Dialogue α} {f : α → Dialogue β} {o : Outcome α}
  {r : Request} {d : Descriptor} {v : Vfo}

theorem fail {e : Error} (hk : E k) : (fail e : Dialogue α).Settles E k R := hk

theorem pure {a : α} (ha : R [] a k) : (pure a : Dialogue α).Settles E k R := ha

theorem lift (hk : E k) (ha : ∀ a, o = .ok a → R [] a k) : (liftM o : Dialogue α).Settles E k R := by
  cases o with
  | ok a => exact ha a rfl
  | error e => exact hk

theorem lift_bind (hk : E k) (hf : ∀ a, o = .ok a → (f a).Settles E k R') :
    ((liftM o : Dialogue α) >>= f).Settles E k R' := by
  cases o with
  | ok a => exact hf a rfl
  | error e => exact hk

theorem known_bind {f : Tracking → Dialogue β} (hf : (f k).Settles E k R') :
    (known >>= f).Settles E k R' := by
  simpa [Settles] using hf

theorem learn {R : List Event → Unit → Tracking → Prop} (hR : R [] () k') :
    (learn k').Settles E k R := hR

theorem learn_bind {f : Unit → Dialogue β} (hf : (f ()).Settles E k' R') :
    (Dialogue.learn k' >>= f).Settles E k R' := hf

theorem ask_bind {f : List UInt8 → Dialogue β} (hk : E k)
    (hf : ∀ reply, (f reply).Settles E k fun h => R' (.exchange k r (.ok reply) :: h)) :
    (ask r >>= f).Settles E k R' :=
  ⟨fun _ => hk, hf⟩

theorem tell {R : List Event → Unit → Tracking → Prop} (hk : E k)
    (hR : ∀ reply, R [.exchange k r (.ok reply)] () k) : (tell r).Settles E k R :=
  ⟨fun _ => hk, hR⟩

theorem tell_bind {f : Unit → Dialogue β} (hk : E k)
    (hf : ∀ reply, (f ()).Settles E k fun h => R' (.exchange k r (.ok reply) :: h)) :
    (Dialogue.tell r >>= f).Settles E k R' :=
  ⟨fun _ => hk, hf⟩

/-- A VFO that the model declares by name is selected without fail. -/
theorem selected {R : List Event → Unit → Tracking → Prop} (hv : v ∈ d.vfos) (hne : v ≠ .current)
    (hR : R [] () { k with vfo := v }) : (selected d v).Settles E k R := by
  have hselect : k.select d v = .ok { k with vfo := v } :=
    Tracking.select_ok.2 ⟨by rw [Tracking.resolve_of_ne hne]; exact Descriptor.checkVfo_ok.2 (.inr hv),
      by rw [Tracking.resolve_of_ne hne]⟩
  refine known_bind ?_
  rw [hselect]
  exact hR

/-- Selecting has no events. -/
theorem selected_silent (hk : E k) : (Dialogue.selected d v).Settles E k fun h _ _ => h = [] :=
  known_bind (lift_bind hk fun _ _ => rfl)

theorem imp {R₂ : List Event → α → Tracking → Prop} (hx : x.Settles E k R)
    (hR : ∀ h a k', R h a k' → R₂ h a k') : x.Settles E k R₂ := by
  refine wp_mono (fun h r k' hr => ?_) hx
  cases r with
  | ok a => exact hR h a k' hr
  | error e => exact hr

theorem any : x.Settles (fun _ => True) k fun _ _ _ => True := by
  refine wp_of_forall fun h r k' => ?_
  cases r <;> trivial

/-- What is promised under a condition need be shown only under it, if a failure may leave anything. -/
theorem of_imp {p : Prop} (hx : p → x.Settles (fun _ => True) k R) :
    x.Settles (fun _ => True) k fun h a k' => p → R h a k' := by
  by_cases hp : p
  · exact (hx hp).imp fun _ _ _ hr _ => hr
  · exact any.imp fun _ _ _ _ hp' => absurd hp' hp

/-- The rest goes on from where a first part has succeeded. -/
theorem bind (hx : x.Settles E k R)
    (hf : ∀ h a k', R h a k' → (f a).Settles E k' fun h' => R' (h ++ h')) :
    (x >>= f).Settles E k R' := by
  rw [Settles, wp_bind]
  refine wp_mono (fun h r k' hr => ?_) hx
  cases r with
  | ok a => exact hf h a k' hr
  | error e => exact hr

/-- A rest without events adds none. -/
theorem bind_silent {P : List Event → Prop} (hx : x.Settles E k fun h _ _ => P h)
    (hf : ∀ a k', (f a).Settles E k' fun h _ _ => h = []) :
    (x >>= f).Settles E k fun h _ _ => P h := by
  refine bind hx fun h a k' hP => (hf a k').imp fun h' _ _ hsilent => ?_
  rw [hsilent, List.append_nil]
  exact hP

end Settles

/-- Whatever comes of it, the conversation leaves one part of what is known as it was. -/
def Keeps {γ : Type} (part : Tracking → γ) (x : Dialogue α) : Prop :=
  ∀ k, x.wp (fun _ _ k' => part k' = part k) k

namespace Keeps

variable {γ : Type} {part : Tracking → γ} {x : Dialogue α} {f : α → Dialogue β}

theorem lift {o : Outcome α} : (liftM o : Dialogue α).Keeps part := fun _ => rfl

theorem known : known.Keeps part := fun _ => rfl

theorem ask {r : Request} : (ask r).Keeps part := fun _ => ⟨fun _ => rfl, fun _ => rfl⟩

theorem tell {r : Request} : (tell r).Keeps part := fun _ => ⟨fun _ => rfl, fun _ => rfl⟩

theorem bind (hx : x.Keeps part) (hf : ∀ a, (f a).Keeps part) : (x >>= f).Keeps part := by
  intro k
  rw [wp_bind]
  refine wp_mono (fun h r k' hk' => ?_) (hx k)
  cases r with
  | ok a => exact wp_mono (fun _ _ _ hk'' => hk''.trans hk') (hf a k')
  | error e => exact hk'

/-- Selecting a VFO changes nothing else. -/
theorem selected {d : Descriptor} {v : Vfo} (hpart : ∀ k v, part { k with vfo := v } = part k) :
    (selected d v).Keeps part := by
  intro k
  rw [wp_selected]
  constructor
  · intro k' hk'
    obtain ⟨-, rfl⟩ := Tracking.select_ok.1 hk'
    exact hpart k _
  · intro e he
    rfl

end Keeps

end Dialogue

/-- An operation ends as its conversation does. -/
theorem Rig.perform_settles {σ α : Type} [Link σ] {s : Rig σ} {op : Operation α}
    {E : Tracking → Prop} {R : List Event → α → Tracking → Prop}
    (h : (s.dialogue op).Settles E s.session.known R) {o : Outcome α} {t : Rig σ}
    (hrun : (perform op).run s = (o, t)) :
    (∀ e, o = .error e → E t.session.known) ∧
      ∀ a, o = .ok a → R (s.history op) a t.session.known := by
  have hsettles := perform_wp h
  rw [hrun] at hsettles
  constructor
  · rintro e rfl
    exact hsettles
  · rintro a rfl
    exact hsettles

end RigControl
