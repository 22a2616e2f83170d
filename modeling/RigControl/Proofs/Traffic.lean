/-
What a rig of any family is sent and what it keeps, in every state that it gets into.
-/
import RigControl.Link.Scripted
import RigControl.Models.Yaesu
import RigControl.Proofs.Reach
import RigControl.Proofs.Traffic.Civ
import RigControl.Proofs.Traffic.Ekd500
import RigControl.Proofs.Traffic.Ft840
import RigControl.Proofs.Traffic.Newcat
import RigControl.Proofs.Traffic.Tmd710

namespace RigControl

/-- What every operation of a family keeps to. -/
def Backend.contract (d : Descriptor) (region : Region) : Backend → Contract
  | ft840 => Ft840.contract d region
  | newcat => Newcat.contract d region
  | civ bus => Civ.contract bus d region
  | tmd710 => Tmd710.contract d region
  | ekd500 => Ekd500.contract d region

theorem Backend.contract_keeps {b : Backend} {d : Descriptor} {region : Region} {k : Tracking} :
    (b.contract d region).keeps k ↔ k.Declared d := by
  cases b <;> exact Iff.rfl

theorem Backend.respond_honours {b : Backend} {d : Descriptor} {config : Config} {α : Type}
    {k : Tracking} (op : Operation α) (hk : k.Declared d) :
    (b.respond d config op).Honours (b.contract d config.region) k fun _ _ => True := by
  cases b with
  | ft840 => exact Ft840.respond_honours hk op
  | newcat => exact Newcat.respond_honours hk op
  | civ bus => exact Civ.respond_honours hk op
  | tmd710 => exact Tmd710.respond_honours hk op
  | ekd500 => exact Ekd500.respond_honours op hk

namespace Rig

variable {σ : Type} {f : Family} {d : Descriptor} {config : Config} {link : σ} {r s : Rig σ}

/-- What a new rig is made of. -/
theorem create_ok (h : create f d config link = .ok r) :
    f.backend d config = .ok r.backend ∧ r.session = .start d config link := by
  obtain ⟨b, hb, h⟩ := Outcome.bind_eq_ok.1 h
  cases h
  exact ⟨hb, rfl⟩

variable [Link σ]

/-- A rig stays what it was made of. -/
theorem Reaches.of_create (hc : create f d config link = .ok r) (h : r.Reaches s) :
    f.backend d config = .ok s.backend ∧ s.session.descriptor = d ∧ s.session.config = config := by
  obtain ⟨hb, hsession⟩ := create_ok hc
  obtain ⟨hbackend, hdesc, hconfig⟩ := h.frame
  rw [hbackend, hdesc, hconfig, hsession]
  exact ⟨hb, rfl, rfl⟩

/-- The way that an operation goes. -/
theorem perform_honours {α : Type} (op : Operation α)
    (hs : s.session.known.Declared s.session.descriptor) :
    let c := s.backend.contract s.session.descriptor s.session.config.region
    c.Declined s.session.known (s.history op) ((perform op).run s).1
        ((perform op).run s).2.session.known ∨
      c.Kept (fun _ _ => True) (s.history op) ((perform op).run s).1
        ((perform op).run s).2.session.known :=
  perform_wp (Backend.respond_honours op hs)

/-- Every operation keeps the selection declared. -/
theorem Reaches.declared (hr : r.session.known.Declared r.session.descriptor) (h : r.Reaches s) :
    s.session.known.Declared s.session.descriptor := by
  rw [h.frame.2.1]
  refine h.invariant (fun op k hk => ?_) hr
  refine Dialogue.wp_mono (fun _ _ k' hk' => ?_) (Backend.respond_honours op hk)
  rcases hk' with hk' | hk'
  · exact Backend.contract_keeps.1 hk'.keeps
  · exact Backend.contract_keeps.1 hk'.keeps

/-- Every request of an operation is one of its family's, made with a declared VFO selected. -/
theorem history_allowed {α : Type} {op : Operation α}
    (hs : s.session.known.Declared s.session.descriptor) {x : Event} (hx : x ∈ s.history op) :
    x.Allowed (s.backend.contract s.session.descriptor s.session.config.region) := by
  rcases perform_honours op hs with h | h
  · rw [h.silent] at hx
    cases hx
  · exact h.sends x hx

/-- **The selected VFO is always a declared one**, never the placeholder: at first, after every
operation, failed ones included, and at every request that an operation makes. -/
theorem selected_vfo_declared (hd : d.validate = .ok ()) (hc : create f d config link = .ok r)
    (h : r.Reaches s) :
    (s.session.known.vfo ∈ d.vfos ∧ s.session.known.vfo ≠ .current) ∧
      ∀ {α : Type} (op : Operation α) (k : Tracking) (q : Request) (o : Outcome (List UInt8)),
        .exchange k q o ∈ s.history op → k.vfo ∈ d.vfos ∧ k.vfo ≠ .current := by
  obtain ⟨-, hsession⟩ := create_ok hc
  have hr : r.session.known.Declared r.session.descriptor := by
    rw [hsession]
    exact Tracking.initial_declared hd
  have hs := h.declared hr
  obtain ⟨-, hdesc, -⟩ := Reaches.of_create hc h
  refine ⟨?_, fun op k q o hx => ?_⟩
  · rw [hdesc] at hs
    exact ⟨hs.mem, hs.ne_current⟩
  · have hk := Backend.contract_keeps.1 (history_allowed hs hx).1
    rw [hdesc] at hk
    exact ⟨hk.mem, hk.ne_current⟩

/-- An FT-840 was sent to VFO B and then into a silent link. -/
theorem selected_vfo_declared_ft840 :
    let link : ScriptedLink := { script := [⟨[0, 0, 0, 1, 0x05], []⟩] }
    let r : Rig ScriptedLink := ⟨.ft840, .start Models.ft840 {} link⟩
    let s := ((perform (.setVfo .b)).run r).2
    let t := ((perform (.getFrequency .current)).run s).2
    Models.ft840.validate = .ok () ∧ create .ft840 Models.ft840 {} link = .ok r ∧
      s.session.known.vfo = .b ∧ t.session.known.vfo ∈ Models.ft840.vfos ∧
      t.session.known.vfo ≠ .current := by
  intro link r s t
  have hd : Models.ft840.validate = .ok () := rfl
  have hc : create .ft840 Models.ft840 {} link = .ok r := rfl
  have ht : r.Reaches t := .perform _ (.perform _ .refl)
  exact ⟨hd, hc, by decide +kernel, (selected_vfo_declared hd hc ht).1⟩

end Rig

end RigControl
