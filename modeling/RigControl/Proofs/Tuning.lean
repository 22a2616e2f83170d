/-
Frames that tune. Each family's frames are read back by the coding of their own fields: what a frame
tunes to is the frequency in it, for the VFO that it names or else for the selected one. Whatever a
registered model is sent, that frequency is one that the receive ranges allow there.
-/
import RigControl.Proofs.Refused
import RigControl.Proofs.Tuning.Civ
import RigControl.Proofs.Tuning.Ekd500
import RigControl.Proofs.Tuning.Ft840
import RigControl.Proofs.Tuning.Newcat
import RigControl.Proofs.Tuning.Tmd710

namespace RigControl

/-- What a frame tunes, if it does. -/
def Backend.tuning? : Backend → List UInt8 → Option Tuning
  | ft840 => Ft840.tuning?
  | newcat => Newcat.tuning?
  | civ _ => Civ.tuning?
  | tmd710 => Tmd710.tuning?
  | ekd500 => Ekd500.tuning?

/-- What a registered model may be sent is in range. -/
theorem Registry.tuning_inRange {e : Entry} {config : Config} {b : Backend} {region : Region}
    {k : Tracking} {r : Request} {t : Tuning} (he : e ∈ standard.entries)
    (hb : e.family.backend e.descriptor config = .ok b)
    (hk : k.Declared e.descriptor) (h : (b.contract e.descriptor region).sends k r)
    (ht : b.tuning? r.frame = some t) : t.InRange e.descriptor region k := by
  have hmem := mem_standard he
  simp only [List.mem_cons, List.not_mem_nil, or_false] at hmem
  rcases hmem with rfl | rfl | rfl | rfl | rfl | rfl
  · cases hb
    refine Ft840.tuning_inRange (fun range hrange => ?_) h ht
    cases region <;> (cases List.mem_singleton.1 hrange; decide)
  · cases hb
    refine Newcat.tuning_inRange (fun v hv => ?_) h ht
    cases v <;> revert hv <;> decide
  · obtain ⟨bus, rfl⟩ := civ_backend hb
    exact Civ.tuning_inRange h ht
  · obtain ⟨bus, rfl⟩ := civ_backend hb
    exact Civ.tuning_inRange h ht
  · cases hb
    exact Tmd710.tuning_inRange h ht
  · cases hb
    have honly : ∀ v ∈ Models.ekd500.vfos, v = .a := fun v hv => by
      cases v <;> revert hv <;> decide
    refine Ekd500.tuning_inRange (fun v hv => ?_) (fun range hrange => ?_) h ht
    · rw [honly v hv, honly k.vfo hk.mem]
    · cases region <;> (cases List.mem_singleton.1 hrange; decide)

namespace Rig

variable {σ α : Type} [Link σ] {e : Entry} {config : Config} {link : σ} {r s : Rig σ}

/-- **A registered model is tuned only to what its receive ranges allow**: the events of an operation
are all its traffic, and whenever a frame in them tunes, its field reads back as a frequency that is in
range for the VFO that the frame names, or else for the one that is selected at that moment. -/
theorem tuned_in_range (he : e ∈ Registry.standard.entries) (hc : e.create config link = .ok r)
    (h : r.Reaches s) (op : Operation α) :
    ((perform op).run s).2.session.engine =
        (s.history op).foldl Event.replay s.session.engine ∧
      ∀ (k : Tracking) (q : Request) (o : Outcome (List UInt8)) (t : Tuning),
        .exchange k q o ∈ s.history op → s.backend.tuning? q.frame = some t →
          ∃ hz, t.hz = .ok hz ∧
            e.descriptor.checkRxFrequency config.region (t.vfo.getD k.vfo) hz = .ok () := by
  obtain ⟨hb, hd, hr⟩ := Reaches.of_create hc h
  refine ⟨perform_engine op, fun k q o t hx ht => ?_⟩
  obtain ⟨hk, hsends⟩ := history_allowed (h.declared_of_standard he hc) hx
  rw [Backend.contract_keeps, hd] at hk
  rw [hd, hr] at hsends
  exact Registry.tuning_inRange he hb hk hsends ht

/-- An FT-840 is sent to VFO B and takes the last digit off the frequency there. -/
theorem tuned_in_range_ft840 :
    let e : Entry := ⟨Models.ft840, .ft840⟩
    let link : ScriptedLink := { script :=
      [⟨[0, 0, 0, 1, 0x05], []⟩, ⟨[0x00, 0x55, 0x42, 0x01, 0x0A], []⟩] }
    let r : Rig ScriptedLink := ⟨.ft840, .start Models.ft840 {} link⟩
    let s := ((perform (.setVfo .b)).run r).2
    let q : Request :=
      { operation := "set_freq", frame := [0x00, 0x55, 0x42, 0x01, 0x0A], reply := .none }
    e ∈ Registry.standard.entries ∧ e.create {} link = .ok r ∧ r.Reaches s ∧
      .exchange s.session.known q (.ok []) ∈ s.history (.setFrequency .current 14255005) ∧
      s.session.known.vfo = .b ∧
      ∃ hz, some (.ok hz) = (s.backend.tuning? q.frame).map Tuning.hz ∧
        Models.ft840.checkRxFrequency .one .b hz = .ok () := by
  intro e link r s q
  have he : e ∈ Registry.standard.entries := by decide +kernel
  have hc : e.create {} link = .ok r := rfl
  have hs : r.Reaches s := .perform _ .refl
  have hx : .exchange s.session.known q (.ok []) ∈
      s.history (.setFrequency .current 14255005) := by decide +kernel
  have hv : s.session.known.vfo = .b := by decide +kernel
  have ht : s.backend.tuning? q.frame = some { hz := .ok 14255000 } := by decide +kernel
  obtain ⟨hz, hread, hrange⟩ := (tuned_in_range he hc hs _).2 _ q _ _ hx ht
  refine ⟨he, hc, hs, hx, hv, hz, ?_, ?_⟩
  · rw [ht, ← hread]
    rfl
  · rw [← hv]
    exact hrange

end Rig

end RigControl
