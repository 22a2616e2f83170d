/-
Rigs that are addressed directly. The newer Yaesu rigs and the TM-D710 say in each command about a
frequency or a mode which VFO it is about. Callers can work on one VFO while another one is selected:
only the operations about the selection move it or speak of it, and everything else is sent with the
name of the VFO that is meant (`Rig.addressed_directly`).
-/
import RigControl.Proofs.Addressing.Newcat
import RigControl.Proofs.Addressing.Tmd710
import RigControl.Proofs.Refused

namespace RigControl

/-- How a family is addressed, if its commands say which VFO they are about. -/
def Family.addressing? : Family → Option Addressing
  | newcat => some Newcat.addressing
  | tmd710 => some Tmd710.addressing
  | ft840 | civ | ekd500 => none

/-- A registered model keeps to its addressing. -/
theorem Registry.respond_addresses {α : Type} {e : Entry} {config : Config} {b : Backend}
    {a : Addressing} {k : Tracking} {op : Operation α} (he : e ∈ standard.entries)
    (ha : e.family.addressing? = some a) (hb : e.family.backend e.descriptor config = .ok b)
    (hk : k.Declared e.descriptor) (hop : op.isSelection = false) :
    (b.respond e.descriptor config op).Obeys (a.contract k op) k fun _ _ => True := by
  have hmem := mem_standard he
  simp only [List.mem_cons, List.not_mem_nil, or_false] at hmem
  rcases hmem with rfl | rfl | rfl | rfl | rfl | rfl
  · cases ha
  · cases ha
    cases hb
    refine Newcat.respond_addresses (fun v hv => ?_) hk hop
    cases v <;> revert hv <;> decide
  · cases ha
  · cases ha
  · cases ha
    cases hb
    exact Tmd710.respond_addresses hop
  · cases ha

namespace Rig

variable {σ α : Type} [Link σ] {e : Entry} {config : Config} {link : σ} {r s : Rig σ} {a : Addressing}

/-- **A rig that is addressed directly keeps its selection.** The events of an operation are all its
traffic. Unless the operation is about the selection, the selected VFO stays, whatever the link does, and
no frame begins with the mnemonic of the selection. An access to the frequency or the mode of a VFO sends
only frames that name this VFO, where `current` stands for the selected one. -/
theorem addressed_directly (he : e ∈ Registry.standard.entries)
    (ha : e.family.addressing? = some a) (hc : e.create config link = .ok r) (h : r.Reaches s)
    (op : Operation α) :
    ((perform op).run s).2.session.engine =
        (s.history op).foldl Event.replay s.session.engine ∧
      (op.isSelection = false →
        ((perform op).run s).2.session.known.vfo = s.session.known.vfo ∧
          ∀ (k : Tracking) (q : Request) (o : Outcome (List UInt8)),
            .exchange k q o ∈ s.history op →
              ¬ Text.utf8 a.selector.toList <+: q.frame ∧
                ∀ access v, op.access? = some (access, v) →
                  a.Names access (s.session.known.resolve v) q.frame) := by
  refine ⟨perform_engine op, fun hop => ?_⟩
  obtain ⟨hb, hd, hr⟩ := Reaches.of_create hc h
  have hk := h.declared_of_standard he hc
  rw [hd] at hk
  have hobeys := Registry.respond_addresses he ha hb hk hop
  rw [← hd, ← hr] at hobeys
  have hkept := perform_wp hobeys
  refine ⟨hkept.keeps, fun k q o hx => ?_⟩
  have hallowed : a.Allows s.session.known op q.frame := (hkept.sends _ hx).2
  exact ⟨hallowed.spares, hallowed.names⟩

/-- On an FT-DX101D that has VFO B selected, the frequency of VFO A is read. -/
theorem addressed_directly_ftDx101d :
    let e : Entry := ⟨Models.ftDx101d, .newcat⟩
    let link : ScriptedLink := { script := [⟨Text.utf8 "VS1;".toList, []⟩,
      ⟨Text.utf8 "FA;".toList, Text.utf8 "FA014250000;".toList⟩] }
    let r : Rig ScriptedLink := ⟨.newcat, .start Models.ftDx101d {} link⟩
    let s := ((perform (.setVfo .b)).run r).2
    let t := (perform (.getFrequency .a)).run s
    let q := (Newcat.query "get_freq" "FA").about .a
    let reply := Text.utf8 "FA014250000;".toList
    e ∈ Registry.standard.entries ∧ e.family.addressing? = some Newcat.addressing ∧
      e.create {} link = .ok r ∧ r.Reaches s ∧ (Operation.getFrequency .a).isSelection = false ∧
      .exchange s.session.known q (.ok reply) ∈ s.history (.getFrequency .a) ∧
      t.1 = .ok 14250000 ∧ s.session.known.vfo = .b ∧ t.2.session.known.vfo = .b ∧
      Newcat.addressing.Names .frequency .a q.frame := by
  intro e link r s t q reply
  have he : e ∈ Registry.standard.entries := by decide +kernel
  have hc : e.create {} link = .ok r := rfl
  have hs : r.Reaches s := .perform _ .refl
  have hx : .exchange s.session.known q (.ok reply) ∈ s.history (.getFrequency .a) := by decide +kernel
  have hread : t.1 = .ok 14250000 := by decide +kernel
  have hv : s.session.known.vfo = .b := by decide +kernel
  obtain ⟨-, hkept⟩ := addressed_directly he rfl hc hs (.getFrequency .a)
  obtain ⟨hvfo, hframes⟩ := hkept rfl
  exact ⟨he, rfl, hc, hs, rfl, hx, hread, hv, hvfo.trans hv, (hframes _ q _ hx).2 .frequency .a rfl⟩

end Rig

end RigControl
