/-
The registered models. Each is one of the listed ones and sound, and has what its family takes for
granted.
-/
import RigControl.Proofs.Traffic
import RigControl.Rig.Registry

namespace RigControl

namespace Registry

variable {e x : Entry} {l : List Entry}

theorem mem_insertInto (h : x ∈ insertInto l e) : x = e ∨ x ∈ l := by
  induction l with
  | nil => simpa [insertInto] using h
  | cons first rest ih =>
    unfold insertInto at h
    split at h
    · simpa using h
    · split at h
      · exact .inr h
      · rw [List.mem_cons] at h ⊢
        rcases h with h | h
        · exact .inr (.inl h)
        · exact (ih h).imp_right .inr

theorem mem_register {r : Registry} (h : x ∈ (r.register e).entries) :
    (x = e ∧ x.descriptor.validate = .ok ()) ∨ x ∈ r.entries := by
  unfold register at h
  split at h
  · rename_i hvalid
    rcases mem_insertInto h with rfl | h
    · cases hval : x.descriptor.validate with
      | ok u => exact .inl ⟨rfl, rfl⟩
      | error err =>
        rw [hval] at hvalid
        cases hvalid
    · exact .inr h
  · exact .inr h

/-- Registering some models adds none but sound ones of them. -/
theorem mem_foldl_register {r : Registry} (h : x ∈ (l.foldl register r).entries) :
    (x ∈ l ∧ x.descriptor.validate = .ok ()) ∨ x ∈ r.entries := by
  induction l generalizing r with
  | nil => exact .inr h
  | cons e l ih =>
    rcases ih h with ⟨hl, hvalid⟩ | h
    · exact .inl ⟨List.mem_cons_of_mem _ hl, hvalid⟩
    · rcases mem_register h with ⟨rfl, hvalid⟩ | h
      · exact .inl ⟨List.mem_cons_self, hvalid⟩
      · exact .inr h

/-- What is in a table was listed and is sound. -/
theorem mem_ofList (h : e ∈ (ofList l).entries) : e ∈ l ∧ e.descriptor.validate = .ok () := by
  rcases mem_foldl_register h with h | h
  · exact h
  · cases h

theorem mem_standard (h : e ∈ standard.entries) :
    e ∈ [⟨Models.ft840, .ft840⟩, ⟨Models.ftDx101d, .newcat⟩, ⟨Models.ic7800, .civ⟩,
      ⟨Models.ic275, .civ⟩, ⟨Models.tmD710, .tmd710⟩, ⟨Models.ekd500, .ekd500⟩] :=
  (mem_ofList h).1

theorem civ_backend {d : Descriptor} {config : Config} {b : Backend}
    (h : Family.civ.backend d config = .ok b) : ∃ bus, b = .civ bus := by
  cases ha : config.addressFor d with
  | some address =>
    simp only [Family.backend, ha, Except.ok.injEq] at h
    exact ⟨_, h.symm⟩
  | none =>
    simp [Family.backend, ha] at h

/-- Every registered model suits its family. -/
theorem standard_firm {config : Config} {region : Region} {b : Backend} (h : e ∈ standard.entries)
    (hb : e.family.backend e.descriptor config = .ok b) :
    (b.contract e.descriptor region).firm := by
  have h := mem_standard h
  simp only [List.mem_cons, List.not_mem_nil, or_false] at h
  rcases h with rfl | rfl | rfl | rfl | rfl | rfl
  · cases hb
    exact show ∀ v ∈ [Vfo.a, .b, .memory], v ∈ Models.ft840.vfos by decide
  · cases hb
    exact show Newcat.Suits _ from ⟨by decide, fun _ => rfl⟩
  · obtain ⟨bus, rfl⟩ := civ_backend hb
    exact fun _ => show Vfo.memory ∈ Models.ic7800.vfos by decide
  · obtain ⟨bus, rfl⟩ := civ_backend hb
    exact fun _ => show Vfo.memory ∈ Models.ic275.vfos by decide
  · cases hb
    exact show ∀ v ∈ [Vfo.a, .b], v ∈ Models.tmD710.vfos by decide
  · cases hb
    trivial

end Registry

end RigControl
