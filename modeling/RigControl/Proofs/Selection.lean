/-
The selected VFO. A sound descriptor declares a VFO to start with, `current` is never one of them, and
selecting refuses whatever the descriptor lacks, so that the selected VFO stays a declared one.
-/
import RigControl.Capability.Validation
import RigControl.Proofs.Contract

namespace RigControl

theorem Descriptor.checkVfo_ok {d : Descriptor} {v : Vfo} :
    d.checkVfo v = .ok () ↔ v = .current ∨ v ∈ d.vfos := by
  unfold checkVfo
  by_cases h : v = .current ∨ v ∈ d.vfos <;> simp [h]

theorem Descriptor.checkMember_ok {α : Type} [Enumeration α] {s : Flags α} {a : α} {what : String} :
    checkMember s a what = .ok () ↔ a ∈ s := by
  unfold checkMember
  split <;> simp_all

theorem Descriptor.vfos_of_validate {d : Descriptor} (h : d.validate = .ok ()) :
    d.vfos.isEmpty = false ∧ Vfo.current ∉ d.vfos := by
  rw [validate, Outcome.mapError_eq_ok] at h
  unfold flaw at h
  by_cases he : d.vfos.isEmpty = true
  · simp [he] at h
  by_cases hc : d.vfos.contains .current = true
  · simp [he, hc] at h
  exact ⟨by simpa using he, hc⟩

namespace Tracking

variable {d : Descriptor} {k k' : Tracking} {v : Vfo}

/-- The selected VFO is one that the model declares. -/
structure Declared (d : Descriptor) (k : Tracking) : Prop where
  mem : k.vfo ∈ d.vfos
  ne_current : k.vfo ≠ .current

@[simp] theorem resolve_current : k.resolve .current = k.vfo := rfl

theorem resolve_of_ne (h : v ≠ .current) : k.resolve v = v := if_neg h

/-- The VFO that was selected is the one that is meant. -/
theorem resolve_selected : ({ k with vfo := k.resolve v } : Tracking).resolve v = k.resolve v := by
  by_cases hv : v = .current
  · rw [hv, resolve_current]
  · rw [resolve_of_ne hv, resolve_of_ne hv]

theorem checkVfo_of_resolve (h : d.checkVfo (k.resolve v) = .ok ()) : d.checkVfo v = .ok () := by
  by_cases hv : v = .current
  · exact Descriptor.checkVfo_ok.2 (.inl hv)
  · rwa [resolve_of_ne hv] at h

theorem select_ok : k.select d v = .ok k' ↔
    d.checkVfo (k.resolve v) = .ok () ∧ { k with vfo := k.resolve v } = k' := by
  rw [select, Outcome.bind_eq_ok]
  exact ⟨fun ⟨(), hv, h⟩ => ⟨hv, Outcome.pure_eq_ok.1 h⟩, fun ⟨hv, h⟩ => ⟨(), hv, Outcome.pure_eq_ok.2 h⟩⟩

/-- A VFO that the model accepts can be selected. -/
theorem select_neverRefuses (h : d.checkVfo (k.resolve v) = .ok ()) :
    (k.select d v).NeverRefuses := by
  rw [select, h]
  exact Outcome.neverRefuses_ok

/-- What is assumed at first is declared. -/
theorem initial_declared (h : d.validate = .ok ()) : (initial d).Declared d := by
  obtain ⟨hne, hcur⟩ := Descriptor.vfos_of_validate h
  have hmem : ∀ {v}, v ∈ d.vfos.toList ↔ v ∈ d.vfos := by
    intro v
    rw [Flags.toList, List.mem_filter, Flags.mem_iff]
    exact and_iff_right (by cases v <;> decide)
  cases hf : d.vfos.toList.find? (· ≠ .current) with
  | some v =>
    have hi : (initial d).vfo = v := by rw [initial, hf]; rfl
    have hv := List.find?_some hf
    have hm := List.mem_of_find?_eq_some hf
    exact ⟨hi ▸ hmem.1 hm, by simpa [hi] using hv⟩
  | none =>
    obtain ⟨v, rest, hl⟩ := List.exists_cons_of_ne_nil
      (show d.vfos.toList ≠ [] by simpa [Flags.isEmpty] using hne)
    have hm : v ∈ d.vfos.toList := hl ▸ List.mem_cons_self
    have hv : v = .current := by simpa using List.find?_eq_none.1 hf v hm
    exact absurd (hmem.1 (hv ▸ hm)) hcur

theorem Declared.resolve_ne_current (hk : k.Declared d) : k.resolve v ≠ .current := by
  by_cases hcur : v = .current
  · rw [hcur, resolve_current]
    exact hk.ne_current
  · rwa [resolve_of_ne hcur]

theorem Declared.resolve_self (hk : k.Declared d) : k.resolve k.vfo = k.vfo :=
  resolve_of_ne hk.ne_current

/-- A VFO that the model accepts is declared once it is resolved. -/
theorem Declared.resolve_mem (hk : k.Declared d) (hv : d.checkVfo v = .ok ()) :
    k.resolve v ∈ d.vfos := by
  by_cases hcur : v = .current
  · rw [hcur, resolve_current]
    exact hk.mem
  · rw [resolve_of_ne hcur]
    exact (Descriptor.checkVfo_ok.1 hv).resolve_left hcur

theorem Declared.mem_of_checked (hk : k.Declared d) (hv : d.checkVfo (k.resolve v) = .ok ()) :
    k.resolve v ∈ d.vfos :=
  (Descriptor.checkVfo_ok.1 hv).resolve_left hk.resolve_ne_current

/-- Selecting keeps to the declared VFOs. -/
theorem Declared.select (hk : k.Declared d) (h : k.select d v = .ok k') : k'.Declared d := by
  obtain ⟨hv, rfl⟩ := select_ok.1 h
  have hne : k.resolve v ≠ .current := hk.resolve_ne_current
  exact ⟨(Descriptor.checkVfo_ok.1 hv).resolve_left hne, hne⟩

end Tracking

/-- The contract to keep the selection declared and to make some requests. -/
def Descriptor.contract (d : Descriptor) (sends : Tracking → Request → Prop) (firm : Prop) :
    Contract where
  keeps k := k.Declared d
  sends := sends
  firm := firm

/-- A VFO that the model has is selected without fail. -/
theorem Dialogue.selected_obeys {d : Descriptor} {sends : Tracking → Request → Prop} {firm : Prop}
    {k : Tracking} {v : Vfo} (hk : k.Declared d) (hne : v ≠ .current) (hv : firm → v ∈ d.vfos) :
    (selected d v).Obeys (d.contract sends firm) k fun _ k' => k'.vfo = v := by
  refine .selected hk (fun hfirm => Tracking.select_neverRefuses ?_) fun k' h => ⟨hk.select h, ?_⟩
  · rw [Tracking.resolve_of_ne hne]
    exact Descriptor.checkVfo_ok.2 (.inr (hv hfirm))
  · obtain ⟨-, rfl⟩ := Tracking.select_ok.1 h
    exact Tracking.resolve_of_ne hne

end RigControl
