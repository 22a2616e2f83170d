/-
Payloads of CI-V requests. The bus keeps the bytes from 0xFA up for itself. None of them stands behind
the command of a request (`Bus.Says`), so that its frame ends with its terminator and nowhere before. Most
payloads are packed decimals, whose bytes stay below 0x9A.
-/
import RigControl.Civ.Operations
import RigControl.Proofs.PackedDecimal
import RigControl.Proofs.Steps

namespace RigControl

namespace Civ

/-- The bus keeps none of these bytes for itself. -/
def Clear (bytes : List UInt8) : Prop :=
  ∀ a ∈ bytes, a < 0xFA

instance {bytes : List UInt8} : Decidable (Clear bytes) :=
  List.decidableBAll (· < 0xFA) bytes

theorem Clear.append {bytes more : List UInt8} (h : Clear bytes) (h' : Clear more) :
    Clear (bytes ++ more) := by
  intro a ha
  rcases List.mem_append.1 ha with ha | ha
  · exact h a ha
  · exact h' a ha

theorem clear_singleton {a : UInt8} : Clear [a] ↔ a < 0xFA := by
  simp [Clear]

end Civ

namespace Bcd

open Civ

variable {v n : Nat} {bytes : List UInt8}

theorem pair_lt {high low : Nat} (hh : high < 10) (hl : low < 10) : pair high low < 0xFA := by
  have hnat : (pair high low).toNat = 16 * high + low := toNat_pair high low hh hl
  rw [UInt8.lt_iff_toNat_lt, hnat, show (0xFA : UInt8).toNat = 250 from rfl]
  omega

theorem packLow_clear : Clear (packLow v n) := by
  fun_induction packLow v n with
  | case1 =>
    intro a ha
    cases ha
  | case2 v => exact clear_singleton.2 (pair_lt (by omega) (by omega))
  | case3 v n ih => exact .append (clear_singleton.2 (pair_lt (by omega) (by omega))) ih

theorem packHigh_clear : Clear (packHigh v n) := by
  fun_induction packHigh v n with
  | case1 =>
    intro a ha
    cases ha
  | case2 v => exact clear_singleton.2 (pair_lt (by omega) (by omega))
  | case3 v n ih => exact .append ih (clear_singleton.2 (pair_lt (by omega) (by omega)))

theorem encodeLow_clear (h : encodeLow v n = .ok bytes) : Clear bytes := by
  obtain ⟨-, -, h⟩ := Outcome.bind_eq_ok.1 h
  cases h
  exact packLow_clear

theorem encodeHigh_clear (h : encodeHigh v n = .ok bytes) : Clear bytes := by
  obtain ⟨-, -, h⟩ := Outcome.bind_eq_ok.1 h
  cases h
  exact packHigh_clear

end Bcd

namespace Civ

theorem encodeByte_lt {value byte : UInt8} (h : encodeByte value = .ok byte) : byte < 0xFA := by
  obtain ⟨bytes, hbytes, rfl⟩ := Outcome.map_eq_ok.1 h
  cases bytes with
  | nil => decide
  | cons a bytes => exact Bcd.encodeHigh_clear hbytes a List.mem_cons_self

theorem mapM_encodeByte_clear {values bytes : List UInt8} (h : values.mapM encodeByte = .ok bytes) :
    Clear bytes := by
  induction values generalizing bytes with
  | nil =>
    cases h
    nofun
  | cons value values ih =>
    obtain ⟨a, rest, ha, hrest, rfl⟩ := Outcome.mapM_cons_eq_ok.1 h
    exact .append (clear_singleton.2 (encodeByte_lt ha)) (ih hrest)

theorem length_mapM_encodeByte {values bytes : List UInt8} (h : values.mapM encodeByte = .ok bytes) :
    bytes.length = values.length := by
  induction values generalizing bytes with
  | nil =>
    cases h
    rfl
  | cons value values ih =>
    obtain ⟨a, rest, -, hrest, rfl⟩ := Outcome.mapM_cons_eq_ok.1 h
    exact congrArg (· + 1) (ih hrest)

theorem modeCode_lt (m : Mode) : modeCode m < 0xFA := by
  cases m <;> decide

theorem code_lt (slot : FilterSlot) : slot.code < 0xFA := by
  cases slot <;> decide

/-! ## Requests -/

/-- The request says a command, and a clear payload with it. -/
inductive Bus.Says (b : Bus) (command : UInt8) (r : Request) : Prop
  | intro (operation : String) (payload : List UInt8) (clear : Clear payload)
      (eq : r = b.request operation command payload)

namespace Bus.Says

variable {b : Bus} {d : Descriptor} {region : Region} {r : Request}

theorem read {operation : String} {t : Topic} (ht : Clear t.sub) :
    b.Says t.command (b.read operation t) :=
  .intro operation t.sub ht rfl

theorem write {operation : String} {t : Topic} {data : List UInt8} (ht : Clear t.sub)
    (hdata : Clear data) : b.Says t.command (b.write operation t data) :=
  .intro operation (t.sub ++ data) (ht.append hdata) rfl

theorem setFrequency {hz : Nat} (h : b.setFrequency hz = .ok r) : b.Says 0x05 r := by
  obtain ⟨digits, hdigits, h⟩ := Outcome.bind_eq_ok.1 h
  cases h
  exact .intro _ digits (Bcd.encodeLow_clear hdigits) rfl

theorem setMode {m : Mode} {slot : Option FilterSlot} : b.Says 0x06 (b.setMode m slot) := by
  refine .intro _ _ (.append (clear_singleton.2 (modeCode_lt m)) ?_) rfl
  cases slot with
  | none => nofun
  | some slot => exact clear_singleton.2 (code_lt slot)

theorem setDataMode {on : Bool} {slot : FilterSlot} : b.Says 0x1A (b.setDataMode on slot) := by
  refine .write (t := .dataMode) (by decide) ?_
  cases on with
  | false => exact show Clear [0x00, 0x00] by decide
  | true => exact .append (clear_singleton.2 (by decide)) (clear_singleton.2 (code_lt slot))

theorem modeRequests {m : Mode} {width : Option Passband}
    (h : r ∈ modeRequests b d region m width) : b.Says 0x06 r ∨ b.Says 0x1A r := by
  rw [Civ.modeRequests, List.mem_cons, Option.mem_toList] at h
  rcases h with rfl | h
  · exact .inl setMode
  · unfold dataModeRequest at h
    split at h
    · cases h
      exact .inr setDataMode
    · split at h <;> cases h
      exact .inr setDataMode

theorem scan {o : ScanOp} : b.Says 0x0E (b.scan o) := by
  cases o <;> exact .intro _ _ (by decide) rfl

theorem setSplit {on : Bool} : b.Says 0x0F (b.setSplit on) :=
  .write (t := .split) (by decide) (by cases on <;> decide)

theorem setPtt {on : Bool} : b.Says 0x1C (b.setPtt on) :=
  .write (t := .ptt) (by decide) (by cases on <;> decide)

theorem setAttenuator {raw : UInt8} (h : b.setAttenuator raw = .ok r) : b.Says 0x11 r := by
  obtain ⟨byte, hbyte, h⟩ := Outcome.bind_eq_ok.1 h
  cases h
  exact .write (t := .attenuator) (by decide) (clear_singleton.2 (encodeByte_lt hbyte))

theorem setPreamp {index : UInt8} (h : index < 0xFA) : b.Says 0x16 (b.setPreamp index) :=
  .write (t := .preamp) (by decide) (clear_singleton.2 h)

theorem setRfPower {raw : Nat} (h : b.setRfPower raw = .ok r) : b.Says 0x14 r := by
  obtain ⟨digits, hdigits, h⟩ := Outcome.bind_eq_ok.1 h
  cases h
  exact .write (t := .rfPower) (by decide) (Bcd.encodeHigh_clear hdigits)

theorem setClock {t : ClockTime} {requests : List Request} (h : b.setClock t = .ok requests)
    (hr : r ∈ requests) : b.Says 0x1A r := by
  obtain ⟨-, -, h⟩ := Outcome.bind_eq_ok.1 h
  obtain ⟨date, hdate, h⟩ := Outcome.bind_eq_ok.1 h
  obtain ⟨time, htime, h⟩ := Outcome.bind_eq_ok.1 h
  obtain ⟨zone, hzone, h⟩ := Outcome.bind_eq_ok.1 h
  cases h
  simp only [List.mem_cons, List.not_mem_nil, or_false] at hr
  rcases hr with rfl | rfl | rfl
  · exact .write (t := .clockDate) (by decide) (mapM_encodeByte_clear hdate)
  · exact .write (t := .clockTime) (by decide) (mapM_encodeByte_clear htime)
  · refine .write (t := .clockOffset) (by decide) (.append (mapM_encodeByte_clear hzone) ?_)
    split <;> decide

end Bus.Says

/-- The place of a step is within the list. -/
theorem stepToIndex_lt {steps : List UInt8} {db index : UInt8} (hsteps : steps.length < 0xFA)
    (h : stepToIndex steps db = .ok index) : index < 0xFA := by
  by_cases hdb : db = 0
  · rw [hdb, stepToIndex_zero] at h
    cases h
    decide
  · obtain ⟨i, hfound, hindex⟩ := (stepToIndex_eq_ok (by omega) hdb).1 h
    obtain ⟨hlt, -⟩ := List.idxOf?_eq_some_iff.1 hfound
    have hbound : (0xFA : UInt8).toNat = 0xFA := rfl
    rw [UInt8.lt_iff_toNat_lt]
    omega

/-- The requests for levels, on a model with not too many preamplifier steps. -/
theorem Bus.Says.levelRequest {b : Bus} {d : Descriptor} {l : Level} {value : LevelValue} {r : Request}
    (hd : d.preamp.length < 0xFA) (h : levelRequest b d l value = .ok r) :
    b.Says 0x11 r ∨ b.Says 0x16 r ∨ b.Says 0x14 r := by
  unfold Civ.levelRequest at h
  split at h
  · obtain ⟨db, -, h⟩ := Outcome.bind_eq_ok.1 h
    obtain ⟨raw, -, h⟩ := Outcome.bind_eq_ok.1 h
    exact .inl (setAttenuator h)
  · obtain ⟨db, -, h⟩ := Outcome.bind_eq_ok.1 h
    obtain ⟨index, hindex, h⟩ := Outcome.bind_eq_ok.1 h
    cases h
    exact .inr (.inl (setPreamp (stepToIndex_lt hd hindex)))
  · obtain ⟨raw, -, h⟩ := Outcome.bind_eq_ok.1 h
    exact .inr (.inr (setRfPower h))
  · cases h

end Civ

end RigControl
