/-
How the TM-D710 is addressed. The first field of a frequency command is the number of the band.
-/
import RigControl.Proofs.Addressing.Basic
import RigControl.Proofs.NumberCommands
import RigControl.Tmd710.Operations

namespace RigControl.Tmd710

open Outcome

/-- The digits of the two bands. -/
def digit? : Vfo → Option Char
  | .a => some '0'
  | .b => some '1'
  | _ => none

def addressing : Addressing where
  selector := "BC"
  Names access v frame := access = .frequency ∧ ∃ digit ∈ digit? v, ∃ rest,
    AsciiFrame.crSpaced.fields "FO" frame = .ok ([digit] :: rest)

variable {α : Type} {d : Descriptor} {k k' : Tracking} {op : Operation α} {v : Vfo} {r : Request}

/-! ## Frames -/

theorem band_eq {n : Nat} (h : band v = .ok n) : ∃ digit ∈ digit? v, Text.zeroPadded 1 n = [digit] := by
  cases v <;> cases h
  · exact ⟨'0', rfl, rfl⟩
  · exact ⟨'1', rfl, rfl⟩

/-- A frequency command whose first field is the number of a band. -/
theorem allows_of_command {operation : String} {n : Nat} {fields : List Field}
    (hn : band (k.resolve v) = .ok n) (hclear : ∀ x ∈ fields, ' ' ∉ x.shown)
    (hop : op.access? = some (.frequency, v))
    (h : command operation "FO" (.num n 1 :: fields) = .ok r) : addressing.Allows k op r.frame := by
  obtain ⟨-, hr⟩ := command_eq_ok.1 h
  have hframe := congrArg Request.frame hr
  rw [List.map_cons, Field.shown] at hframe
  constructor
  · rw [hframe, AsciiFrame.commandText, List.append_assoc]
    exact Addressing.spares_of_mnemonic (by decide) (by decide)
  · intro access v' hv
    cases hop.symm.trans hv
    obtain ⟨digit, hdigit, hshown⟩ := band_eq hn
    refine ⟨rfl, digit, hdigit, fields.map Field.shown, ?_⟩
    rw [hframe, hshown]
    refine AsciiFrame.fields_self rfl ?_
    rw [List.forall_mem_cons, List.forall_mem_map, ← hshown]
    exact ⟨zeroPadded_clear, hclear⟩

theorem allows_readFrequency (hop : op.access? = some (.frequency, v))
    (h : readFrequency (k.resolve v) = .ok r) : addressing.Allows k op r.frame := by
  obtain ⟨n, hn, h⟩ := bind_eq_ok.1 h
  obtain ⟨r', hr, h⟩ := bind_eq_ok.1 h
  cases h
  exact allows_of_command (r := r') hn (by simp) hop hr

theorem allows_setFrequency {hz : Nat} (hop : op.access? = some (.frequency, v))
    (h : setFrequency (k.resolve v) hz = .ok r) : addressing.Allows k op r.frame := by
  obtain ⟨n, hn, h⟩ := bind_eq_ok.1 h
  obtain ⟨r', hr, h⟩ := bind_eq_ok.1 h
  cases h
  refine allows_of_command (r := r') hn ?_ hop hr
  rw [List.forall_mem_singleton]
  exact zeroPadded_clear

/-! ## Operations -/

theorem exchangeFrequency_addresses (hr : addressing.Allows k op r.frame) :
    (exchangeFrequency v r).Obeys (addressing.contract k op) k fun _ _ => True := by
  refine .bind (Addressing.ask rfl hr) fun reply k' hk _ => ?_
  refine Addressing.lift_bind hk fun (_, _) _ => Addressing.lift_bind hk fun _ _ => ?_
  exact .pure hk trivial

theorem getFrequency_addresses (hop : op.access? = some (.frequency, v)) :
    (getFrequency d v).Obeys (addressing.contract k op) k fun _ _ => True := by
  refine Addressing.lift_bind rfl fun _ _ => .known_bind (Addressing.lift_bind rfl fun r hr => ?_)
  exact exchangeFrequency_addresses (allows_readFrequency hop hr)

theorem setFrequencyOf_addresses {region : Region} {hz : Nat}
    (hop : op.access? = some (.frequency, v)) :
    (setFrequencyOf d region v hz).Obeys (addressing.contract k op) k fun _ _ => True := by
  refine Addressing.lift_bind rfl fun _ _ => .known_bind (Addressing.lift_bind rfl fun _ _ => ?_)
  refine Addressing.lift_bind rfl fun r hr => ?_
  exact .discard (exchangeFrequency_addresses (allows_setFrequency hop hr)) fun _ _ _ _ => trivial

/-- **The TM-D710 leaves the selection alone** unless the operation is about it. -/
theorem respond_addresses {config : Config} (hop : op.isSelection = false) :
    (respond d config op).Obeys (addressing.contract k op) k fun _ _ => True := by
  cases op with
  | start => exact .pure rfl trivial
  | close => exact .hangUp rfl (.pure rfl trivial)
  | getFrequency v => exact getFrequency_addresses rfl
  | setFrequency v hz => exact setFrequencyOf_addresses rfl
  | getVfo => cases hop
  | setVfo v => cases hop
  | _ => exact Addressing.fail rfl

end RigControl.Tmd710
