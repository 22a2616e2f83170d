/-
What the TM-D710 is sent. Each band is tuned by its number, so that a frequency is checked for the band
that the frame names. Only the commands of band control move the selection.
-/
import RigControl.Proofs.Decoding
import RigControl.Proofs.Selection
import RigControl.Tmd710.Operations

namespace RigControl.Tmd710

open Outcome

/-- The requests of the TM-D710, with what is known about it. -/
inductive Sends (d : Descriptor) (region : Region) (r : Request) : Prop
  | readControl (h : r = readBandControl)
  | control (v : Vfo) (h : setBandControl v = .ok r)
  | read (v : Vfo) (h : readFrequency v = .ok r)
  | tune (v : Vfo) (hz : Nat) (h : setFrequency v hz = .ok r)
      (hc : d.checkRxFrequency region v hz = .ok ())

/-- The model has both bands. -/
def Suits (d : Descriptor) : Prop :=
  ∀ v ∈ [Vfo.a, .b], v ∈ d.vfos

/-- Every operation keeps the selection declared and sends these requests. -/
def contract (d : Descriptor) (region : Region) : Contract :=
  d.contract (fun _ => Sends d region) (Suits d)

variable {d : Descriptor} {region : Region} {k : Tracking} {v : Vfo} {r : Request}

/-! ## Answers -/

theorem fields_neverRefuses {mnemonic : String} {reply : List UInt8} :
    NeverRefuses (fields mnemonic reply) := by
  unfold fields
  repeat' split
  · simp [Error.isRefusal]
  · simp [Error.isRefusal]
  · exact AsciiFrame.fields_neverRefuses

theorem bandField_neverRefuses {field : List Char} : NeverRefuses (bandField field) := by
  refine Text.parseDecimal_neverRefuses.bind fun n _ => ?_
  split
  · unfold vfoOfBand
    split <;> simp [Error.isRefusal]
  · simp [Error.isRefusal]

theorem parseBandControl_neverRefuses {reply : List UInt8} :
    NeverRefuses (parseBandControl reply) := by
  refine fields_neverRefuses.bind fun l _ => ?_
  split
  · exact bandField_neverRefuses.bind fun _ _ => bandField_neverRefuses.bind fun _ _ =>
      neverRefuses_pure
  · simp [Error.isRefusal]

theorem parseFrequency_neverRefuses {reply : List UInt8} :
    NeverRefuses (parseFrequency reply) := by
  refine fields_neverRefuses.bind fun l _ => ?_
  split
  · exact bandField_neverRefuses.bind fun _ _ => Text.parseDecimal_neverRefuses.bind fun _ _ =>
      neverRefuses_pure
  · simp [Error.isRefusal]

theorem checkBand_ok {asked reported : Vfo} : checkBand asked reported = .ok () ↔ asked = reported := by
  unfold checkBand
  split <;> simp_all

theorem checkBand_neverRefuses {asked reported : Vfo} :
    NeverRefuses (checkBand asked reported) := by
  unfold checkBand
  split <;> simp [Error.isRefusal]

theorem bandField_mem {field : List Char} (h : bandField field = .ok v) : v ∈ [Vfo.a, .b] := by
  obtain ⟨n, -, h⟩ := bind_eq_ok.1 h
  split at h
  · unfold vfoOfBand at h
    split at h <;> cases h <;> decide
  · cases h

theorem parseBandControl_mem {reply : List UInt8} {control ptt : Vfo}
    (h : parseBandControl reply = .ok (control, ptt)) : control ∈ [Vfo.a, .b] := by
  obtain ⟨l, -, h⟩ := bind_eq_ok.1 h
  split at h
  · obtain ⟨c, hc, h⟩ := bind_eq_ok.1 h
    obtain ⟨p, -, h⟩ := bind_eq_ok.1 h
    cases h
    exact bandField_mem hc
  · cases h

/-! ## Operations -/

section

variable (hk : k.Declared d)
include hk

theorem exchangeFrequency_obeys (hr : Sends d region r) :
    (exchangeFrequency v r).Obeys (contract d region) k fun _ _ => True := by
  refine .bind (R := fun _ k' => k' = k) (.ask hk hr fun _ => rfl) ?_
  rintro reply _ _ rfl
  refine .lift_bind hk (fun _ => parseFrequency_neverRefuses) fun (_, _) _ => ?_
  exact .lift_bind hk (fun _ => checkBand_neverRefuses) fun _ _ => .pure hk trivial

theorem getFrequency_honours :
    (getFrequency d v).Honours (contract d region) k fun _ _ => True := by
  refine .lift_bind hk fun _ _ => .known_bind (.lift_bind hk fun r hr => .of_obeys ?_)
  exact exchangeFrequency_obeys hk (.read _ hr)

/-- What is sent is checked for the band that it names. -/
theorem setFrequencyOf_honours {hz : Nat} :
    (setFrequencyOf d region v hz).Honours (contract d region) k fun _ _ => True := by
  refine .lift_bind hk fun _ _ => .known_bind (.lift_bind hk fun _ hc => .lift_bind hk fun r hr => ?_)
  exact .of_obeys (.discard (exchangeFrequency_obeys hk (.tune _ hz hr hc)) fun _ _ _ _ => trivial)

theorem getVfo_obeys : (getVfo d).Obeys (contract d region) k fun _ _ => True := by
  refine .bind (R := fun _ k' => k' = k) (.ask hk (.readControl rfl) fun _ => rfl) ?_
  rintro reply _ _ rfl
  refine .lift_bind hk (fun _ => parseBandControl_neverRefuses) fun (control, ptt) h => ?_
  have hv := parseBandControl_mem h
  have hne : control ≠ .current := fun h => by simp [h] at hv
  refine .bind (Dialogue.selected_obeys hk hne fun hd => hd control hv) fun _ _ hk' _ => ?_
  exact .pure hk' trivial

theorem setVfo_honours : (setVfo d v).Honours (contract d region) k fun _ _ => True := by
  refine .lift_bind hk fun _ _ => .known_bind (.lift_bind hk fun r hr => .of_obeys ?_)
  refine .bind (R := fun _ k' => k' = k) (.ask hk (.control _ hr) fun _ => rfl) ?_
  rintro reply _ _ rfl
  refine .lift_bind hk (fun _ => parseBandControl_neverRefuses) fun (control, ptt) h => ?_
  refine .lift_bind hk (fun _ => checkBand_neverRefuses) fun _ _ => ?_
  have hv := parseBandControl_mem h
  have hne : control ≠ .current := fun h => by simp [h] at hv
  exact (Dialogue.selected_obeys hk hne fun hd => hd control hv).any

/-- **The TM-D710 honours its contract** in every operation. -/
theorem respond_honours {α : Type} {config : Config} (op : Operation α) :
    (respond d config op).Honours (contract d config.region) k fun _ _ => True := by
  cases op with
  | start => exact .of_obeys (.pure hk trivial)
  | close => exact .of_obeys (.hangUp hk (.pure hk trivial))
  | getFrequency v => exact getFrequency_honours hk
  | setFrequency v hz => exact setFrequencyOf_honours hk
  | getVfo => exact .of_obeys (getVfo_obeys hk)
  | setVfo v => exact setVfo_honours hk
  | _ => exact .fail hk

end

end RigControl.Tmd710
