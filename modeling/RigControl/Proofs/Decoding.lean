/-
Reading what a rig has sent. No reply can make a decoder blame the caller: what it cannot read is an
error of the protocol.
-/
import RigControl.Bcd
import RigControl.Calibration
import RigControl.Capability.Attenuator
import RigControl.Frame.Ascii
import RigControl.Proofs.Refusal

namespace RigControl

open Outcome

theorem Outcome.neverRefuses_foldlM {α β : Type} {f : β → α → Outcome β} {l : List α} {b : β}
    (h : ∀ b, ∀ a ∈ l, NeverRefuses (f b a)) : NeverRefuses (l.foldlM f b) := by
  induction l generalizing b with
  | nil => exact neverRefuses_pure
  | cons a l ih =>
    rw [List.foldlM_cons]
    exact (h b a List.mem_cons_self).bind fun b' _ => ih fun b a ha => h b a (List.mem_cons_of_mem _ ha)

/-! ## Packed decimals -/

namespace Bcd

theorem accumulate_neverRefuses {v : Nat} {n : Nibble} : NeverRefuses (accumulate v n) := by
  unfold accumulate
  repeat' split
  all_goals simp [Error.isRefusal]

theorem field_neverRefuses {bytes : List UInt8} {digits : Nat} :
    NeverRefuses (field bytes digits) := by
  unfold field
  split <;> simp [Error.isRefusal]

theorem decodeLow_neverRefuses {bytes : List UInt8} {digits : Nat} :
    NeverRefuses (decodeLow bytes digits) :=
  field_neverRefuses.bind fun _ _ => neverRefuses_foldlM fun _ _ _ => accumulate_neverRefuses

theorem decodeHigh_neverRefuses {bytes : List UInt8} {digits : Nat} :
    NeverRefuses (decodeHigh bytes digits) :=
  field_neverRefuses.bind fun _ _ => neverRefuses_foldlM fun _ _ _ => accumulate_neverRefuses

end Bcd

/-! ## Text -/

theorem Text.parseDecimal_neverRefuses {field : List Char} : NeverRefuses (Text.parseDecimal field) :=
  .mapError fun _ => rfl

namespace AsciiFrame

variable {f : AsciiFrame} {mnemonic : String} {reply : List UInt8}

theorem parse_neverRefuses : NeverRefuses (f.parse mnemonic reply) := by
  unfold parse
  repeat' split
  all_goals simp [Error.isRefusal]

theorem fields_neverRefuses : NeverRefuses (f.fields mnemonic reply) := by
  refine parse_neverRefuses.bind fun body _ => ?_
  split <;> exact neverRefuses_pure

end AsciiFrame

/-! ## Steps -/

theorem indexToStep_neverRefuses {steps : List UInt8} {index : UInt8} :
    NeverRefuses (indexToStep steps index) := by
  unfold indexToStep
  repeat' split
  all_goals simp [Error.isRefusal]

theorem AttenuatorCoding.decode_neverRefuses {steps : List UInt8} {raw : UInt8}
    {coding : AttenuatorCoding} : NeverRefuses (coding.decode steps raw) := by
  cases coding with
  | decibel => exact neverRefuses_ok
  | indexed => exact indexToStep_neverRefuses

/-! ## Meters -/

namespace CalibrationTable

theorem distance_neverRefuses {low high : Int32} : NeverRefuses (distance low high) := by
  unfold distance
  split <;> simp [Error.isRefusal]

theorem between_neverRefuses {lo hi : Breakpoint} {raw : Int32} : NeverRefuses (between lo hi raw) := by
  unfold between
  split
  · exact neverRefuses_ok
  · exact distance_neverRefuses.bind fun _ _ => distance_neverRefuses.bind fun _ _ => neverRefuses_pure

theorem interpolate_neverRefuses {t : CalibrationTable} {raw : Int32} :
    NeverRefuses (t.interpolate raw) := by
  unfold interpolate
  dsimp only
  repeat' split
  all_goals first | exact between_neverRefuses | simp [Error.isRefusal]

end CalibrationTable

end RigControl
