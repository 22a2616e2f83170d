/-
Frames that tune the FT-840. The field counts tens of hertz, so that the frequency in it may be lower
than the one that was checked. The ranges start at full tens, and so it is still in range.
-/
import RigControl.Proofs.Ft840Numbers
import RigControl.Proofs.Traffic.Ft840
import RigControl.Proofs.Tuning.Basic

namespace RigControl.Ft840

variable {d : Descriptor} {region : Region} {k : Tracking} {v : Vfo} {r : Request} {t : Tuning}
  {hz : Nat}

/-- A count of tens of hertz, behind which stands the code of the command. -/
def tuning? : List UInt8 → Option Tuning
  | [a, b, c, d, code] =>
    if code = 0x0A then some { hz := (10 * ·) <$> Bcd.decodeLow [a, b, c, d] 8 } else none
  | _ => none

/-- The ranges start at full tens of hertz. -/
def FullTens (d : Descriptor) (region : Region) : Prop :=
  ∀ range ∈ d.rxRanges region, 10 ∣ range.min

/-- Rounding down to tens of hertz does not leave a range. -/
theorem checkRxFrequency_floor (hd : FullTens d region)
    (h : d.checkRxFrequency region v hz = .ok ()) :
    d.checkRxFrequency region v (10 * (hz / 10)) = .ok () := by
  obtain ⟨range, hrange, hin, hallows⟩ := Descriptor.checkRxFrequency_ok.1 h
  refine Descriptor.checkRxFrequency_ok.2 ⟨range, hrange, ?_, hallows⟩
  have hten := hd range hrange
  simp only [FreqRange.contains, Bool.and_eq_true, decide_eq_true_eq] at hin ⊢
  omega

theorem tuning?_eq_none {frame : List UInt8} (h : frame[4]? ≠ some 0x0A) : tuning? frame = none := by
  unfold tuning?
  split
  · rw [if_neg]
    rintro rfl
    exact h rfl
  · rfl

theorem template_code {c : Command} (hc : c ≠ .setFrequency) : c.template.bytes[4]? ≠ some 0x0A := by
  cases c <;> first | exact absurd rfl hc | decide

/-- The frame that tunes reads back. -/
theorem tuning?_setFrequency {frame : List UInt8} (h : setFrequency hz = .ok frame) :
    tuning? frame = some { hz := .ok (10 * (hz / 10)) } := by
  obtain ⟨hlt, rfl⟩ := setFrequency_eq_ok.1 h
  have hread := decodeLow_tens hlt
  obtain ⟨a, b, c, d, hfour⟩ : ∃ a b c d, Bcd.packLow (hz / 10) 8 = [a, b, c, d] :=
    ⟨_, _, _, _, rfl⟩
  rw [hfour] at hread ⊢
  show some (Tuning.mk none ((10 * ·) <$> Bcd.decodeLow [a, b, c, d] 8)) = _
  rw [hread]
  rfl

/-- What the FT-840 is sent is in range. -/
theorem tuning_inRange (hd : FullTens d region) (h : Sends d region k r)
    (ht : tuning? r.frame = some t) : t.InRange d region k := by
  cases h with
  | complete c h =>
    obtain ⟨hcomplete, -, hframe⟩ := FixedFrame.frame_ok h
    have hc : c ≠ .setFrequency := by
      rintro rfl
      cases hcomplete
    rw [hframe, tuning?_eq_none (template_code hc)] at ht
    cases ht
  | filled c payload params hc h =>
    have hpayload : payload.length < 5 := (FixedFrame.build_ok h).2.2.2.1
    have hlast := FixedFrame.getElem?_build (i := 4) h (by omega) (by decide)
    rw [tuning?_eq_none (hlast ▸ template_code hc)] at ht
    cases ht
  | tune hz h hc =>
    rw [tuning?_setFrequency h] at ht
    cases ht
    exact ⟨_, rfl, checkRxFrequency_floor hd hc⟩

end RigControl.Ft840
