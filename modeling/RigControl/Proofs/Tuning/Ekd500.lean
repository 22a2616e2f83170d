/-
Frames that tune the EKD-500. The frequency is in kilohertz with six places, the last three of them
zeros.
-/
import RigControl.Proofs.AsciiFrames
import RigControl.Proofs.Traffic.Ekd500
import RigControl.Proofs.Tuning.Basic

namespace RigControl.Ekd500

variable {d : Descriptor} {region : Region} {k : Tracking} {v : Vfo} {r : Request} {t : Tuning}
  {hz : Nat}

/-- A frequency in kilohertz with six places, as full hertz. -/
def hertz (s : List Char) : Outcome Nat := do
  match Text.pieces '.' s with
  | [whole, places] =>
    let k ← Text.parseDecimal whole
    let n ← Text.parseDecimal places
    if places.length = 6 ∧ n % 1000 = 0 then return 1000 * k + n / 1000
    else throw (.protocol s!"no frequency in hertz: {Text.quoted s}")
  | _ => throw (.protocol s!"no frequency in kilohertz: {Text.quoted s}")

def tuning? (frame : List UInt8) : Option Tuning :=
  match AsciiFrame.cr.parse "FRQ" frame with
  | .ok s => some { hz := hertz s }
  | .error _ => none

theorem digits_whole : Text.Digits (Nat.toDigits 10 (hz / 1000)) :=
  ⟨Nat.toDigits_ne_nil, fun _ hc => Nat.isDigit_of_mem_toDigits (by decide) (by decide) hc⟩

theorem digits_places : Text.Digits (Text.zeroPadded 3 (hz % 1000) ++ ['0', '0', '0']) := by
  refine ⟨by simp, fun c hc => ?_⟩
  rcases List.mem_append.1 hc with hc | hc
  · exact Text.zeroPadded_digits.digit c hc
  · simp only [List.mem_cons, List.not_mem_nil, or_false, or_self] at hc
    exact hc ▸ rfl

theorem pieces_kilohertz : Text.pieces '.' (kilohertz hz) =
    [Nat.toDigits 10 (hz / 1000), Text.zeroPadded 3 (hz % 1000) ++ ['0', '0', '0']] := by
  rw [kilohertz, List.append_assoc, List.cons_append, Text.pieces_append (digits_whole.notMem rfl),
    Text.pieces_of_notMem (digits_places.notMem rfl)]

theorem ofDigitChars_places (hz : Nat) :
    Nat.ofDigitChars 10 (Text.zeroPadded 3 (hz % 1000) ++ ['0', '0', '0']) 0 = 1000 * (hz % 1000) := by
  rw [Nat.ofDigitChars_append, Text.ofDigitChars_zeroPadded]
  simp only [Nat.ofDigitChars_cons, Nat.ofDigitChars_nil]
  omega

theorem length_places : (Text.zeroPadded 3 (hz % 1000) ++ ['0', '0', '0']).length = 6 := by
  rw [List.length_append, Text.length_zeroPadded (by decide) (Nat.mod_lt hz (by decide))]
  rfl

/-- The text of a frequency reads back. -/
theorem hertz_kilohertz (h : hz / 1000 < UInt64.size) : hertz (kilohertz hz) = .ok hz := by
  have hk : Text.parseDecimal (Nat.toDigits 10 (hz / 1000)) = .ok (hz / 1000) := by
    rw [digits_whole.parseDecimal] <;> simp [Nat.ofDigitChars_toDigits, h]
  have hn : Text.parseDecimal (Text.zeroPadded 3 (hz % 1000) ++ ['0', '0', '0']) =
      .ok (1000 * (hz % 1000)) := by
    have hlt : 1000 * 1000 < UInt64.size := by decide
    have hvalue := ofDigitChars_places hz
    rw [digits_places.parseDecimal (by omega), hvalue]
  have hsum : 1000 * (hz / 1000) + hz % 1000 = hz := Nat.div_add_mod hz 1000
  rw [hertz, pieces_kilohertz]
  simp only [hk, hn, length_places, Outcome.ok_bind]
  simp [hsum]

/-- The frame that tunes reads back. -/
theorem tuning?_setFrequency (hlt : hz / 1000 < UInt64.size) (h : setFrequency hz = .ok r) :
    tuning? r.frame = some { hz := .ok hz } := by
  obtain ⟨frame, hframe, h⟩ := Outcome.bind_eq_ok.1 h
  obtain rfl := Outcome.pure_eq_ok.1 h
  obtain ⟨-, rfl⟩ := (AsciiFrame.build_eq_ok AsciiFrame.cr_ascii).1 hframe
  have hspread : AsciiFrame.cr.spread ([.text (kilohertz hz)].map Field.shown) = kilohertz hz :=
    List.append_nil _
  rw [hspread, tuning?, AsciiFrame.parse_self]
  show some (Tuning.mk none (hertz (kilohertz hz))) = _
  rw [hertz_kilohertz hlt]

/-- What the EKD-500 is sent is in range if it has but one VFO. -/
theorem tuning_inRange (hd : ∀ v ∈ d.vfos, v = k.vfo)
    (hmax : ∀ range ∈ d.rxRanges region, range.max < UInt64.size) (h : Sends d region r)
    (ht : tuning? r.frame = some t) : t.InRange d region k := by
  cases h with
  | tune v hz hv h hc =>
    obtain ⟨range, hrange, hin, -⟩ := Descriptor.checkRxFrequency_ok.1 hc
    have hlt := hmax range hrange
    simp only [FreqRange.contains, Bool.and_eq_true, decide_eq_true_eq] at hin
    rw [tuning?_setFrequency (by omega) h] at ht
    cases ht
    exact ⟨hz, rfl, hd v hv ▸ hc⟩

end RigControl.Ekd500
