/-
Decimal numerals with places behind a point (`Text.Decimal`), and the frequencies of the EKD-500 among
them. The receiver never says what it was tuned to, so that a wrong place would go unnoticed. The numeral
of every frequency has six places and is worth the frequency in kilohertz, to the last hertz.
-/
import RigControl.Proofs.Delimited
import RigControl.Proofs.Tuning.Ekd500

namespace RigControl

/-! ## Decimal numerals -/

/-- Digits on both sides of a point. -/
structure Text.Decimal where
  whole : List Char
  places : List Char
  digits_whole : Digits whole
  digits_places : Digits places

namespace Text.Decimal

/-- The written form. -/
def text (n : Decimal) : List Char := n.whole ++ '.' :: n.places

/-- The number that the digits spell without the point. -/
def scaled (n : Decimal) : Nat := Nat.ofDigitChars 10 (n.whole ++ n.places) 0

/-- The number that is written. Every place divides by ten. -/
def value (n : Decimal) : Rat := n.scaled / 10 ^ n.places.length

/-- The digits can be told from the text. -/
theorem text_injective : Function.Injective text := by
  intro n m h
  have hpieces (n : Decimal) : pieces '.' n.text = [n.whole, n.places] := by
    rw [text, pieces_append (n.digits_whole.notMem rfl), pieces_of_notMem (n.digits_places.notMem rfl)]
  have hparts := congrArg (pieces '.') h
  rw [hpieces, hpieces, List.cons.injEq, List.cons.injEq] at hparts
  cases n
  cases m
  simp_all

theorem mem_utf8_text {n : Decimal} {b : UInt8} (h : b ∈ utf8 n.text) :
    (0x30 ≤ b ∧ b ≤ 0x39) ∨ b = 0x2E := by
  have htext : utf8 n.text = utf8 n.whole ++ 0x2E :: utf8 n.places := by
    rw [text, utf8_append, ← List.singleton_append, utf8_append]
    rfl
  simp only [htext, List.mem_append, List.mem_cons] at h
  rcases h with h | h | h
  · exact .inl (n.digits_whole.mem_utf8 h)
  · exact .inr h
  · exact .inl (n.digits_places.mem_utf8 h)

end Text.Decimal

/-! ## Frequencies in kilohertz -/

namespace Ekd500

variable {hz : Nat}

/-- The numeral of a frequency. -/
def numeral (hz : Nat) : Text.Decimal where
  whole := Nat.toDigits 10 (hz / 1000)
  places := Text.zeroPadded 3 (hz % 1000) ++ ['0', '0', '0']
  digits_whole := digits_whole
  digits_places := digits_places

theorem text_numeral : (numeral hz).text = kilohertz hz := by
  simp [numeral, Text.Decimal.text, kilohertz]

/-- Without the point the numeral spells the frequency in thousandths of a hertz. -/
theorem scaled_numeral : (numeral hz).scaled = 1000 * hz := by
  have hsum : 1000 * (hz / 1000) + hz % 1000 = hz := Nat.div_add_mod hz 1000
  rw [Text.Decimal.scaled, numeral, Nat.ofDigitChars_append, Nat.ofDigitChars_ten_toDigits,
    Nat.ofDigitChars_eq_ofDigitChars_zero, length_places, ofDigitChars_places]
  omega

theorem value_numeral : (numeral hz).value = (hz : Rat) / 1000 := by
  rw [Text.Decimal.value, scaled_numeral, numeral, length_places]
  push_cast
  grind

/-- Every frequency can be sent, as nothing in a numeral ends a command. -/
theorem setFrequency_eq (hz : Nat) : setFrequency hz = .ok {
    operation := "set_freq"
    frame := Text.utf8 (AsciiFrame.cr.commandText "FRQ" (numeral hz).text)
    reply := .optional (.upTo AsciiFrame.cr.terminator maxReply) } := by
  have hfits : AsciiFrame.cr.Fits (.text (kilohertz hz)) := by
    intro hend
    rw [← text_numeral] at hend
    rcases Text.Decimal.mem_utf8_text hend with hdigit | hpoint
    · exact absurd hdigit (by decide)
    · exact absurd hpoint (by decide)
  have hspread : AsciiFrame.cr.spread ([.text (kilohertz hz)].map Field.shown) = (numeral hz).text := by
    rw [text_numeral]
    exact List.append_nil _
  have hframe : AsciiFrame.cr.build "FRQ" [.text (kilohertz hz)] =
      .ok (Text.utf8 (AsciiFrame.cr.commandText "FRQ" (numeral hz).text)) := by
    rw [← hspread]
    exact (AsciiFrame.build_eq_ok AsciiFrame.cr_ascii).2 ⟨by simpa using hfits, rfl⟩
  rw [setFrequency, hframe]
  rfl

/-- **The text of a frequency is exact.** Every frequency can be sent. The frame is the mnemonic, a decimal
numeral and a carriage return, which stands nowhere else. The numeral has six places and is worth the
frequency in kilohertz; without the point its digits spell the thousandths of a hertz. So no two
frequencies have the same frame. -/
theorem kilohertz_exact :
    (∀ hz, ∃ (r : Request) (n : Text.Decimal), setFrequency hz = .ok r ∧
      r.frame = Text.utf8 ("FRQ".toList ++ n.text ++ ['\r']) ∧ n.places.length = 6 ∧
      n.value = (hz : Rat) / 1000 ∧ n.scaled = 1000 * hz ∧
      r.frame.count 0x0D = 1 ∧ r.frame.getLast? = some 0x0D) ∧
    Function.Injective fun hz => Request.frame <$> setFrequency hz := by
  constructor
  · intro hz
    refine ⟨_, numeral hz, setFrequency_eq hz, rfl, length_places, value_numeral, scaled_numeral, ?_⟩
    obtain ⟨frame, hbuild, hr⟩ := Outcome.bind_eq_ok.1 (setFrequency_eq hz)
    rw [← Outcome.pure_eq_ok.1 hr]
    exact AsciiFrame.build_ends_once ⟨by decide, by decide⟩ (by decide) hbuild
  · intro hz hz' h
    -- The frame gives the numeral back, and the numeral the frequency.
    simp only [setFrequency_eq] at h
    have hframe := Except.ok.inj h
    have htext : (numeral hz).text = (numeral hz').text :=
      List.append_cancel_left (List.append_cancel_right (Text.utf8_injective hframe))
    have hscaled := congrArg Text.Decimal.scaled (Text.Decimal.text_injective htext)
    rw [scaled_numeral, scaled_numeral] at hscaled
    omega

example : kilohertz 7030500 = "7030.500000".toList := by decide

end Ekd500

end RigControl
