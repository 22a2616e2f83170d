/-
Decimal fields of any width. A number is written if and only if the field has a digit at least and the number
no more digits than the field, and then every place is taken, by a zero where the number has none. What was
written is read back, with blanks around it as well, if it is a number of 64 bits (`decimalField_exact`). The
zeros may be more than such a number has digits, as reading goes on from zero.
-/
import RigControl.Proofs.Numerals

namespace RigControl.Text

variable {width value : Nat}

theorem decimalField_isOk :
    (∃ text, decimalField value width = .ok text) ↔ 1 ≤ width ∧ value < Nat.pow 10 width := by
  constructor
  · rintro ⟨text, h⟩
    obtain ⟨rfl, hlength⟩ := decimalField_ok h
    have hdigits : Digits (zeroPadded width value) := zeroPadded_digits
    have hpos := List.length_pos_iff.2 hdigits.ne_nil
    exact ⟨by omega, lt_of_decimalField h⟩
  · rintro ⟨hwidth, hvalue⟩
    exact ⟨_, decimalField_of_lt hwidth hvalue⟩

/-- **A decimal field holds a number exactly.** It is written if and only if it has room for all the digits
and for one at least. It consists of as many digits as it is wide, and is read as the number again, with any
blanks on either side. -/
theorem decimalField_exact :
    (∀ value width, (∃ text, decimalField value width = .ok text) ↔
      1 ≤ width ∧ value < Nat.pow 10 width) ∧
    (∀ value width e, decimalField value width = .error e →
      e = .invalidParameter s!"{value} does not fit in {width} decimal digits") ∧
    ∀ value width text, decimalField value width = .ok text →
      text.length = width ∧ (∀ c ∈ text, c.isDigit = true) ∧
        (value < UInt64.size → ∀ before after, Blank before → Blank after →
          parseDecimal (before ++ text ++ after) = .ok value) := by
  refine ⟨fun value width => decimalField_isOk, fun value width e => decimalField_error,
    fun value width text h => ?_⟩
  obtain ⟨rfl, hlength⟩ := decimalField_ok h
  refine ⟨hlength, zeroPadded_digits.digit, fun hvalue before after hbefore hafter => ?_⟩
  have hspelled : Nat.ofDigitChars 10 (zeroPadded width value) 0 = value := ofDigitChars_zeroPadded
  rw [zeroPadded_digits.parseDecimal_blank hbefore hafter (by rwa [hspelled]), hspelled]

/-- The greatest number of 64 bits has twenty digits, and here five zeros in front of them. -/
theorem decimalField_exact_greatest :
    decimalField 18446744073709551615 25 = .ok "0000018446744073709551615".toList ∧
      18446744073709551615 < UInt64.size ∧
      parseDecimal ([' ', '\t'] ++ "0000018446744073709551615".toList ++ ['\r', '\n']) =
        .ok 18446744073709551615 := by
  have hwritten : decimalField 18446744073709551615 25 = .ok "0000018446744073709551615".toList := by
    decide
  have hsize : 18446744073709551615 < UInt64.size := by decide
  obtain ⟨-, -, hread⟩ := decimalField_exact.2.2 _ _ _ hwritten
  exact ⟨hwritten, hsize, hread hsize _ _ (by decide) (by decide)⟩

end RigControl.Text
