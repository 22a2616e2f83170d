/-
The written form of a time reads back. The year has four places or more and the other fields two or more,
so that every number is written in full, also where it is no date. The separators are told apart by what
stands in front of them: digits and dashes before the `T`, digits and colons before the sign.
-/
import RigControl.Proofs.Numerals
import RigControl.Radio.ClockText

namespace RigControl

namespace Text

/-- A sign in front decides how the digits are read. The least number has a magnitude one larger than the
greatest. -/
theorem signed_minus {width n greatest : Nat} (h : n ≤ greatest + 1) :
    signed greatest ('-' :: zeroPadded width n) = .ok (-(n : Int)) := by
  have hread : natural (greatest + 1) .tooSmall (zeroPadded width n) = .ok n :=
    natural_eq_ok.2 ⟨zeroPadded_digits, ofDigitChars_zeroPadded, h⟩
  rw [signed, hread]
  rfl

theorem signed_plus {width n greatest : Nat} (h : n ≤ greatest) :
    signed greatest ('+' :: zeroPadded width n) = .ok (n : Int) := by
  have hread : unsigned greatest ('+' :: zeroPadded width n) = .ok n :=
    unsigned_eq_ok.2 ⟨['+'], _, rfl, .inr rfl, zeroPadded_digits, ofDigitChars_zeroPadded, h⟩
  rw [signed, hread]
  · rfl
  · simp

end Text

namespace ClockTime

open Text

variable {t : ClockTime}

/-! ## The parts of the text -/

def dateText (t : ClockTime) : List Char :=
  zeroPadded 4 t.year.toNat ++ '-' :: (zeroPadded 2 t.month.toNat ++ '-' :: zeroPadded 2 t.day.toNat)

def timeText (t : ClockTime) : List Char :=
  zeroPadded 2 t.hour.toNat ++ ':' :: (zeroPadded 2 t.minute.toNat ++ ':' :: zeroPadded 2 t.second.toNat)

def sign (t : ClockTime) : Char := if t.utcOffset < 0 then '-' else '+'

def offsetText (t : ClockTime) : List Char :=
  t.sign :: zeroPadded 4 t.utcOffset.toInt.natAbs

theorem text_eq : t.text = t.dateText ++ 'T' :: (t.timeText ++ t.offsetText) := by
  simp [text, dateText, timeText, offsetText, sign]

theorem mem_dateText {c : Char} (h : c ∈ t.dateText) : c.isDigit = true ∨ c = '-' := by
  simp only [dateText, List.mem_append, List.mem_cons] at h
  rcases h with h | rfl | h | rfl | h
  · exact .inl (zeroPadded_digits.digit c h)
  · exact .inr rfl
  · exact .inl (zeroPadded_digits.digit c h)
  · exact .inr rfl
  · exact .inl (zeroPadded_digits.digit c h)

theorem mem_timeText {c : Char} (h : c ∈ t.timeText) : c.isDigit = true ∨ c = ':' := by
  simp only [timeText, List.mem_append, List.mem_cons] at h
  rcases h with h | rfl | h | rfl | h
  · exact .inl (zeroPadded_digits.digit c h)
  · exact .inr rfl
  · exact .inl (zeroPadded_digits.digit c h)
  · exact .inr rfl
  · exact .inl (zeroPadded_digits.digit c h)

/-! ## Cutting the text apart -/

theorem pieces_dateText : pieces '-' t.dateText =
    [zeroPadded 4 t.year.toNat, zeroPadded 2 t.month.toNat, zeroPadded 2 t.day.toNat] := by
  rw [dateText, pieces_append (zeroPadded_digits.notMem rfl), pieces_append (zeroPadded_digits.notMem rfl),
    pieces_of_notMem (zeroPadded_digits.notMem rfl)]

theorem pieces_timeText : pieces ':' t.timeText =
    [zeroPadded 2 t.hour.toNat, zeroPadded 2 t.minute.toNat, zeroPadded 2 t.second.toNat] := by
  rw [timeText, pieces_append (zeroPadded_digits.notMem rfl), pieces_append (zeroPadded_digits.notMem rfl),
    pieces_of_notMem (zeroPadded_digits.notMem rfl)]

theorem nextPart_zeroPadded {greatest width n : Nat} {rest : List (List Char)} (h : n ≤ greatest) :
    nextPart greatest (zeroPadded width n :: rest) = .ok (n, rest) := by
  rw [nextPart, unsigned_zeroPadded h]

/-- The sign and the magnitude make up the offset. -/
theorem offsetOfText_offsetText : offsetOfText t.offsetText = .ok t.utcOffset.toInt := by
  have hlow : -0x8000 ≤ t.utcOffset.toInt := t.utcOffset.le_toInt
  have hhigh : t.utcOffset.toInt < 0x8000 := t.utcOffset.toInt_lt
  have hneg : t.utcOffset < 0 ↔ t.utcOffset.toInt < 0 := Int16.lt_iff_toInt_lt
  rw [offsetText, offsetOfText, sign]
  · by_cases h : t.utcOffset < 0
    · have hnegative := hneg.1 h
      have hbound : t.utcOffset.toInt.natAbs ≤ 0x7FFF + 1 := by omega
      have hvalue : -(t.utcOffset.toInt.natAbs : Int) = t.utcOffset.toInt := by omega
      rw [if_pos h, signed_minus hbound, hvalue]
      rfl
    · have hnonneg := mt hneg.2 h
      have hbound : t.utcOffset.toInt.natAbs ≤ 0x7FFF := by omega
      have hvalue : (t.utcOffset.toInt.natAbs : Int) = t.utcOffset.toInt := by omega
      rw [if_neg h, signed_plus hbound, hvalue]
      rfl
  · simp

/-- A text ends where its first character of another kind stands. -/
theorem span_eq {p : Char → Bool} {s rest : List Char} {c : Char} (hs : ∀ d ∈ s, p d = true)
    (hc : ¬ p c = true) :
    (s ++ c :: rest).takeWhile p = s ∧ (s ++ c :: rest).dropWhile p = c :: rest := by
  rw [List.takeWhile_append_of_pos hs, List.dropWhile_append_of_pos hs, List.takeWhile_cons_of_neg hc,
    List.dropWhile_cons_of_neg hc, List.append_nil]
  exact ⟨rfl, rfl⟩

/-- The date ends at the `T`. -/
theorem span_dateText (rest : List Char) :
    (t.dateText ++ 'T' :: rest).takeWhile (· ≠ 'T') = t.dateText ∧
      (t.dateText ++ 'T' :: rest).dropWhile (· ≠ 'T') = 'T' :: rest := by
  refine span_eq (fun c hc => decide_eq_true ?_) (by simp)
  rintro rfl
  rcases mem_dateText hc with h | h
  · exact absurd h (by decide)
  · exact absurd h (by decide)

/-- The time of day ends at the sign. -/
theorem span_timeText :
    (t.timeText ++ t.offsetText).takeWhile (fun c => c ≠ '+' && c ≠ '-') = t.timeText ∧
      (t.timeText ++ t.offsetText).dropWhile (fun c => c ≠ '+' && c ≠ '-') = t.offsetText := by
  refine span_eq (fun c hc => ?_) ?_
  · have hne : c ≠ '+' ∧ c ≠ '-' := by
      rcases mem_timeText hc with h | rfl
      · exact ⟨fun hplus => by simp [hplus] at h, fun hminus => by simp [hminus] at h⟩
      · exact ⟨by decide, by decide⟩
    simp [hne]
  · unfold sign
    split <;> simp

/-- **The written form of a time reads back**, whether it is a date or not. -/
theorem ofText_text (t : ClockTime) : ofText t.text = .ok t := by
  obtain ⟨hdate, hrest⟩ := span_dateText (t := t) (t.timeText ++ t.offsetText)
  obtain ⟨htime, hoffset⟩ := span_timeText (t := t)
  have hbyte (n : UInt8) (rest : List (List Char)) :
      nextPart 0xFF (zeroPadded 2 n.toNat :: rest) = .ok (n.toNat, rest) :=
    nextPart_zeroPadded (Nat.le_of_lt_succ n.toNat_lt)
  have hyear (rest : List (List Char)) :
      nextPart 0xFFFF (zeroPadded 4 t.year.toNat :: rest) = .ok (t.year.toNat, rest) :=
    nextPart_zeroPadded (Nat.le_of_lt_succ t.year.toNat_lt)
  rw [ofText, text_eq, hdate, hrest]
  simp only [pieces_dateText, hyear, hbyte, bind, Except.bind, htime, hoffset, offsetOfText_offsetText,
    pieces_timeText]
  rw [if_neg (List.cons_ne_nil _ _), if_neg (by simp)]
  refine congrArg Except.ok ?_
  simp

example : text ⟨65535, 255, 0, 99, 60, 255, -32768⟩ = "65535-255-00T99:60:255-32768".toList := by decide

end ClockTime

end RigControl
