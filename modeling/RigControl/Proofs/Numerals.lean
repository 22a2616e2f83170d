/-
Decimal numerals read back, and text survives its way over the link.
-/
import RigControl.Proofs.Outcome
import RigControl.Text.Numeral
import RigControl.Text.Utf8

namespace RigControl.Text

/-! ## UTF-8 -/

theorem utf8_append {s t : List Char} : utf8 (s ++ t) = utf8 s ++ utf8 t := by
  simp [utf8]

/-- **Text reads back** from its bytes. -/
theorem ofUtf8?_utf8 {s : List Char} : ofUtf8? (utf8 s) = some s := by
  have h : (⟨(utf8 s).toArray⟩ : ByteArray) = s.utf8Encode := by
    simp [utf8]
  rw [ofUtf8?, h, List.utf8Decode?_utf8Encode]
  simp

theorem utf8_injective : Function.Injective utf8 := by
  intro s t h
  have hread := congrArg ofUtf8? h
  rwa [ofUtf8?_utf8, ofUtf8?_utf8, Option.some.injEq] at hread

/-- Bytes that spell a text are the bytes of that text. -/
theorem ofUtf8?_eq_some {bytes : List UInt8} {s : List Char} :
    ofUtf8? bytes = some s ↔ bytes = utf8 s := by
  constructor
  · intro h
    obtain ⟨chars, hchars, rfl⟩ := Option.map_eq_some_iff.1 h
    have hsome : (ByteArray.utf8Decode? ⟨bytes.toArray⟩).isSome := by simp [hchars]
    have hbytes := ByteArray.utf8Encode_get_utf8Decode? (h := hsome)
    simp only [hchars, Option.get_some] at hbytes
    simp [utf8, hbytes]
  · intro h
    rw [h, ofUtf8?_utf8]

theorem utf8_singleton {c : Char} : utf8 [c] = String.utf8EncodeChar c := by
  simp [utf8, List.utf8Encode_singleton]

/-- Text in ASCII takes a byte for each character. -/
theorem length_utf8_of_ascii {s : List Char} (h : ∀ c ∈ s, c.toNat < 128) :
    (utf8 s).length = s.length := by
  induction s with
  | nil => rfl
  | cons c s ih =>
    have hsize : c.utf8Size = 1 := by
      rw [Char.utf8Size_eq_one_iff, UInt32.le_iff_toNat_le]
      exact Nat.le_of_lt_succ (h c List.mem_cons_self)
    have hc : (utf8 [c]).length = 1 := by
      rw [utf8_singleton, String.length_utf8EncodeChar, hsize]
    rw [← List.singleton_append, utf8_append, List.length_append, hc,
      ih fun d hd => h d (List.mem_cons_of_mem _ hd)]
    simp [Nat.add_comm]

/-- An ASCII character is spelled by its own number. -/
theorem utf8_ascii {b : UInt8} (hb : b < 0x80) : utf8 [Char.ofNat b.toNat] = [b] := by
  have hlt : b.toNat < 128 := UInt8.lt_iff_toNat_lt.1 hb
  have hvalid : b.toNat.isValidChar := .inl (by omega)
  have hval : (Char.ofNat b.toNat).val.toNat = b.toNat := by
    rw [Char.ofNat, dif_pos hvalid]
    rfl
  rw [utf8_singleton, String.utf8EncodeChar, hval, if_pos (by omega), UInt8.ofNat_toNat]

/-- Only an ASCII character is spelled with a byte below 0x80 at the end. -/
theorem eq_of_last_byte {c : Char} {b : UInt8} (hb : b < 0x80)
    (h : (utf8 [c]).getLast? = some b) : c = Char.ofNat b.toNat := by
  have hlt : b.toNat < 128 := UInt8.lt_iff_toNat_lt.1 hb
  have hcontinues : ∀ n, UInt8.ofNat (n % 64 + 128) ≠ b := by
    intro n hn
    have := congrArg UInt8.toNat hn
    rw [UInt8.toNat_ofNat'] at this
    omega
  rw [utf8_singleton, String.utf8EncodeChar] at h
  split at h
  · have hval := congrArg UInt8.toNat (Option.some.inj h)
    have hnat : c.val.toNat = c.toNat := rfl
    simp only [List.getLast_singleton, UInt8.toNat_ofNat'] at hval
    rw [← hval, Nat.mod_eq_of_lt (by omega), hnat, Char.ofNat_toNat]
  · split at h
    · exact absurd (Option.some.inj h) (hcontinues _)
    · split at h
      · exact absurd (Option.some.inj h) (hcontinues _)
      · exact absurd (Option.some.inj h) (hcontinues _)

/-- The last byte of a text is an ASCII character exactly if the last character is. -/
theorem getLast?_utf8 {s : List Char} {b : UInt8} (hb : b < 0x80) :
    (utf8 s).getLast? = some b ↔ s.getLast? = some (Char.ofNat b.toNat) := by
  constructor
  · intro h
    rcases List.eq_nil_or_concat s with rfl | ⟨front, c, rfl⟩
    · cases h
    · rw [List.concat_eq_append] at h ⊢
      have hne : utf8 [c] ≠ [] := by
        rw [utf8_singleton]
        exact String.utf8EncodeChar_ne_nil
      obtain ⟨last, hlast⟩ := Option.ne_none_iff_exists'.1 (mt List.getLast?_eq_none_iff.1 hne)
      rw [utf8_append, List.getLast?_append, hlast] at h
      rw [List.getLast?_concat, eq_of_last_byte hb (hlast.trans h)]
  · intro h
    obtain ⟨front, rfl⟩ := List.getLast?_eq_some_iff.1 h
    rw [utf8_append, utf8_ascii hb, List.getLast?_concat]

/-- A text is in front of another one if its bytes are. -/
theorem prefix_of_utf8 {s t : List Char} (h : utf8 s <+: utf8 t) : s <+: t := by
  obtain ⟨rest, h⟩ := h
  refine List.isPrefix_of_utf8Encode_append_eq_utf8Encode ⟨rest.toArray⟩ (ByteArray.ext ?_)
  rw [← Array.toList_inj, ByteArray.data_append, Array.toList_append]
  simpa [utf8] using h

/-! ## Numerals -/

/-- Nothing but digits, and at least one. -/
structure Digits (s : List Char) : Prop where
  ne_nil : s ≠ []
  digit : ∀ c ∈ s, c.isDigit = true

/-- What is no digit stands in no numeral. -/
theorem Digits.notMem {s : List Char} {c : Char} (h : Digits s) (hc : c.isDigit = false) : c ∉ s := by
  intro hmem
  simp [h.digit c hmem] at hc

theorem ascii_of_isDigit {c : Char} (h : c.isDigit = true) : c.toNat < 128 := by
  have := (Char.isDigit_iff_toNat.1 h).2
  have : '9'.toNat = 57 := rfl
  omega

theorem isBlank_of_isDigit {c : Char} (h : c.isDigit = true) : isBlank c = false := by
  obtain ⟨hlow, hhigh⟩ := Char.isDigit_iff_toNat.1 h
  have : '0'.toNat = 48 := rfl
  have : '9'.toNat = 57 := rfl
  simp [isBlank, inRanges, blankRanges]
  omega

theorem Digits.reverse {s : List Char} (h : Digits s) : Digits s.reverse where
  ne_nil := by simpa using h.ne_nil
  digit c hc := h.digit c (List.mem_reverse.1 hc)

/-- Nothing but blanks. -/
def Blank (s : List Char) : Prop := ∀ c ∈ s, isBlank c = true

instance {s : List Char} : Decidable (Blank s) :=
  List.decidableBAll (isBlank · = true) s

/-- Blanks end where digits begin. -/
theorem Digits.dropWhile_isBlank {before s after : List Char} (h : Digits s) (hbefore : Blank before) :
    (before ++ (s ++ after)).dropWhile isBlank = s ++ after := by
  obtain ⟨c, rest, rfl⟩ := List.exists_cons_of_ne_nil h.ne_nil
  have hdigit : ¬ isBlank c = true := by
    rw [isBlank_of_isDigit (h.digit c List.mem_cons_self)]
    decide
  rw [List.dropWhile_append_of_pos hbefore, List.cons_append, List.dropWhile_cons_of_neg hdigit]

/-- Digits are what is left without the blanks around them. -/
theorem Digits.trim {before s after : List Char} (h : Digits s) (hbefore : Blank before)
    (hafter : Blank after) : trim (before ++ s ++ after) = s := by
  have hreversed : Blank after.reverse := fun c hc => hafter c (List.mem_reverse.1 hc)
  have hback : (after.reverse ++ s.reverse).dropWhile isBlank = s.reverse := by
    rw [← List.append_nil s.reverse]
    exact h.reverse.dropWhile_isBlank hreversed
  rw [Text.trim, List.append_assoc, h.dropWhile_isBlank hbefore, List.reverse_append, hback,
    List.reverse_reverse]

/-- The number so far is at most the number in the end. -/
theorem le_ofDigitChars (s : List Char) (acc : Nat) : acc ≤ Nat.ofDigitChars 10 s acc := by
  induction s generalizing acc with
  | nil => simp
  | cons c s ih =>
    rw [Nat.ofDigitChars_cons]
    have := ih (10 * acc + (c.toNat - '0'.toNat))
    omega

theorem digits_eq {greatest acc : Nat} {excess : NumeralError} {s : List Char}
    (h : ∀ c ∈ s, c.isDigit = true) (hle : Nat.ofDigitChars 10 s acc ≤ greatest) :
    digits greatest excess acc s = .ok (Nat.ofDigitChars 10 s acc) := by
  induction s generalizing acc with
  | nil => simp [digits]
  | cons c s ih =>
    rw [Nat.ofDigitChars_cons] at hle ⊢
    have hacc := Nat.le_trans (le_ofDigitChars s _) hle
    rw [digits, if_pos (h c List.mem_cons_self)]
    dsimp only
    rw [if_pos hacc]
    exact ih (fun d hd => h d (List.mem_cons_of_mem _ hd)) hle

/-- Digits are read, and nothing else, as long as the number is not above the greatest. -/
theorem digits_eq_ok {s : List Char} {n greatest acc : Nat} {excess : NumeralError}
    (hacc : acc ≤ greatest) : digits greatest excess acc s = .ok n ↔
      (∀ c ∈ s, c.isDigit = true) ∧ Nat.ofDigitChars 10 s acc = n ∧ n ≤ greatest := by
  constructor
  · intro h
    induction s generalizing acc with
    | nil =>
      cases h
      exact ⟨nofun, Nat.ofDigitChars_nil, hacc⟩
    | cons c s ih =>
      rw [digits] at h
      by_cases hc : c.isDigit = true
      · rw [if_pos hc] at h
        dsimp only at h
        by_cases hle : 10 * acc + (c.toNat - '0'.toNat) ≤ greatest
        · rw [if_pos hle] at h
          obtain ⟨hdigits, hvalue, hn⟩ := ih hle h
          exact ⟨List.forall_mem_cons.2 ⟨hc, hdigits⟩, by rwa [Nat.ofDigitChars_cons], hn⟩
        · rw [if_neg hle] at h
          cases h
      · rw [if_neg hc] at h
        cases h
  · intro h
    obtain ⟨hdigits, rfl, hn⟩ := h
    exact digits_eq hdigits hn

theorem natural_eq_ok {s : List Char} {n greatest : Nat} {excess : NumeralError} :
    natural greatest excess s = .ok n ↔ Digits s ∧ Nat.ofDigitChars 10 s 0 = n ∧ n ≤ greatest := by
  cases s with
  | nil =>
    constructor
    · intro h
      cases h
    · intro h
      exact absurd rfl h.1.ne_nil
  | cons c s =>
    rw [natural, digits_eq_ok (Nat.zero_le greatest)]
    · constructor
      · intro h
        exact ⟨⟨List.cons_ne_nil c s, h.1⟩, h.2⟩
      · intro h
        exact ⟨h.1.digit, h.2⟩
    · nofun

theorem unsigned_eq_ok {s : List Char} {n greatest : Nat} :
    unsigned greatest s = .ok n ↔ ∃ sign ds, s = sign ++ ds ∧ (sign = [] ∨ sign = ['+']) ∧
      Digits ds ∧ Nat.ofDigitChars 10 ds 0 = n ∧ n ≤ greatest := by
  constructor
  · intro h
    unfold unsigned at h
    split at h
    · cases h
    · rename_i rest
      exact ⟨['+'], rest, rfl, .inr rfl, natural_eq_ok.1 h⟩
    · exact ⟨[], s, rfl, .inl rfl, natural_eq_ok.1 h⟩
  · intro h
    obtain ⟨sign, ds, rfl, rfl | rfl, hds⟩ := h
    · rw [List.nil_append]
      unfold unsigned
      split
      · exact absurd rfl hds.1.ne_nil
      · exact absurd List.mem_cons_self (hds.1.notMem rfl)
      · exact natural_eq_ok.2 hds
    · exact natural_eq_ok.2 hds

/-- A numeral is read as the number that its digits spell, with blanks around it as well. -/
theorem Digits.parseDecimal_blank {before s after : List Char} (h : Digits s) (hbefore : Blank before)
    (hafter : Blank after) (hv : Nat.ofDigitChars 10 s 0 < UInt64.size) :
    parseDecimal (before ++ s ++ after) = .ok (Nat.ofDigitChars 10 s 0) := by
  rw [Text.parseDecimal, h.trim hbefore hafter, Outcome.mapError_eq_ok]
  exact unsigned_eq_ok.2 ⟨[], s, rfl, .inl rfl, h, rfl, by omega⟩

theorem Digits.parseDecimal {s : List Char} (h : Digits s)
    (hv : Nat.ofDigitChars 10 s 0 < UInt64.size) :
    parseDecimal s = .ok (Nat.ofDigitChars 10 s 0) := by
  have hnone : Blank [] := nofun
  have hread := h.parseDecimal_blank hnone hnone hv
  rwa [List.nil_append, List.append_nil] at hread

/-- A digit is spelled by its own number. -/
theorem utf8_of_isDigit {c : Char} (h : c.isDigit = true) :
    ∃ b : UInt8, utf8 [c] = [b] ∧ 0x30 ≤ b ∧ b ≤ 0x39 := by
  obtain ⟨hlow, hhigh⟩ := Char.isDigit_iff_toNat.1 h
  have h0 : '0'.toNat = 48 := rfl
  have h9 : '9'.toNat = 57 := rfl
  obtain ⟨b, hb⟩ : ∃ b : UInt8, b.toNat = c.toNat :=
    ⟨UInt8.ofNat c.toNat, UInt8.toNat_ofNat_of_lt' (show c.toNat < 256 by omega)⟩
  have hascii : b < 0x80 := UInt8.lt_iff_toNat_lt.2 (show b.toNat < 128 by omega)
  have hspelled := utf8_ascii hascii
  rw [hb, Char.ofNat_toNat] at hspelled
  exact ⟨b, hspelled, UInt8.le_iff_toNat_le.2 (show 48 ≤ b.toNat by omega),
    UInt8.le_iff_toNat_le.2 (show b.toNat ≤ 57 by omega)⟩

/-- A numeral is spelled with the bytes of digits. -/
theorem Digits.mem_utf8 {s : List Char} (h : Digits s) {b : UInt8} (hb : b ∈ utf8 s) :
    0x30 ≤ b ∧ b ≤ 0x39 := by
  have hdigit := h.digit
  clear h
  induction s with
  | nil => cases hb
  | cons c s ih =>
    rw [List.forall_mem_cons] at hdigit
    obtain ⟨d, hspelled, hrange⟩ := utf8_of_isDigit hdigit.1
    rw [← List.singleton_append, utf8_append, hspelled, List.mem_append, List.mem_singleton] at hb
    rcases hb with rfl | hb
    · exact hrange
    · exact ih hb hdigit.2

theorem zeroPadded_digits {width value : Nat} : Digits (zeroPadded width value) where
  ne_nil := by simp [zeroPadded, Nat.toDigits_ne_nil]
  digit c hc := by
    rcases List.mem_append.1 hc with hc | hc
    · obtain rfl := (List.mem_replicate.1 hc).2
      rfl
    · exact Nat.isDigit_of_mem_toDigits (by decide) (by decide) hc

theorem ofDigitChars_zeroPadded {width value : Nat} :
    Nat.ofDigitChars 10 (zeroPadded width value) 0 = value := by
  simp [zeroPadded, Nat.ofDigitChars_append]

/-- **A numeral reads back**, however many zeros stand in front. -/
theorem unsigned_zeroPadded {width value greatest : Nat} (h : value ≤ greatest) :
    unsigned greatest (zeroPadded width value) = .ok value :=
  unsigned_eq_ok.2 ⟨[], _, rfl, .inl rfl, zeroPadded_digits, ofDigitChars_zeroPadded, h⟩

theorem parseDecimal_zeroPadded {width value : Nat} (h : value < UInt64.size) :
    parseDecimal (zeroPadded width value) = .ok value := by
  rw [zeroPadded_digits.parseDecimal (by rwa [ofDigitChars_zeroPadded]), ofDigitChars_zeroPadded]

/-- Zeros in front fill up the width. -/
theorem length_zeroPadded {width value : Nat} (hw : 0 < width) (h : value < Nat.pow 10 width) :
    (zeroPadded width value).length = width := by
  have hdigits : (Nat.toDigits 10 value).length ≤ width :=
    (Nat.length_toDigits_le_iff (by decide) hw).2 h
  rw [zeroPadded, List.length_append, List.length_replicate]
  omega

/-- A decimal field has exactly its width. -/
theorem decimalField_ok {width value : Nat} {s : List Char} (h : decimalField value width = .ok s) :
    s = zeroPadded width value ∧ s.length = width := by
  unfold decimalField at h
  dsimp only at h
  split at h
  · rename_i hle
    cases h
    refine ⟨rfl, ?_⟩
    simp only [zeroPadded, List.length_append, List.length_replicate] at hle ⊢
    omega
  · cases h

/-- What fits a field has no more digits than the field. -/
theorem lt_of_decimalField {width value : Nat} {s : List Char}
    (h : decimalField value width = .ok s) : value < Nat.pow 10 width := by
  obtain ⟨rfl, hlength⟩ := decimalField_ok h
  have hdigits : (Nat.toDigits 10 value).length ≤ width := by
    rw [zeroPadded, List.length_append, List.length_replicate] at hlength
    omega
  have hpos : 0 < width := Nat.lt_of_lt_of_le Nat.length_toDigits_pos hdigits
  exact (Nat.length_toDigits_le_iff (by decide) hpos).1 hdigits

theorem decimalField_of_lt {width value : Nat} (hw : 0 < width) (h : value < Nat.pow 10 width) :
    decimalField value width = .ok (zeroPadded width value) :=
  if_pos (Nat.le_of_eq (length_zeroPadded hw h))

theorem decimalField_of_le {width value : Nat} (h : Nat.pow 10 width ≤ value) :
    decimalField value width =
      .error (.invalidParameter s!"{value} does not fit in {width} decimal digits") := by
  refine if_neg fun hlength => ?_
  have hok : decimalField value width = .ok (zeroPadded width value) := if_pos hlength
  exact absurd (lt_of_decimalField hok) (Nat.not_lt.2 h)

theorem decimalField_error {width value : Nat} {e : Error} (h : decimalField value width = .error e) :
    e = .invalidParameter s!"{value} does not fit in {width} decimal digits" := by
  unfold decimalField at h
  dsimp only at h
  split at h
  · cases h
  · cases h
    rfl

end RigControl.Text
