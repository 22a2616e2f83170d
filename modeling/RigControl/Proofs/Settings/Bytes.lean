/-
Numbers below a hundred in one byte of a CI-V frame. A number is written if and only if it is below a
hundred, a byte is read if and only if both of its nibbles are digits, and what was written is read back.
-/
import RigControl.Civ.Field
import RigControl.Proofs.ByteOrder

namespace RigControl.Civ

variable {v byte : UInt8} {e : Error} {n : Nat}

theorem toNat_toUInt8_of_le (h : n ≤ 255) : n.toUInt8.toNat = n :=
  UInt8.toNat_ofNat_of_lt' (Nat.lt_succ_of_le h)

theorem packHigh_byte (n : Nat) : Bcd.packHigh n 2 = [Bcd.pair (n / 10 % 10) (n % 10)] := rfl

theorem encodeByte_eq_ok : encodeByte v = .ok byte ↔
    v.toNat < 100 ∧ Bcd.pair (v.toNat / 10) (v.toNat % 10) = byte := by
  have hencode : ∀ bytes, Bcd.encodeHigh v.toNat 2 = .ok bytes ↔
      (1 ≤ 2 ∧ v.toNat < Nat.pow 10 2) ∧ Bcd.packHigh v.toNat 2 = bytes :=
    fun bytes => Bcd.ByteOrder.encode_eq_ok (o := .high) (.inl (by decide))
  have hpow : Nat.pow 10 2 = 100 := rfl
  rw [encodeByte, Outcome.map_eq_ok]
  constructor
  · intro h
    obtain ⟨bytes, hbytes, rfl⟩ := h
    obtain ⟨⟨-, hv⟩, rfl⟩ := (hencode _).1 hbytes
    rw [hpow] at hv
    have htens : v.toNat / 10 % 10 = v.toNat / 10 := Nat.mod_eq_of_lt (by omega)
    refine ⟨hv, ?_⟩
    rw [packHigh_byte, htens]
    rfl
  · intro h
    obtain ⟨hv, rfl⟩ := h
    have htens : v.toNat / 10 % 10 = v.toNat / 10 := Nat.mod_eq_of_lt (by omega)
    refine ⟨_, (hencode _).2 ⟨⟨by decide, hv⟩, rfl⟩, ?_⟩
    rw [packHigh_byte, htens]
    rfl

theorem encodeByte_error (h : encodeByte v = .error e) : ∃ detail, e = .invalidParameter detail :=
  Bcd.ByteOrder.encode_error (o := .high) (Outcome.map_eq_error.1 h)

theorem decodeByte_eq_ok : decodeByte byte = .ok v ↔
    byte.toNat / 16 ≤ 9 ∧ byte.toNat % 16 ≤ 9 ∧ 10 * (byte.toNat / 16) + byte.toNat % 16 = v.toNat := by
  have hdigits : Bcd.ByteOrder.high.digitsOf [byte] 2 = [byte.toNat % 16, byte.toNat / 16] := rfl
  have hdecode : ∀ n, Bcd.decodeHigh [byte] 2 = .ok n ↔ Bcd.byteCount 2 ≤ [byte].length ∧
      (∀ d ∈ [byte.toNat % 16, byte.toNat / 16], d ≤ 9) ∧
        Bcd.numeral [byte.toNat % 16, byte.toNat / 16] = n ∧ n < UInt64.size := by
    intro n
    rw [← hdigits]
    exact Bcd.ByteOrder.decode_eq_ok (o := .high)
  have hvalue : Bcd.numeral [byte.toNat % 16, byte.toNat / 16] =
      10 * (byte.toNat / 16) + byte.toNat % 16 := by
    simp only [Bcd.numeral]
    omega
  have hsize : UInt64.size = 18446744073709551616 := rfl
  rw [decodeByte, Outcome.map_eq_ok]
  constructor
  · intro h
    obtain ⟨n, hn, rfl⟩ := h
    obtain ⟨-, hd, hsum, -⟩ := (hdecode n).1 hn
    have hlow := hd _ List.mem_cons_self
    have hhigh := hd (byte.toNat / 16) (by simp)
    refine ⟨hhigh, hlow, ?_⟩
    rw [Nat.toUInt8, UInt8.toNat_ofNat']
    omega
  · intro h
    obtain ⟨hhigh, hlow, hsum⟩ := h
    refine ⟨v.toNat, (hdecode _).2 ⟨Nat.le_refl 1, ?_, by omega, by omega⟩, UInt8.ofNat_toNat⟩
    simp only [List.mem_cons, List.not_mem_nil, or_false]
    rintro d (rfl | rfl)
    · exact hlow
    · exact hhigh

theorem decodeByte_error (h : decodeByte byte = .error e) : ∃ detail, e = .protocol detail :=
  Bcd.ByteOrder.decode_error (o := .high) (Outcome.map_eq_error.1 h)

/-- What was written is read back. -/
theorem decode_encodeByte (h : encodeByte v = .ok byte) : decodeByte byte = .ok v := by
  obtain ⟨hv, rfl⟩ := encodeByte_eq_ok.1 h
  have hbyte : (Bcd.pair (v.toNat / 10) (v.toNat % 10)).toNat = 16 * (v.toNat / 10) + v.toNat % 10 :=
    Bcd.toNat_pair _ _ (by omega) (by omega)
  refine decodeByte_eq_ok.2 ?_
  rw [hbyte]
  omega

/-! ## Several in a row -/

variable {values bytes : List UInt8}

/-- Numbers are written if and only if all of them are below a hundred. -/
theorem mapM_encodeByte_isOk :
    (∃ bytes, values.mapM encodeByte = .ok bytes) ↔ ∀ v ∈ values, v.toNat < 100 := by
  induction values with
  | nil => exact ⟨fun _ => nofun, fun _ => ⟨[], rfl⟩⟩
  | cons v values ih =>
    rw [List.forall_mem_cons, ← ih]
    constructor
    · rintro ⟨bytes, h⟩
      obtain ⟨byte, rest, hbyte, hrest, -⟩ := Outcome.mapM_cons_eq_ok.1 h
      exact ⟨(encodeByte_eq_ok.1 hbyte).1, rest, hrest⟩
    · rintro ⟨hv, rest, hrest⟩
      exact ⟨_, Outcome.mapM_cons_eq_ok.2 ⟨_, rest, encodeByte_eq_ok.2 ⟨hv, rfl⟩, hrest, rfl⟩⟩

theorem mapM_encodeByte_error (h : values.mapM encodeByte = .error e) :
    ∃ detail, e = .invalidParameter detail := by
  induction values with
  | nil => cases h
  | cons v values ih =>
    obtain hfirst | ⟨-, -, hrest⟩ := Outcome.mapM_cons_eq_error.1 h
    · exact encodeByte_error hfirst
    · exact ih hrest

end RigControl.Civ
