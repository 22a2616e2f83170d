/-
Numbers of the FT-840. The rig takes a frequency and the offset of its receiver as packed decimals, the
offset with a byte for its sign, and reports both as binary counts, the offset in two's complement. All of
them count tens of hertz. What is accepted and what it is rounded to is the same on both ways
(`numbers_agree`), and the arithmetic of the machine is wide enough for it.
-/
import RigControl.Proofs.ByteOrder
import RigControl.Proofs.FixedFrames
import RigControl.Proofs.StatusBlocks

namespace RigControl.Ft840

variable {block frame bytes payload params : List UInt8} {l : Layout} {hz : Nat} {offset : Int}

/-! ## Frames -/

/-- A command with parameters takes a payload of up to four bytes and up to four parameters. -/
theorem frameWith_eq {c : Command} (hc : c.template.isComplete = false) (hpayload : payload.length < 5)
    (hparams : params.length ≤ 4) : c.frameWith payload params =
      .ok (FixedFrame.fill (payload ++ c.template.bytes.drop payload.length) ([3, 2, 1, 0].zip params)) := by
  have hlength : c.template.bytes.length = 5 := by
    cases c <;> rfl
  exact FixedFrame.build_of_room hc hlength hparams hpayload

theorem encodeLow_eq_ok {v n : Nat} (hn : n ≤ Bcd.maxDigits) :
    Bcd.encodeLow v n = .ok bytes ↔ (1 ≤ n ∧ v < Nat.pow 10 n) ∧ Bcd.packLow v n = bytes :=
  Bcd.ByteOrder.encode_eq_ok (o := .low) (.inl hn)

/-- The frame for a frequency has its digits in front of the code of the command. -/
theorem setFrequency_eq_ok : setFrequency hz = .ok frame ↔
    hz < 1000000000 ∧ frame = Bcd.packLow (hz / 10) 8 ++ [0x0A] := by
  have hpow : Nat.pow 10 8 = 100000000 := rfl
  have hbuild : Command.setFrequency.frameWith (Bcd.packLow (hz / 10) 8) [] =
      .ok (Bcd.packLow (hz / 10) 8 ++ [0x0A]) := by
    have hlength : (Bcd.packLow (hz / 10) 8).length = 4 := Bcd.length_packLow
    rw [frameWith_eq rfl (by omega) (by decide), hlength]
    rfl
  rw [setFrequency, Outcome.bind_eq_ok]
  constructor
  · rintro ⟨digits, hdigits, h⟩
    obtain ⟨⟨-, hlt⟩, rfl⟩ := (encodeLow_eq_ok (by decide)).1 hdigits
    rw [hbuild] at h
    exact ⟨by omega, (Except.ok.inj h).symm⟩
  · rintro ⟨hlt, rfl⟩
    exact ⟨_, (encodeLow_eq_ok (by decide)).2 ⟨⟨by decide, by omega⟩, rfl⟩, hbuild⟩

/-- The digits of a frequency read back as tens of hertz. -/
theorem decodeLow_tens (h : hz < 1000000000) :
    Bcd.decodeLow (Bcd.packLow (hz / 10) 8) 8 = .ok (hz / 10) := by
  have hfits : hz / 10 < Nat.pow 10 8 := show hz / 10 < 100000000 by omega
  exact Bcd.decodeLow_packLow_nil hfits (Nat.lt_trans hfits (by decide))

/-- The byte for the sign of an offset. -/
def signByte (offset : Int) : UInt8 := if offset < 0 then 0xFF else 0x00

/-- The frame for an offset has its digits, its sign, and the action in front of the code. -/
theorem setClarifier_eq_ok : setClarifier offset = .ok frame ↔
    offset.natAbs ≤ 9990 ∧ frame = Bcd.packLow (offset.natAbs / 10) 3 ++ [signByte offset, 0xFF, 0x09] := by
  have hpow : Nat.pow 10 3 = 1000 := rfl
  have hbuild : Command.clarifier.frameWith (Bcd.packLow (offset.natAbs / 10) 3)
      [0xFF, signByte offset] =
        .ok (Bcd.packLow (offset.natAbs / 10) 3 ++ [signByte offset, 0xFF, 0x09]) := by
    have hlength : (Bcd.packLow (offset.natAbs / 10) 3).length = 2 := Bcd.length_packLow
    rw [frameWith_eq rfl (by omega) (Nat.le_of_ble_eq_true rfl), hlength]
    rfl
  rw [setClarifier, ← signByte]
  by_cases hbig : maxClarifier < offset.natAbs
  · simp only [hbig, if_true, Outcome.throw_bind, Outcome.throw_ne_ok, false_iff, not_and]
    exact fun hle => absurd hbig (Nat.not_lt.2 hle)
  · have hle : offset.natAbs ≤ 9990 := Nat.le_of_not_lt hbig
    have hdigits : Bcd.encodeLow (offset.natAbs / 10) 3 = .ok (Bcd.packLow (offset.natAbs / 10) 3) :=
      (encodeLow_eq_ok (by decide)).2 ⟨⟨by decide, by omega⟩, rfl⟩
    simp only [hbig, if_false, hdigits, Outcome.ok_bind, hbuild]
    exact ⟨fun h => ⟨hle, (Except.ok.inj h).symm⟩, fun h => congrArg Except.ok h.2.symm⟩

/-- The number with a sign byte, as the rig takes it. -/
def signed? (sign : UInt8) (magnitude : Nat) : Option Int :=
  if sign = 0x00 then some magnitude else if sign = 0xFF then some (-magnitude) else none

theorem tdiv_ten : offset.tdiv 10 =
    if offset < 0 then -((offset.natAbs / 10 : Nat) : Int) else ((offset.natAbs / 10 : Nat) : Int) := by
  split
  · rename_i hneg
    have habs : offset = -(offset.natAbs : Int) := by omega
    rw [habs, Int.neg_tdiv, Int.natAbs_neg, Int.natAbs_natCast, Int.ofNat_tdiv]
    rfl
  · rename_i hpos
    have habs : offset = (offset.natAbs : Int) := by omega
    rw [habs, Int.natAbs_natCast, Int.ofNat_tdiv]
    rfl

/-- Digits and sign together are the offset, rounded toward zero. -/
theorem signed?_signByte :
    signed? (signByte offset) (10 * (offset.natAbs / 10)) = some (10 * offset.tdiv 10) := by
  rw [tdiv_ten, signByte, signed?]
  split
  · rw [if_neg (by decide), if_pos rfl]
    congr 1
    omega
  · rw [if_pos rfl]
    congr 1

/-- What a block reports for an offset that can be set. -/
theorem Holds.decodeClarifier_set (hsmall : offset.natAbs ≤ 9990)
    (h : Holds block l.clarifier (spell 2 (BitVec.ofInt 16 (offset.tdiv 10)).toNat)) :
    decodeClarifier block l = .ok (10 * offset.tdiv 10) := by
  have hrange : -999 ≤ offset.tdiv 10 ∧ offset.tdiv 10 ≤ 999 := by
    rw [tdiv_ten]
    split <;> omega
  have hword : (BitVec.ofInt 16 (offset.tdiv 10)).toInt = offset.tdiv 10 := by
    rw [BitVec.toInt_ofInt]
    exact Int.bmod_eq_of_le (by omega) (by omega)
  rw [h.decodeClarifier_word, hword]

/-! ## Machine words -/

/-- The frame for a frequency, reckoned in 64 bits. -/
def setFrequency64 (hz : UInt64) : Outcome (List UInt8) := do
  let digits ← Bcd.encodeLow (hz / 10).toNat 8
  Command.setFrequency.frameWith digits []

theorem setFrequency64_eq (hz : UInt64) : setFrequency64 hz = setFrequency hz.toNat := by
  rw [setFrequency64, UInt64.toNat_div]
  rfl

/-- The magnitude of a number of 32 bits. -/
def magnitude32 (offset : Int32) : UInt32 :=
  if offset < 0 then 0 - offset.toUInt32 else offset.toUInt32

/-- The frame for an offset, reckoned in 32 bits. -/
def setClarifier32 (offset : Int32) : Outcome (List UInt8) := do
  if ¬ (-9990 ≤ offset ∧ offset ≤ 9990) then
    throw (.invalidParameter s!"clarifier offset {offset.toInt} Hz outside ±{maxClarifier} Hz")
  let digits ← Bcd.encodeLow ((magnitude32 offset).toUInt64 / 10).toNat 3
  Command.clarifier.frameWith digits [0xFF, if offset < 0 then 0xFF else 0x00]

/-- The magnitude has 32 bits, that of the lowest number included. -/
theorem toNat_magnitude32 (offset : Int32) : (magnitude32 offset).toNat = offset.toInt.natAbs := by
  have hbits : offset.toUInt32.toNat = offset.toBitVec.toNat := rfl
  have hvalue := BitVec.toInt_eq_toNat_cond offset.toBitVec
  rw [Int32.toInt_toBitVec, ← hbits] at hvalue
  have hlt := offset.toUInt32.toNat_lt
  have hneg : offset < 0 ↔ offset.toInt < 0 := Int32.lt_iff_toInt_lt
  rw [magnitude32]
  split
  · rename_i h
    have hsub : (0 - offset.toUInt32).toNat = (4294967296 - offset.toUInt32.toNat + 0) % 4294967296 :=
      UInt32.toNat_sub ..
    have hbelow := hneg.1 h
    omega
  · rename_i h
    have habove := mt hneg.2 h
    omega

theorem setClarifier32_eq (offset : Int32) : setClarifier32 offset = setClarifier offset.toInt := by
  have hneg : offset < 0 ↔ offset.toInt < 0 := Int32.lt_iff_toInt_lt
  have hlow : -9990 ≤ offset ↔ -9990 ≤ offset.toInt := Int32.le_iff_toInt_le
  have hhigh : offset ≤ 9990 ↔ offset.toInt ≤ 9990 := Int32.le_iff_toInt_le
  have hbig : ¬ (-9990 ≤ offset ∧ offset ≤ 9990) ↔ maxClarifier < offset.toInt.natAbs := by
    rw [hlow, hhigh, maxClarifier]
    omega
  have htens : ((magnitude32 offset).toUInt64 / 10).toNat = offset.toInt.natAbs / 10 := by
    rw [UInt64.toNat_div, UInt32.toNat_toUInt64, toNat_magnitude32]
    rfl
  simp only [setClarifier32, setClarifier, hbig, hneg, htens]

/-! ## Both ways -/

theorem decodeFrequency_lt (h : decodeFrequency block l = .ok hz) : hz ≤ 167772150 := by
  obtain ⟨bytes, hfield, h⟩ := Outcome.bind_eq_ok.1 h
  obtain ⟨-, hlength, -⟩ := field_ok hfield
  match bytes, hlength with
  | [a, b, c], _ =>
    have hcount : bigEndian [a, b, c] = 256 * (256 * (256 * 0 + a.toNat) + b.toNat) + c.toNat := rfl
    have ha := a.toNat_lt
    have hb := b.toNat_lt
    have hc := c.toNat_lt
    have hhz := Outcome.pure_eq_ok.1 h
    omega

theorem decodeClarifier_mem (h : decodeClarifier block l = .ok offset) :
    -327680 ≤ offset ∧ offset ≤ 327670 := by
  obtain ⟨bytes, -, h⟩ := Outcome.bind_eq_ok.1 h
  have hlow := Int.le_bmod (x := bigEndian bytes) (m := 0x10000) (by decide)
  have hhigh := Int.bmod_lt (x := bigEndian bytes) (m := 0x10000) (by decide)
  have hoffset := Outcome.pure_eq_ok.1 h
  omega

/-- **Numbers mean the same to the rig and from it.** A frequency below 1 GHz is sent as the digits of its
tens of hertz, and a block with that count reports it without its last digit. An offset of up to 9990 Hz is
sent as a magnitude and a sign, which give the offset rounded toward zero to tens of hertz, and a block
with that count in two's complement reports the same. All other numbers are refused. Reckoned in machine
words, down to the lowest number of 32 bits, the frames are the same, and what is reported fits as well. -/
theorem numbers_agree :
    (∀ hz : Nat, ((∃ frame, setFrequency hz = .ok frame) ↔ hz < 1000000000) ∧
      (∀ frame, setFrequency hz = .ok frame →
        ∃ digits, frame = digits ++ [0x0A] ∧ digits.length = 4 ∧ Bcd.decodeLow digits 8 = .ok (hz / 10)) ∧
      (hz / 10 < 0x1000000 → ∀ (block : List UInt8) (l : Layout),
        Holds block l.frequency (spell 3 (hz / 10)) → decodeFrequency block l = .ok (hz - hz % 10))) ∧
    (∀ offset : Int, ((∃ frame, setClarifier offset = .ok frame) ↔ -9990 ≤ offset ∧ offset ≤ 9990) ∧
      ∀ frame, setClarifier offset = .ok frame →
        (∃ low high sign magnitude, frame = [low, high, sign, 0xFF, 0x09] ∧
          Bcd.decodeLow [low, high] 3 = .ok magnitude ∧
          signed? sign (10 * magnitude) = some (10 * offset.tdiv 10)) ∧
        ∀ (block : List UInt8) (l : Layout),
          Holds block l.clarifier (spell 2 (BitVec.ofInt 16 (offset.tdiv 10)).toNat) →
            decodeClarifier block l = .ok (10 * offset.tdiv 10)) ∧
    (∀ hz : UInt64, setFrequency64 hz = setFrequency hz.toNat) ∧
    (∀ offset : Int32, setClarifier32 offset = setClarifier offset.toInt) ∧
    ∀ (block : List UInt8) (l : Layout),
      (∀ hz, decodeFrequency block l = .ok hz → hz ≤ 167772150) ∧
      ∀ offset, decodeClarifier block l = .ok offset → -327680 ≤ offset ∧ offset ≤ 327670 := by
  refine ⟨fun hz => ⟨⟨?_, fun h => ⟨_, setFrequency_eq_ok.2 ⟨h, rfl⟩⟩⟩, fun frame h => ?_,
      fun hsmall block l h => ?_⟩, fun offset => ⟨⟨?_, fun h => ⟨_, setClarifier_eq_ok.2 ⟨by omega, rfl⟩⟩⟩,
      fun frame h => ⟨?_, fun block l => ?_⟩⟩, setFrequency64_eq, setClarifier32_eq,
    fun block l => ⟨fun _ => decodeFrequency_lt, fun _ => decodeClarifier_mem⟩⟩
  · rintro ⟨frame, h⟩
    exact (setFrequency_eq_ok.1 h).1
  · obtain ⟨hlt, rfl⟩ := setFrequency_eq_ok.1 h
    exact ⟨_, rfl, Bcd.length_packLow, decodeLow_tens hlt⟩
  · have hcount : bigEndian (spell 3 (hz / 10)) = hz / 10 := bigEndian_spell hsmall
    rw [h.decodeFrequency_eq length_spell, hcount]
    congr 1
    omega
  · rintro ⟨frame, h⟩
    have hsmall := (setClarifier_eq_ok.1 h).1
    omega
  · obtain ⟨hsmall, rfl⟩ := setClarifier_eq_ok.1 h
    have hfits : offset.natAbs / 10 < Nat.pow 10 3 := show offset.natAbs / 10 < 1000 by omega
    have hread := Bcd.decodeLow_packLow_nil hfits (Nat.lt_trans hfits (by decide))
    exact ⟨_, _, signByte offset, _, rfl, hread, signed?_signByte⟩
  · exact Holds.decodeClarifier_set (setClarifier_eq_ok.1 h).1

/-- A frequency that is no full tens of hertz, and the lowest offset, on their way into the record of
VFO B. -/
theorem numbers_agree_lowest :
    let block : List UInt8 := put (put (List.replicate 18 0) 0x0A (spell 3 703999)) 0x0E (spell 2 0xFC19)
    let frame : List UInt8 := [0x99, 0x09, 0xFF, 0xFF, 0x09]
    setFrequency 7039995 = .ok [0x99, 0x39, 0x70, 0x00, 0x0A] ∧ 7039995 / 10 < 0x1000000 ∧
      Holds block Layout.vfoB.frequency (spell 3 (7039995 / 10)) ∧
      decodeFrequency block .vfoB = .ok 7039990 ∧
      setClarifier (-9990) = .ok frame ∧ signed? 0xFF (10 * 999) = some (-9990) ∧
      Holds block Layout.vfoB.clarifier (spell 2 (BitVec.ofInt 16 ((-9990 : Int).tdiv 10)).toNat) ∧
      decodeClarifier block .vfoB = .ok (-9990) := by
  intro block frame
  have hfrequency : Holds block Layout.vfoB.frequency (spell 3 (7039995 / 10)) := by decide
  have hclarifier : Holds block Layout.vfoB.clarifier
      (spell 2 (BitVec.ofInt 16 ((-9990 : Int).tdiv 10)).toNat) := by decide
  have hframe : setClarifier (-9990) = .ok frame := by decide
  have hread := (numbers_agree.1 7039995).2.2 (by decide) block .vfoB hfrequency
  have hback := ((numbers_agree.2.1 (-9990)).2 frame hframe).2 block .vfoB hclarifier
  exact ⟨by decide, by decide, hfrequency, hread, hframe, by decide, hclarifier, hback⟩

end RigControl.Ft840
