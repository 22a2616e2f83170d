/-
The selector of the preamplifier. A gain is written as its place in the list of the model, as it is, and the
selector is read as a packed decimal. Up to nine this is the same, so that a gain is read back; the gains
behind that are not. Place 16 reads as 10, which is another gain, and place 10 as no number at all
(`preamp_reads_back`).
-/
import RigControl.Proofs.Settings.Basic
import RigControl.Proofs.Settings.Bytes
import RigControl.Proofs.Steps

namespace RigControl.Civ

open Outcome

/-- The gains are numbered in one byte, each of them once, and none of them is that of an amplifier that is
off. -/
structure Numbered (gains : List UInt8) : Prop where
  few : gains.length ≤ 99
  distinct : gains.Nodup
  nonzero : ∀ gain ∈ gains, gain ≠ 0

/-! ## Places -/

section

variable {gains : List UInt8} {gain index : UInt8} {i place : Nat} {value : LevelValue}

/-- A gain is written as its place, counted from one. -/
theorem stepToIndex_getElem? (h : Numbered gains) (hi : gains[i]? = some gain) :
    stepToIndex gains gain = .ok (i + 1).toUInt8 := by
  obtain ⟨hlt, hget⟩ := List.getElem?_eq_some_iff.1 hi
  have hmem : gain ∈ gains := hget ▸ List.getElem_mem hlt
  have hfew := h.few
  have hplace : (i + 1).toUInt8.toNat = i + 1 := toNat_toUInt8_of_le (by omega)
  exact (stepToIndex_eq_ok (by omega) (h.nonzero gain hmem)).2
    ⟨i, idxOf?_of_nodup h.distinct hi, hplace⟩

/-- A place with two nibbles that are digits is read as the number that they spell. -/
theorem parseSelector_place (hplace : place ≤ 99) (hlow : place % 16 ≤ 9) :
    parseSelector [place.toUInt8] = .ok (10 * (place / 16) + place % 16).toUInt8 := by
  refine decodeByte_eq_ok.2 ?_
  rw [toNat_toUInt8_of_le (by omega), toNat_toUInt8_of_le (by omega)]
  omega

/-- Any other place is read as no number. -/
theorem parseSelector_other (hplace : place ≤ 99) (hlow : 9 < place % 16) :
    ∃ detail, parseSelector [place.toUInt8] = .error (.protocol detail) := by
  show ∃ detail, decodeByte place.toUInt8 = _
  cases h : decodeByte place.toUInt8 with
  | ok v =>
    have hdigit := (decodeByte_eq_ok.1 h).2.1
    rw [toNat_toUInt8_of_le (by omega)] at hdigit
    omega
  | error e =>
    obtain ⟨detail, rfl⟩ := decodeByte_error h
    exact ⟨detail, rfl⟩

/-- What is read is the gain at the place that the nibbles spell. -/
theorem read_place (hpos : 0 < place) (hplace : place ≤ 99) (hlow : place % 16 ≤ 9)
    (hgain : gains[10 * (place / 16) + place % 16 - 1]? = some gain) :
    (parseSelector [place.toUInt8] >>= indexToStep gains) = .ok gain := by
  have hread : (10 * (place / 16) + place % 16).toUInt8.toNat = 10 * (place / 16) + place % 16 :=
    toNat_toUInt8_of_le (by omega)
  refine bind_eq_ok.2 ⟨_, parseSelector_place hplace hlow, indexToStep_of_pos ?_ ?_⟩
  · rw [hread]
    omega
  · rwa [hread]

end

/-! ## Setting and reading -/

section

variable {S : Type} {b : Bus} {K : Keeper b S} {timeout : Nat} {k : Tracking} {s : S} {d : Descriptor}
  {gain : UInt8} {i : Nat} {value : LevelValue}

variable (hb : b.Sound) (htimeout : 0 < timeout) (hkeeps : K.keeps .preamp)
include hb htimeout hkeeps

/-- A gain is set by its place. -/
theorem setLevel_takes (hwrite : d.checkWriteLevel .preamp = .ok ()) (hd : Numbered d.preamp)
    (hi : d.preamp[i]? = some gain) (hvalue : value.toInt = gain.toNat) :
    ∃ s', (setLevel b d .preamp value).Takes K.device timeout (k, s) (.ok ()) (k, s') ∧
      K.data s' .preamp = [(i + 1).toUInt8] := by
  obtain ⟨hlt, -⟩ := List.getElem?_eq_some_iff.1 hi
  have hfew := hd.few
  have hclear : Clear [(i + 1).toUInt8] := by
    rw [clear_singleton, UInt8.lt_iff_toNat_lt, toNat_toUInt8_of_le (by omega)]
    show _ < 250
    omega
  have hrequest : levelRequest b d .preamp value = .ok (b.setPreamp (i + 1).toUInt8) := by
    rw [levelRequest, decibels_eq_ok hvalue]
    show (do return b.setPreamp (← stepToIndex d.preamp gain)) = _
    rw [stepToIndex_getElem? hd hi]
    rfl
  have hlength : Topic.preamp.sub.length + [(i + 1).toUInt8].length ≤ 58 := Nat.le_of_ble_eq_true rfl
  obtain ⟨s', htakes, hdata, -⟩ := K.sets hb htimeout hkeeps (List.cons_ne_nil _ []) hclear hlength
  exact ⟨s', .lift_bind hwrite (.lift_bind hrequest htakes), hdata⟩

/-- Reading the level makes of the selector what its byte spells. -/
theorem getLevel_takes {selector : UInt8} (hread : d.checkReadLevel .preamp = .ok ())
    (hdata : K.data s .preamp = [selector]) (hclear : selector < 0xFA) :
    ∃ s', (getLevel b d .preamp).Takes K.device timeout (k, s)
      ((parseSelector [selector] >>= indexToStep d.preamp).map fun db => .int db.toNat) (k, s') := by
  have hne : K.data s .preamp ≠ [] := by rw [hdata]; nofun
  have hbytes : Clear (K.data s .preamp) := by rw [hdata]; exact clear_singleton.2 hclear
  have hlength : Topic.preamp.sub.length + (K.data s .preamp).length ≤ 58 := by
    rw [hdata]
    exact Nat.le_of_ble_eq_true rfl
  obtain ⟨s', htakes, -⟩ := K.gets hb htimeout hkeeps hne hbytes hlength
  rw [hdata] at htakes
  refine ⟨s', .lift_bind hread (.bind htakes ?_)⟩
  cases parseSelector [selector] with
  | error e => exact .lift (o := .error e)
  | ok index =>
    show Dialogue.Takes _ _ _ ((liftM (indexToStep d.preamp index) : Dialogue UInt8) >>= _)
      ((indexToStep d.preamp index).map _) (k, s')
    cases indexToStep d.preamp index with
    | error e => exact .lift (o := .error e)
    | ok db => exact .pure

end

/-- **A gain is read back if its place has one digit**, on any model with up to 99 gains and from any rig
that keeps its selector. Setting it succeeds and leaves the rig with its place as one byte. A place of two
digits is read as another one: if both nibbles of the byte are digits, reading gives the gain at the place
that they spell, which is another gain, and if not, reading fails. -/
theorem preamp_reads_back {S : Type} {b : Bus} {K : Keeper b S} {timeout : Nat} {s : S}
    {r : Rig (Simulated S)} {gain : UInt8} {i : Nat} {value : LevelValue} (hb : b.Sound)
    (htimeout : 0 < timeout) (hkeeps : K.keeps .preamp) (hr : r.backend = .civ b)
    (hat : r.session.At K.device timeout s)
    (hwrite : r.session.descriptor.checkWriteLevel .preamp = .ok ())
    (hread : r.session.descriptor.checkReadLevel .preamp = .ok ())
    (hd : Numbered r.session.descriptor.preamp) (hi : r.session.descriptor.preamp[i]? = some gain)
    (hvalue : value.toInt = gain.toNat) (v w : Vfo) :
    let place := i + 1
    let set := (Rig.perform (.setLevel v .preamp value)).run r
    let got := ((Rig.perform (.getLevel w .preamp)).run set.2).1
    set.1 = .ok () ∧ K.data set.2.session.engine.port.link.rig .preamp = [place.toUInt8] ∧
      (place ≤ 9 → got = .ok (.int gain.toNat)) ∧
      (10 ≤ place → place % 16 ≤ 9 → ∃ other,
        r.session.descriptor.preamp[10 * (place / 16) + place % 16 - 1]? = some other ∧
          other ≠ gain ∧ got = .ok (.int other.toNat)) ∧
      (9 < place % 16 → ∃ detail, got = .error (.protocol detail)) := by
  intro place set got
  have hfew := hd.few
  obtain ⟨hlt, hget⟩ := List.getElem?_eq_some_iff.1 hi
  have hplace : place ≤ 99 := by omega
  have hclear : place.toUInt8 < 0xFA := by
    rw [UInt8.lt_iff_toNat_lt, toNat_toUInt8_of_le (by omega)]
    show _ < 250
    omega
  -- The rig keeps the place as a byte, and reading goes by that byte alone.
  obtain ⟨s', hset, hdata⟩ := setLevel_takes hb htimeout hkeeps hwrite hd hi hvalue
  obtain ⟨s'', hgets⟩ := getLevel_takes hb htimeout hkeeps hread hdata hclear
  obtain ⟨hok, hat', hgot⟩ :=
    Rig.perform_in_turn (.setLevel v .preamp value) (.getLevel w .preamp) hr hat hset hgets
  have hgot : got = (parseSelector [place.toUInt8] >>= indexToStep r.session.descriptor.preamp).map
      fun db => .int db.toNat := hgot
  have hrig : set.2.session.engine.port.link.rig = s' := hat'.attends.rig
  refine ⟨hok, by rw [hrig, hdata], fun hshort => ?_, fun hlong hlow => ?_, fun hlow => ?_⟩
  · have hsame : 10 * (place / 16) + place % 16 - 1 = i := by omega
    rw [hgot, read_place (Nat.succ_pos i) hplace (by omega) (by rwa [hsame])]
    rfl
  · have hother : 10 * (place / 16) + place % 16 - 1 < r.session.descriptor.preamp.length := by omega
    refine ⟨_, List.getElem?_eq_getElem hother, fun heq => ?_, ?_⟩
    · have hsame := (List.getElem_inj hd.distinct).1 (heq.trans hget.symm)
      omega
    · rw [hgot, read_place (Nat.succ_pos i) hplace hlow (List.getElem?_eq_getElem hother)]
      rfl
  · obtain ⟨detail, hno⟩ := parseSelector_other hplace hlow
    refine ⟨detail, ?_⟩
    rw [hgot, hno]
    rfl

/-- A model with three gains sets the third one and reads it back. -/
theorem preamp_reads_back_third :
    let b : Bus := { rig := 0x6A }
    let d : Descriptor := { Models.ic7800 with preamp := [10, 16, 20] }
    let r : Rig (Simulated (Topic → List UInt8)) := ⟨.civ b, .start d {} (Keeper.plainLink b)⟩
    let set := (Rig.perform (.setLevel .current .preamp (.int 20))).run r
    d.validate = .ok () ∧ set.1 = .ok () ∧
      ((Rig.perform (.getLevel .current .preamp)).run set.2).1 = .ok (.int 20) := by
  intro b d r set
  have hb : b.Sound := Bus.sound_of_lt (by decide) (by decide)
  have hkeeps : (Keeper.plain b).keeps .preamp := show Topic.preamp ∈ Keeper.shelved by decide
  have hat : r.session.At (Keeper.plain b).device (Config.resolve {} d.line).timeout fun _ => [] :=
    ⟨⟨rfl, rfl, rfl, rfl⟩, rfl⟩
  have hd : Numbered r.session.descriptor.preamp := ⟨by decide, by decide, by decide +kernel⟩
  have hi : r.session.descriptor.preamp[2]? = some 20 := rfl
  have hvalue : (LevelValue.int 20).toInt = (20 : UInt8).toNat := rfl
  obtain ⟨hset, -, hback, -⟩ := preamp_reads_back hb (by decide) hkeeps rfl hat (by decide) (by decide)
    hd hi hvalue .current .current
  exact ⟨by decide +kernel, hset, hback (by decide)⟩

/-- A model has sixteen gains, of 1 dB up to 16 dB. The tenth one is set and cannot be read, and the last one
is set and reads as the tenth. -/
theorem preamp_lost :
    let b : Bus := { rig := 0x6A }
    let d : Descriptor :=
      { Models.ic7800 with preamp := [1, 2, 3, 4, 5, 6, 7, 8, 9, 10, 11, 12, 13, 14, 15, 16] }
    let r : Rig (Simulated (Topic → List UInt8)) := ⟨.civ b, .start d {} (Keeper.plainLink b)⟩
    let tenth := (Rig.perform (.setLevel .current .preamp (.int 10))).run r
    let last := (Rig.perform (.setLevel .current .preamp (.int 16))).run r
    d.validate = .ok () ∧ Numbered d.preamp ∧ tenth.1 = .ok () ∧ last.1 = .ok () ∧
      ((Rig.perform (.getLevel .current .preamp)).run tenth.2).1 =
        .error (.protocol "invalid BCD digit 0xA in byte 0x0A") ∧
      ((Rig.perform (.getLevel .current .preamp)).run last.2).1 = .ok (.int 10) := by
  intro b d r tenth last
  have hd : Numbered d.preamp := ⟨by decide, by decide, by decide +kernel⟩
  exact ⟨by decide +kernel, hd, by decide +kernel, by decide +kernel, by decide +kernel,
    by decide +kernel⟩

end RigControl.Civ
