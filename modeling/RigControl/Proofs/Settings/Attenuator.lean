/-
The attenuator of the rigs that can set it. A step is chosen by the coding of the model and written as the
data of one topic, on CI-V rigs as a packed decimal and on the newer Yaesu rigs as one digit. Whatever list
the model has, a step for which a request can be built is read back from a rig that keeps what it is sent
(`attenuator_reads_back`).
-/
import RigControl.Models.Icom
import RigControl.Models.Yaesu
import RigControl.Proofs.Settings.Basic
import RigControl.Proofs.Settings.Bytes
import RigControl.Proofs.Settings.Newcat
import RigControl.Proofs.Steps

namespace RigControl

open Outcome

variable {S : Type} {B : Backend} {D : Device S} {build : Descriptor → Level → LevelValue → Outcome Request}
  {Holds : S → UInt8 → Prop} {timeout : Nat} {s : S} {k : Tracking} {d : Descriptor} {config : Config}
  {v : Vfo} {db raw : UInt8} {value : LevelValue} {request : Request}

/-! ## Requests -/

theorem Civ.attenuatorRequest_eq_ok {b : Civ.Bus} (hvalue : value.toInt = db.toNat) :
    Civ.levelRequest b d .attenuator value = .ok request ↔ ∃ raw byte,
      d.encodeAttenuator db = .ok raw ∧ Civ.encodeByte raw = .ok byte ∧
        b.write "set_level" .attenuator [byte] = request := by
  rw [Civ.levelRequest, Civ.decibels_eq_ok hvalue, ok_bind, bind_eq_ok]
  refine exists_congr fun raw => ?_
  rw [Civ.Bus.setAttenuator, bind_eq_ok]
  constructor
  · rintro ⟨hraw, byte, hbyte, h⟩
    exact ⟨byte, hraw, hbyte, pure_eq_ok.1 h⟩
  · rintro ⟨byte, hraw, hbyte, rfl⟩
    exact ⟨hraw, byte, hbyte, rfl⟩

theorem Newcat.attenuatorRequest_eq_ok (hvalue : value.toInt = db.toNat) :
    Newcat.levelRequest d .attenuator value = .ok request ↔ ∃ raw,
      d.encodeAttenuator db = .ok raw ∧ Newcat.setAttenuator raw = .ok request := by
  rw [Newcat.levelRequest, Newcat.decibels_eq_ok hvalue, ok_bind, bind_eq_ok]

/-! ## Rigs that keep their attenuator -/

/-- A rig keeps its attenuator: what it is, how the request to set it is built, and when it holds a value
on the wire. -/
inductive KeepsAttenuator : {S : Type} → Backend → Device S →
    (Descriptor → Level → LevelValue → Outcome Request) → (S → UInt8 → Prop) → Prop
  /-- A packed decimal of two digits. -/
  | civ {S : Type} {b : Civ.Bus} (K : Civ.Keeper b S) (hb : b.Sound) (hkeeps : K.keeps .attenuator) :
    KeepsAttenuator (.civ b) K.device (Civ.levelRequest b) fun s raw =>
      ∃ byte, Civ.encodeByte raw = .ok byte ∧ K.data s .attenuator = [byte]
  /-- One digit. -/
  | newcat {S : Type} (K : Newcat.Keeper S) (hkeeps : K.keeps "RA0") :
    KeepsAttenuator .newcat K.device Newcat.levelRequest fun s raw =>
      raw.toNat < 10 ∧ K.text s "RA0" = Text.zeroPadded 1 raw.toNat

namespace KeepsAttenuator

variable (h : KeepsAttenuator B D build Holds)
include h

/-- The value on the wire is held. -/
theorem sets (hwrite : d.checkWriteLevel .attenuator = .ok ()) (hvalue : value.toInt = db.toNat)
    (htimeout : 0 < timeout) (hrequest : build d .attenuator value = .ok request) : ∃ raw s',
    d.encodeAttenuator db = .ok raw ∧ Holds s' raw ∧
      (B.respond d config (.setLevel v .attenuator value)).Takes D timeout (k, s) (.ok ()) (k, s') := by
  cases h with
  | @civ b K hb hkeeps =>
    obtain ⟨raw, byte, hraw, hbyte, rfl⟩ := (Civ.attenuatorRequest_eq_ok hvalue).1 hrequest
    have hclear : Civ.Clear [byte] := Civ.clear_singleton.2 (Civ.encodeByte_lt hbyte)
    obtain ⟨s', htakes, hdata, -⟩ := K.sets hb htimeout hkeeps (List.cons_ne_nil byte []) hclear
      (show 0 + 1 ≤ 58 by decide)
    exact ⟨raw, s', hraw, ⟨byte, hbyte, hdata⟩, .lift_bind hwrite (.lift_bind hrequest htakes)⟩
  | newcat K hkeeps =>
    obtain ⟨raw, hraw, hset⟩ := (Newcat.attenuatorRequest_eq_ok hvalue).1 hrequest
    obtain ⟨⟨-, hlt⟩, -⟩ := Newcat.command_num_eq_ok.1 hset
    obtain ⟨s', htakes, htext⟩ := K.sets hkeeps hset
    exact ⟨raw, s', hraw, ⟨hlt, htext⟩, .lift_bind hwrite (.lift_bind hrequest htakes)⟩

/-- The value that is held is read as its step. -/
theorem gets (hread : d.checkReadLevel .attenuator = .ok ()) (htimeout : 0 < timeout)
    (hholds : Holds s raw) (hdb : d.decodeAttenuator raw = .ok db) : ∃ s',
      (B.respond d config (.getLevel v .attenuator)).Takes D timeout (k, s) (.ok (.int db.toNat))
        (k, s') := by
  cases h with
  | @civ b K hb hkeeps =>
    obtain ⟨byte, hbyte, hdata⟩ := hholds
    have hclear : Civ.Clear [byte] := Civ.clear_singleton.2 (Civ.encodeByte_lt hbyte)
    have hselector : Civ.parseSelector [byte] = .ok raw := Civ.decode_encodeByte hbyte
    obtain ⟨s', htakes, -⟩ := K.gets hb htimeout hkeeps (by rw [hdata]; nofun) (by rwa [hdata])
      (by rw [hdata]; exact Nat.le_of_ble_eq_true rfl)
    rw [hdata] at htakes
    exact ⟨s', .lift_bind hread (.bind htakes (.lift_bind hselector (.lift_bind hdb .pure)))⟩
  | newcat K hkeeps =>
    obtain ⟨hlt, htext⟩ := hholds
    have hdigits : Text.Digits (K.text s "RA0") := htext ▸ Text.zeroPadded_digits
    have hindex : Newcat.parseIndex (K.text s "RA0") = .ok raw :=
      htext ▸ Newcat.parseIndex_zeroPadded hlt
    have hlength : (K.text s "RA0").length = 1 := by
      rw [htext, Text.length_zeroPadded Nat.one_pos hlt]
    obtain ⟨s', htakes⟩ := K.gets htimeout hkeeps hdigits (by rw [hlength]; decide)
    exact ⟨s', .lift_bind hread (.bind htakes (.lift_bind hindex (.lift_bind hdb .pure)))⟩

/-- Being off is requested in the same way whatever the list. -/
theorem request_off (hvalue : value.toInt = (0 : UInt8).toNat) (steps : List UInt8) :
    build { d with attenuator := steps } .attenuator value = build d .attenuator value := by
  have hencode : ∀ d : Descriptor, d.encodeAttenuator 0 = .ok 0 := fun _ => AttenuatorCoding.encode_zero
  cases h with
  | civ K hb hkeeps =>
    rw [Civ.levelRequest, Civ.levelRequest, Civ.decibels_eq_ok hvalue, ok_bind, ok_bind, hencode, hencode]
  | newcat K hkeeps =>
    rw [Newcat.levelRequest, Newcat.levelRequest, Newcat.decibels_eq_ok hvalue, ok_bind, ok_bind, hencode,
      hencode]

end KeepsAttenuator

/-- **An attenuator is read back**, on any model with up to 99 steps, in either coding, and from any rig that
keeps it. If the request for a number of decibels can be built, setting it succeeds and leaves the rig with
the value that the coding gives, and reading gives these decibels again. Being off does not take the list of
the model: any other list makes the same request of it, and reads it as off. -/
theorem attenuator_reads_back {S : Type} {B : Backend} {D : Device S}
    {build : Descriptor → Level → LevelValue → Outcome Request} {Holds : S → UInt8 → Prop} {timeout : Nat}
    {s : S} {r : Rig (Simulated S)} {db : UInt8} {value : LevelValue} {request : Request}
    (hkeeps : KeepsAttenuator B D build Holds) (htimeout : 0 < timeout) (hr : r.backend = B)
    (hat : r.session.At D timeout s)
    (hwrite : r.session.descriptor.checkWriteLevel .attenuator = .ok ())
    (hread : r.session.descriptor.checkReadLevel .attenuator = .ok ())
    (hfew : db ≠ 0 → r.session.descriptor.attenuator.length ≤ 99) (hvalue : value.toInt = db.toNat)
    (hrequest : build r.session.descriptor .attenuator value = .ok request) (v w : Vfo) :
    let d := r.session.descriptor
    let set := (Rig.perform (.setLevel v .attenuator value)).run r
    let got := ((Rig.perform (.getLevel w .attenuator)).run set.2).1
    set.1 = .ok () ∧
      (∃ raw, d.encodeAttenuator db = .ok raw ∧ Holds set.2.session.engine.port.link.rig raw) ∧
      got = .ok (.int db.toNat) ∧
      (db = 0 → ∀ steps, build { d with attenuator := steps } .attenuator value = .ok request ∧
        ({ d with attenuator := steps } : Descriptor).encodeAttenuator 0 = .ok 0 ∧
        ({ d with attenuator := steps } : Descriptor).decodeAttenuator 0 = .ok 0) := by
  intro d set got
  obtain ⟨raw, s', hraw, hholds, hset⟩ := hkeeps.sets hwrite hvalue htimeout hrequest
  have hdb : d.decodeAttenuator raw = .ok db :=
    AttenuatorCoding.decode_encode (fun hne => Nat.le_trans (hfew hne) (by decide)) hraw
  obtain ⟨s'', hget⟩ := hkeeps.gets hread htimeout hholds hdb
  obtain ⟨hok, hat', hgot⟩ :=
    Rig.perform_in_turn (.setLevel v .attenuator value) (.getLevel w .attenuator) hr hat hset hget
  refine ⟨hok, ⟨raw, hraw, ?_⟩, hgot, fun hoff steps =>
    ⟨?_, AttenuatorCoding.encode_zero, AttenuatorCoding.decode_zero⟩⟩
  · have hrig : set.2.session.engine.port.link.rig = s' := hat'.attends.rig
    rwa [hrig]
  · rw [hkeeps.request_off (by rw [hvalue, hoff]), hrequest]

/-- An IC-7800 whose list has two steps twice and one of 0 dB, and an FTDX-101D whose steps are written in
decibels. -/
theorem attenuator_reads_back_repeated :
    let b : Civ.Bus := { rig := 0x6A }
    let K := Civ.Keeper.cell b .attenuator (by decide)
    let d : Descriptor := { Models.ic7800 with attenuator := [12, 0, 20, 12, 20] }
    let r : Rig (Simulated (List UInt8)) := ⟨.civ b, .start d {} { device := K.device, rig := [] }⟩
    let set := (Rig.perform (.setLevel .current .attenuator (.int 20))).run r
    let K' := Newcat.Keeper.cell "RA0" (by decide)
    let d' : Descriptor := { Models.ftDx101d with attenuator := [9, 6], attenuatorCoding := .decibel }
    let r' : Rig (Simulated (List Char)) := ⟨.newcat, .start d' {} { device := K'.device, rig := [] }⟩
    let set' := (Rig.perform (.setLevel .current .attenuator (.int 6))).run r'
    set.1 = .ok () ∧
      ((Rig.perform (.getLevel .current .attenuator)).run set.2).1 = .ok (.int 20) ∧ set'.1 = .ok () ∧
      ((Rig.perform (.getLevel .current .attenuator)).run set'.2).1 = .ok (.int 6) := by
  intro b K d r set K' d' r' set'
  have hkeeps : KeepsAttenuator (.civ b) K.device (Civ.levelRequest b) _ :=
    .civ K (Civ.Bus.sound_of_lt (by decide) (by decide)) rfl
  have hat : r.session.At K.device (Config.resolve {} d.line).timeout [] :=
    ⟨⟨rfl, rfl, rfl, rfl⟩, rfl⟩
  have hvalue : (LevelValue.int 20).toInt = (20 : UInt8).toNat := rfl
  have hrequest : Civ.levelRequest b d .attenuator (.int 20) =
      .ok (b.write "set_level" .attenuator [0x03]) := by decide +kernel
  obtain ⟨hset, -, hback, -⟩ := attenuator_reads_back hkeeps (by decide) rfl hat (by decide) (by decide)
    (fun _ => by decide) hvalue hrequest .current .current
  have hkeeps' : KeepsAttenuator .newcat K'.device Newcat.levelRequest _ := .newcat K' rfl
  have hat' : r'.session.At K'.device (Config.resolve {} d'.line).timeout [] :=
    ⟨⟨rfl, rfl, rfl, rfl⟩, rfl⟩
  have hvalue' : (LevelValue.int 6).toInt = (6 : UInt8).toNat := rfl
  have hrequest' : Newcat.levelRequest d' .attenuator (.int 6) =
      .ok { operation := "set_level", frame := Text.utf8 "RA06;".toList } := by decide +kernel
  obtain ⟨hset', -, hback', -⟩ := attenuator_reads_back hkeeps' (by decide) rfl hat' (by decide)
    (by decide) (fun _ => by decide) hvalue' hrequest' .current .current
  exact ⟨hset, hback, hset', hback'⟩

end RigControl
