/-
The clock. A time is written as three items, the date, the time of day and the offset from universal time,
with two digits in a byte, and it is refused before anything is sent if a clock cannot show it
(`ClockTime.Shown`). The items read as the time that they were written for, so that a rig that keeps them
gives the time back, without its seconds (`clock_reads_back`).
-/
import RigControl.Proofs.Settings.Basic
import RigControl.Proofs.Settings.Bytes

namespace RigControl

/-- A time that a clock shows. -/
structure ClockTime.Shown (t : ClockTime) : Prop where
  month : 1 ≤ t.month ∧ t.month ≤ 12
  day : 1 ≤ t.day ∧ t.day ≤ 31
  hour : t.hour ≤ 23
  minute : t.minute ≤ 59
  year : t.year ≤ 9999
  offset : t.utcOffset.toInt.natAbs ≤ 1400 ∧ t.utcOffset.toInt.natAbs % 100 ≤ 59

namespace Civ

open Outcome

/-! ## Reading what was written -/

section

variable {century year month day hour minute hours minutes sign : UInt8} {bytes : List UInt8}

theorem parseDate_encoded (h : [century, year, month, day].mapM encodeByte = .ok bytes) :
    parseDate bytes = .ok (100 * century.toUInt16 + year.toUInt16, month, day) := by
  obtain ⟨c, _, hc, hyear, rfl⟩ := mapM_cons_eq_ok.1 h
  obtain ⟨y, _, hy, hmonth, rfl⟩ := mapM_cons_eq_ok.1 hyear
  obtain ⟨m, _, hm, hday, rfl⟩ := mapM_cons_eq_ok.1 hmonth
  obtain ⟨d, _, hd, hnil, rfl⟩ := mapM_cons_eq_ok.1 hday
  obtain rfl := mapM_nil_eq_ok.1 hnil
  simp only [parseDate, decode_encodeByte hc, decode_encodeByte hy, decode_encodeByte hm,
    decode_encodeByte hd]
  rfl

theorem parseTime_encoded (h : [hour, minute].mapM encodeByte = .ok bytes) :
    parseTime bytes = .ok (hour, minute) := by
  obtain ⟨a, _, ha, hminute, rfl⟩ := mapM_cons_eq_ok.1 h
  obtain ⟨m, _, hm, hnil, rfl⟩ := mapM_cons_eq_ok.1 hminute
  obtain rfl := mapM_nil_eq_ok.1 hnil
  simp only [parseTime, decode_encodeByte ha, decode_encodeByte hm]
  rfl

theorem parseUtcOffset_encoded (h : [hours, minutes].mapM encodeByte = .ok bytes) :
    let magnitude := 100 * hours.toUInt16.toInt16 + minutes.toUInt16.toInt16
    parseUtcOffset (bytes ++ [sign]) = .ok (if sign = 0 then magnitude else -magnitude) := by
  obtain ⟨a, _, ha, hminutes, rfl⟩ := mapM_cons_eq_ok.1 h
  obtain ⟨m, _, hm, hnil, rfl⟩ := mapM_cons_eq_ok.1 hminutes
  obtain rfl := mapM_nil_eq_ok.1 hnil
  simp only [parseUtcOffset, List.cons_append, List.nil_append, decode_encodeByte ha,
    decode_encodeByte hm]
  rfl

end

/-! ## Parts of a number -/

section

variable {year : UInt16} {n : Nat} {x : Int16}

theorem toNat_century (h : year.toNat / 100 ≤ 255) :
    (year / 100).toUInt8.toNat = year.toNat / 100 := by
  rw [UInt16.toNat_toUInt8, UInt16.toNat_div]
  exact Nat.mod_eq_of_lt (Nat.lt_of_le_of_lt h (by decide))

theorem toNat_yearOfCentury : (year % 100).toUInt8.toNat = year.toNat % 100 := by
  rw [UInt16.toNat_toUInt8, UInt16.toNat_mod]
  show year.toNat % 100 % 256 = _
  omega

/-- A number is made of its hundreds and what is over. -/
theorem hundreds_parts {high low : UInt8} (hhigh : high.toNat = n / 100) (hlow : low.toNat = n % 100) :
    100 * high.toUInt16 + low.toUInt16 = UInt16.ofNat n := by
  apply UInt16.toNat_inj.1
  rw [UInt16.toNat_add, UInt16.toNat_mul, UInt8.toNat_toUInt16, UInt8.toNat_toUInt16,
    UInt16.toNat_ofNat', hhigh, hlow]
  show (100 * (n / 100) % 65536 + n % 100) % 65536 = n % 65536
  omega

theorem year_parts (h : year.toNat / 100 ≤ 255) :
    100 * (year / 100).toUInt8.toUInt16 + (year % 100).toUInt8.toUInt16 = year :=
  (hundreds_parts (toNat_century h) toNat_yearOfCentury).trans UInt16.ofNat_toNat

theorem magnitude_parts (h : n ≤ 1400) :
    100 * (n / 100).toUInt8.toUInt16.toInt16 + (n % 100).toUInt8.toUInt16.toInt16 = Int16.ofNat n := by
  have hparts : 100 * (n / 100).toUInt8.toUInt16 + (n % 100).toUInt8.toUInt16 = UInt16.ofNat n :=
    hundreds_parts (toNat_toUInt8_of_le (by omega)) (toNat_toUInt8_of_le (by omega))
  rw [← UInt16.toInt16_ofNat', ← hparts, UInt16.toInt16_add, UInt16.toInt16_mul]
  rfl

/-- A number is made of its magnitude and its sign. -/
theorem signed_parts : (if (if x < 0 then (1 : UInt8) else 0) = 0 then Int16.ofNat x.toInt.natAbs
    else -Int16.ofNat x.toInt.natAbs) = x := by
  have hzero : (0 : Int16).toInt = 0 := rfl
  by_cases hneg : x < 0
  · have hint : x.toInt < 0 := by rwa [Int16.lt_iff_toInt_lt, hzero] at hneg
    have habs : -(x.toInt.natAbs : Int) = x.toInt := by omega
    rw [if_pos hneg, if_neg (by decide), Int16.neg_ofNat, habs, Int16.ofInt_toInt]
  · have hint : ¬ x.toInt < 0 := by rwa [Int16.lt_iff_toInt_lt, hzero] at hneg
    have habs : (x.toInt.natAbs : Int) = x.toInt := by omega
    rw [if_neg hneg, if_pos rfl, ← Int16.ofInt_eq_ofNat, habs, Int16.ofInt_toInt]

end

/-! ## Items -/

/-- The numbers that make the date. -/
def dateParts (t : ClockTime) : List UInt8 :=
  [(t.year / 100).toUInt8, (t.year % 100).toUInt8, t.month, t.day]

/-- The numbers that make the time of day. -/
def timeParts (t : ClockTime) : List UInt8 := [t.hour, t.minute]

/-- The numbers that make the offset, without its sign. -/
def zoneParts (t : ClockTime) : List UInt8 :=
  [(t.utcOffset.toInt.natAbs / 100).toUInt8, (t.utcOffset.toInt.natAbs % 100).toUInt8]

/-- The data of the items say the time. -/
structure Items (t : ClockTime) (date time zone : List UInt8) : Prop where
  date_read : parseDate date = .ok (t.year, t.month, t.day)
  time_read : parseTime time = .ok (t.hour, t.minute)
  zone_read : parseUtcOffset zone = .ok t.utcOffset
  clear : Clear date ∧ Clear time ∧ Clear zone
  length_date : date.length = 4
  length_time : time.length = 2
  length_zone : zone.length = 3

variable {b : Bus} {t : ClockTime} {requests : List Request} {e : Error}

section

variable (h : t.Shown)
include h

theorem dateParts_lt : ∀ v ∈ dateParts t, v.toNat < 100 := by
  have hyear : t.year.toNat ≤ 9999 := UInt16.le_iff_toNat_le.1 h.year
  have hmonth : t.month.toNat ≤ 12 := UInt8.le_iff_toNat_le.1 h.month.2
  have hday : t.day.toNat ≤ 31 := UInt8.le_iff_toNat_le.1 h.day.2
  have hcentury : (t.year / 100).toUInt8.toNat = t.year.toNat / 100 := toNat_century (by omega)
  simp only [dateParts, List.forall_mem_cons, toNat_yearOfCentury, hcentury]
  exact ⟨by omega, by omega, by omega, by omega, nofun⟩

theorem timeParts_lt : ∀ v ∈ timeParts t, v.toNat < 100 := by
  have hhour : t.hour.toNat ≤ 23 := UInt8.le_iff_toNat_le.1 h.hour
  have hminute : t.minute.toNat ≤ 59 := UInt8.le_iff_toNat_le.1 h.minute
  simp only [timeParts, List.forall_mem_cons]
  exact ⟨by omega, by omega, nofun⟩

theorem zoneParts_lt : ∀ v ∈ zoneParts t, v.toNat < 100 := by
  have hoffset := h.offset.1
  simp only [zoneParts, List.forall_mem_cons]
  rw [toNat_toUInt8_of_le (by omega), toNat_toUInt8_of_le (by omega)]
  exact ⟨by omega, by omega, nofun⟩

end

/-! ## Requests -/

theorem checkClock_eq_ok : checkClock t = .ok () ↔
    (1 ≤ t.month ∧ t.month ≤ 12 ∧ 1 ≤ t.day ∧ t.day ≤ 31) ∧ (t.hour ≤ 23 ∧ t.minute ≤ 59) ∧
      (t.utcOffset.toInt.natAbs ≤ 1400 ∧ t.utcOffset.toInt.natAbs % 100 ≤ 59) ∧
        t.year.toNat / 100 ≤ 255 := by
  simp only [checkClock, throw_bind, ite_throw_eq_ok, not_or, UInt8.not_lt, Nat.not_lt, pure_eq_ok,
    and_true]

theorem checkClock_error (h : checkClock t = .error e) : ∃ detail, e = .invalidParameter detail := by
  simp only [checkClock, throw_bind, ite_throw_eq_error, pure_ne_error, and_false, or_false] at h
  rcases h with ⟨-, rfl⟩ | ⟨-, ⟨-, rfl⟩ | ⟨-, ⟨-, rfl⟩ | ⟨-, -, rfl⟩⟩⟩ <;> exact ⟨_, rfl⟩

theorem setClock_eq_ok : b.setClock t = .ok requests ↔ checkClock t = .ok () ∧ ∃ date time zone,
    (dateParts t).mapM encodeByte = .ok date ∧ (timeParts t).mapM encodeByte = .ok time ∧
      (zoneParts t).mapM encodeByte = .ok zone ∧
        [b.write "set_clock" .clockDate date, b.write "set_clock" .clockTime time,
          b.write "set_clock" .clockOffset (zone ++ [if t.utcOffset < 0 then 1 else 0])] = requests := by
  unfold Bus.setClock dateParts timeParts zoneParts
  simp only [bind_eq_ok, pure_eq_ok]
  constructor
  · intro h
    obtain ⟨_, hcheck, date, hdate, time, htime, zone, hzone, heq⟩ := h
    exact ⟨hcheck, date, time, zone, hdate, htime, hzone, heq⟩
  · intro h
    obtain ⟨hcheck, date, time, zone, hdate, htime, hzone, heq⟩ := h
    exact ⟨(), hcheck, date, hdate, time, htime, zone, hzone, heq⟩

theorem setClock_error (h : b.setClock t = .error e) : ∃ detail, e = .invalidParameter detail := by
  unfold Bus.setClock at h
  simp only [bind_eq_error, pure_ne_error, and_false, exists_false, or_false] at h
  obtain hcheck | ⟨_, -, hdate | ⟨_, -, htime | ⟨_, -, hzone⟩⟩⟩ := h
  · exact checkClock_error hcheck
  · exact mapM_encodeByte_error hdate
  · exact mapM_encodeByte_error htime
  · exact mapM_encodeByte_error hzone

/-- Requests are built for the times that a clock shows. -/
theorem setClock_isOk : (∃ requests, b.setClock t = .ok requests) ↔ t.Shown := by
  constructor
  · intro h
    obtain ⟨requests, h⟩ := h
    obtain ⟨hcheck, date, _, _, hdate, -⟩ := setClock_eq_ok.1 h
    obtain ⟨hday, htime, hoffset, hyear⟩ := checkClock_eq_ok.1 hcheck
    have hcentury := mapM_encodeByte_isOk.1 ⟨date, hdate⟩ _ List.mem_cons_self
    rw [toNat_century hyear] at hcentury
    refine ⟨⟨hday.1, hday.2.1⟩, hday.2.2, htime.1, htime.2, ?_, hoffset⟩
    rw [UInt16.le_iff_toNat_le]
    show t.year.toNat ≤ 9999
    omega
  · intro h
    have hyear : t.year.toNat ≤ 9999 := UInt16.le_iff_toNat_le.1 h.year
    have hcheck := checkClock_eq_ok.2
      ⟨⟨h.month.1, h.month.2, h.day⟩, ⟨h.hour, h.minute⟩, h.offset, by omega⟩
    obtain ⟨date, hdate⟩ := mapM_encodeByte_isOk.2 (dateParts_lt h)
    obtain ⟨time, htime⟩ := mapM_encodeByte_isOk.2 (timeParts_lt h)
    obtain ⟨zone, hzone⟩ := mapM_encodeByte_isOk.2 (zoneParts_lt h)
    exact ⟨_, setClock_eq_ok.2 ⟨hcheck, date, time, zone, hdate, htime, hzone, rfl⟩⟩

/-- The requests write items that say the time. -/
theorem setClock_items (h : b.setClock t = .ok requests) : ∃ date time zone,
    requests = [b.write "set_clock" .clockDate date, b.write "set_clock" .clockTime time,
      b.write "set_clock" .clockOffset zone] ∧ Items t date time zone := by
  have hshown := setClock_isOk.1 ⟨requests, h⟩
  obtain ⟨hcheck, date, time, zone, hdate, htime, hzone, rfl⟩ := setClock_eq_ok.1 h
  obtain ⟨-, -, -, hyear⟩ := checkClock_eq_ok.1 hcheck
  refine ⟨date, time, _, rfl, ?_, parseTime_encoded htime, ?_, ⟨mapM_encodeByte_clear hdate,
    mapM_encodeByte_clear htime, (mapM_encodeByte_clear hzone).append ?_⟩, length_mapM_encodeByte hdate,
    length_mapM_encodeByte htime, ?_⟩
  · rw [parseDate_encoded hdate, year_parts hyear]
  · rw [parseUtcOffset_encoded hzone, magnitude_parts hshown.offset.1, signed_parts]
  · split <;> decide
  · rw [List.length_append, length_mapM_encodeByte hzone]
    rfl

/-! ## Setting and reading -/

/-- A rig that keeps the items of its clock, over a link that is up, and a model whose clock is set and
read. -/
structure Keeper.HasClock {S : Type} (K : Keeper b S) (timeout : Nat) (s : S) (r : Rig (Simulated S)) :
    Prop where
  sound : b.Sound
  timeout_pos : 0 < timeout
  keeps : K.keeps .clockDate ∧ K.keeps .clockTime ∧ K.keeps .clockOffset
  backend : r.backend = .civ b
  session_at : r.session.At K.device timeout s
  writes : r.session.descriptor.checkWriteParm .time = .ok ()
  reads : r.session.descriptor.checkReadParm .time = .ok ()

section

variable {S : Type} {K : Keeper b S} {timeout : Nat} {k : Tracking} {s : S} {r : Rig (Simulated S)}
  {topic : Topic} {bytes date time zone : List UInt8}

theorem Keeper.HasClock.sets (hr : K.HasClock timeout s r) (q : S) (hkeeps : K.keeps topic)
    (hclear : Clear bytes) (hne : 0 < bytes.length) (hlength : topic.sub.length + bytes.length ≤ 58) :
    ∃ q', (b.command (b.write "set_clock" topic bytes)).Takes K.device timeout (k, q) (.ok ()) (k, q') ∧
      K.data q' topic = bytes ∧ ∀ u, K.keeps u → u ≠ topic → K.data q' u = K.data q u :=
  K.sets hr.sound hr.timeout_pos hkeeps (List.length_pos_iff.1 hne) hclear hlength

theorem Keeper.HasClock.gets (hr : K.HasClock timeout s r) (q : S) (hkeeps : K.keeps topic)
    (hdata : K.data q topic = bytes) (hclear : Clear bytes) (hne : 0 < bytes.length)
    (hlength : topic.sub.length + bytes.length ≤ 58) :
    ∃ q', (b.ask "get_clock" topic).Takes K.device timeout (k, q) (.ok bytes) (k, q') ∧
      ∀ u, K.keeps u → K.data q' u = K.data q u := by
  subst hdata
  exact K.gets hr.sound hr.timeout_pos hkeeps (List.length_pos_iff.1 hne) hclear hlength

variable (hr : K.HasClock timeout s r) (hitems : Items t date time zone)
include hr hitems

/-- Setting the clock leaves the rig with the items. -/
theorem setClock_takes (hset : b.setClock t = .ok [b.write "set_clock" .clockDate date,
    b.write "set_clock" .clockTime time, b.write "set_clock" .clockOffset zone]) :
    ∃ q, (setClock b r.session.descriptor t).Takes K.device timeout (k, s) (.ok ()) (k, q) ∧
      K.data q .clockDate = date ∧ K.data q .clockTime = time ∧ K.data q .clockOffset = zone := by
  obtain ⟨hkeepsDate, hkeepsTime, hkeepsZone⟩ := hr.keeps
  obtain ⟨hdate, htime, hzone⟩ := hitems.clear
  have hlengthDate := hitems.length_date
  have hlengthTime := hitems.length_time
  have hlengthZone := hitems.length_zone
  obtain ⟨q₁, htakes₁, hdata₁, -⟩ := hr.sets s hkeepsDate hdate (by omega)
    (show 3 + date.length ≤ 58 by omega)
  obtain ⟨q₂, htakes₂, hdata₂, hother₂⟩ := hr.sets q₁ hkeepsTime htime (by omega)
    (show 3 + time.length ≤ 58 by omega)
  obtain ⟨q₃, htakes₃, hdata₃, hother₃⟩ := hr.sets q₂ hkeepsZone hzone (by omega)
    (show 3 + zone.length ≤ 58 by omega)
  refine ⟨q₃, .lift_bind hr.writes (.lift_bind hset (.bind htakes₁ (.bind htakes₂ (.bind htakes₃ .pure)))),
    ?_, ?_, hdata₃⟩
  · rw [hother₃ _ hkeepsDate (by decide), hother₂ _ hkeepsDate (by decide), hdata₁]
  · rw [hother₃ _ hkeepsTime (by decide), hdata₂]

/-- Reading the clock of a rig with the items gives the time. -/
theorem getClock_takes (q : S) (hdate : K.data q .clockDate = date) (htime : K.data q .clockTime = time)
    (hzone : K.data q .clockOffset = zone) :
    ∃ q', (getClock b r.session.descriptor).Takes K.device timeout (k, q)
      (.ok { t with second := 0 }) (k, q') := by
  obtain ⟨hkeepsDate, hkeepsTime, hkeepsZone⟩ := hr.keeps
  obtain ⟨hclearDate, hclearTime, hclearZone⟩ := hitems.clear
  have hlengthDate := hitems.length_date
  have hlengthTime := hitems.length_time
  have hlengthZone := hitems.length_zone
  obtain ⟨q₁, htakes₁, hdata₁⟩ := hr.gets q hkeepsDate hdate hclearDate (by omega)
    (show 3 + date.length ≤ 58 by omega)
  obtain ⟨q₂, htakes₂, hdata₂⟩ := hr.gets q₁ hkeepsTime ((hdata₁ _ hkeepsTime).trans htime) hclearTime
    (by omega) (show 3 + time.length ≤ 58 by omega)
  have hzone₂ : K.data q₂ .clockOffset = zone := by
    rw [hdata₂ _ hkeepsZone, hdata₁ _ hkeepsZone, hzone]
  obtain ⟨q₃, htakes₃, -⟩ := hr.gets q₂ hkeepsZone hzone₂ hclearZone (by omega)
    (show 3 + zone.length ≤ 58 by omega)
  refine ⟨q₃, .lift_bind hr.reads (.bind htakes₁ (.lift_bind hitems.date_read (.bind htakes₂
    (.lift_bind hitems.time_read (.bind htakes₃ (.lift_bind hitems.zone_read .pure))))))⟩

end

/-- A time that no clock shows ends the conversation at once. -/
theorem setClock_refused {d : Descriptor} (hwrite : d.checkWriteParm .time = .ok ()) (h : ¬ t.Shown) :
    ∃ detail, setClock b d t = .done (.error (.invalidParameter detail)) := by
  cases hset : b.setClock t with
  | ok requests => exact absurd (setClock_isOk.1 ⟨requests, hset⟩) h
  | error e =>
    obtain ⟨detail, rfl⟩ := setClock_error hset
    refine ⟨detail, ?_⟩
    rw [setClock, hwrite, hset]
    rfl

/-- **A clock gives back the time that it was set to.** Requests are built for a time if and only if a clock
shows it, and for any other the error is about the parameter. The data in the three requests read as the
date, the time of day and the offset. So a rig that keeps its clock can be set to any time that a clock
shows, and reading it then gives this time without its seconds. Any other time is refused at every rig,
without an event and with nothing changed. -/
theorem clock_reads_back (b : Bus) (t : ClockTime) :
    ((∃ requests, b.setClock t = .ok requests) ↔ t.Shown) ∧
    (∀ e, b.setClock t = .error e → ∃ detail, e = .invalidParameter detail) ∧
    (∀ requests, b.setClock t = .ok requests → ∃ date time zone,
      requests.map Request.frame = [b.frame 0x1A ([0x05, 0x00, 0x59] ++ date),
        b.frame 0x1A ([0x05, 0x00, 0x60] ++ time), b.frame 0x1A ([0x05, 0x00, 0x62] ++ zone)] ∧
      parseDate date = .ok (t.year, t.month, t.day) ∧ parseTime time = .ok (t.hour, t.minute) ∧
      parseUtcOffset zone = .ok t.utcOffset) ∧
    (∀ {S : Type} {K : Keeper b S} {timeout : Nat} {s : S} {r : Rig (Simulated S)},
      K.HasClock timeout s r → t.Shown →
      let set := (Rig.perform (.setClock t)).run r
      set.1 = .ok () ∧ ((Rig.perform .getClock).run set.2).1 = .ok { t with second := 0 }) ∧
    ∀ {σ : Type} [Link σ] {r : Rig σ}, r.backend = .civ b →
      r.session.descriptor.checkWriteParm .time = .ok () → ¬ t.Shown →
      r.history (.setClock t) = [] ∧
        ∃ detail, (Rig.perform (.setClock t)).run r = (.error (.invalidParameter detail), r) := by
  refine ⟨setClock_isOk, fun e => setClock_error, fun requests h => ?_,
    fun {S K timeout s r} hr hshown => ?_, fun {σ _ r} hbackend hwrite hshown => ?_⟩
  · obtain ⟨date, time, zone, rfl, hitems⟩ := setClock_items h
    exact ⟨date, time, zone, rfl, hitems.date_read, hitems.time_read, hitems.zone_read⟩
  · intro set
    obtain ⟨requests, hset⟩ := setClock_isOk.2 hshown
    obtain ⟨date, time, zone, rfl, hitems⟩ := setClock_items hset
    obtain ⟨q, hwritten, hdate, htime, hzone⟩ := setClock_takes hr hitems hset
    obtain ⟨q', hread⟩ := getClock_takes hr hitems q hdate htime hzone
    obtain ⟨hok, -, hgot⟩ :=
      Rig.perform_in_turn (.setClock t) .getClock hr.backend hr.session_at hwritten hread
    exact ⟨hok, hgot⟩
  · obtain ⟨detail, hrefused⟩ := setClock_refused (b := b) hwrite hshown
    have hdialogue : r.dialogue (.setClock t) = .done (.error (.invalidParameter detail)) := by
      rw [← hrefused, Rig.dialogue, hbackend]
      rfl
    refine ⟨?_, detail, ?_⟩
    · rw [Rig.history, hdialogue]
      rfl
    · show ((r.dialogue (.setClock t)).run.on Rig.session fun r s => { r with session := s }).run r = _
      rw [hdialogue]
      rfl

/-- The clock of an IC-7800 is set to a minute before midnight, five and a half hours west of Greenwich, and
read. There is no thirteenth month. -/
theorem clock_reads_back_half_hour_west :
    let b : Bus := { rig := 0x6A }
    let t : ClockTime := ⟨2026, 3, 29, 23, 59, 41, -530⟩
    let r : Rig (Simulated (Topic → List UInt8)) :=
      ⟨.civ b, .start Models.ic7800 {} (Keeper.plainLink b)⟩
    let set := (Rig.perform (.setClock t)).run r
    set.1 = .ok () ∧ ((Rig.perform .getClock).run set.2).1 = .ok ⟨2026, 3, 29, 23, 59, 0, -530⟩ ∧
      r.history (.setClock { t with month := 13 }) = [] := by
  intro b t r set
  have hb : b.Sound := Bus.sound_of_lt (by decide) (by decide)
  have hkeeps : ∀ topic ∈ Keeper.shelved, (Keeper.plain b).keeps topic := fun _ h => h
  have hclock : (Keeper.plain b).HasClock (Config.resolve {} Models.ic7800.line).timeout (fun _ => []) r :=
    ⟨hb, by decide, ⟨hkeeps _ (by decide), hkeeps _ (by decide), hkeeps _ (by decide)⟩, rfl,
      ⟨⟨rfl, rfl, rfl, rfl⟩, rfl⟩, by decide, by decide⟩
  have hshown : t.Shown :=
    ⟨by decide, by decide, by decide, by decide, by decide, by decide⟩
  have hother : ¬ ({ t with month := 13 } : ClockTime).Shown := fun h => absurd h.month.2 (by decide)
  obtain ⟨-, -, -, hback, -⟩ := clock_reads_back b t
  obtain ⟨-, -, -, -, hrefused⟩ := clock_reads_back b { t with month := 13 }
  obtain ⟨hset, hread⟩ := hback hclock hshown
  exact ⟨hset, hread, (hrefused (r := r) rfl (by decide) hother).1⟩

end Civ

end RigControl
