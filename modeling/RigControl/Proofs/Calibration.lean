/-
Reading meters off. A table passes its check exactly if it has breakpoints and their raw readings
ascend. In such a table the halving ends at the first breakpoint above a reading, so that a reading
within the table is put between the two breakpoints next to it, and a reading at a breakpoint gets the
value of that breakpoint as it is, without any arithmetic (`interpolate_exact`).

Readings have 32 bits, and two breakpoints can be too far apart for their distance to have as many. A
reading between two such breakpoints has no value (`between_overflow`). In a table that spans less than
2 ^ 31 every reading has one (`interpolate_of_narrow`).
-/
import Mathlib.Data.List.Chain
import RigControl.Calibration

namespace RigControl.CalibrationTable

variable {t : CalibrationTable} {raw : Int32}

/-! ## Tables in order -/

/-- The raw readings ascend. -/
def Ascending (l : List Breakpoint) : Prop :=
  l.Pairwise (·.raw < ·.raw)

theorem disorder?_eq_none_iff {l : List Breakpoint} : disorder? l = none ↔ Ascending l := by
  have : IsTrans Breakpoint (·.raw < ·.raw) := ⟨fun _ _ _ => Int32.lt_trans⟩
  rw [Ascending, ← List.isChain_iff_pairwise]
  fun_induction disorder? l with
  | case1 p q rest hle => simp [hle]
  | case2 p q rest hlt ih => simp [ih, Int32.not_le.1 hlt]
  | case3 l hshort =>
    match l with
    | [] => simp
    | [_] => simp
    | p :: q :: rest => exact absurd rfl (hshort p q rest)

/-- **What the check asks for.** -/
theorem validate_eq_ok_iff : t.validate = .ok () ↔ t.points ≠ [] ∧ Ascending t.points := by
  rw [← disorder?_eq_none_iff]
  unfold validate
  cases t.points with
  | nil => simp
  | cons p rest => cases hd : disorder? (p :: rest) <;> simp

/-- The order of the raw readings is the order of the places. -/
theorem Ascending.le_iff {l : List Breakpoint} (h : Ascending l) {i j : Nat} {p q : Breakpoint}
    (hp : l[i]? = some p) (hq : l[j]? = some q) : p.raw ≤ q.raw ↔ i ≤ j := by
  obtain ⟨hi, rfl⟩ := List.getElem?_eq_some_iff.1 hp
  obtain ⟨hj, rfl⟩ := List.getElem?_eq_some_iff.1 hq
  have hlt := List.pairwise_iff_getElem.1 h
  rcases Nat.lt_trichotomy i j with hij | rfl | hij
  · exact iff_of_true (Int32.le_of_lt (hlt i j hi hj hij)) (Nat.le_of_lt hij)
  · exact iff_of_true (Int32.le_refl _) (Nat.le_refl _)
  · exact iff_of_false (Int32.not_le.2 (hlt j i hj hi hij)) (Nat.not_le.2 hij)

/-! ## Halving -/

/-- **Halving finds the last place** where something holds that holds at every place before as well;
the first place if it holds nowhere. -/
theorem bisect_last (below : Nat → Bool) (base size : Nat) (hsize : 0 < size)
    (hdown : ∀ {i j}, i ≤ j → below j = true → below i = true) :
    base ≤ bisect below base size ∧ bisect below base size < base + size ∧
    ∀ i, base < i → i < base + size → (below i = true ↔ i ≤ bisect below base size) := by
  fun_induction bisect below base size with
  | case1 base size hone => exact ⟨Nat.le_refl _, by omega, by omega⟩
  | case2 base size hmore hmid ih =>
    obtain ⟨hfirst, hlast, hiff⟩ := ih (by omega)
    refine ⟨by omega, by omega, fun i hi hend => ?_⟩
    rcases Nat.lt_or_ge (base + size / 2) i with hlt | hle
    · exact hiff i hlt (by omega)
    · -- up to the middle it holds, and the search goes on from there
      exact iff_of_true (hdown hle hmid) (by omega)
  | case3 base size hmore hmid ih =>
    obtain ⟨hfirst, hlast, hiff⟩ := ih (by omega)
    refine ⟨hfirst, by omega, fun i hi hend => ?_⟩
    rcases Nat.lt_or_ge i (base + (size - size / 2)) with hlt | hge
    · exact hiff i hi hlt
    · -- from the middle on it does not hold, and the search ends before that
      refine iff_of_false (fun hb => hmid (hdown ?_ hb)) (by omega)
      omega

/-- Whether the breakpoint at a place is not above a reading. -/
def notAbove (t : CalibrationTable) (raw : Int32) (i : Nat) : Bool :=
  t.points[i]?.any (·.raw ≤ raw)

theorem notAbove_iff {i : Nat} {p : Breakpoint} (hp : t.points[i]? = some p) :
    t.notAbove raw i = true ↔ p.raw ≤ raw := by
  simp [notAbove, hp]

theorem notAbove_down (h : Ascending t.points) {i j : Nat} (hij : i ≤ j)
    (hj : t.notAbove raw j = true) : t.notAbove raw i = true := by
  obtain ⟨q, hq, hle⟩ := (Option.any_eq_true _ _).1 hj
  obtain ⟨hlength, -⟩ := List.getElem?_eq_some_iff.1 hq
  have hp : t.points[i]? = some t.points[i] := List.getElem?_eq_getElem (by omega)
  have hpq : t.points[i].raw ≤ q.raw := (h.le_iff hp hq).2 hij
  have hqr : q.raw ≤ raw := of_decide_eq_true hle
  exact (notAbove_iff hp).2 (Int32.le_trans hpq hqr)

/-- **The place above a reading** parts the breakpoints: those in front of it are not above the
reading, and all others are. -/
theorem lt_placeAbove_iff (h : Ascending t.points) {i : Nat} {p : Breakpoint}
    (hp : t.points[i]? = some p) : i < t.placeAbove raw ↔ p.raw ≤ raw := by
  have hplace : t.placeAbove raw = if t.notAbove raw (bisect (t.notAbove raw) 0 t.points.length)
      then bisect (t.notAbove raw) 0 t.points.length + 1
      else bisect (t.notAbove raw) 0 t.points.length := rfl
  obtain ⟨hi, -⟩ := List.getElem?_eq_some_iff.1 hp
  obtain ⟨-, hlast, hiff⟩ := bisect_last (t.notAbove raw) 0 t.points.length (by omega)
    (notAbove_down h)
  rw [hplace, ← notAbove_iff hp]
  generalize bisect (t.notAbove raw) 0 t.points.length = last at hlast hiff ⊢
  by_cases hhere : t.notAbove raw last = true
  · rw [if_pos hhere, Nat.lt_succ_iff]
    rcases Nat.eq_zero_or_pos i with rfl | hpos
    · exact iff_of_true (Nat.zero_le _) (notAbove_down h (Nat.zero_le _) hhere)
    · exact (hiff i hpos (by omega)).symm
  · rw [if_neg hhere]
    have hzero : last = 0 := by
      rcases Nat.eq_zero_or_pos last with hzero | hpos
      · exact hzero
      · exact absurd ((hiff last hpos (by omega)).2 (Nat.le_refl _)) hhere
    subst hzero
    exact iff_of_false (Nat.not_lt_zero _) fun hb => hhere (notAbove_down h (Nat.zero_le _) hb)

/-! ## Distances -/

theorem distance_ok {low high : Int32} (h : high.toInt - low.toInt < 0x80000000) (hle : low ≤ high) :
    ∃ d, distance low high = .ok d ∧ d.toInt = high.toInt - low.toInt := by
  have hover : ¬ high.toBitVec.ssubOverflow low.toBitVec = true := by
    have := Int32.le_iff_toInt_le.1 hle
    simp only [BitVec.ssubOverflow, Int32.toInt_toBitVec, Bool.or_eq_true, decide_eq_true_eq]
    omega
  exact ⟨high - low, if_neg hover, BitVec.toInt_sub_of_not_ssubOverflow hover⟩

theorem distance_overflow {low high : Int32} (h : 0x80000000 ≤ high.toInt - low.toInt) :
    distance low high = .error (.halt .overflow) := by
  refine if_pos ?_
  simp only [BitVec.ssubOverflow, Int32.toInt_toBitVec, Bool.or_eq_true, decide_eq_true_eq]
  exact .inl h

/-- The line through two breakpoints, reckoned without bounds. -/
def line (lo hi : Breakpoint) (raw : Int32) : Single :=
  hi.value - Single.ofInt (hi.raw.toInt - raw.toInt) * (hi.value - lo.value) /
    Single.ofInt (hi.raw.toInt - lo.raw.toInt)

/-- **Between two breakpoints a reading is on their line**, as long as they are not too far apart. -/
theorem between_line {lo hi : Breakpoint} {raw : Int32} (hlo : lo.raw < raw) (hhi : raw < hi.raw)
    (hnear : hi.raw.toInt - lo.raw.toInt < 0x80000000) : between lo hi raw = .ok (line lo hi raw) := by
  have hlo' := Int32.lt_iff_toInt_lt.1 hlo
  have hne : raw ≠ lo.raw := fun heq => Int32.lt_irrefl (heq ▸ hlo)
  obtain ⟨span, hspan, hspan'⟩ := distance_ok hnear (Int32.le_of_lt (Int32.lt_trans hlo hhi))
  have hnear' : hi.raw.toInt - raw.toInt < 0x80000000 := by omega
  obtain ⟨offset, hoffset, hoffset'⟩ := distance_ok hnear' (Int32.le_of_lt hhi)
  rw [between, if_neg hne, hspan, hoffset, line, ← hspan', ← hoffset']
  rfl

theorem between_overflow {lo hi : Breakpoint} {raw : Int32} (hlo : lo.raw < raw)
    (hfar : 0x80000000 ≤ hi.raw.toInt - lo.raw.toInt) :
    between lo hi raw = .error (.halt .overflow) := by
  have hne : raw ≠ lo.raw := fun heq => Int32.lt_irrefl (heq ▸ hlo)
  rw [between, if_neg hne, distance_overflow hfar]
  rfl

/-! ## Readings -/

section

variable {first last : Breakpoint} (hfirst : t.points[0]? = some first)
  (hlast : t.points[t.points.length - 1]? = some last)
include hfirst hlast

theorem ends_eq : t.points.head? = some first ∧ t.points.getLast? = some last := by
  rw [List.head?_eq_getElem?, List.getLast?_eq_getElem?]
  exact ⟨hfirst, hlast⟩

theorem interpolate_low (hle : raw ≤ first.raw) : t.interpolate raw = .ok first.value := by
  obtain ⟨hhead, hend⟩ := ends_eq hfirst hlast
  simp only [interpolate, hhead, hend, if_pos hle]

theorem interpolate_high (h : Ascending t.points) (hle : last.raw ≤ raw) :
    t.interpolate raw = .ok last.value := by
  by_cases hlow : raw ≤ first.raw
  · -- at both ends at once: there is only one breakpoint
    have hone : t.points.length - 1 = 0 :=
      Nat.le_zero.1 ((h.le_iff hlast hfirst).1 (Int32.le_trans hle hlow))
    have hsame : first = last := by
      rw [hone, hfirst] at hlast
      exact Option.some.inj hlast
    rw [interpolate_low hfirst hlast hlow, hsame]
  · obtain ⟨hhead, hend⟩ := ends_eq hfirst hlast
    simp only [interpolate, hhead, hend, if_neg hlow, if_pos hle]

/-- A reading within the table is put between the breakpoints next to it. -/
theorem interpolate_within (h : Ascending t.points) (habove : first.raw < raw)
    (hbelow : raw < last.raw) :
    ∃ i lo hi, t.placeAbove raw = i + 1 ∧ t.points[i]? = some lo ∧ t.points[i + 1]? = some hi ∧
      lo.raw ≤ raw ∧ raw < hi.raw ∧ t.interpolate raw = between lo hi raw := by
  have hpos : 0 < t.placeAbove raw := (lt_placeAbove_iff h hfirst).2 (Int32.le_of_lt habove)
  have hroom : ¬ t.points.length - 1 < t.placeAbove raw := fun hlt =>
    Int32.not_le.2 hbelow ((lt_placeAbove_iff h hlast).1 hlt)
  obtain ⟨i, hplace⟩ : ∃ i, t.placeAbove raw = i + 1 := Nat.exists_eq_add_one.2 hpos
  have hlo : t.points[i]? = some t.points[i] := List.getElem?_eq_getElem (by omega)
  have hhi : t.points[i + 1]? = some t.points[i + 1] := List.getElem?_eq_getElem (by omega)
  have hle : t.points[i].raw ≤ raw := (lt_placeAbove_iff h hlo).1 (by omega)
  have hlt : raw < t.points[i + 1].raw := Int32.not_le.1 fun hle => by
    have := (lt_placeAbove_iff h hhi).2 hle
    omega
  refine ⟨i, t.points[i], t.points[i + 1], hplace, hlo, hhi, hle, hlt, ?_⟩
  obtain ⟨hhead, hend⟩ := ends_eq hfirst hlast
  simp only [interpolate, hhead, hend, if_neg (Int32.not_le.2 habove), if_neg (Int32.not_le.2 hbelow),
    hplace, Nat.add_sub_cancel, hlo, hhi]

/-- A table that spans less than 2 ^ 31 has a value for every reading. -/
theorem interpolate_of_narrow (h : Ascending t.points)
    (hspan : last.raw.toInt - first.raw.toInt < 0x80000000) : ∃ value, t.interpolate raw = .ok value := by
  by_cases hlow : raw ≤ first.raw
  · exact ⟨_, interpolate_low hfirst hlast hlow⟩
  by_cases hhigh : last.raw ≤ raw
  · exact ⟨_, interpolate_high hfirst hlast h hhigh⟩
  obtain ⟨i, lo, hi, -, hlo, hhi, hle, hlt, heq⟩ :=
    interpolate_within hfirst hlast h (Int32.not_le.1 hlow) (Int32.not_le.1 hhigh)
  obtain ⟨hlength, -⟩ := List.getElem?_eq_some_iff.1 hhi
  have hfirstle := Int32.le_iff_toInt_le.1 ((h.le_iff hfirst hlo).2 (Nat.zero_le _))
  have hlastle := Int32.le_iff_toInt_le.1 ((h.le_iff hhi hlast).2 (by omega))
  rw [heq]
  rcases Int32.lt_or_eq_of_le hle with hin | hat
  · exact ⟨_, between_line hin hlt (by omega)⟩
  · exact ⟨lo.value, if_pos hat.symm⟩

end

/-- A reading at a breakpoint gets its value. -/
theorem interpolate_breakpoint {p : Breakpoint} (h : Ascending t.points) (hp : p ∈ t.points) :
    t.interpolate p.raw = .ok p.value := by
  obtain ⟨k, hk⟩ := List.mem_iff_getElem?.1 hp
  obtain ⟨hlength, -⟩ := List.getElem?_eq_some_iff.1 hk
  have hfirst : t.points[0]? = some t.points[0] := List.getElem?_eq_getElem (by omega)
  have hlast : t.points[t.points.length - 1]? = some t.points[t.points.length - 1] :=
    List.getElem?_eq_getElem (by omega)
  by_cases hlow : p.raw ≤ t.points[0].raw
  · obtain rfl : k = 0 := Nat.le_zero.1 ((h.le_iff hk hfirst).1 hlow)
    rw [interpolate_low hk hlast (Int32.le_refl _)]
  by_cases hhigh : t.points[t.points.length - 1].raw ≤ p.raw
  · have hend : k = t.points.length - 1 := by
      have := (h.le_iff hlast hk).1 hhigh
      omega
    rw [hend] at hk
    rw [interpolate_high hfirst hk h (Int32.le_refl _)]
  obtain ⟨i, lo, hi, -, hlo, hhi, hle, hlt, heq⟩ :=
    interpolate_within hfirst hlast h (Int32.not_le.1 hlow) (Int32.not_le.1 hhigh)
  -- the breakpoint is the lower neighbour itself
  have hplace : k = i := by
    have := (h.le_iff hlo hk).1 hle
    have := mt (h.le_iff hhi hk).2 (Int32.not_le.2 hlt)
    omega
  subst hplace
  obtain rfl : lo = p := Option.some.inj (hlo.symm.trans hk)
  rw [heq, between, if_pos rfl]

/-- **Readings are read off the table.** Up to the first breakpoint a reading has the first value and
from the last one on the last value. In between, the place that the halving finds is that of the upper
one of two neighbours, both in the table, from the lower one on and before the upper one, and the
reading is put on the line through them; only where these two are 2 ^ 31 or more apart there is no
value. And wherever a breakpoint is, a reading has exactly its value. -/
theorem interpolate_exact (h : t.validate = .ok ()) (raw : Int32) :
    ∃ first last, t.points.head? = some first ∧ t.points.getLast? = some last ∧
      (raw ≤ first.raw → t.interpolate raw = .ok first.value) ∧
      (last.raw ≤ raw → t.interpolate raw = .ok last.value) ∧
      (first.raw < raw → raw < last.raw → ∃ i lo hi, t.placeAbove raw = i + 1 ∧
        t.points[i]? = some lo ∧ t.points[i + 1]? = some hi ∧ lo.raw ≤ raw ∧ raw < hi.raw ∧
        t.interpolate raw = between lo hi raw ∧
        (lo.raw < raw → hi.raw.toInt - lo.raw.toInt < 0x80000000 →
          t.interpolate raw = .ok (line lo hi raw)) ∧
        (lo.raw < raw → 0x80000000 ≤ hi.raw.toInt - lo.raw.toInt →
          t.interpolate raw = .error (.halt .overflow))) ∧
      ∀ p ∈ t.points, p.raw = raw → t.interpolate raw = .ok p.value := by
  obtain ⟨hne, hasc⟩ := validate_eq_ok_iff.1 h
  have hlength : 0 < t.points.length := List.length_pos_iff.2 hne
  have hfirst : t.points[0]? = some t.points[0] := List.getElem?_eq_getElem hlength
  have hlast : t.points[t.points.length - 1]? = some t.points[t.points.length - 1] :=
    List.getElem?_eq_getElem (by omega)
  refine ⟨t.points[0], t.points[t.points.length - 1], ?_, ?_, interpolate_low hfirst hlast,
    interpolate_high hfirst hlast hasc, fun habove hbelow => ?_, ?_⟩
  · exact (ends_eq hfirst hlast).1
  · exact (ends_eq hfirst hlast).2
  · obtain ⟨i, lo, hi, hplace, hlo, hhi, hle, hlt, heq⟩ :=
      interpolate_within hfirst hlast hasc habove hbelow
    exact ⟨i, lo, hi, hplace, hlo, hhi, hle, hlt, heq,
      fun hin hnear => heq.trans (between_line hin hlt hnear),
      fun hin hfar => heq.trans (between_overflow hin hfar)⟩
  · rintro p hp rfl
    exact interpolate_breakpoint hasc hp

/-- A reading at the middle one of three breakpoints; its value is a zero that keeps its sign. -/
theorem interpolate_exact_at_middle :
    let t : CalibrationTable := ⟨[⟨0, ⟨0xC2580000⟩⟩, ⟨120, ⟨0x80000000⟩⟩, ⟨241, ⟨0x42700000⟩⟩]⟩
    t.validate = .ok () ∧ t.interpolate 120 = .ok ⟨0x80000000⟩ ∧
    ∃ i lo hi, t.placeAbove 120 = i + 1 ∧ t.points[i]? = some lo ∧ t.points[i + 1]? = some hi ∧
      lo.raw ≤ 120 ∧ 120 < hi.raw ∧ t.interpolate 120 = between lo hi 120 := by
  intro t
  have h : t.validate = .ok () := by decide
  obtain ⟨_, _, hfirst, hlast, -, -, hwithin, hexact⟩ := interpolate_exact h 120
  cases hfirst
  cases hlast
  obtain ⟨i, lo, hi, hplace, hlo, hhi, hle, hlt, heq, -, -⟩ := hwithin (by decide) (by decide)
  exact ⟨h, hexact ⟨120, ⟨0x80000000⟩⟩ (by decide) rfl, i, lo, hi, hplace, hlo, hhi, hle, hlt, heq⟩

end RigControl.CalibrationTable
