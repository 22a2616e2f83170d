/-
Attenuators and preamplifiers with fixed steps. The place that is found for a step is one where the step
stands, whatever else is in the list, if its places have room in a byte. In a list where no step comes twice
there is no other, so that a place and its step give each other (`steps_and_places`). What is written for a
step of an attenuator is read as this step, in either coding (`AttenuatorCoding.decode_encode`). Off is
written as zero and read from zero without the list.
-/
import RigControl.Civ.Operations
import RigControl.Newcat.Operations
import RigControl.Proofs.Outcome

namespace RigControl

variable {steps : List UInt8} {db index raw : UInt8} {coding : AttenuatorCoding}

theorem stepToIndex_zero : stepToIndex steps 0 = .ok 0 := if_pos rfl

theorem indexToStep_zero : indexToStep steps 0 = .ok 0 := if_pos rfl

/-- A step is found at the first of its places, counted from one, if the places have room in a byte. -/
theorem stepToIndex_eq_ok (hfew : steps.length ≤ 255) (hdb : db ≠ 0) :
    stepToIndex steps db = .ok index ↔ ∃ i, steps.idxOf? db = some i ∧ index.toNat = i + 1 := by
  rw [stepToIndex, if_neg hdb]
  cases hfound : steps.idxOf? db with
  | none =>
    constructor
    · nofun
    · rintro ⟨i, hi, -⟩
      cases hi
  | some i =>
    obtain ⟨hlt, -⟩ := List.idxOf?_eq_some_iff.1 hfound
    have hplace : (i.toUInt8 + 1).toNat = i + 1 := by
      rw [UInt8.toNat_add, UInt8.toNat_ofNat_of_lt' (show i < 256 by omega)]
      show (i + 1) % 256 = i + 1
      omega
    constructor
    · intro h
      cases h
      exact ⟨i, rfl, hplace⟩
    · rintro ⟨j, hj, hindex⟩
      cases hj
      exact congrArg Except.ok (UInt8.toNat_inj.1 (hplace.trans hindex.symm))

/-- A place of the list means the step that stands there. -/
theorem indexToStep_eq_ok (hindex : index ≠ 0) :
    indexToStep steps index = .ok db ↔ steps[index.toNat - 1]? = some db := by
  rw [indexToStep, if_neg hindex]
  cases steps[index.toNat - 1]? with
  | none => exact ⟨nofun, nofun⟩
  | some step =>
    constructor
    · exact fun h => congrArg some (Except.ok.inj h)
    · exact fun h => congrArg Except.ok (Option.some.inj h)

theorem indexToStep_of_pos (hpos : 0 < index.toNat) (hstep : steps[index.toNat - 1]? = some db) :
    indexToStep steps index = .ok db := by
  refine (indexToStep_eq_ok ?_).2 hstep
  rintro rfl
  exact absurd hpos (by decide)

/-- A step is found at a place where it stands. -/
theorem indexToStep_stepToIndex (hfew : db ≠ 0 → steps.length ≤ 255)
    (h : stepToIndex steps db = .ok index) : indexToStep steps index = .ok db := by
  by_cases hdb : db = 0
  · rw [hdb, stepToIndex_zero] at h
    cases h
    rw [hdb, indexToStep_zero]
  · obtain ⟨i, hfound, hindex⟩ := (stepToIndex_eq_ok (hfew hdb) hdb).1 h
    obtain ⟨hlt, hget, -⟩ := List.idxOf?_eq_some_iff.1 hfound
    refine indexToStep_of_pos (by omega) ?_
    rw [hindex, Nat.add_sub_cancel]
    exact List.getElem?_eq_some_iff.2 ⟨hlt, hget⟩

/-- In a list without repetitions a step has one place only. -/
theorem idxOf?_of_nodup {i : Nat} (hdistinct : steps.Nodup) (hi : steps[i]? = some db) :
    steps.idxOf? db = some i := by
  obtain ⟨hlt, hget⟩ := List.getElem?_eq_some_iff.1 hi
  refine List.idxOf?_eq_some_iff.2 ⟨hlt, hget, fun j hj hsame => ?_⟩
  have heq := (List.getElem_inj hdistinct).1 (hsame.trans hget.symm)
  omega

/-- A place is found for the step that stands there, if no other place has it and it is not off. -/
theorem stepToIndex_indexToStep (hfew : steps.length ≤ 255) (hdistinct : steps.Nodup)
    (hnonzero : 0 ∉ steps) (h : indexToStep steps index = .ok db) : stepToIndex steps db = .ok index := by
  by_cases hindex : index = 0
  · rw [hindex, indexToStep_zero] at h
    cases h
    rw [hindex, stepToIndex_zero]
  · have hstep := (indexToStep_eq_ok hindex).1 h
    have hdb : db ≠ 0 := by
      rintro rfl
      exact hnonzero (List.mem_of_getElem? hstep)
    have hpos : index.toNat ≠ 0 := fun hzero => hindex (UInt8.toNat_inj.1 hzero)
    exact (stepToIndex_eq_ok hfew hdb).2 ⟨_, idxOf?_of_nodup hdistinct hstep, by omega⟩

theorem stepToIndex_refuses : (∃ e, stepToIndex steps db = .error e) ↔ db ≠ 0 ∧ db ∉ steps := by
  by_cases hdb : db = 0
  · rw [hdb, stepToIndex_zero]
    simp
  · rw [stepToIndex, if_neg hdb]
    cases hfound : steps.idxOf? db with
    | none => simp [hdb, List.idxOf?_eq_none_iff.1 hfound]
    | some i =>
      obtain ⟨hlt, hget, -⟩ := List.idxOf?_eq_some_iff.1 hfound
      have hmem : db ∈ steps := hget ▸ List.getElem_mem hlt
      simp [hmem]

theorem indexToStep_isOk : (∃ db, indexToStep steps index = .ok db) ↔ index.toNat ≤ steps.length := by
  by_cases hindex : index = 0
  · rw [hindex, indexToStep_zero]
    simp
  · have hpos : index.toNat ≠ 0 := fun hzero => hindex (UInt8.toNat_inj.1 hzero)
    simp only [indexToStep_eq_ok hindex, ← Option.isSome_iff_exists, isSome_getElem?]
    omega

/-- **Steps and their places correspond**, in any list that has room in a byte. The place that is found for a
step means this step; only a step that is not off and not in the list has no place, and every number up to
the length of the list is a place. The first place of a step is found, and its number is not cut to the byte.
So if no step is off or comes twice, what a place means is found at this place, the last one included. -/
theorem steps_and_places (steps : List UInt8) (hfew : steps.length ≤ 255) :
    (∀ db index, stepToIndex steps db = .ok index → indexToStep steps index = .ok db) ∧
      (∀ db, (∃ e, stepToIndex steps db = .error e) ↔ db ≠ 0 ∧ db ∉ steps) ∧
      (∀ index, (∃ db, indexToStep steps index = .ok db) ↔ index.toNat ≤ steps.length) ∧
      (∀ db i, db ≠ 0 → steps.idxOf? db = some i →
        ∃ index, stepToIndex steps db = .ok index ∧ index.toNat = i + 1) ∧
      (steps.Nodup → 0 ∉ steps → ∀ index : UInt8, index.toNat ≤ steps.length →
        ∃ db, indexToStep steps index = .ok db ∧ stepToIndex steps db = .ok index) := by
  refine ⟨fun db index => indexToStep_stepToIndex fun _ => hfew, fun db => stepToIndex_refuses,
    fun index => indexToStep_isOk, fun db i hdb hi => ?_, fun hdistinct hnonzero index hindex => ?_⟩
  · obtain ⟨hlt, -⟩ := List.idxOf?_eq_some_iff.1 hi
    have hplace : (i + 1).toUInt8.toNat = i + 1 := UInt8.toNat_ofNat_of_lt' (show i + 1 < 256 by omega)
    exact ⟨_, (stepToIndex_eq_ok hfew hdb).2 ⟨i, hi, hplace⟩, hplace⟩
  · obtain ⟨db, hdb⟩ := indexToStep_isOk.2 hindex
    exact ⟨db, hdb, stepToIndex_indexToStep hfew hdistinct hnonzero hdb⟩

/-- A list with all steps there can be, the highest first. The last place has the highest number of a byte. -/
theorem steps_and_places_full :
    let steps := (List.range 255).map fun i => (255 - i).toUInt8
    steps.length ≤ 255 ∧ steps.Nodup ∧ 0 ∉ steps ∧ indexToStep steps 255 = .ok 1 ∧
      stepToIndex steps 1 = .ok 255 := by
  intro steps
  have hfew : steps.length ≤ 255 := by simp [steps]
  have hnumber : ∀ i ∈ List.range 255, (255 - i).toUInt8.toNat = 255 - i := fun i _ =>
    UInt8.toNat_ofNat_of_lt' (show 255 - i < 256 by omega)
  have hdistinct : steps.Nodup := by
    refine List.pairwise_map.2 (List.pairwise_lt_range.imp_of_mem fun {i j} hi hj hlt hsame => ?_)
    have hequal := congrArg UInt8.toNat hsame
    rw [hnumber i hi, hnumber j hj] at hequal
    rw [List.mem_range] at hj
    omega
  have hnonzero : 0 ∉ steps := by
    intro hzero
    obtain ⟨i, hi, hoff⟩ := List.mem_map.1 hzero
    have hequal := congrArg UInt8.toNat hoff
    rw [hnumber i hi, UInt8.toNat_zero] at hequal
    rw [List.mem_range] at hi
    omega
  have hplace : (255 : UInt8).toNat ≤ steps.length := by simp [steps]
  obtain ⟨db, hdb, hback⟩ := (steps_and_places steps hfew).2.2.2.2 hdistinct hnonzero 255 hplace
  have hlast : indexToStep steps 255 = .ok 1 := by decide +kernel
  obtain rfl : db = 1 := Except.ok.inj (hdb.symm.trans hlast)
  exact ⟨hfew, hdistinct, hnonzero, hlast, hback⟩

namespace AttenuatorCoding

theorem encode_zero : coding.encode steps 0 = .ok 0 := by
  cases coding
  · rw [encode, stepToIndex_zero]
    rfl
  · exact stepToIndex_zero

theorem decode_zero : coding.decode steps 0 = .ok 0 := by
  cases coding
  · rfl
  · exact indexToStep_zero

/-- **What is written for a step is read as this step.** -/
theorem decode_encode (hfew : db ≠ 0 → steps.length ≤ 255) (h : coding.encode steps db = .ok raw) :
    coding.decode steps raw = .ok db := by
  cases coding with
  | decibel =>
    obtain ⟨index, -, rfl⟩ := Outcome.map_eq_ok.1 h
    rfl
  | indexed => exact indexToStep_stepToIndex hfew h

end AttenuatorCoding

/-! ## Values that callers give -/

section

variable {l : Level} {value : LevelValue}

theorem toUInt8_toInt (h : value.toInt = db.toNat) :
    (0 ≤ value.toInt ∧ value.toInt < 256) ∧ value.toInt.toNat.toUInt8 = db := by
  have hdb := db.toNat_lt
  refine ⟨by omega, ?_⟩
  rw [h, Int.toNat_natCast]
  exact UInt8.ofNat_toNat

theorem Civ.decibels_eq_ok (h : value.toInt = db.toNat) : decibels l value = .ok db := by
  obtain ⟨hrange, hdb⟩ := toUInt8_toInt h
  rw [decibels, if_pos hrange, hdb]

theorem Newcat.decibels_eq_ok (h : value.toInt = db.toNat) : decibels l value = .ok db := by
  obtain ⟨hrange, hdb⟩ := toUInt8_toInt h
  rw [decibels, if_pos hrange, hdb]

end

end RigControl
