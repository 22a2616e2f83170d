/-
Commands of fixed length. What is filled in leaves the other bytes as they were, and a command is refused
or built byte by byte as its layout says: a parameter where one goes, the payload in front, and the
template everywhere else (`build_exact`).
-/
import RigControl.Frame.Fixed
import RigControl.Proofs.Outcome

namespace RigControl.FixedFrame

variable {f : FixedFrame} {t : Template} {payload params frame : List UInt8}

theorem length_fill {bytes : List UInt8} {placed : List (Nat × UInt8)} :
    (fill bytes placed).length = bytes.length := by
  induction placed generalizing bytes with
  | nil => rfl
  | cons p placed ih => exact ih.trans List.length_set

/-- A place that gets no parameter keeps its byte. -/
theorem getElem?_fill {bytes : List UInt8} {placed : List (Nat × UInt8)} {i : Nat}
    (h : ∀ p ∈ placed, p.1 ≠ i) : (fill bytes placed)[i]? = bytes[i]? := by
  induction placed generalizing bytes with
  | nil => rfl
  | cons p placed ih =>
    have hp := h p List.mem_cons_self
    refine (ih fun q hq => h q (List.mem_cons_of_mem _ hq)).trans ?_
    exact List.getElem?_set_ne hp

theorem checkLength_ok : f.checkLength t = .ok () ↔ t.bytes.length = f.length := by
  unfold checkLength
  split <;> simp_all

theorem frame_ok (h : f.frame t = .ok frame) :
    t.isComplete = true ∧ t.bytes.length = f.length ∧ frame = t.bytes := by
  by_cases hc : t.isComplete = true
  · simp only [FixedFrame.frame, hc] at h
    obtain ⟨_, hlength, h⟩ := Outcome.bind_eq_ok.1 h
    cases h
    exact ⟨hc, checkLength_ok.1 hlength, rfl⟩
  · simp [FixedFrame.frame, hc] at h

theorem checkLength_error (h : t.bytes.length ≠ f.length) :
    ∃ detail, f.checkLength t = .error (.invalidOperation detail) :=
  ⟨_, if_neg h⟩

/-- Only an incomplete template of the right length is filled in. -/
theorem build_unfit (h : t.isComplete = true ∨ t.bytes.length ≠ f.length) :
    ∃ detail, f.build t payload params = .error (.invalidOperation detail) := by
  by_cases hc : t.isComplete = true
  · exact ⟨_, by simp only [build, hc, if_true]; rfl⟩
  · obtain ⟨detail, hlength⟩ := checkLength_error (h.resolve_left hc)
    exact ⟨detail, by simp only [build, hc, hlength]; rfl⟩

theorem build_fit (hc : t.isComplete = false) (ht : t.bytes.length = f.length) :
    f.build t payload params =
      if f.offsets.length < params.length then .error (.invalidParameter
        s!"{params.length} parameters given, frame has {f.offsets.length} slots")
      else if f.length ≤ payload.length then .error (.invalidParameter
        s!"{payload.length}-byte BCD payload does not fit a {f.length}-byte frame")
      else .ok (fill (payload ++ t.bytes.drop payload.length) (f.offsets.zip params)) := by
  simp only [build, hc, checkLength_ok.2 ht, Bool.false_eq_true, if_false]
  split
  · rfl
  · split <;> rfl

theorem build_of_room (hc : t.isComplete = false) (ht : t.bytes.length = f.length)
    (hparams : params.length ≤ f.offsets.length) (hpayload : payload.length < f.length) :
    f.build t payload params =
      .ok (fill (payload ++ t.bytes.drop payload.length) (f.offsets.zip params)) := by
  rw [build_fit hc ht, if_neg (Nat.not_lt.2 hparams), if_neg (Nat.not_le.2 hpayload)]

/-- What a command with a payload and parameters is made of. -/
theorem build_ok (h : f.build t payload params = .ok frame) :
    t.isComplete = false ∧ t.bytes.length = f.length ∧ params.length ≤ f.offsets.length ∧
      payload.length < f.length ∧
      frame = fill (payload ++ t.bytes.drop payload.length) (f.offsets.zip params) := by
  by_cases hunfit : t.isComplete = true ∨ t.bytes.length ≠ f.length
  · obtain ⟨detail, herror⟩ := build_unfit hunfit
    cases herror.symm.trans h
  · simp only [not_or, Bool.not_eq_true, ne_eq, Decidable.not_not] at hunfit
    rw [build_fit hunfit.1 hunfit.2] at h
    split at h
    · cases h
    · split at h
      · cases h
      · cases h
        exact ⟨hunfit.1, hunfit.2, by omega, by omega, rfl⟩

theorem length_joined (ht : t.bytes.length = f.length) (hpayload : payload.length < f.length) :
    (payload ++ t.bytes.drop payload.length).length = f.length := by
  rw [List.length_append, List.length_drop]
  omega

theorem length_build (h : f.build t payload params = .ok frame) : frame.length = f.length := by
  obtain ⟨-, ht, -, hpayload, rfl⟩ := build_ok h
  exact length_fill.trans (length_joined ht hpayload)

/-- Bytes behind the payload that get no parameter are those of the template. -/
theorem getElem?_build {i : Nat} (h : f.build t payload params = .ok frame) (hi : payload.length ≤ i)
    (hoff : i ∉ f.offsets) : frame[i]? = t.bytes[i]? := by
  obtain ⟨-, -, -, -, rfl⟩ := build_ok h
  rw [getElem?_fill, List.getElem?_append_right hi, List.getElem?_drop]
  · congr 1
    omega
  · intro p hp hpi
    exact hoff (hpi ▸ (List.of_mem_zip hp).1)

/-! ## Byte by byte -/

/-- Parameters have places of their own inside the frame. -/
structure Sound (f : FixedFrame) : Prop where
  distinct : f.offsets.Nodup
  inside : ∀ offset ∈ f.offsets, offset < f.length

theorem fiveBytes_sound : fiveBytes.Sound := ⟨by decide, by decide⟩

/-- Where each byte of a command comes from. -/
structure Filled (f : FixedFrame) (t : Template) (payload params frame : List UInt8) : Prop where
  length : frame.length = f.length
  parameter : ∀ j i, f.offsets[j]? = some i → j < params.length → frame[i]? = params[j]?
  front : ∀ i ∉ f.offsets.take params.length, i < payload.length → frame[i]? = payload[i]?
  rest : ∀ i ∉ f.offsets.take params.length, payload.length ≤ i → frame[i]? = t.bytes[i]?

/-- A place that gets one parameter holds it. -/
theorem getElem?_fill_zip {bytes : List UInt8} {offsets : List Nat} {j i : Nat}
    (hdistinct : offsets.Nodup) (hj : offsets[j]? = some i) (hparam : j < params.length)
    (hi : i < bytes.length) : (fill bytes (offsets.zip params))[i]? = params[j]? := by
  -- Over the parameters in the order in which they are written. What is written later goes elsewhere.
  induction offsets generalizing params bytes j with
  | nil => cases hj
  | cons offset offsets ih =>
    obtain ⟨hnew, hdistinct⟩ := List.nodup_cons.1 hdistinct
    cases params with
    | nil => cases hparam
    | cons b params =>
      show (fill (bytes.set offset b) (offsets.zip params))[i]? = _
      cases j with
      | zero =>
        obtain rfl : offset = i := Option.some.inj hj
        rw [getElem?_fill, List.getElem?_set_self hi]
        · rfl
        · rintro ⟨o, x⟩ hmem rfl
          exact hnew (List.of_mem_zip hmem).1
      | succ j =>
        exact ih hdistinct hj (Nat.lt_of_succ_lt_succ hparam) (by rwa [List.length_set])

theorem mem_take_of_mem_zip {offsets : List Nat} {p : Nat × UInt8} (h : p ∈ offsets.zip params) :
    p.1 ∈ offsets.take params.length := by
  obtain ⟨j, hj⟩ := List.mem_iff_getElem?.1 h
  obtain ⟨hoffset, hparam⟩ := List.getElem?_zip_eq_some.1 hj
  obtain ⟨hlt, -⟩ := List.getElem?_eq_some_iff.1 hparam
  exact List.mem_iff_getElem?.2 ⟨j, by rw [List.getElem?_take_of_lt hlt, hoffset]⟩

/-- What is filled into a template stands where the layout says. -/
theorem filled_fill (hf : f.Sound) (ht : t.bytes.length = f.length)
    (hpayload : payload.length < f.length) :
    f.Filled t payload params (fill (payload ++ t.bytes.drop payload.length) (f.offsets.zip params)) := by
  have hlength := length_joined ht hpayload
  have hother : ∀ i ∉ f.offsets.take params.length,
      (fill (payload ++ t.bytes.drop payload.length) (f.offsets.zip params))[i]? =
        (payload ++ t.bytes.drop payload.length)[i]? := by
    intro i hi
    refine getElem?_fill fun p hp hpi => hi ?_
    exact hpi ▸ mem_take_of_mem_zip hp
  refine ⟨length_fill.trans hlength, fun j i hj hparam => ?_, fun i hi hfront => ?_,
    fun i hi hback => ?_⟩
  · have hin : i < f.length := hf.inside i (List.mem_iff_getElem?.2 ⟨j, hj⟩)
    exact getElem?_fill_zip hf.distinct hj hparam (hlength ▸ hin)
  · rw [hother i hi, List.getElem?_append_left hfront]
  · rw [hother i hi, List.getElem?_append_right hback, List.getElem?_drop,
      Nat.add_sub_cancel' hback]

theorem frame_eq_ok : f.frame t = .ok frame ↔
    t.isComplete = true ∧ t.bytes.length = f.length ∧ frame = t.bytes := by
  refine ⟨frame_ok, ?_⟩
  rintro ⟨hc, ht, rfl⟩
  simp only [FixedFrame.frame, hc, checkLength_ok.2 ht]
  rfl

theorem frame_error {e : Error} (h : f.frame t = .error e) : ∃ detail, e = .invalidOperation detail := by
  by_cases hc : t.isComplete = true
  · by_cases ht : t.bytes.length = f.length
    · rw [frame_eq_ok.2 ⟨hc, ht, rfl⟩] at h
      cases h
    · obtain ⟨detail, hlength⟩ := checkLength_error ht
      simp only [FixedFrame.frame, hc, hlength] at h
      cases h
      exact ⟨_, rfl⟩
  · simp only [FixedFrame.frame, hc] at h
    cases h
    exact ⟨_, rfl⟩

/-- **A command is refused, or it is what its layout says, byte by byte.** A complete template and one of
the wrong length cannot be filled in, too many parameters and too long a payload are refused, and in
everything else each byte is the parameter that goes there, or else one of the payload, or else that of
the template. Only complete templates are sent as they stand, so that none is both sent and filled in; and
in five bytes the last, which is the code of the command, is always that of the template. -/
theorem build_exact (hf : f.Sound) (t : Template) (payload params : List UInt8) :
    (t.isComplete = true ∨ t.bytes.length ≠ f.length →
      ∃ detail, f.build t payload params = .error (.invalidOperation detail)) ∧
    (t.isComplete = false → t.bytes.length = f.length →
      (f.offsets.length < params.length ∨ f.length ≤ payload.length →
        ∃ detail, f.build t payload params = .error (.invalidParameter detail)) ∧
      (params.length ≤ f.offsets.length → payload.length < f.length →
        ∃ frame, f.build t payload params = .ok frame ∧ f.Filled t payload params frame)) ∧
    (∀ frame, f.frame t = .ok frame ↔
      t.isComplete = true ∧ t.bytes.length = f.length ∧ frame = t.bytes) ∧
    (∀ e, f.frame t = .error e → ∃ detail, e = .invalidOperation detail) ∧
    (∀ frame sent, f.frame t = .ok frame → f.build t payload params ≠ .ok sent) ∧
    fiveBytes.Sound ∧
    ∀ frame, fiveBytes.build t payload params = .ok frame →
      ∃ code, t.bytes[4]? = some code ∧ frame[4]? = some code := by
  refine ⟨build_unfit, fun hc ht => ⟨fun hbad => ?_, fun hparams hpayload => ?_⟩, fun _ => frame_eq_ok,
    fun _ => frame_error, fun frame sent hframe hbuild => ?_, fiveBytes_sound, fun frame hframe => ?_⟩
  · rw [build_fit hc ht]
    split
    · exact ⟨_, rfl⟩
    · rename_i hparams
      rw [if_pos (hbad.resolve_left hparams)]
      exact ⟨_, rfl⟩
  · exact ⟨_, build_of_room hc ht hparams hpayload, filled_fill hf ht hpayload⟩
  · obtain ⟨detail, herror⟩ := build_unfit (.inl (frame_ok hframe).1)
    cases herror.symm.trans hbuild
  · obtain ⟨-, hlength, -, hpayload, -⟩ := build_ok hframe
    have hcode : 4 < t.bytes.length := hlength ▸ (by decide : 4 < fiveBytes.length)
    have hlast := getElem?_build hframe (Nat.le_of_lt_succ hpayload) (by decide)
    rw [List.getElem?_eq_getElem hcode] at hlast
    exact ⟨_, List.getElem?_eq_getElem hcode, hlast⟩

/-- Of two parameters, the second one goes into the payload; the third place gets none. -/
theorem build_exact_in_payload :
    let f : FixedFrame := ⟨6, [4, 1, 0]⟩
    let t : Template := ⟨false, [0xA0, 0xA1, 0xA2, 0xA3, 0xA4, 0xA5]⟩
    let frame : List UInt8 := [0x11, 0xF2, 0x33, 0xA3, 0xF1, 0xA5]
    f.Sound ∧ t.isComplete = false ∧ t.bytes.length = f.length ∧
      f.build t [0x11, 0x22, 0x33] [0xF1, 0xF2] = .ok frame ∧
      f.Filled t [0x11, 0x22, 0x33] [0xF1, 0xF2] frame := by
  intro f t frame
  have hf : f.Sound := ⟨by decide, by decide⟩
  obtain ⟨built, hbuilt, hfilled⟩ :=
    ((build_exact hf t [0x11, 0x22, 0x33] [0xF1, 0xF2]).2.1 rfl rfl).2 (by decide) (by decide)
  obtain rfl : frame = built := Except.ok.inj hbuilt
  exact ⟨hf, rfl, rfl, hbuilt, hfilled⟩

end RigControl.FixedFrame
