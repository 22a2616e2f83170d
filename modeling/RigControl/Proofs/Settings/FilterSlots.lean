/-
Filters of a CI-V rig. A width is set by one of three slots, which goes by its side of the normal width, and
a slot is read as the normal width or as its nearest declared neighbour on that side. So a width is read
back through its slot exactly if it is one of these three (`slotWidth_filterSlot`), which are all the
declared widths if there is at most one on either side.

A simulated rig keeps its mode with the slot and the state of its data modulator, and takes any selection
(`ModeKeeper`). Setting a mode with a width on such a rig succeeds, and what is read then is the mode with
the width for the slot (`widths_read_back`). Whether a model has a data modulator is told from one data mode:
a model with others and without that one switches its modulator when a mode is set and does not ask about it
when the mode is read, so that the base mode is shown, and the width for that one (`width_lost`).
-/
import RigControl.Models.Icom
import RigControl.Proofs.Filters
import RigControl.Proofs.Settings.Basic

namespace RigControl.Civ

/-! ## Slots -/

section

variable {d : Descriptor} {m : Mode} {w n : Passband}

theorem filterSlot_of_narrower (hn : d.defaultFilter m = some n) (h : w < n) :
    filterSlot d m (some w) = some .narrow := by
  rw [filterSlot, hn]
  exact if_pos h

theorem filterSlot_of_wider (hn : d.defaultFilter m = some n) (h : n < w) :
    filterSlot d m (some w) = some .wide := by
  rw [filterSlot, hn]
  exact (if_neg (Nat.lt_asymm h)).trans (if_pos h)

theorem filterSlot_of_normal (hn : d.defaultFilter m = some n) :
    filterSlot d m (some n) = some .normal := by
  rw [filterSlot, hn]
  exact (if_neg (Nat.lt_irrefl n.hz)).trans (if_neg (Nat.lt_irrefl n.hz))

theorem filterSlot_some (hn : d.defaultFilter m = some n) (w : Passband) :
    ∃ slot, filterSlot d m (some w) = some slot := by
  rcases Nat.lt_trichotomy w.hz n.hz with h | h | h
  · exact ⟨_, filterSlot_of_narrower hn h⟩
  · rw [Passband.eq_of_hz h]
    exact ⟨_, filterSlot_of_normal hn⟩
  · exact ⟨_, filterSlot_of_wider hn h⟩

/-- A width is read back through its slot if and only if it is the normal one or one of its neighbours. -/
theorem slotWidth_filterSlot (hn : d.defaultFilter m = some n) :
    slotWidth d m (filterSlot d m (some w)) = some w ↔
      d.defaultFilter m = some w ∨ d.narrowFilter m = some w ∨ d.wideFilter m = some w := by
  have hnormal : d.defaultFilter m = some w → n = w := fun h => Option.some.inj (hn.symm.trans h)
  have hnarrow : d.narrowFilter m = some w → w.hz < n.hz := fun h =>
    (((Descriptor.narrowFilter_neighbour hn).some_iff w).1 h).aside
  have hwide : d.wideFilter m = some w → n.hz < w.hz := fun h =>
    (((Descriptor.wideFilter_neighbour hn).some_iff w).1 h).aside
  rcases Nat.lt_trichotomy w.hz n.hz with hside | hside | hside
  · rw [filterSlot_of_narrower hn hside]
    refine ⟨fun h => .inr (.inl h), ?_⟩
    rintro (h | h | h)
    · rw [hnormal h] at hside
      exact absurd hside (Nat.lt_irrefl w.hz)
    · exact h
    · exact absurd (hwide h) (Nat.lt_asymm hside)
  · obtain rfl := Passband.eq_of_hz hside
    rw [filterSlot_of_normal hn]
    exact ⟨.inl, fun _ => hn⟩
  · rw [filterSlot_of_wider hn hside]
    refine ⟨fun h => .inr (.inr h), ?_⟩
    rintro (h | h | h)
    · rw [hnormal h] at hside
      exact absurd hside (Nat.lt_irrefl w.hz)
    · exact absurd (hnarrow h) (Nat.lt_asymm hside)
    · exact h

/-- A declared width is one of the three if it is the only one on its side. -/
theorem mem_of_declared (hn : d.defaultFilter m = some n) (hw : d.Declares m w)
    (hnarrower : ∀ x, d.Declares m x → x < n → w < n → x = w)
    (hwider : ∀ x, d.Declares m x → n < x → n < w → x = w) :
    d.defaultFilter m = some w ∨ d.narrowFilter m = some w ∨ d.wideFilter m = some w := by
  have hnarrow := Descriptor.narrowFilter_neighbour hn
  have hwide := Descriptor.wideFilter_neighbour hn
  rcases Nat.lt_trichotomy w.hz n.hz with hside | hside | hside
  · cases hfound : d.narrowFilter m with
    | none => exact absurd hside (hnarrow.none_iff.1 hfound w hw)
    | some x =>
      have hx := (hnarrow.some_iff x).1 hfound
      rw [hnarrower x hx.declared hx.aside hside]
      exact .inr (.inl rfl)
  · obtain rfl := Passband.eq_of_hz hside
    exact .inl hn
  · cases hfound : d.wideFilter m with
    | none => exact absurd hside (hwide.none_iff.1 hfound w hw)
    | some x =>
      have hx := (hwide.some_iff x).1 hfound
      rw [hwider x hx.declared hx.aside hside]
      exact .inr (.inr rfl)

end

/-! ## Modes on the wire -/

/-- The mode that a data mode is without the data modulator. -/
def baseMode : Mode → Mode
  | .dataLsb => .lsb
  | .dataUsb => .usb
  | .dataAm => .am
  | .dataFm => .fm
  | m => m

theorem modeOfCode_modeCode (m : Mode) : modeOfCode (modeCode m) = .ok (baseMode m) := by
  cases m <;> rfl

theorem withData_baseMode {m : Mode} (h : isData m = true) : withData (baseMode m) = some m := by
  cases m <;> first | rfl | cases h

theorem modeWithData_isData (m : Mode) : modeWithData (baseMode m) (isData m) = m := by
  cases m <;> rfl

theorem baseMode_of_not_data {m : Mode} (h : isData m = false) : baseMode m = m := by
  cases m <;> first | rfl | cases h

theorem ofCode_code (slot : FilterSlot) : FilterSlot.ofCode slot.code = .ok slot := by
  cases slot <;> rfl

theorem mode_clear (m : Mode) (slot : FilterSlot) : Clear [modeCode m, slot.code] :=
  .append (clear_singleton.2 (modeCode_lt m)) (clear_singleton.2 (code_lt slot))

/-- The mode and the slot that were set are read, the mode without the data modulator. -/
theorem parseMode_set (m : Mode) (slot : FilterSlot) :
    parseMode [modeCode m, slot.code] = .ok (baseMode m, some slot) := by
  rw [parseMode, modeOfCode_modeCode, Outcome.ok_bind]
  dsimp only
  rw [ofCode_code]
  rfl

/-- Whether reading the mode asks about the data modulator. -/
def asksData (d : Descriptor) (region : Region) (m : Mode) : Bool :=
  hasDataModes d region && (withData (baseMode m)).isSome

/-- The mode that is read. Without a data modulator it is a base mode. -/
def shown (d : Descriptor) (region : Region) (m : Mode) : Mode :=
  if isData m && !hasDataModes d region then baseMode m else m

section

variable {d : Descriptor} {region : Region} {m : Mode}

theorem shown_of_asks (h : asksData d region m = true) : shown d region m = m := by
  rw [shown, (Bool.and_eq_true_iff.1 h).1, Bool.not_true, Bool.and_false]
  rfl

theorem shown_eq_iff : shown d region m = m ↔ (isData m = true → hasDataModes d region = true) := by
  have hbase : isData m = true → baseMode m ≠ m := by
    cases m <;> decide
  unfold shown
  cases hdata : isData m with
  | false => simp
  | true =>
    cases hasDataModes d region with
    | false => simpa using hbase hdata
    | true => simp

theorem shown_of_not_asks (h : ¬ asksData d region m = true) : shown d region m = baseMode m := by
  cases hdata : isData m with
  | true =>
    rw [asksData, withData_baseMode hdata, Option.isSome_some, Bool.and_true] at h
    rw [shown, hdata, eq_false_of_ne_true h]
    rfl
  | false =>
    rw [shown, hdata, baseMode_of_not_data hdata]
    rfl

end

/-- The data that switch the data modulator. -/
def modulator (on : Bool) (slot : FilterSlot) : List UInt8 :=
  if on then [0x01, slot.code] else [0x00, 0x00]

section

variable {on : Bool} {slot : FilterSlot}

theorem modulator_clear : Clear (modulator on slot) := by
  cases on <;> cases slot <;> decide

theorem length_modulator : (modulator on slot).length = 2 := by
  cases on <;> rfl

theorem modulator_ne_nil : modulator on slot ≠ [] :=
  List.ne_nil_of_length_pos (by rw [length_modulator]; decide)

theorem parseDataMode_modulator : parseDataMode (modulator on slot) = .ok on := by
  cases on <;> rfl

end

/-! ## Rigs that keep their mode -/

/-- A rig that keeps its mode with the slot of its filter, and the state of its data modulator. It accepts any
selection, which may change both. -/
structure ModeKeeper (b : Bus) (S : Type) where
  device : Device S
  isWhole : ∀ bytes, device.isWhole bytes = (bytes.getLast? == some terminator)
  mode : S → List UInt8
  dataMode : S → List UInt8
  select_answer : ∀ s v r, b.selectVfo v = .ok r → Behind r.frame b.ack (device.answer s r.frame)
  set_mode : ∀ s m slot, let frame := (b.setMode m (some slot)).frame
    mode (device.next s frame) = [modeCode m, slot.code] ∧ Behind frame b.ack (device.answer s frame)
  /-- Switching the data modulator leaves the mode alone. -/
  set_dataMode : ∀ s on slot, let frame := (b.setDataMode on slot).frame
    dataMode (device.next s frame) = modulator on slot ∧
      mode (device.next s frame) = mode s ∧ Behind frame b.ack (device.answer s frame)
  read_mode : ∀ s, let frame := b.readMode.frame
    dataMode (device.next s frame) = dataMode s ∧
      Behind frame (b.answer .mode (mode s)) (device.answer s frame)
  read_dataMode : ∀ s, let frame := b.readDataMode.frame
    Behind frame (b.answer .dataMode (dataMode s)) (device.answer s frame)

namespace ModeKeeper

variable {b : Bus} {S : Type} {K : ModeKeeper b S} {timeout : Nat} {k : Tracking} {s : S}
  {d : Descriptor} {region : Region} {v : Vfo} {m : Mode} {w : Passband} {slot : FilterSlot}

/-- The rig is in a mode with a slot. Where the data modulator is asked about, it is on for a data mode. -/
structure In (K : ModeKeeper b S) (d : Descriptor) (region : Region) (m : Mode) (slot : FilterSlot)
    (s : S) : Prop where
  mode : K.mode s = [modeCode m, slot.code]
  data : asksData d region m = true → ∃ slot, K.dataMode s = modulator (isData m) slot

variable (hb : b.Sound) (htimeout : 0 < timeout)
include hb htimeout

theorem select_takes {r : Request} (hr : b.selectVfo v = .ok r) :
    (b.command r).Takes K.device timeout (k, s) (.ok ()) (k, K.device.next s r.frame) := by
  have hanswer := K.select_answer s v r hr
  cases v <;> cases hr
  all_goals
    exact hb.command_takes K.isWhole htimeout (by decide) (by decide) (by decide) hanswer

omit hb htimeout in
/-- The selected VFO is not selected again. -/
theorem switchTo_selected (hsame : k.resolve v = k.vfo) (hv : d.checkVfo (k.resolve v) = .ok ()) :
    (b.switchTo d v).Takes K.device timeout (k, s) (.ok ()) (k, s) := by
  refine .known_bind (.lift_bind hv ?_)
  rw [if_neg (not_not_intro hsame)]
  exact .pure

/-- A VFO of the model is selected. -/
theorem switchTo_takes (hv : d.checkVfo (k.resolve v) = .ok ()) : ∃ s',
    (b.switchTo d v).Takes K.device timeout (k, s) (.ok ()) ({ k with vfo := k.resolve v }, s') := by
  by_cases hsame : k.resolve v = k.vfo
  · have hselected : (b.switchTo d v).Takes K.device timeout (k, s) (.ok ()) (k, s) :=
      switchTo_selected hsame hv
    rw [hsame]
    exact ⟨s, hselected⟩
  · have hne : v ≠ .current := by
      rintro rfl
      exact hsame rfl
    have hresolve : k.resolve v = v := Tracking.resolve_of_ne hne
    obtain ⟨r, hr⟩ : ∃ r, b.selectVfo v = .ok r := by
      cases v <;> first | exact ⟨_, rfl⟩ | exact absurd rfl hne
    rw [hresolve] at hv hsame ⊢
    refine ⟨K.device.next s r.frame, .known_bind ?_⟩
    rw [hresolve]
    refine .lift_bind hv ?_
    rw [if_pos hsame]
    exact .lift_bind hr (.bind (select_takes hb htimeout hr) (.selected hv hne))

theorem setDataMode_takes (on : Bool) (slot : FilterSlot) :
    (b.command (b.setDataMode on slot)).Takes K.device timeout (k, s) (.ok ())
      (k, K.device.next s (b.setDataMode on slot).frame) := by
  obtain ⟨-, -, hack⟩ := K.set_dataMode s on slot
  have hclear : Clear (Topic.dataMode.sub ++ modulator on slot) :=
    .append (by decide) modulator_clear
  have hlength : (Topic.dataMode.sub ++ modulator on slot).length ≤ 58 := by
    rw [List.length_append, length_modulator]
    decide
  exact hb.command_takes K.isWhole htimeout (by decide) hclear hlength hack

/-- Setting a mode with a slot leaves the rig in it. -/
theorem modeRequests_takes (hslot : filterSlot d m (some w) = some slot) : ∃ s',
    ((modeRequests b d region m (some w)).forM b.command).Takes K.device timeout (k, s) (.ok ()) (k, s') ∧
      K.In d region m slot s' := by
  obtain ⟨hmode, hack⟩ := K.set_mode s m slot
  have hset : (b.command (b.setMode m (some slot))).Takes K.device timeout (k, s) (.ok ())
      (k, K.device.next s (b.setMode m (some slot)).frame) :=
    hb.command_takes K.isWhole htimeout (by decide) (mode_clear m slot) (Nat.le_of_ble_eq_true rfl) hack
  have hswitch := K.set_dataMode (K.device.next s (b.setMode m (some slot)).frame)
  rw [modeRequests, hslot]
  cases hdata : isData m with
  | true =>
    have hrequest : dataModeRequest b d region m (some slot) = some (b.setDataMode true slot) := if_pos hdata
    obtain ⟨hon, hkept, -⟩ := hswitch true slot
    rw [hrequest]
    refine ⟨_, .bind hset (.bind (setDataMode_takes hb htimeout true slot) .pure), hkept.trans hmode,
      fun _ => ⟨slot, ?_⟩⟩
    rw [hdata]
    exact hon
  | false =>
    have hnot : ¬ isData m = true := fun h => absurd (hdata.symm.trans h) (by decide)
    by_cases hhas : (hasDataModes d region && (withData m).isSome) = true
    · have hrequest : dataModeRequest b d region m (some slot) = some (b.setDataMode false .normal) :=
        (if_neg hnot).trans (if_pos hhas)
      obtain ⟨hoff, hkept, -⟩ := hswitch false .normal
      rw [hrequest]
      refine ⟨_, .bind hset (.bind (setDataMode_takes hb htimeout false .normal) .pure),
        hkept.trans hmode, fun _ => ⟨.normal, ?_⟩⟩
      rw [hdata]
      exact hoff
    · have hrequest : dataModeRequest b d region m (some slot) = none :=
        (if_neg hnot).trans (if_neg hhas)
      rw [hrequest]
      refine ⟨_, .bind hset .pure, hmode, fun hasks => absurd ?_ hhas⟩
      rwa [asksData, baseMode_of_not_data hdata] at hasks

/-- Setting a mode with a width leaves the rig in the mode, with the slot of the width. -/
theorem setMode_takes (hv : d.checkVfo (k.resolve v) = .ok ()) (hm : d.checkMode region m = .ok ())
    (hw : d.filterFor m (some w) = .ok (some w)) (hslot : filterSlot d m (some w) = some slot) : ∃ s',
    (setMode b d region v m (some w)).Takes K.device timeout (k, s) (.ok ())
      ({ k with vfo := k.resolve v }, s') ∧ K.In d region m slot s' := by
  let k' : Tracking := { k with vfo := k.resolve v }
  have hwidth : (liftM (d.filterFor m (some w)) : Dialogue (Option Passband)).Takes K.device timeout (k, s)
      (.ok (some w)) (k, s) := by
    rw [hw]
    exact .pure
  obtain ⟨s₁, hselected⟩ : ∃ s₁, (b.switchTo d v).Takes K.device timeout (k, s) (.ok ()) (k', s₁) :=
    switchTo_takes hb htimeout hv
  obtain ⟨s₂, hset, hin⟩ : ∃ s₂, ((modeRequests b d region m (some w)).forM b.command).Takes K.device
      timeout (k', s₁) (.ok ()) (k', s₂) ∧ K.In d region m slot s₂ :=
    modeRequests_takes hb htimeout hslot
  exact ⟨s₂, .lift_bind (Tracking.checkVfo_of_resolve hv) (.lift_bind hm (.bind hwidth
    (.bind hselected hset))), hin⟩

/-- The state of the data modulator, where it is asked about, makes the base mode the mode that is shown. -/
theorem askData_takes {α : Type} {f : Bool → Dialogue α} {o : Outcome α}
    (hdata : asksData d region m = true → ∃ slot, K.dataMode s = modulator (isData m) slot)
    (hf : ∀ data s, modeWithData (baseMode m) data = shown d region m →
      (f data).Takes K.device timeout (k, s) o (k, s)) : ∃ s',
    (if asksData d region m then do
      let data ← parseDataMode (← b.ask "get_mode" .dataMode)
      f data
    else do
      let data ← pure false
      f data : Dialogue α).Takes K.device timeout (k, s) o (k, s') := by
  by_cases hasks : asksData d region m = true
  · obtain ⟨slot, hmodulator⟩ := hdata hasks
    have hanswer := K.read_dataMode s
    rw [hmodulator] at hanswer
    have hasked : (b.ask "get_mode" .dataMode).Takes K.device timeout (k, s)
        (.ok (modulator (isData m) slot)) (k, K.device.next s b.readDataMode.frame) :=
      hb.ask_takes K.isWhole htimeout (by decide) modulator_ne_nil modulator_clear
        (by rw [length_modulator]; decide) hanswer
    have hshown : modeWithData (baseMode m) (isData m) = shown d region m := by
      rw [modeWithData_isData, shown_of_asks hasks]
    rw [if_pos hasks]
    exact ⟨_, .bind hasked (.lift_bind parseDataMode_modulator (hf _ _ hshown))⟩
  · rw [if_neg hasks]
    exact ⟨s, .bind .pure (hf false s (shown_of_not_asks hasks).symm)⟩

/-- Reading the mode at the selected VFO. -/
theorem getMode_takes (hv : k.resolve v = k.vfo) (hvfo : d.checkVfo (k.resolve v) = .ok ())
    (hin : K.In d region m slot s) : ∃ s',
    (getMode b d region v).Takes K.device timeout (k, s)
      (.ok (shown d region m, slotWidth d (shown d region m) (some slot))) (k, s') := by
  obtain ⟨hkept, hanswer⟩ := K.read_mode s
  rw [hin.mode] at hanswer
  have hasked : (b.ask "get_mode" .mode).Takes K.device timeout (k, s) (.ok [modeCode m, slot.code])
      (k, K.device.next s b.readMode.frame) :=
    hb.ask_takes K.isWhole htimeout (by decide) (List.cons_ne_nil _ _) (mode_clear m slot)
      (Nat.le_of_ble_eq_true rfl) hanswer
  have hstays : asksData d region m = true →
      ∃ slot, K.dataMode (K.device.next s b.readMode.frame) = modulator (isData m) slot := by
    rw [hkept]
    exact hin.data
  obtain ⟨s', hthen⟩ := askData_takes hb htimeout hstays (k := k) (f := fun data =>
    pure (modeWithData (baseMode m) data, slotWidth d (modeWithData (baseMode m) data) (some slot)))
    fun data s h => by rw [h]; exact .pure
  exact ⟨s', .lift_bind (Tracking.checkVfo_of_resolve hvfo) (.bind (switchTo_selected hv hvfo)
    (.bind hasked (.lift_bind (parseMode_set m slot) hthen)))⟩

end ModeKeeper

/-- One echo and an answer, over the data about the mode and those about the data modulator. -/
def ModeKeeper.plain (b : Bus) : ModeKeeper b (List UInt8 × List UInt8) where
  device := {
    isWhole := fun bytes => bytes.getLast? == some terminator
    next := fun s frame =>
      if frame[4]? = some 0x06 then (Keeper.dataOf .mode frame, s.2)
      else if frame[4]? = some 0x1A then
        (s.1, if Keeper.dataOf .dataMode frame = [] then s.2 else Keeper.dataOf .dataMode frame)
      else s
    answer := fun s frame => frame ++
      if frame[4]? = some 0x04 then b.answer .mode s.1
      else if frame[4]? = some 0x1A then
        if Keeper.dataOf .dataMode frame = [] then b.answer .dataMode s.2 else b.ack
      else b.ack }
  isWhole _ := rfl
  mode := Prod.fst
  dataMode := Prod.snd
  select_answer s v r hr := by
    cases v <;> cases hr <;> exact ⟨1, [], rfl⟩
  set_mode s m slot := ⟨rfl, 1, [], rfl⟩
  set_dataMode s on slot := by
    have hcode : (b.setDataMode on slot).frame[4]? = some 0x1A := rfl
    have hdata : Keeper.dataOf .dataMode (b.setDataMode on slot).frame = modulator on slot :=
      Keeper.dataOf_frame
    exact ⟨by simp [hcode, hdata, modulator_ne_nil], by simp [hcode], 1, [],
      by simp [hcode, hdata, modulator_ne_nil]⟩
  read_mode s := by
    have hcode : b.readMode.frame[4]? = some 0x04 := rfl
    exact ⟨rfl, 1, [], by simp [hcode]⟩
  read_dataMode s := by
    have hcode : b.readDataMode.frame[4]? = some 0x1A := rfl
    have hread : Keeper.dataOf .dataMode b.readDataMode.frame = [] := Keeper.dataOf_read
    exact ⟨1, [], by simp [hcode, hread]⟩

/-- A rig that keeps its mode, over a link that is up, and a model that has the VFO and the mode. -/
structure ModeKeeper.HasMode {b : Bus} {S : Type} (K : ModeKeeper b S) (timeout : Nat) (s : S)
    (r : Rig (Simulated S)) (v : Vfo) (m : Mode) : Prop where
  sound : b.Sound
  timeout_pos : 0 < timeout
  backend : r.backend = .civ b
  session_at : r.session.At K.device timeout s
  vfo : r.session.descriptor.checkVfo (r.session.known.resolve v) = .ok ()
  mode : r.session.descriptor.checkMode r.session.config.region m = .ok ()

section

variable {b : Bus} {S : Type} {K : ModeKeeper b S} {timeout : Nat} {s : S} {r : Rig (Simulated S)}
  {v u : Vfo} {m : Mode} {w n : Passband}

/-- A rig that is set to a mode with a width is left with the slot of the width, and what is read is the mode
that is shown, with the width for the slot. -/
theorem setMode_getMode (hr : K.HasMode timeout s r v m)
    (hn : r.session.descriptor.defaultFilter m = some n)
    (hw : r.session.descriptor.filterFor m (some w) = .ok (some w)) (hu : u = v ∨ u = .current) :
    let d := r.session.descriptor
    let set := (Rig.perform (.setMode v m (some w))).run r
    let got := ((Rig.perform (.getMode u)).run set.2).1
    let shown := shown d r.session.config.region m
    ∃ slot, filterSlot d m (some w) = some slot ∧ set.1 = .ok () ∧
      K.mode set.2.session.engine.port.link.rig = [modeCode m, slot.code] ∧
      got = .ok (shown, slotWidth d shown (some slot)) := by
  intro d set got shown
  obtain ⟨slot, hslot⟩ := filterSlot_some hn w
  obtain ⟨s', hset, hin⟩ :=
    ModeKeeper.setMode_takes (K := K) (s := s) hr.sound hr.timeout_pos hr.vfo hr.mode hw hslot
  let k : Tracking := { r.session.known with vfo := r.session.known.resolve v }
  have hresolve : k.resolve u = k.vfo := by
    rcases hu with rfl | rfl
    · exact Tracking.resolve_selected
    · rfl
  obtain ⟨s'', hget⟩ := ModeKeeper.getMode_takes (K := K) hr.sound hr.timeout_pos hresolve
    (by rw [hresolve]; exact hr.vfo) hin
  obtain ⟨hok, hat, hgot⟩ :=
    Rig.perform_in_turn (.setMode v m (some w)) (.getMode u) hr.backend hr.session_at hset hget
  have hrig : set.2.session.engine.port.link.rig = s' := hat.attends.rig
  exact ⟨slot, hslot, hok, by rw [hrig, hin.mode], hgot⟩

end

/-- **A width is read back through its slot** if and only if it is the normal one of the mode or one of its
neighbours. Every declared width is, if the mode declares at most one on either side.

A rig that keeps its mode can be set to a mode with any width that is accepted. It is left with the slot of
the width, and reading the mode at this VFO gives the mode that is shown, with the width for the slot. This
is what was set exactly for these three widths, and for a data mode only if the model is taken to have a data
modulator. -/
theorem widths_read_back (d : Descriptor) (m : Mode) (n : Passband) (hn : d.defaultFilter m = some n) :
    (∀ w, slotWidth d m (filterSlot d m (some w)) = some w ↔
      d.defaultFilter m = some w ∨ d.narrowFilter m = some w ∨ d.wideFilter m = some w) ∧
    ((∀ x y, d.Declares m x → d.Declares m y → x < n → y < n → x = y) →
      (∀ x y, d.Declares m x → d.Declares m y → n < x → n < y → x = y) →
      ∀ w, d.Declares m w → d.filterFor m (some w) = .ok (some w) ∧
        slotWidth d m (filterSlot d m (some w)) = some w) ∧
    ∀ {b : Bus} {S : Type} {K : ModeKeeper b S} {timeout : Nat} {s : S} {r : Rig (Simulated S)}
      {v u : Vfo} {w : Passband}, K.HasMode timeout s r v m → r.session.descriptor = d →
      d.filterFor m (some w) = .ok (some w) → u = v ∨ u = .current →
      let set := (Rig.perform (.setMode v m (some w))).run r
      let got := ((Rig.perform (.getMode u)).run set.2).1
      let shown := shown d r.session.config.region m
      ∃ slot, filterSlot d m (some w) = some slot ∧ set.1 = .ok () ∧
        parseMode (K.mode set.2.session.engine.port.link.rig) = .ok (baseMode m, some slot) ∧
        got = .ok (shown, slotWidth d shown (some slot)) ∧
        (got = .ok (m, some w) ↔ (isData m = true → hasDataModes d r.session.config.region = true) ∧
          (d.defaultFilter m = some w ∨ d.narrowFilter m = some w ∨ d.wideFilter m = some w)) := by
  refine ⟨fun w => slotWidth_filterSlot hn, fun hnarrower hwider w hw => ⟨?_, ?_⟩, ?_⟩
  · exact Descriptor.filterFor_eq_ok.2 (.inl hw)
  · refine (slotWidth_filterSlot hn).2 (mem_of_declared hn hw (fun x hx hside => ?_) fun x hx hside => ?_)
    · exact hnarrower x w hx hw hside
    · exact hwider x w hx hw hside
  intro b S K timeout s r v u w hr hd hw hu set got mode
  subst hd
  obtain ⟨slot, hslot, hok, hmode, hgot⟩ := setMode_getMode hr hn hw hu
  have hgot : got = .ok (mode, slotWidth r.session.descriptor mode (some slot)) := hgot
  refine ⟨slot, hslot, hok, by rw [hmode, parseMode_set], hgot, ?_⟩
  rw [hgot, Except.ok.injEq, Prod.mk.injEq, ← shown_eq_iff]
  refine and_congr_right fun hsame => ?_
  rw [show mode = m from hsame, ← hslot]
  exact slotWidth_filterSlot hn

/-- The second receiver of an IC-7800 is set to a data mode with a narrow filter and read. With a still
narrower one, the narrow filter would be read as well. -/
theorem widths_read_back_narrow :
    let b : Bus := { rig := 0x6A }
    let d : Descriptor := { Models.ic7800 with
      filters := Models.ic7800.filters ++ [⟨.ofList [.dataUsb], some ⟨500⟩⟩] }
    let r : Rig (Simulated (List UInt8 × List UInt8)) :=
      ⟨.civ b, .start d {} { device := (ModeKeeper.plain b).device, rig := ([], []) }⟩
    let set (w : Passband) := (Rig.perform (.setMode .sub .dataUsb (some w))).run r
    let got (w : Passband) := ((Rig.perform (.getMode .current)).run (set w).2).1
    (set ⟨1800⟩).1 = .ok () ∧ got ⟨1800⟩ = .ok (.dataUsb, some ⟨1800⟩) ∧
      (set ⟨500⟩).1 = .ok () ∧ got ⟨500⟩ ≠ .ok (.dataUsb, some ⟨500⟩) := by
  intro b d r set got
  have hmode : (ModeKeeper.plain b).HasMode (Config.resolve {} d.line).timeout ([], []) r .sub .dataUsb :=
    ⟨Bus.sound_of_lt (by decide) (by decide), by decide, rfl, ⟨⟨rfl, rfl, rfl, rfl⟩, rfl⟩, by decide,
      by decide⟩
  obtain ⟨-, -, hrun⟩ := widths_read_back d .dataUsb ⟨2400⟩ (by decide)
  obtain ⟨-, -, hnarrow, -, -, hback⟩ := hrun (w := ⟨1800⟩) hmode rfl (by decide) (.inr rfl)
  obtain ⟨-, -, hnarrower, -, -, hnot⟩ := hrun (w := ⟨500⟩) hmode rfl (by decide) (.inr rfl)
  have hthree : d.defaultFilter .dataUsb = some ⟨1800⟩ ∨ d.narrowFilter .dataUsb = some ⟨1800⟩ ∨
    d.wideFilter .dataUsb = some ⟨1800⟩ := by decide
  refine ⟨hnarrow, hback.2 ⟨by decide, hthree⟩, hnarrower, fun hgot => ?_⟩
  exact absurd (hnot.1 hgot).2 (by decide)

/-- A model has LSB and its data mode, and no other modes to receive in. It is set to the data mode with the
normal width, which switches its data modulator on, and reads as being in LSB, with the width for LSB. -/
theorem width_lost :
    let b : Bus := { rig := 0x6A }
    let rx : FreqRange :=
      { min := 30000, max := 60000000, modes := .ofList [.lsb, .dataLsb], vfos := .ofList [.main, .sub] }
    let d : Descriptor := { Models.ic7800 with
      rxOne := [rx], rxTwo := [rx],
      filters := [⟨.ofList [.lsb], some ⟨2400⟩⟩, ⟨.ofList [.dataLsb], some ⟨500⟩⟩] }
    let r : Rig (Simulated (List UInt8 × List UInt8)) :=
      ⟨.civ b, .start d {} { device := (ModeKeeper.plain b).device, rig := ([], []) }⟩
    let set := (Rig.perform (.setMode .current .dataLsb (some ⟨500⟩))).run r
    d.validate = .ok () ∧ d.filterFor .dataLsb (some ⟨500⟩) = .ok (some ⟨500⟩) ∧
      d.defaultFilter .dataLsb = some ⟨500⟩ ∧ set.1 = .ok () ∧
      set.2.session.engine.port.link.rig.2 = modulator true .normal ∧
      ((Rig.perform (.getMode .current)).run set.2).1 = .ok (.lsb, some ⟨2400⟩) := by
  intro b rx d r set
  exact ⟨by decide +kernel, by decide, by decide, by decide +kernel, by decide +kernel, by decide +kernel⟩

end RigControl.Civ
