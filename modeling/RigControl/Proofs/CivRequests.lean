/-
The requests that a controller sends on a CI-V bus. Whatever builder a request comes from (`Bus.Built`),
nothing in its frame but the preamble and the terminator belongs to the bus, so that the frame is read back
as it was built and a reader finds its end, whatever follows (`requests_framed`). Numbers cannot spoil this,
as packed decimals stay below 0x9A; the addresses and the bytes that are sent as they are given have to be
clear.
-/
import RigControl.Proofs.ByteOrder
import RigControl.Proofs.CivFrames
import RigControl.Proofs.CivPayloads
import RigControl.Proofs.Echoes

namespace RigControl.Civ

variable {b : Bus} {command : UInt8} {payload : List UInt8} {r : Request}

/-- The addresses on the bus are none of the bytes that end or spoil a frame. -/
structure Bus.Sound (b : Bus) : Prop where
  rig_clear : b.rig ≠ terminator ∧ b.rig ≠ collision
  controller_clear : b.controller ≠ terminator ∧ b.controller ≠ collision ∧ b.controller ≠ preamble

/-- A frame with a clear payload has no terminator but its last byte. -/
theorem Bus.Sound.notMem_terminator (hb : b.Sound) (hc : command < 0xFA) (hp : Clear payload) :
    terminator ∉ [preamble, preamble, b.rig, b.controller, command] ++ payload := by
  have hcommand : command ≠ terminator := by
    rintro rfl
    exact absurd hc (by decide)
  have hpayload : terminator ∉ payload := fun h => absurd (hp terminator h) (by decide)
  have hpreamble : terminator ≠ preamble := by decide
  simp only [List.mem_append, List.mem_cons, List.not_mem_nil, or_false, hpayload, not_or]
  exact ⟨hpreamble, hpreamble, hb.rig_clear.1.symm, hb.controller_clear.1.symm, hcommand.symm⟩

theorem Bus.length_frame : (b.frame command payload).length = payload.length + 6 := by
  show (([preamble, preamble, b.rig, b.controller, command] ++ payload) ++ [terminator]).length = _
  simp only [List.length_append, List.length_cons, List.length_nil]
  omega

theorem Bus.Sound.block (hb : b.Sound) (hc : command < 0xFA) (hp : Clear payload)
    (hlength : payload.length ≤ 58) : Block terminator Bus.maxFrame (b.frame command payload) := by
  refine ⟨_, hb.notMem_terminator hc hp, rfl, ?_⟩
  rw [Bus.length_frame]
  exact Nat.add_le_add_right hlength 6

/-- Addresses below 0xF0, as those of rigs and controllers are. -/
theorem Bus.sound_of_lt (hrig : b.rig < 0xF0) (hcontroller : b.controller < 0xF0) : b.Sound where
  rig_clear := by
    constructor
    all_goals
      intro h
      exact absurd (h ▸ hrig) (by decide)
  controller_clear := by
    refine ⟨?_, ?_, ?_⟩
    all_goals
      intro h
      exact absurd (h ▸ hcontroller) (by decide)

/-! ## Builders -/

/-- A builder yields the request. The bytes that a builder sends as they are given are clear. -/
inductive Bus.Built (b : Bus) : Request → Prop
  | readFrequency : b.Built b.readFrequency
  | setFrequency {hz : Nat} {r : Request} (h : b.setFrequency hz = .ok r) : b.Built r
  | readMode : b.Built b.readMode
  | setMode (m : Mode) (slot : Option FilterSlot) : b.Built (b.setMode m slot)
  | readDataMode : b.Built b.readDataMode
  | setDataMode (on : Bool) (slot : FilterSlot) : b.Built (b.setDataMode on slot)
  | selectVfo {v : Vfo} {r : Request} (h : b.selectVfo v = .ok r) : b.Built r
  | vfoMode : b.Built b.vfoMode
  | selectMemory {channel : Nat} {r : Request} (h : b.selectMemory channel = .ok r) : b.Built r
  | vfoOp (o : VfoOp) : b.Built (b.vfoOp o)
  | scan (o : ScanOp) : b.Built (b.scan o)
  | readSplit : b.Built b.readSplit
  | setSplit (on : Bool) : b.Built (b.setSplit on)
  | readAttenuator : b.Built b.readAttenuator
  | setAttenuator {raw : UInt8} {r : Request} (h : b.setAttenuator raw = .ok r) : b.Built r
  | readPreamp : b.Built b.readPreamp
  | setPreamp {index : UInt8} (h : index < 0xFA) : b.Built (b.setPreamp index)
  | readRfPower : b.Built b.readRfPower
  | setRfPower {raw : Nat} {r : Request} (h : b.setRfPower raw = .ok r) : b.Built r
  | readMeter {sub : UInt8} (h : sub < 0xFA) : b.Built (b.readMeter sub)
  | readPtt : b.Built b.readPtt
  | setPtt (on : Bool) : b.Built (b.setPtt on)
  | readClockItem {high low : UInt8} (hhigh : high < 0xFA) (hlow : low < 0xFA) :
    b.Built (b.readClockItem (.clockItem high low))
  | setClock {t : ClockTime} {requests : List Request} {r : Request}
    (h : b.setClock t = .ok requests) (hr : r ∈ requests) : b.Built r

namespace Bus

theorem Says.selectVfo {v : Vfo} (h : b.selectVfo v = .ok r) :
    ∃ command < 0xFA, b.Says command r := by
  cases v <;> cases h
  case memory => exact ⟨0x08, by decide, .intro _ _ (by decide) rfl⟩
  all_goals exact ⟨0x07, by decide, .intro _ _ (by decide) rfl⟩

theorem Says.selectMemory {channel : Nat} (h : b.selectMemory channel = .ok r) : b.Says 0x08 r := by
  obtain ⟨digits, hdigits, h⟩ := Outcome.bind_eq_ok.1 h
  cases h
  exact .intro _ digits (Bcd.encodeHigh_clear hdigits) rfl

theorem Says.vfoOp (o : VfoOp) : ∃ command < 0xFA, b.Says command (b.vfoOp o) := by
  cases o
  case copy | exchange => exact ⟨0x07, by decide, .intro _ _ (by decide) rfl⟩
  case fromVfo => exact ⟨0x09, by decide, .intro _ _ (by decide) rfl⟩
  case toVfo => exact ⟨0x0A, by decide, .intro _ _ (by decide) rfl⟩
  case memClear => exact ⟨0x0B, by decide, .intro _ _ (by decide) rfl⟩
  case tune => exact ⟨0x1C, by decide, .intro _ _ (by decide) rfl⟩

theorem Says.readMeter {sub : UInt8} (h : sub < 0xFA) : b.Says 0x15 (b.readMeter sub) :=
  .read (t := .meter sub) (clear_singleton.2 h)

theorem Says.readClockItem {high low : UInt8} (hhigh : high < 0xFA) (hlow : low < 0xFA) :
    b.Says 0x1A (b.readClockItem (.clockItem high low)) := by
  have hmenu : Clear [0x05] := by decide
  have hitem : Clear [high, low] := .append (clear_singleton.2 hhigh) (clear_singleton.2 hlow)
  exact .read (t := .clockItem high low) (hmenu.append hitem)

/-- No builder uses a command or a payload that the bus keeps for itself. -/
theorem Built.says (h : b.Built r) : ∃ command < 0xFA, b.Says command r := by
  cases h with
  | setFrequency h => exact ⟨_, by decide, .setFrequency h⟩
  | setMode => exact ⟨_, by decide, .setMode⟩
  | setDataMode => exact ⟨_, by decide, .setDataMode⟩
  | selectVfo h => exact Says.selectVfo h
  | vfoMode => exact ⟨_, by decide, .intro _ [] (by decide) rfl⟩
  | selectMemory h => exact ⟨_, by decide, .selectMemory h⟩
  | vfoOp o => exact Says.vfoOp o
  | scan => exact ⟨_, by decide, .scan⟩
  | setSplit => exact ⟨_, by decide, .setSplit⟩
  | setAttenuator h => exact ⟨_, by decide, .setAttenuator h⟩
  | setPreamp h => exact ⟨_, by decide, .setPreamp h⟩
  | setRfPower h => exact ⟨_, by decide, .setRfPower h⟩
  | setPtt => exact ⟨_, by decide, .setPtt⟩
  | setClock h hr => exact ⟨_, by decide, .setClock h hr⟩
  | readMeter h => exact ⟨_, by decide, .readMeter h⟩
  | readClockItem hhigh hlow => exact ⟨_, by decide, .readClockItem hhigh hlow⟩
  | readFrequency | readMode | readDataMode | readSplit | readAttenuator | readPreamp
  | readRfPower | readPtt => exact ⟨_, by decide, .read (by decide)⟩

/-! ## Lengths -/

/-- A packed decimal takes as many bytes as its field has. -/
theorem length_packed {o : Bcd.ByteOrder} {v n : Nat} {digits : List UInt8}
    (h : o.encode v n = .ok digits) (front : List UInt8) (hn : front.length + Bcd.byteCount n ≤ 58) :
    (b.frame command (front ++ digits)).length ≤ maxFrame := by
  rw [length_frame, List.length_append, Bcd.ByteOrder.length_of_encode h]
  exact Nat.add_le_add_right hn 6

theorem length_setClock {t : ClockTime} {requests : List Request} (h : b.setClock t = .ok requests)
    (hr : r ∈ requests) : r.frame.length ≤ maxFrame := by
  obtain ⟨-, -, h⟩ := Outcome.bind_eq_ok.1 h
  obtain ⟨date, hdate, h⟩ := Outcome.bind_eq_ok.1 h
  obtain ⟨time, htime, h⟩ := Outcome.bind_eq_ok.1 h
  obtain ⟨zone, hzone, h⟩ := Outcome.bind_eq_ok.1 h
  cases h
  have hdate := length_mapM_encodeByte hdate
  have htime := length_mapM_encodeByte htime
  have hzone := length_mapM_encodeByte hzone
  simp only [List.length_cons, List.length_nil] at hdate htime hzone
  simp only [List.mem_cons, List.not_mem_nil, or_false] at hr
  rcases hr with rfl | rfl | rfl
  all_goals
    show (b.frame _ _).length ≤ 64
    simp only [length_frame, List.length_append, List.length_cons, List.length_nil,
      Topic.clockDate, Topic.clockTime, Topic.clockOffset, Topic.clockItem]
    omega

/-- The longest frame, that of a date, has 13 bytes; a reader takes up to 64. -/
theorem Built.length_le (h : b.Built r) : r.frame.length ≤ maxFrame := by
  cases h with
  | setFrequency h =>
    obtain ⟨digits, hdigits, h⟩ := Outcome.bind_eq_ok.1 h
    cases h
    exact length_packed (o := .low) hdigits [] (by decide)
  | selectMemory h =>
    obtain ⟨digits, hdigits, h⟩ := Outcome.bind_eq_ok.1 h
    cases h
    exact length_packed (o := .high) hdigits [] (by decide)
  | setRfPower h =>
    obtain ⟨digits, hdigits, h⟩ := Outcome.bind_eq_ok.1 h
    cases h
    exact length_packed (o := .high) hdigits [0x0A] (by decide)
  | setAttenuator h =>
    obtain ⟨byte, -, h⟩ := Outcome.bind_eq_ok.1 h
    cases h
    exact Nat.le_of_ble_eq_true rfl
  | @selectVfo v _ h => cases v <;> cases h <;> exact Nat.le_of_ble_eq_true rfl
  | setClock h hr => exact length_setClock h hr
  | setMode m slot => cases slot <;> exact Nat.le_of_ble_eq_true rfl
  | setDataMode on slot => cases on <;> exact Nat.le_of_ble_eq_true rfl
  | vfoOp o => cases o <;> exact Nat.le_of_ble_eq_true rfl
  | scan o => cases o <;> exact Nat.le_of_ble_eq_true rfl
  | readFrequency | readMode | readDataMode | vfoMode | readSplit | setSplit | readAttenuator
  | readPreamp | setPreamp | readRfPower | readMeter | readPtt | setPtt | readClockItem =>
    exact Nat.le_of_ble_eq_true rfl

/-! ## Frames -/

/-- **Every request is a frame of its own.** With addresses below 0xF0, whatever a builder yields has
the preamble, the addresses, a command, a payload and the terminator, within the longest frame that is
read, and nothing else in it belongs to the bus. Reading the frame gives back what it was built from, and
a reader of a stream that begins with it stops at its end, in whatever chunks the stream comes, and leaves
the rest. -/
theorem requests_framed (hrig : b.rig < 0xF0) (hcontroller : b.controller < 0xF0) (h : b.Built r) :
    ∃ command payload,
      r.frame = [preamble, preamble, b.rig, b.controller] ++ command :: payload ++ [terminator] ∧
      r.frame.length ≤ maxFrame ∧ Clear (b.rig :: b.controller :: command :: payload) ∧
      Frame.decode r.frame = .ok ⟨b.rig, b.controller, command, payload⟩ ∧
      ∀ {σ : Type} [Link σ] {p : Port σ} {timeout limit : Nat} {chunks : List (List UInt8)} {l : σ}
        {rest : List UInt8}, Link.Arrives limit p.link chunks l → limit ≤ Link.now p.link + timeout →
        p.pending ++ chunks.flatten = r.frame ++ rest → ∃ q left,
          Port.read (.upTo terminator maxFrame) timeout p = (.ok r.frame, q) ∧
          Link.Arrives limit q.link left l ∧ q.pending ++ left.flatten = rest := by
  have hsound := sound_of_lt hrig hcontroller
  have hlength := h.length_le
  obtain ⟨command, hcommand, operation, payload, hpayload, rfl⟩ := h.says
  have hpreamble : b.rig ≠ preamble := by
    intro hb
    exact absurd (hb ▸ hrig) (by decide)
  have hshort : payload.length ≤ 58 := by
    have hlength : (b.frame command payload).length ≤ 64 := hlength
    rw [length_frame] at hlength
    exact Nat.le_of_add_le_add_right hlength
  have hclear : Clear (b.rig :: b.controller :: command :: payload) := by
    have hbody : Clear (command :: payload) := List.forall_mem_cons.2 ⟨hcommand, hpayload⟩
    have hcontroller : b.controller < 0xFA := UInt8.lt_trans hcontroller (by decide)
    have hrig : b.rig < 0xFA := UInt8.lt_trans hrig (by decide)
    exact List.forall_mem_cons.2 ⟨hrig, List.forall_mem_cons.2 ⟨hcontroller, hbody⟩⟩
  refine ⟨command, payload, by simp [request, frame, Frame.encode], hlength, hclear, ?_, ?_⟩
  · have hcollision : collision ∉ b.rig :: b.controller :: command :: payload :=
      fun hmem => absurd (hclear collision hmem) (by decide)
    exact Frame.decode_of_heard (show Frame.Heard _ ([] ++ b.frame command payload) from
      Frame.heard_encode (by decide) hpreamble hcollision)
  · intro σ _ p timeout limit chunks l rest harrive htime hbytes
    obtain ⟨q, left, hread, hleft, -, hrest⟩ :=
      Port.read_block p.pacing (hsound.block hcommand hpayload hshort) harrive htime hbytes
    exact ⟨q, left, hread, hleft, hrest⟩

/-- A clock is set to an offset west of Greenwich. The last frame of three comes in two chunks, the
second of them with the start of another frame. -/
theorem requests_framed_clock :
    let link : TimedLink := { queue := [
      ⟨3, .ok [0xFE, 0xFE, 0x6A, 0xE0, 0x1A, 0x05, 0x00]⟩,
      ⟨4, .ok [0x62, 0x03, 0x30, 0x01, 0xFD, 0xFE, 0xFE]⟩] }
    (0x6A : UInt8) < 0xF0 ∧ (0xE0 : UInt8) < 0xF0 ∧ ∃ date time zone,
      setClock ⟨0x6A, 0xE0⟩ ⟨2026, 3, 29, 23, 59, 0, -330⟩ = .ok [date, time, zone] ∧
      zone.frame = [0xFE, 0xFE, 0x6A, 0xE0, 0x1A, 0x05, 0x00, 0x62, 0x03, 0x30, 0x01, 0xFD] ∧
      (Port.read (.upTo terminator maxFrame) 9 ⟨link, [], {}⟩).1 = .ok zone.frame := by
  intro link
  have hrig : (0x6A : UInt8) < 0xF0 := by decide
  have hcontroller : (0xE0 : UInt8) < 0xF0 := by decide
  obtain ⟨date, time, zone, hset, hzone⟩ : ∃ date time zone,
      setClock ⟨0x6A, 0xE0⟩ ⟨2026, 3, 29, 23, 59, 0, -330⟩ = .ok [date, time, zone] ∧
      zone.frame = [0xFE, 0xFE, 0x6A, 0xE0, 0x1A, 0x05, 0x00, 0x62, 0x03, 0x30, 0x01, 0xFD] :=
    ⟨_, _, _, rfl, rfl⟩
  have hbuilt : Built ⟨0x6A, 0xE0⟩ zone := .setClock hset (by simp)
  obtain ⟨_, _, -, -, -, -, hframed⟩ := requests_framed hrig hcontroller hbuilt
  have harrive : Link.Arrives 9 link _ _ := TimedLink.arrives
    [(3, [0xFE, 0xFE, 0x6A, 0xE0, 0x1A, 0x05, 0x00]), (4, [0x62, 0x03, 0x30, 0x01, 0xFD, 0xFE, 0xFE])] []
    rfl (by decide) (by decide)
  have hbytes : [] ++ [[0xFE, 0xFE, 0x6A, 0xE0, 0x1A, 0x05, 0x00],
      [0x62, 0x03, 0x30, 0x01, 0xFD, 0xFE, 0xFE]].flatten = zone.frame ++ [0xFE, 0xFE] := by
    rw [hzone]
    rfl
  have htime : 9 ≤ Link.now link + 9 := Nat.le_refl 9
  obtain ⟨_, _, hread, -⟩ := hframed (p := ⟨link, [], {}⟩) harrive htime hbytes
  exact ⟨hrig, hcontroller, date, time, zone, hset, hzone, congrArg Prod.fst hread⟩

end Bus

end RigControl.Civ
