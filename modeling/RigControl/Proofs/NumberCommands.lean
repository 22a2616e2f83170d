/-
Commands in text that carry numbers. Such a command can be built if each number has no more digits than
places, and the numbers are read again as what they were. A newer Yaesu rig names the VFO in the mnemonic
and has one number behind it. The TM-D710 has a number for the band in front of the frequency, and may
have any fields behind it (`AsciiFrame.extend`), which are left alone.

So the frequency commands of both read back for every frequency up to their width
(`frequencies_read_back`).
-/
import RigControl.Newcat.Answer
import RigControl.Newcat.Command
import RigControl.Proofs.AsciiFrames
import RigControl.Tmd710.Command

namespace RigControl

variable {v : Vfo} {r : Request} {e : Error} {hz : Nat}

/-! ## Fields behind a command -/

namespace AsciiFrame

variable {f : AsciiFrame} {mnemonic : String}

/-- The frame with further fields in front of its terminator. -/
def extend (f : AsciiFrame) (frame : List UInt8) (further : List (List Char)) : List UInt8 :=
  frame.dropLast ++ Text.utf8 (f.spread further) ++ [f.terminator]

theorem extend_commandText (hf : f.Ascii) {texts further : List (List Char)} :
    f.extend (Text.utf8 (f.commandText mnemonic (f.spread texts))) further =
      Text.utf8 (f.commandText mnemonic (f.spread (texts ++ further))) := by
  have hspread : f.spread (texts ++ further) = f.spread texts ++ f.spread further := by
    simp [spread]
  rw [extend, utf8_commandText hf, utf8_commandText hf, List.dropLast_concat, hspread,
    Text.utf8_append, List.append_assoc (Text.utf8 mnemonic.toList)]

theorem extend_nil (hf : f.Ascii) {texts : List (List Char)} {frame : List UInt8}
    (hframe : frame = Text.utf8 (f.commandText mnemonic (f.spread texts))) : f.extend frame [] = frame := by
  rw [hframe, extend_commandText hf, List.append_nil]

end AsciiFrame

/-! ## Newer Yaesu rigs -/

namespace Newcat

variable {operation mnemonic : String} {body : List Char} {n width : Nat}

/-- A command with a number is its mnemonic, the number with zeros in front, and a semicolon. -/
theorem command_num_eq_ok : command operation mnemonic [.num n width] = .ok r ↔
    (0 < width ∧ n < Nat.pow 10 width) ∧ r = {
      operation := operation
      frame := Text.utf8 (AsciiFrame.semicolon.commandText mnemonic (Text.zeroPadded width n)) } := by
  have hspread : AsciiFrame.semicolon.spread [Text.zeroPadded width n] = Text.zeroPadded width n :=
    List.append_nil _
  have hbuild : ∀ frame, AsciiFrame.semicolon.build mnemonic [.num n width] = .ok frame ↔
      (0 < width ∧ n < Nat.pow 10 width) ∧ frame =
        Text.utf8 (AsciiFrame.semicolon.commandText mnemonic (Text.zeroPadded width n)) := by
    intro frame
    rw [AsciiFrame.build_eq_ok AsciiFrame.semicolon_ascii, List.forall_mem_singleton]
    exact and_congr_right fun _ => by rw [← hspread]; rfl
  rw [command, Outcome.bind_eq_ok]
  constructor
  · rintro ⟨frame, hframe, h⟩
    obtain ⟨hfits, rfl⟩ := (hbuild frame).1 hframe
    exact ⟨hfits, (Outcome.pure_eq_ok.1 h).symm⟩
  · rintro ⟨hfits, rfl⟩
    exact ⟨_, (hbuild _).2 ⟨hfits, rfl⟩, rfl⟩

/-- The value in a command with digits is the digits, as no complaint of the rig ends in one. -/
theorem value_digits (h : Text.Digits body) :
    value mnemonic (Text.utf8 (AsciiFrame.semicolon.commandText mnemonic body)) = .ok body := by
  have hcomplaint : Text.utf8 (AsciiFrame.semicolon.commandText mnemonic body) ≠ Text.utf8 ['?', ';'] := by
    intro heq
    have htext : mnemonic.toList ++ body = ['?'] := by
      have hended : mnemonic.toList ++ body ++ [';'] = ['?'] ++ [';'] := Text.utf8_injective heq
      exact List.append_cancel_right hended
    have hlast := congrArg List.getLast? htext
    rw [List.getLast?_append, List.getLast?_eq_some_getLast h.ne_nil] at hlast
    have hdigit := h.digit _ (List.getLast_mem h.ne_nil)
    rw [Option.some.inj hlast] at hdigit
    exact absurd hdigit (by decide)
  rw [value, if_neg hcomplaint, AsciiFrame.parse_self]
  rfl

/-- Nine digits are read as a frequency. -/
theorem parseFrequency_zeroPadded (h : hz < Nat.pow 10 9) :
    parseFrequency (Text.zeroPadded 9 hz) = .ok hz := by
  have hbound : Nat.pow 10 9 < UInt64.size := by decide
  have hsize : (Text.utf8 (Text.zeroPadded 9 hz)).length = 9 := by
    rw [Text.length_utf8_of_ascii, Text.length_zeroPadded (by decide) h]
    exact fun c hc => Text.ascii_of_isDigit (Text.zeroPadded_digits.digit c hc)
  rw [parseFrequency, if_neg (by simp [hsize]), Text.parseDecimal_zeroPadded (Nat.lt_trans h hbound)]

/-- One digit is read as the place of a selector. -/
theorem parseIndex_zeroPadded {index : UInt8} (h : index.toNat < 10) :
    parseIndex (Text.zeroPadded 1 index.toNat) = .ok index := by
  have hsize : (Text.utf8 (Text.zeroPadded 1 index.toNat)).length = 1 := by
    rw [Text.length_utf8_of_ascii, Text.length_zeroPadded Nat.one_pos h]
    exact fun c hc => Text.ascii_of_isDigit (Text.zeroPadded_digits.digit c hc)
  have hdecimal : Text.parseDecimal (Text.zeroPadded 1 index.toNat) = .ok index.toNat :=
    Text.parseDecimal_zeroPadded (Nat.lt_trans h (by decide))
  simp [parseIndex, hsize, hdecimal, byte, index.toNat_lt]

/-- The frame that tunes. -/
theorem setFrequency_eq_ok : setFrequency v hz = .ok r ↔
    ∃ mnemonic, frequencyMnemonic v = .ok mnemonic ∧ hz < Nat.pow 10 9 ∧ r = Request.about {
      operation := "set_freq"
      frame := Text.utf8 (AsciiFrame.semicolon.commandText mnemonic (Text.zeroPadded 9 hz)) } v := by
  rw [setFrequency, Outcome.bind_eq_ok]
  refine exists_congr fun mnemonic => and_congr_right fun _ => ?_
  rw [Outcome.bind_eq_ok]
  constructor
  · rintro ⟨r', hr, h⟩
    obtain ⟨⟨-, hlt⟩, rfl⟩ := command_num_eq_ok.1 hr
    exact ⟨hlt, (Outcome.pure_eq_ok.1 h).symm⟩
  · rintro ⟨hlt, rfl⟩
    exact ⟨_, command_num_eq_ok.2 ⟨⟨by decide, hlt⟩, rfl⟩, rfl⟩

theorem setFrequency_error (h : setFrequency v hz = .error e) : ∃ detail, e = .invalidParameter detail := by
  rcases Outcome.bind_eq_error.1 h with h | ⟨mnemonic, -, h⟩
  · cases v <;> cases h
    all_goals exact ⟨_, rfl⟩
  · rcases Outcome.bind_eq_error.1 h with h | ⟨r, -, h⟩
    · rcases Outcome.bind_eq_error.1 h with h | ⟨frame, -, h⟩
      · exact AsciiFrame.build_error h
      · cases h
    · cases h

end Newcat

/-! ## TM-D710 -/

namespace Tmd710

/-- A command is its mnemonic, its fields with a blank in front of each, and a carriage return. -/
theorem command_eq_ok {operation mnemonic : String} {fields : List Field} :
    command operation mnemonic fields = .ok r ↔ (∀ x ∈ fields, AsciiFrame.crSpaced.Fits x) ∧
      r = {
        operation := operation
        reply := reply
        frame := Text.utf8 (AsciiFrame.crSpaced.commandText mnemonic
          (AsciiFrame.crSpaced.spread (fields.map Field.shown))) } := by
  rw [command, Outcome.bind_eq_ok]
  constructor
  · rintro ⟨frame, hframe, h⟩
    obtain ⟨hfits, rfl⟩ := (AsciiFrame.build_eq_ok AsciiFrame.crSpaced_ascii).1 hframe
    exact ⟨hfits, (Outcome.pure_eq_ok.1 h).symm⟩
  · rintro ⟨hfits, rfl⟩
    exact ⟨_, (AsciiFrame.build_eq_ok AsciiFrame.crSpaced_ascii).2 ⟨hfits, rfl⟩, rfl⟩

/-- The number of a band has one digit, and reads back. -/
theorem band_ok {n : Nat} (h : band v = .ok n) :
    n < Nat.pow 10 1 ∧ bandField (Text.zeroPadded 1 n) = .ok v := by
  have hn : n < 2 ∧ vfoOfBand n = .ok v := by
    cases v <;> cases h <;> exact ⟨by decide, rfl⟩
  have hlt : 2 < UInt64.size := by decide
  refine ⟨Nat.lt_of_lt_of_le hn.1 (by decide), ?_⟩
  refine Outcome.bind_eq_ok.2 ⟨n, Text.parseDecimal_zeroPadded (by omega), ?_⟩
  rw [if_pos (by omega), hn.2]

theorem band_eq_ok : (∃ n, band v = .ok n) ↔ v = .a ∨ v = .b := by
  cases v <;> simp [band]

theorem zeroPadded_clear {width n : Nat} : ' ' ∉ Text.zeroPadded width n :=
  Text.zeroPadded_digits.notMem rfl

/-- What reads as a frequency is no complaint of the rig. -/
theorem fields_of_crSpaced {frame : List UInt8} {texts : List (List Char)}
    (h : AsciiFrame.crSpaced.fields "FO" frame = .ok texts) : fields "FO" frame = .ok texts := by
  have hother : ∀ other : String, AsciiFrame.dropFirst? "FO".toList (other.toList ++ []) = none →
      frame ≠ Text.utf8 (AsciiFrame.crSpaced.commandText other []) := by
    rintro other hne rfl
    obtain ⟨e, he⟩ := AsciiFrame.fields_other (f := .crSpaced) hne
    cases he.symm.trans h
  have hquestion : frame ≠ Text.utf8 ['?', '\r'] := hother "?" rfl
  have hrefusal : frame ≠ Text.utf8 ['N', '\r'] := hother "N" rfl
  rw [fields, if_neg hquestion, if_neg hrefusal, h]

/-- The frame that tunes. -/
theorem setFrequency_eq_ok : setFrequency v hz = .ok r ↔
    ∃ n, band v = .ok n ∧ hz < Nat.pow 10 10 ∧ r = Request.about {
      operation := "set_freq"
      reply := reply
      frame := Text.utf8 (AsciiFrame.crSpaced.commandText "FO"
        (AsciiFrame.crSpaced.spread [Text.zeroPadded 1 n, Text.zeroPadded 10 hz])) } v := by
  rw [setFrequency, Outcome.bind_eq_ok]
  refine exists_congr fun n => and_congr_right fun hn => ?_
  rw [Outcome.bind_eq_ok]
  constructor
  · rintro ⟨r', hr, h⟩
    obtain ⟨hfits, rfl⟩ := command_eq_ok.1 hr
    exact ⟨(hfits (.num hz 10) (by simp)).2, (Outcome.pure_eq_ok.1 h).symm⟩
  · rintro ⟨hlt, rfl⟩
    refine ⟨_, command_eq_ok.2 ⟨?_, rfl⟩, rfl⟩
    rw [List.forall_mem_cons, List.forall_mem_singleton]
    exact ⟨⟨by decide, (band_ok hn).1⟩, by decide, hlt⟩

theorem setFrequency_error (h : setFrequency v hz = .error e) : ∃ detail, e = .invalidParameter detail := by
  rcases Outcome.bind_eq_error.1 h with h | ⟨n, -, h⟩
  · cases v <;> cases h
    all_goals exact ⟨_, rfl⟩
  · rcases Outcome.bind_eq_error.1 h with h | ⟨r, -, h⟩
    · rcases Outcome.bind_eq_error.1 h with h | ⟨frame, -, h⟩
      · exact AsciiFrame.build_error h
      · cases h
    · cases h

/-- The fields of the frame that tunes, with any others behind them. -/
theorem fields_setFrequency (further : List (List Char)) (h : setFrequency v hz = .ok r) :
    ∃ number field rest, AsciiFrame.crSpaced.fields "FO" (AsciiFrame.crSpaced.extend r.frame further) =
      .ok (number :: field :: rest) ∧ bandField number = .ok v ∧ Text.parseDecimal field = .ok hz := by
  obtain ⟨n, hn, hlt, hr⟩ := setFrequency_eq_ok.1 h
  have hframe := congrArg Request.frame hr
  have hbound : Nat.pow 10 10 < UInt64.size := by decide
  have hclear : ∀ x ∈ [Text.zeroPadded 1 n, Text.zeroPadded 10 hz], ' ' ∉ x := by
    rw [List.forall_mem_cons, List.forall_mem_singleton]
    exact ⟨zeroPadded_clear, zeroPadded_clear⟩
  have hsep : AsciiFrame.crSpaced.separator = some 0x20 := rfl
  obtain ⟨rest, hfields, -⟩ := AsciiFrame.fields_append further hsep hclear
  refine ⟨Text.zeroPadded 1 n, Text.zeroPadded 10 hz, rest, ?_, (band_ok hn).2,
    Text.parseDecimal_zeroPadded (Nat.lt_trans hlt hbound)⟩
  rw [hframe, Request.about, AsciiFrame.extend_commandText AsciiFrame.crSpaced_ascii, List.cons_append,
    hfields, List.cons_append, List.nil_append]

theorem extend_setFrequency (h : setFrequency v hz = .ok r) :
    AsciiFrame.crSpaced.extend r.frame [] = r.frame := by
  obtain ⟨n, -, -, hr⟩ := setFrequency_eq_ok.1 h
  have hframe := congrArg Request.frame hr
  simp only [Request.about] at hframe
  exact AsciiFrame.extend_nil AsciiFrame.crSpaced_ascii hframe

/-- **The frame that tunes reads back**, with any fields behind it. -/
theorem parseFrequency_setFrequency (further : List (List Char)) (h : setFrequency v hz = .ok r) :
    parseFrequency (AsciiFrame.crSpaced.extend r.frame further) = .ok (v, hz) := by
  obtain ⟨number, field, rest, hfields, hnumber, hdecimal⟩ := fields_setFrequency further h
  refine Outcome.bind_eq_ok.2 ⟨_, fields_of_crSpaced hfields, ?_⟩
  simp [hnumber, hdecimal]

end Tmd710

/-! ## Frequencies -/

/-- A command that sets the frequency of the VFOs that it has a name for, below a limit, and a way to read
it. -/
structure SetsFrequency (build : Vfo → Nat → Outcome Request) (Named : Vfo → Prop) (limit : Nat)
    (Reads : Vfo → Nat → List UInt8 → Prop) : Prop where
  built : ∀ v hz, (∃ r, build v hz = .ok r) ↔ Named v ∧ hz < limit
  refused : ∀ v hz, ¬ (Named v ∧ hz < limit) →
    ∃ detail, build v hz = .error (.invalidParameter detail)
  reads : ∀ v hz r, build v hz = .ok r → Reads v hz r.frame

theorem SetsFrequency.of_built {build : Vfo → Nat → Outcome Request} {Named : Vfo → Prop} {limit : Nat}
    {Reads : Vfo → Nat → List UInt8 → Prop}
    (hbuilt : ∀ v hz, (∃ r, build v hz = .ok r) ↔ Named v ∧ hz < limit)
    (herror : ∀ v hz e, build v hz = .error e → ∃ detail, e = .invalidParameter detail)
    (hreads : ∀ v hz r, build v hz = .ok r → Reads v hz r.frame) :
    SetsFrequency build Named limit Reads where
  built := hbuilt
  refused v hz h := by
    cases hbuild : build v hz with
    | ok r => exact absurd ((hbuilt v hz).1 ⟨r, hbuild⟩) h
    | error e =>
      obtain ⟨detail, rfl⟩ := herror v hz e hbuild
      exact ⟨detail, rfl⟩
  reads := hreads

theorem Newcat.setFrequency_sets :
    SetsFrequency setFrequency (fun v => ∃ mnemonic, frequencyMnemonic v = .ok mnemonic) (Nat.pow 10 9)
      fun v hz frame => ∃ mnemonic, frequencyMnemonic v = .ok mnemonic ∧
        (value mnemonic frame >>= parseFrequency) = .ok hz := by
  refine .of_built (fun v hz => ?_) (fun v hz e => setFrequency_error) fun v hz r h => ?_
  · constructor
    · rintro ⟨r, h⟩
      obtain ⟨mnemonic, hm, hlt, -⟩ := setFrequency_eq_ok.1 h
      exact ⟨⟨mnemonic, hm⟩, hlt⟩
    · rintro ⟨⟨mnemonic, hm⟩, hlt⟩
      exact Exists.intro _ (setFrequency_eq_ok.2 ⟨mnemonic, hm, hlt, rfl⟩)
  · obtain ⟨mnemonic, hm, hlt, rfl⟩ := setFrequency_eq_ok.1 h
    refine ⟨mnemonic, hm, ?_⟩
    show (value mnemonic (Text.utf8 _) >>= parseFrequency) = _
    rw [value_digits Text.zeroPadded_digits, Outcome.ok_bind]
    exact parseFrequency_zeroPadded hlt

theorem Tmd710.setFrequency_sets :
    SetsFrequency setFrequency (fun v => ∃ n, band v = .ok n) (Nat.pow 10 10)
      fun v hz frame => parseFrequency frame = .ok (v, hz) ∧
        ∀ further, parseFrequency (AsciiFrame.crSpaced.extend frame further) = .ok (v, hz) := by
  refine .of_built (fun v hz => ?_) (fun v hz e => setFrequency_error) fun v hz r h => ?_
  · constructor
    · rintro ⟨r, h⟩
      obtain ⟨n, hn, hlt, -⟩ := setFrequency_eq_ok.1 h
      exact ⟨⟨n, hn⟩, hlt⟩
    · rintro ⟨⟨n, hn⟩, hlt⟩
      exact Exists.intro _ (setFrequency_eq_ok.2 ⟨n, hn, hlt, rfl⟩)
  · have hread := parseFrequency_setFrequency [] h
    rw [extend_setFrequency h] at hread
    exact ⟨hread, fun further => parseFrequency_setFrequency further h⟩

/-- **Frequency commands in text read back.** They can be built for the VFOs that have a mnemonic or a band
and for the frequencies that have room, and anything else is an invalid parameter. What was built is read
as the frequency that was set, on the TM-D710 with its VFO and with any fields behind them. -/
theorem frequencies_read_back :
    SetsFrequency Newcat.setFrequency (fun v => ∃ mnemonic, Newcat.frequencyMnemonic v = .ok mnemonic)
      (Nat.pow 10 9) (fun v hz frame => ∃ mnemonic, Newcat.frequencyMnemonic v = .ok mnemonic ∧
        (Newcat.value mnemonic frame >>= Newcat.parseFrequency) = .ok hz) ∧
    SetsFrequency Tmd710.setFrequency (fun v => ∃ n, Tmd710.band v = .ok n) (Nat.pow 10 10)
      (fun v hz frame => Tmd710.parseFrequency frame = .ok (v, hz) ∧
        ∀ further, Tmd710.parseFrequency (AsciiFrame.crSpaced.extend frame further) = .ok (v, hz)) ∧
    ∀ v, (∃ n, Tmd710.band v = .ok n) ↔ v = .a ∨ v = .b :=
  ⟨Newcat.setFrequency_sets, Tmd710.setFrequency_sets, fun _ => Tmd710.band_eq_ok⟩

/-- The fields of a memory behind the frequency, one of them empty, make no difference. -/
theorem frequencies_read_back_memory : ∃ r, Tmd710.setFrequency .b 435000000 = .ok r ∧
    Tmd710.parseFrequency (AsciiFrame.crSpaced.extend r.frame [['0'], [], "7.5 k".toList]) =
      .ok (.b, 435000000) := by
  obtain ⟨-, hsets, hband⟩ := frequencies_read_back
  obtain ⟨r, hr⟩ := (hsets.built .b 435000000).2 ⟨(hband .b).2 (.inr rfl), by decide⟩
  exact ⟨r, hr, (hsets.reads .b 435000000 r hr).2 _⟩

end RigControl
