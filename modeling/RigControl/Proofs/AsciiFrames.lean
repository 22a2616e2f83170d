/-
Commands in text read back. A command that was built is the text of its mnemonic, its fields and its
terminator, and parsing gives the fields again.
-/
import RigControl.Frame.Ascii
import RigControl.Proofs.Numerals

namespace RigControl

open Text

/-- The text of a field: its own, or that of the number with zeros in front. -/
def Field.shown : Field → List Char
  | num value width => zeroPadded width value
  | text s => s

namespace AsciiFrame

variable {f : AsciiFrame} {mnemonic : String}

/-- The characters around the fields are ASCII, so that each is its own byte. -/
structure Ascii (f : AsciiFrame) : Prop where
  terminator : utf8 [charOf f.terminator] = [f.terminator]
  separator : ∀ sep ∈ f.separator, utf8 [charOf sep] = [sep]

theorem semicolon_ascii : semicolon.Ascii := ⟨rfl, nofun⟩

theorem cr_ascii : cr.Ascii := ⟨rfl, nofun⟩

theorem crSpaced_ascii : crSpaced.Ascii := ⟨rfl, fun sep h => by cases h; rfl⟩

/-- The field can be written: the number has no more digits than places, the text no terminator. -/
def Fits (f : AsciiFrame) : Field → Prop
  | .num value width => 0 < width ∧ value < Nat.pow 10 width
  | .text s => f.terminator ∉ utf8 s

/-- Fields, each with the separator in front. -/
def spread (f : AsciiFrame) (texts : List (List Char)) : List Char :=
  texts.flatMap fun s => (f.separator.map charOf).toList ++ s

def commandText (f : AsciiFrame) (mnemonic : String) (body : List Char) : List Char :=
  mnemonic.toList ++ body ++ [charOf f.terminator]

/-! ## Building -/

theorem fieldBytes_eq_ok {x : Field} {bytes : List UInt8} :
    f.fieldBytes x = .ok bytes ↔ f.Fits x ∧ bytes = utf8 x.shown := by
  cases x with
  | num value width =>
    rw [fieldBytes, Outcome.map_eq_ok]
    constructor
    · rintro ⟨s, hs, rfl⟩
      have hlt := lt_of_decimalField hs
      obtain ⟨rfl, hwidth⟩ := decimalField_ok hs
      have hdigits : Digits (zeroPadded width value) := zeroPadded_digits
      have hpos := List.length_pos_iff.2 hdigits.ne_nil
      exact ⟨⟨by omega, hlt⟩, rfl⟩
    · rintro ⟨⟨hpos, hlt⟩, rfl⟩
      exact ⟨_, decimalField_of_lt hpos hlt, rfl⟩
  | text s =>
    rw [fieldBytes]
    split
    · rename_i hmem
      exact ⟨nofun, fun h => absurd hmem h.1⟩
    · rename_i hmem
      exact ⟨fun h => ⟨hmem, (Except.ok.inj h).symm⟩, fun h => by rw [h.2]; rfl⟩

theorem fieldsBytes_eq_ok (hf : f.Ascii) {xs : List Field} {bytes : List UInt8} :
    f.fieldsBytes xs = .ok bytes ↔
      (∀ x ∈ xs, f.Fits x) ∧ bytes = utf8 (f.spread (xs.map Field.shown)) := by
  induction xs generalizing bytes with
  | nil => exact ⟨fun h => ⟨nofun, (Except.ok.inj h).symm⟩, fun h => by rw [h.2]; rfl⟩
  | cons x xs ih =>
    have hsep : utf8 (f.separator.map charOf).toList = f.separator.toList := by
      cases hsep : f.separator with
      | none => rfl
      | some sep => exact hf.separator sep hsep
    have hspread : utf8 (f.spread ((x :: xs).map Field.shown)) =
        f.separator.toList ++ utf8 x.shown ++ utf8 (f.spread (xs.map Field.shown)) := by
      show utf8 ((f.separator.map charOf).toList ++ x.shown ++ f.spread (xs.map Field.shown)) = _
      rw [utf8_append, utf8_append, hsep]
    rw [hspread, List.forall_mem_cons, fieldsBytes, Outcome.bind_eq_ok]
    constructor
    · rintro ⟨first, hfirst, h⟩
      obtain ⟨others, hothers, h⟩ := Outcome.bind_eq_ok.1 h
      obtain ⟨hx, rfl⟩ := fieldBytes_eq_ok.1 hfirst
      obtain ⟨hxs, rfl⟩ := ih.1 hothers
      exact ⟨⟨hx, hxs⟩, (Outcome.pure_eq_ok.1 h).symm⟩
    · rintro ⟨⟨hx, hxs⟩, rfl⟩
      exact ⟨_, fieldBytes_eq_ok.2 ⟨hx, rfl⟩, Outcome.bind_eq_ok.2 ⟨_, ih.2 ⟨hxs, rfl⟩, rfl⟩⟩

theorem utf8_commandText (hf : f.Ascii) {body : List Char} :
    utf8 (f.commandText mnemonic body) = utf8 mnemonic.toList ++ utf8 body ++ [f.terminator] := by
  rw [commandText, utf8_append, utf8_append, hf.terminator]

/-- **A command is the text** of its mnemonic, its fields and its terminator, if the fields fit. -/
theorem build_eq_ok (hf : f.Ascii) {xs : List Field} {frame : List UInt8} :
    f.build mnemonic xs = .ok frame ↔ (∀ x ∈ xs, f.Fits x) ∧
      frame = utf8 (f.commandText mnemonic (f.spread (xs.map Field.shown))) := by
  rw [utf8_commandText hf, build, Outcome.bind_eq_ok]
  constructor
  · rintro ⟨body, hbody, h⟩
    obtain ⟨hfits, rfl⟩ := (fieldsBytes_eq_ok hf).1 hbody
    exact ⟨hfits, (Outcome.pure_eq_ok.1 h).symm⟩
  · rintro ⟨hfits, rfl⟩
    exact ⟨_, (fieldsBytes_eq_ok hf).2 ⟨hfits, rfl⟩, rfl⟩

theorem fieldBytes_error {x : Field} {e : Error} (h : f.fieldBytes x = .error e) :
    ∃ detail, e = .invalidParameter detail := by
  cases x with
  | num value width =>
    rw [fieldBytes, Outcome.map_eq_error] at h
    exact ⟨_, decimalField_error h⟩
  | text s =>
    rw [fieldBytes] at h
    split at h
    · cases h
      exact ⟨_, rfl⟩
    · cases h

/-- What does not fit is an invalid parameter. -/
theorem build_error {xs : List Field} {e : Error} (h : f.build mnemonic xs = .error e) :
    ∃ detail, e = .invalidParameter detail := by
  have hbody : ∀ {xs}, f.fieldsBytes xs = .error e → ∃ detail, e = .invalidParameter detail := by
    intro xs h
    induction xs with
    | nil => cases h
    | cons x xs ih =>
      rcases Outcome.bind_eq_error.1 h with h | ⟨first, -, h⟩
      · exact fieldBytes_error h
      · rcases Outcome.bind_eq_error.1 h with h | ⟨others, -, h⟩
        · exact ih h
        · cases h
  rcases Outcome.bind_eq_error.1 h with h | ⟨body, -, h⟩
  · exact hbody h
  · cases h

theorem query_eq (hf : f.Ascii) : f.query mnemonic = utf8 (f.commandText mnemonic []) := by
  rw [query, commandText, List.append_nil, utf8_append, hf.terminator]

/-! ## Parsing -/

theorem dropLast?_append {c : Char} {s : List Char} : dropLast? c (s ++ [c]) = some s := by
  simp [dropLast?]

theorem dropFirst?_append {s t : List Char} : dropFirst? s (s ++ t) = some t := by
  induction s with
  | nil => rfl
  | cons c s ih => simp [dropFirst?, ih]

theorem dropLast?_eq_some {c : Char} {s t : List Char} : dropLast? c s = some t ↔ s = t ++ [c] := by
  constructor
  · intro h
    unfold dropLast? at h
    split at h
    · rename_i hlast
      cases h
      obtain ⟨init, rfl⟩ := List.getLast?_eq_some_iff.1 hlast
      simp
    · cases h
  · intro h
    rw [h, dropLast?_append]

theorem dropFirst?_eq_some {s t u : List Char} : dropFirst? s t = some u ↔ t = s ++ u := by
  constructor
  · intro h
    induction s generalizing t with
    | nil =>
      cases h
      rfl
    | cons c s ih =>
      cases t with
      | nil => cases h
      | cons x t =>
        by_cases hx : c = x
        · simp only [dropFirst?, hx, if_true] at h
          rw [ih h, hx, List.cons_append]
        · simp [dropFirst?, hx] at h
  · intro h
    rw [h, dropFirst?_append]

/-- The body of a command without the separator in front. -/
def strip (f : AsciiFrame) (body : List Char) : List Char :=
  match f.separator with
  | none => body
  | some sep => (dropFirst? [charOf sep] body).getD body

/-- Parsing takes a mnemonic and a terminator off, or reports an error. -/
theorem parse_commandText {other : String} {body : List Char} :
    f.parse mnemonic (utf8 (f.commandText other body)) =
      match dropFirst? mnemonic.toList (other.toList ++ body) with
      | none => .error (.protocol
          s!"expected {mnemonic} reply, got {Text.quoted (other.toList ++ body)}")
      | some body => .ok (f.strip body) := by
  rw [parse, ofUtf8?_utf8, commandText]
  dsimp only
  rw [dropLast?_append]
  dsimp only
  cases dropFirst? mnemonic.toList (other.toList ++ body) with
  | none => rfl
  | some body =>
    unfold strip
    cases f.separator <;> rfl

/-- **A command reads back.** -/
theorem parse_self {body : List Char} :
    f.parse mnemonic (utf8 (f.commandText mnemonic body)) = .ok (f.strip body) := by
  rw [parse_commandText, dropFirst?_append]

/-- **What is parsed is a command** of the mnemonic. -/
theorem parse_ok {reply : List UInt8} {s : List Char} :
    f.parse mnemonic reply = .ok s ↔
      ∃ body, reply = utf8 (f.commandText mnemonic body) ∧ f.strip body = s := by
  constructor
  · intro h
    have hparsed := h
    unfold parse at h
    split at h
    · cases h
    · rename_i text htext
      split at h
      · cases h
      · rename_i front hfront
        split at h
        · cases h
        · rename_i body hbody
          have hreply : reply = utf8 (f.commandText mnemonic body) := by
            rw [ofUtf8?_eq_some.1 htext, dropLast?_eq_some.1 hfront, dropFirst?_eq_some.1 hbody]
            rfl
          rw [hreply, parse_self] at hparsed
          exact ⟨body, hreply, Except.ok.inj hparsed⟩
  · intro h
    obtain ⟨body, rfl, rfl⟩ := h
    exact parse_self

/-- The fields behind the first separator are the pieces between separators, whatever fields follow. -/
theorem pieces_spread {sep : UInt8} {s : List Char} {texts : List (List Char)}
    (further : List (List Char)) (hsep : f.separator = some sep)
    (h : ∀ x ∈ s :: texts, charOf sep ∉ x) :
    ∃ rest, pieces (charOf sep) (s ++ f.spread (texts ++ further)) = s :: (texts ++ rest) ∧
      (further = [] → rest = []) := by
  have hs : charOf sep ∉ s := h s List.mem_cons_self
  have hspread : ∀ x more, f.spread (x :: more) = charOf sep :: (x ++ f.spread more) := by
    intro x more
    simp [spread, hsep]
  induction texts generalizing s with
  | nil =>
    cases further with
    | nil =>
      have hnone : s ++ f.spread [] = s := List.append_nil s
      refine ⟨[], ?_, fun _ => rfl⟩
      rw [List.append_nil, hnone, pieces_of_notMem hs]
    | cons x further =>
      refine ⟨pieces (charOf sep) (x ++ f.spread further), ?_, nofun⟩
      rw [List.nil_append, hspread, pieces_append hs, List.nil_append]
  | cons x texts ih =>
    have hrest : ∀ y ∈ x :: texts, charOf sep ∉ y := fun y hy => h y (List.mem_cons_of_mem _ hy)
    obtain ⟨rest, hpieces, hnone⟩ := ih hrest (hrest x List.mem_cons_self)
    refine ⟨rest, ?_, hnone⟩
    rw [List.cons_append, hspread, pieces_append hs, hpieces, List.cons_append]

/-- The fields of a command come first among the ones that are read, if none holds the separator. -/
theorem fields_append {sep : UInt8} {s : List Char} {texts : List (List Char)}
    (further : List (List Char)) (hsep : f.separator = some sep)
    (h : ∀ x ∈ s :: texts, charOf sep ∉ x) :
    ∃ rest, f.fields mnemonic (utf8 (f.commandText mnemonic (f.spread (s :: (texts ++ further))))) =
      .ok (s :: (texts ++ rest)) ∧ (further = [] → rest = []) := by
  obtain ⟨rest, hpieces, hnone⟩ := pieces_spread further hsep h
  have hspread : f.spread (s :: (texts ++ further)) =
      [charOf sep] ++ (s ++ f.spread (texts ++ further)) := by
    simp [spread, hsep]
  have hstrip : f.strip (f.spread (s :: (texts ++ further))) = s ++ f.spread (texts ++ further) := by
    simp only [strip, hsep, hspread, dropFirst?_append, Option.getD_some]
  refine ⟨rest, ?_, hnone⟩
  rw [fields, parse_self, hstrip, hsep]
  exact congrArg Except.ok hpieces

/-- **The fields of a command read back** if none holds the separator. -/
theorem fields_self {sep : UInt8} {s : List Char} {texts : List (List Char)}
    (hsep : f.separator = some sep) (h : ∀ x ∈ s :: texts, charOf sep ∉ x) :
    f.fields mnemonic (utf8 (f.commandText mnemonic (f.spread (s :: texts)))) = .ok (s :: texts) := by
  obtain ⟨rest, hfields, hnone⟩ := fields_append [] hsep h
  rw [hnone rfl, List.append_nil] at hfields
  exact hfields

/-- A command of another mnemonic has no fields. -/
theorem fields_other {other : String} {body : List Char}
    (h : dropFirst? mnemonic.toList (other.toList ++ body) = none) :
    ∃ e, f.fields mnemonic (utf8 (f.commandText other body)) = .error e := by
  rw [fields, parse_commandText, h]
  exact ⟨_, rfl⟩

end AsciiFrame

end RigControl
