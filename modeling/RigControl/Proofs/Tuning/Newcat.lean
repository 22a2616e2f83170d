/-
Frames that tune a newer Yaesu rig. The mnemonic names the VFO, and nine digits follow.
-/
import RigControl.Proofs.NumberCommands
import RigControl.Proofs.Traffic.Newcat
import RigControl.Proofs.Tuning.Basic

namespace RigControl.Newcat

variable {d : Descriptor} {region : Region} {k : Tracking} {v : Vfo} {r : Request} {t : Tuning}
  {hz : Nat}

/-- The mnemonic names the VFO. Without digits it is a query. -/
def tuningOf (mnemonic : String) (v : Vfo) (frame : List UInt8) : Option Tuning :=
  match AsciiFrame.semicolon.parse mnemonic frame with
  | .ok (c :: s) => some { vfo := some v, hz := parseFrequency (c :: s) }
  | _ => none

def tuning? (frame : List UInt8) : Option Tuning :=
  tuningOf "FA" .a frame <|> tuningOf "FB" .b frame

/-- A command of another mnemonic does not tune. -/
theorem tuningOf_other {mnemonic other : String} {body : List Char}
    (h : AsciiFrame.dropFirst? mnemonic.toList (other.toList ++ body) = none) :
    tuningOf mnemonic v (Text.utf8 (AsciiFrame.semicolon.commandText other body)) = none := by
  rw [tuningOf, AsciiFrame.parse_commandText, h]

/-- A bare mnemonic does not tune. -/
theorem tuningOf_bare {mnemonic : String} :
    tuningOf mnemonic v (Text.utf8 (AsciiFrame.semicolon.commandText mnemonic [])) = none := by
  rw [tuningOf, AsciiFrame.parse_self]
  rfl

theorem tuning?_query {mnemonic : String} (h : mnemonic ∈ queries) :
    tuning? (AsciiFrame.semicolon.query mnemonic) = none := by
  rw [AsciiFrame.query_eq AsciiFrame.semicolon_ascii, tuning?]
  simp only [queries, List.mem_cons, List.not_mem_nil, or_false] at h
  rcases h with rfl | rfl | rfl | rfl | rfl | rfl | rfl | rfl | rfl | rfl | rfl
  · rw [tuningOf_bare, tuningOf_other rfl]
    rfl
  · rw [tuningOf_bare, tuningOf_other rfl]
    rfl
  all_goals
    rw [tuningOf_other rfl, tuningOf_other rfl]
    rfl

theorem tuning?_command {mnemonic : String} {body : List Char} (h : mnemonic ∈ commands) :
    tuning? (Text.utf8 (AsciiFrame.semicolon.commandText mnemonic body)) = none := by
  rw [tuning?]
  simp only [commands, List.mem_cons, List.not_mem_nil, or_false] at h
  rcases h with rfl | rfl | rfl | rfl | rfl | rfl | rfl | rfl
  all_goals
    rw [tuningOf_other rfl, tuningOf_other rfl]
    rfl

/-- A mnemonic with nine digits reads back. -/
theorem tuningOf_self {mnemonic : String} (h : hz < Nat.pow 10 9) :
    tuningOf mnemonic v
      (Text.utf8 (AsciiFrame.semicolon.commandText mnemonic (Text.zeroPadded 9 hz))) =
        some { vfo := some v, hz := .ok hz } := by
  have hread := parseFrequency_zeroPadded h
  have hdigits : Text.Digits (Text.zeroPadded 9 hz) := Text.zeroPadded_digits
  obtain ⟨c, rest, hs⟩ := List.exists_cons_of_ne_nil hdigits.ne_nil
  rw [hs] at hread ⊢
  rw [tuningOf, AsciiFrame.parse_self]
  exact congrArg (fun hz => some (Tuning.mk (some v) hz)) hread

/-- The frame that tunes reads back. -/
theorem tuning?_setFrequency (hv : v = .a ∨ v = .b) (h : setFrequency v hz = .ok r) :
    tuning? r.frame = some { vfo := some v, hz := .ok hz } := by
  obtain ⟨mnemonic, hm, hlt, rfl⟩ := setFrequency_eq_ok.1 h
  show tuning? (Text.utf8 _) = _
  rw [tuning?]
  rcases hv with rfl | rfl
  · cases hm
    rw [tuningOf_self hlt]
    rfl
  · cases hm
    rw [tuningOf_other rfl, tuningOf_self hlt]
    rfl

/-- What a newer Yaesu rig with two VFOs is sent is in range. -/
theorem tuning_inRange (hd : ∀ v ∈ d.vfos, v = .a ∨ v = .b) (h : Sends d region r)
    (ht : tuning? r.frame = some t) : t.InRange d region k := by
  cases h with
  | query mnemonic hm h =>
    rw [h, tuning?_query hm] at ht
    cases ht
  | other mnemonic fields hm h =>
    obtain ⟨-, hframe⟩ := (AsciiFrame.build_eq_ok AsciiFrame.semicolon_ascii).1 h
    rw [hframe, tuning?_command hm] at ht
    cases ht
  | tune v hz hv h hc =>
    rw [tuning?_setFrequency (hd v hv) h] at ht
    cases ht
    exact ⟨hz, rfl, hc⟩

end RigControl.Newcat
