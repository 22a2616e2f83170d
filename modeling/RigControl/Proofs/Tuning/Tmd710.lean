/-
Frames that tune the TM-D710. A field for the band is followed by one of ten digits.
-/
import RigControl.Proofs.NumberCommands
import RigControl.Proofs.Traffic.Tmd710
import RigControl.Proofs.Tuning.Basic

namespace RigControl.Tmd710

variable {d : Descriptor} {region : Region} {k : Tracking} {v : Vfo} {r : Request} {t : Tuning}
  {hz : Nat}

/-- The first field names the band. Without a second one it is a query. -/
def tuning? (frame : List UInt8) : Option Tuning :=
  match AsciiFrame.crSpaced.fields "FO" frame with
  | .ok (number :: _ :: _) =>
    some { vfo := (bandField number).toOption, hz := Prod.snd <$> parseFrequency frame }
  | _ => none

/-- A command of another mnemonic does not tune. -/
theorem tuning?_other {other : String} {body : List Char}
    (h : AsciiFrame.dropFirst? "FO".toList (other.toList ++ body) = none) :
    tuning? (Text.utf8 (AsciiFrame.crSpaced.commandText other body)) = none := by
  obtain ⟨e, he⟩ := AsciiFrame.fields_other (f := .crSpaced) h
  rw [tuning?, he]

/-- The frame that asks about a band does not tune. -/
theorem tuning?_readFrequency (h : readFrequency v = .ok r) : tuning? r.frame = none := by
  obtain ⟨n, -, h⟩ := Outcome.bind_eq_ok.1 h
  obtain ⟨r', hr, h⟩ := Outcome.bind_eq_ok.1 h
  obtain rfl := Outcome.pure_eq_ok.1 h
  obtain ⟨-, hr⟩ := command_eq_ok.1 hr
  have hfields : AsciiFrame.crSpaced.fields "FO" r'.frame = .ok [Text.zeroPadded 1 n] := by
    have hframe := congrArg Request.frame hr
    simp only [List.map_cons, List.map_nil, Field.shown] at hframe
    rw [hframe]
    refine AsciiFrame.fields_self rfl fun x hx => ?_
    rw [List.mem_singleton.1 hx]
    exact zeroPadded_clear
  show tuning? r'.frame = none
  rw [tuning?, hfields]

/-- The frame that tunes reads back. -/
theorem tuning?_setFrequency (h : setFrequency v hz = .ok r) :
    tuning? r.frame = some { vfo := some v, hz := .ok hz } := by
  have hread := parseFrequency_setFrequency [] h
  obtain ⟨number, field, rest, hfields, hnumber, -⟩ := fields_setFrequency [] h
  rw [extend_setFrequency h] at hread hfields
  rw [tuning?, hfields]
  simp only [hnumber, hread]
  rfl

theorem tuning_inRange (h : Sends d region r) (ht : tuning? r.frame = some t) :
    t.InRange d region k := by
  cases h with
  | readControl h =>
    have hframe : readBandControl.frame =
        Text.utf8 (AsciiFrame.crSpaced.commandText "BC" []) :=
      AsciiFrame.query_eq AsciiFrame.crSpaced_ascii
    rw [h, hframe, tuning?_other rfl] at ht
    cases ht
  | control v h =>
    obtain ⟨n, -, h⟩ := Outcome.bind_eq_ok.1 h
    obtain ⟨-, rfl⟩ := command_eq_ok.1 h
    rw [tuning?_other rfl] at ht
    cases ht
  | read v h =>
    rw [tuning?_readFrequency h] at ht
    cases ht
  | tune v hz h hc =>
    rw [tuning?_setFrequency h] at ht
    cases ht
    exact ⟨hz, rfl, hc⟩

end RigControl.Tmd710
