/-
Frames that tune a CI-V rig. The field holds all digits, the lowest first.
-/
import RigControl.Proofs.PackedDecimal
import RigControl.Proofs.Traffic.Civ
import RigControl.Proofs.Tuning.Basic

namespace RigControl.Civ

variable {d : Descriptor} {region : Region} {k : Tracking} {v : Vfo} {r : Request} {t : Tuning}
  {hz : Nat}

/-- The command stands behind the preamble and the two addresses. -/
def tuning? : List UInt8 → Option Tuning
  | _ :: _ :: _ :: _ :: command :: payload =>
    if command = 0x05 then some { hz := decodeFrequency payload.dropLast } else none
  | _ => none

theorem tuning?_request {b : Bus} {operation : String} {command : UInt8} {payload : List UInt8} :
    tuning? (b.request operation command payload).frame =
      if command = 0x05 then some { hz := decodeFrequency payload } else none := by
  have hdrop : (payload ++ [terminator]).dropLast = payload := List.dropLast_concat
  show (if command = 0x05 then
    some (Tuning.mk none (decodeFrequency (payload ++ [terminator]).dropLast)) else none) = _
  rw [hdrop]

/-- The frame that tunes reads back. -/
theorem decodeFrequency_of_encode {payload : List UInt8} (h : encodeFrequency hz = .ok payload) :
    decodeFrequency payload = .ok hz := by
  obtain ⟨hfits, rfl⟩ := Bcd.encodeLow_ok (by decide) h
  have hlt : Nat.pow 10 10 < UInt64.size := by decide
  have hlength : (Bcd.packLow hz 10).length = 5 := Bcd.length_packLow
  rw [decodeFrequency, if_neg (by simp [hlength])]
  exact Bcd.decodeLow_packLow_nil hfits (Nat.lt_trans hfits hlt)

theorem tuning_inRange {b : Bus} (h : Sends b d region k r) (ht : tuning? r.frame = some t) :
    t.InRange d region k := by
  cases h with
  | other operation command payload hc h =>
    rw [h, tuning?_request, if_neg hc] at ht
    cases ht
  | tune hz h hc =>
    obtain ⟨payload, hpayload, h⟩ := Outcome.bind_eq_ok.1 h
    cases h
    rw [tuning?_request, if_pos rfl] at ht
    cases ht
    exact ⟨hz, decodeFrequency_of_encode hpayload, hc⟩

end RigControl.Civ
