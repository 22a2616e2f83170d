/-
What a newer Yaesu rig is sent. Each VFO is tuned by its own mnemonic, so that a frequency is checked
for the VFO that the frame names and the selection plays no part.
-/
import RigControl.Newcat.Operations
import RigControl.Proofs.Decoding
import RigControl.Proofs.Selection

namespace RigControl.Newcat

open Outcome

def queries : List String :=
  ["FA", "FB", "MD0", "MD1", "VS", "TX", "FT", "RA0", "PA0", "SM0", "AI"]

/-- The mnemonics of the commands that do not tune. -/
def commands : List String :=
  ["MD0", "MD1", "VS", "TX", "FT", "RA0", "PA0", "AI"]

/-- The requests of a newer Yaesu rig, with what is known about it. -/
inductive Sends (d : Descriptor) (region : Region) (r : Request) : Prop
  | query (mnemonic : String) (hm : mnemonic ∈ queries)
      (h : r.frame = AsciiFrame.semicolon.query mnemonic)
  | other (mnemonic : String) (fields : List Field) (hm : mnemonic ∈ commands)
      (h : AsciiFrame.semicolon.build mnemonic fields = .ok r.frame)
  | tune (v : Vfo) (hz : Nat) (hv : v ∈ d.vfos) (h : setFrequency v hz = .ok r)
      (hc : d.checkRxFrequency region v hz = .ok ())

/-- The model has the VFOs that the rig can name, and reads a strength only with a calibration. -/
structure Suits (d : Descriptor) : Prop where
  vfos : ∀ v ∈ [Vfo.a, .b], v ∈ d.vfos
  strength : .strength ∈ d.readableLevels → (d.calibration .strength).isSome = true

/-- Every operation keeps the selection declared and sends these requests. -/
def contract (d : Descriptor) (region : Region) : Contract :=
  d.contract (fun _ => Sends d region) (Suits d)

variable {d : Descriptor} {region : Region} {k : Tracking} {v : Vfo} {r : Request}

/-! ## Requests -/

theorem command_sends {operation mnemonic : String} {fields : List Field}
    (hm : mnemonic ∈ commands) (h : command operation mnemonic fields = .ok r) :
    Sends d region r := by
  obtain ⟨frame, hf, h⟩ := bind_eq_ok.1 h
  cases h
  exact .other mnemonic fields hm hf

theorem readFrequency_sends (h : readFrequency v = .ok r) : Sends d region r := by
  cases v <;> cases h
  all_goals exact .query _ (by decide) rfl

theorem readMode_sends (h : readMode v = .ok r) : Sends d region r := by
  cases v <;> cases h
  all_goals exact .query _ (by decide) rfl

theorem setMode_sends {m : Mode} (h : setMode v m = .ok r) : Sends d region r := by
  obtain ⟨mnemonic, hm, h⟩ := bind_eq_ok.1 h
  obtain ⟨r', hr, h⟩ := bind_eq_ok.1 h
  cases h
  obtain ⟨frame, hf, h⟩ := bind_eq_ok.1 hr
  cases h
  refine .other mnemonic _ ?_ hf
  cases v <;> cases hm <;> decide

theorem setVfo_sends (h : setVfo v = .ok r) : Sends d region r := by
  unfold setVfo at h
  split at h
  · exact command_sends (by decide) h
  · exact command_sends (by decide) h
  · exact command_sends (by decide) h
  · exact command_sends (by decide) h
  · cases h

theorem levelRequest_sends {l : Level} {value : LevelValue} (h : levelRequest d l value = .ok r) :
    Sends d region r := by
  unfold levelRequest at h
  split at h
  · obtain ⟨db, -, h⟩ := bind_eq_ok.1 h
    obtain ⟨raw, -, h⟩ := bind_eq_ok.1 h
    exact command_sends (by decide) h
  · obtain ⟨db, -, h⟩ := bind_eq_ok.1 h
    obtain ⟨index, -, h⟩ := bind_eq_ok.1 h
    exact command_sends (by decide) h
  · cases h

/-! ## Answers -/

theorem value_neverRefuses {mnemonic : String} {reply : List UInt8} :
    NeverRefuses (value mnemonic reply) := by
  unfold value
  split
  · simp [Error.isRefusal]
  · exact AsciiFrame.parse_neverRefuses

theorem byte_neverRefuses {n : Nat} {e : Error} (he : e.isRefusal = false) :
    NeverRefuses (byte n e) := by
  unfold byte
  split
  · exact neverRefuses_ok
  · exact neverRefuses_error.2 he

theorem parseFrequency_neverRefuses {s : List Char} : NeverRefuses (parseFrequency s) := by
  unfold parseFrequency
  dsimp only
  split
  · simp [Error.isRefusal]
  · exact Text.parseDecimal_neverRefuses

theorem parseMode_neverRefuses {s : List Char} : NeverRefuses (parseMode s) := by
  unfold parseMode
  split <;> simp [Error.isRefusal]

theorem parseVfo_neverRefuses {s : List Char} : NeverRefuses (parseVfo s) := by
  unfold parseVfo
  repeat' split
  all_goals simp [Error.isRefusal]

theorem parsePtt_neverRefuses {s : List Char} : NeverRefuses (parsePtt s) := by
  unfold parsePtt
  repeat' split
  all_goals simp [Error.isRefusal]

theorem parseSplit_neverRefuses {s : List Char} : NeverRefuses (parseSplit s) := by
  unfold parseSplit
  repeat' split
  all_goals simp [Error.isRefusal]

theorem parseIndex_neverRefuses {s : List Char} : NeverRefuses (parseIndex s) := by
  unfold parseIndex
  dsimp only
  split
  · simp [Error.isRefusal]
  · exact Text.parseDecimal_neverRefuses.bind fun _ _ => byte_neverRefuses rfl

theorem parseMeter_neverRefuses {s : List Char} : NeverRefuses (parseMeter s) := by
  unfold parseMeter
  dsimp only
  split
  · simp [Error.isRefusal]
  · exact Text.parseDecimal_neverRefuses.bind fun _ _ => byte_neverRefuses rfl

/-- The rig has two VFOs to select. -/
theorem parseVfo_mem {s : List Char} (h : parseVfo s = .ok v) : v ∈ [Vfo.a, .b] := by
  unfold parseVfo at h
  repeat' split at h
  all_goals cases h
  all_goals decide

/-! ## Operations -/

section

variable (hk : k.Declared d)
include hk

theorem ask_obeys {mnemonic : String} (hr : Sends d region r) :
    (ask mnemonic r).Obeys (contract d region) k fun _ k' => k' = k := by
  refine .bind (.ask hk hr fun _ => rfl) ?_
  rintro reply _ _ rfl
  exact .lift hk (fun _ => value_neverRefuses) fun _ _ => rfl

/-- The conversation goes on with the value that was read. -/
theorem ask_bind_obeys {α β : Type} {mnemonic : String} {decode : List Char → Outcome α}
    {f : α → Dialogue β} {R : β → Tracking → Prop} (hr : Sends d region r)
    (hdecode : ∀ s, NeverRefuses (decode s))
    (hf : ∀ s a, decode s = .ok a → (f a).Obeys (contract d region) k R) :
    (do f (← decode (← ask mnemonic r))).Obeys (contract d region) k R := by
  refine .bind (ask_obeys hk hr) ?_
  rintro s _ _ rfl
  exact .lift_bind hk (fun _ => hdecode s) fun a ha => hf s a ha

theorem read_obeys {α : Type} {mnemonic : String} {decode : List Char → Outcome α}
    (hr : Sends d region r) (hdecode : ∀ s, NeverRefuses (decode s)) :
    (do decode (← ask mnemonic r) : Dialogue α).Obeys (contract d region) k fun _ _ => True := by
  refine .bind (ask_obeys hk hr) ?_
  rintro s _ _ rfl
  exact .lift hk (fun _ => hdecode s) fun _ _ => trivial

theorem tell_obeys (hr : Sends d region r) :
    (Dialogue.tell r).Obeys (contract d region) k fun _ k' => k' = k :=
  .tell hk hr rfl

theorem start_obeys : start.Obeys (contract d region) k fun _ _ => True := by
  refine ask_bind_obeys hk (.query "AI" (by decide) rfl) (fun _ => parseIndex_neverRefuses) ?_
  intro s previous _
  obtain ⟨off, hoff⟩ : ∃ off, setAutoInfo 0 = .ok off := ⟨_, rfl⟩
  refine .lift_bind hk (fun _ => hoff ▸ neverRefuses_ok) fun r hr => ?_
  refine .bind (tell_obeys hk (command_sends (by decide) hr)) ?_
  rintro _ _ _ rfl
  exact .known_bind (.learn ⟨hk.mem, hk.ne_current⟩ trivial)

/-- The setting is put back before the link is taken down, if it can be. -/
theorem close_honours {config : Config} :
    (close config).Honours (contract d region) k fun _ _ => True := by
  refine .known_bind (.learn_bind ⟨rfl, rfl, rfl, rfl⟩ ?_)
  have hk' : ({ k with savedAutoInfo := none } : Tracking).Declared d := ⟨hk.mem, hk.ne_current⟩
  have hdown : ∀ k', k'.Declared d →
      (Dialogue.hangUp (pure ())).Obeys (contract d region) k' fun _ _ => True :=
    fun k' hk' => .hangUp hk' (.pure hk' trivial)
  dsimp only
  split
  · split
    · refine .lift_bind hk' fun r hr => .of_obeys ?_
      exact .bind (tell_obeys hk' (command_sends (by decide) hr)) fun _ k'' hk'' _ => hdown k'' hk''
    · exact .of_obeys (hdown _ hk')
  · exact .of_obeys (hdown _ hk')

theorem getFrequency_honours :
    (getFrequency d v).Honours (contract d region) k fun _ _ => True := by
  refine .lift_bind hk fun _ _ => .known_bind (.lift_bind hk fun _ _ => .lift_bind hk fun r hr => ?_)
  exact .of_obeys (read_obeys hk (readFrequency_sends hr) fun _ => parseFrequency_neverRefuses)

/-- What is sent is checked for the VFO that it names. -/
theorem setFrequencyOf_honours {hz : Nat} :
    (setFrequencyOf d region v hz).Honours (contract d region) k fun _ _ => True := by
  refine .lift_bind hk fun _ hv => .known_bind (.lift_bind hk fun _ hc => .lift_bind hk fun r hr => ?_)
  exact .of_obeys (tell_obeys hk (.tune _ hz (hk.resolve_mem hv) hr hc)).any

theorem getMode_honours :
    (getMode d v).Honours (contract d region) k fun _ _ => True := by
  refine .lift_bind hk fun _ _ => .known_bind (.lift_bind hk fun _ _ => .lift_bind hk fun r hr => ?_)
  refine .of_obeys (ask_bind_obeys hk (readMode_sends hr) (fun _ => parseMode_neverRefuses) ?_)
  exact fun _ _ _ => .pure hk trivial

theorem setModeOf_honours {m : Mode} {width : Option Passband} :
    (setModeOf d region v m width).Honours (contract d region) k fun _ _ => True := by
  refine .lift_bind hk fun _ _ => .lift_bind hk fun _ _ => .discard_bind hk ?_
  refine .known_bind (.lift_bind hk fun r hr => .of_obeys ?_)
  exact (tell_obeys hk (setMode_sends hr)).any

theorem getVfo_obeys : (getVfo d).Obeys (contract d region) k fun _ _ => True := by
  refine ask_bind_obeys hk (.query "VS" (by decide) rfl) (fun _ => parseVfo_neverRefuses) ?_
  intro s v hv
  have hv := parseVfo_mem hv
  have hne : v ≠ .current := fun h => by simp [h] at hv
  refine .bind (Dialogue.selected_obeys hk hne fun hd => hd.vfos v hv) fun _ _ hk' _ => ?_
  exact .pure hk' trivial

theorem selectVfo_honours : (selectVfo d v).Honours (contract d region) k fun _ _ => True := by
  refine .lift_bind hk fun _ hv => .known_bind (.lift_bind hk fun r hr => .of_obeys ?_)
  refine .bind (tell_obeys hk (setVfo_sends hr)) ?_
  rintro _ _ _ rfl
  exact (Dialogue.selected_obeys hk hk.resolve_ne_current fun _ => hk.resolve_mem hv).any

theorem getLevel_honours {l : Level} :
    (getLevel d l).Honours (contract d region) k fun _ _ => True := by
  have hmeter : Sends d region readMeter := .query "SM0" (by decide) rfl
  refine .lift_bind hk fun _ hl => ?_
  split
  · refine .of_obeys (ask_bind_obeys hk (.query "RA0" (by decide) rfl)
      (fun _ => parseIndex_neverRefuses) fun _ _ _ => .lift_bind hk (fun _ => ?_) fun _ _ => ?_)
    · exact AttenuatorCoding.decode_neverRefuses
    · exact .pure hk trivial
  · refine .of_obeys (ask_bind_obeys hk (.query "PA0" (by decide) rfl)
      (fun _ => parseIndex_neverRefuses) fun _ _ _ => .lift_bind hk (fun _ => ?_) fun _ _ => ?_)
    · exact indexToStep_neverRefuses
    · exact .pure hk trivial
  · refine .of_obeys (ask_bind_obeys hk hmeter (fun _ => parseMeter_neverRefuses) ?_)
    exact fun _ _ _ => .pure hk trivial
  · refine .of_obeys (ask_bind_obeys hk hmeter (fun _ => parseMeter_neverRefuses) fun _ _ _ => ?_)
    split
    · refine .lift_bind hk (fun _ => CalibrationTable.interpolate_neverRefuses) fun _ _ => ?_
      exact .pure hk trivial
    · rename_i hcal
      refine .fail hk fun hd => absurd (hd.strength (Descriptor.checkMember_ok.1 hl)) ?_
      simp [hcal]
  · exact .fail hk

theorem setLevel_honours {l : Level} {value : LevelValue} :
    (setLevel d l value).Honours (contract d region) k fun _ _ => True := by
  refine .lift_bind hk fun _ _ => .lift_bind hk fun r hr => .of_obeys ?_
  exact (tell_obeys hk (levelRequest_sends hr)).any

/-- **A newer Yaesu rig honours its contract** in every operation. -/
theorem respond_honours {α : Type} {config : Config} (op : Operation α) :
    (respond d config op).Honours (contract d config.region) k fun _ _ => True := by
  cases op with
  | start => exact .of_obeys (start_obeys hk)
  | close => exact close_honours hk
  | getFrequency v => exact getFrequency_honours hk
  | setFrequency v hz => exact setFrequencyOf_honours hk
  | getMode v => exact getMode_honours hk
  | setMode v m width => exact setModeOf_honours hk
  | getVfo => exact .of_obeys (getVfo_obeys hk)
  | setVfo v => exact selectVfo_honours hk
  | getPtt v =>
    exact .of_obeys (read_obeys hk (.query "TX" (by decide) rfl) fun _ => parsePtt_neverRefuses)
  | setPtt v on =>
    exact .lift_bind hk fun r hr => .of_obeys (tell_obeys hk (command_sends (by decide) hr)).any
  | getSplit v =>
    exact .of_obeys (read_obeys hk (.query "FT" (by decide) rfl) fun _ => parseSplit_neverRefuses)
  | setSplit v on =>
    exact .lift_bind hk fun r hr => .of_obeys (tell_obeys hk (command_sends (by decide) hr)).any
  | getLevel v l => exact getLevel_honours hk
  | setLevel v l value => exact setLevel_honours hk
  | _ => exact .fail hk

end

end RigControl.Newcat
