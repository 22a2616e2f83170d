/-
What a CI-V rig is sent. Frequencies are for the selected VFO, so that each is checked for the VFO that
is selected when it goes out. Once a command is sent, nothing is refused any more.
-/
import RigControl.Civ.Operations
import RigControl.Proofs.Decoding
import RigControl.Proofs.Selection

namespace RigControl.Civ

open Outcome

/-- The requests of a CI-V rig, with what is known about it. -/
inductive Sends (b : Bus) (d : Descriptor) (region : Region) (k : Tracking) (r : Request) : Prop
  | other (operation : String) (command : UInt8) (payload : List UInt8) (hc : command ≠ 0x05)
      (h : r = b.request operation command payload)
  | tune (hz : Nat) (h : b.setFrequency hz = .ok r)
      (hc : d.checkRxFrequency region k.vfo hz = .ok ())

/-- A model that scans memories has a memory mode. -/
def Suits (d : Descriptor) : Prop :=
  ScanOp.memory ∈ d.scanOps → Vfo.memory ∈ d.vfos

/-- Every operation keeps the selection declared and sends these requests. -/
def contract (b : Bus) (d : Descriptor) (region : Region) : Contract :=
  d.contract (Sends b d region) (Suits d)

variable {b : Bus} {d : Descriptor} {region : Region} {k : Tracking} {v : Vfo}

/-! ## Requests -/

theorem read_sends {operation : String} {t : Topic} (ht : t.command ≠ 0x05) :
    Sends b d region k (b.read operation t) :=
  .other operation t.command t.sub ht rfl

theorem write_sends {operation : String} {t : Topic} {data : List UInt8} (ht : t.command ≠ 0x05) :
    Sends b d region k (b.write operation t data) :=
  .other operation t.command (t.sub ++ data) ht rfl

theorem selectVfo_sends {r : Request} (h : b.selectVfo v = .ok r) : Sends b d region k r := by
  cases v <;> cases h <;> exact .other _ _ _ (by decide) rfl

theorem selectMemory_sends {channel : Nat} {r : Request} (h : b.selectMemory channel = .ok r) :
    Sends b d region k r := by
  obtain ⟨payload, -, h⟩ := bind_eq_ok.1 h
  cases h
  exact .other _ _ _ (by decide) rfl

theorem vfoOp_sends {o : VfoOp} : Sends b d region k (b.vfoOp o) := by
  cases o <;> exact .other _ _ _ (by decide) rfl

theorem scan_sends {o : ScanOp} : Sends b d region k (b.scan o) := by
  cases o <;> exact .other _ _ _ (by decide) rfl

theorem modeRequests_sends {m : Mode} {width : Option Passband} {r : Request}
    (hr : r ∈ modeRequests b d region m width) : Sends b d region k r := by
  rw [modeRequests, List.mem_cons, Option.mem_toList] at hr
  rcases hr with rfl | hr
  · exact .other _ _ _ (by decide) rfl
  · unfold dataModeRequest at hr
    split at hr
    · cases hr
      exact write_sends (by decide)
    · split at hr <;> cases hr
      exact write_sends (by decide)

theorem levelRequest_sends {l : Level} {value : LevelValue} {r : Request}
    (h : levelRequest b d l value = .ok r) : Sends b d region k r := by
  unfold levelRequest at h
  split at h
  · obtain ⟨db, -, h⟩ := bind_eq_ok.1 h
    obtain ⟨raw, -, h⟩ := bind_eq_ok.1 h
    obtain ⟨byte, -, h⟩ := bind_eq_ok.1 h
    cases h
    exact write_sends (by decide)
  · obtain ⟨db, -, h⟩ := bind_eq_ok.1 h
    obtain ⟨index, -, h⟩ := bind_eq_ok.1 h
    cases h
    exact write_sends (by decide)
  · obtain ⟨raw, -, h⟩ := bind_eq_ok.1 h
    obtain ⟨data, -, h⟩ := bind_eq_ok.1 h
    cases h
    exact write_sends (by decide)
  · cases h

theorem setClock_sends {t : ClockTime} {requests : List Request} {r : Request}
    (h : b.setClock t = .ok requests) (hr : r ∈ requests) : Sends b d region k r := by
  obtain ⟨_, -, h⟩ := bind_eq_ok.1 h
  obtain ⟨date, -, h⟩ := bind_eq_ok.1 h
  obtain ⟨time, -, h⟩ := bind_eq_ok.1 h
  obtain ⟨zone, -, h⟩ := bind_eq_ok.1 h
  cases h
  simp only [List.mem_cons, List.not_mem_nil, or_false] at hr
  rcases hr with rfl | rfl | rfl <;> exact write_sends (by decide)

/-! ## Answers -/

theorem decode_neverRefuses {bytes : List UInt8} : NeverRefuses (Frame.decode bytes) := by
  unfold Frame.decode
  repeat' split
  all_goals simp [Error.isRefusal]

theorem busDecode_neverRefuses {reply : List UInt8} : NeverRefuses (b.decode reply) := by
  refine decode_neverRefuses.bind fun f _ => ?_
  split <;> simp [Error.isRefusal]

theorem expectAccepted_neverRefuses {reply : List UInt8} :
    NeverRefuses (b.expectAccepted reply) := by
  refine busDecode_neverRefuses.bind fun f _ => ?_
  repeat' split
  all_goals simp [Error.isRefusal]

theorem expectData_neverRefuses {reply sub : List UInt8} {command : UInt8} :
    NeverRefuses (b.expectData reply command sub) := by
  refine busDecode_neverRefuses.bind fun f _ => ?_
  repeat' split
  all_goals simp [Error.isRefusal]

theorem decodeFrequency_neverRefuses {data : List UInt8} : NeverRefuses (decodeFrequency data) := by
  unfold decodeFrequency
  split
  · simp [Error.isRefusal]
  · exact Bcd.decodeLow_neverRefuses

theorem decodeLevel_neverRefuses {data : List UInt8} : NeverRefuses (decodeLevel data) := by
  unfold decodeLevel
  split
  · simp [Error.isRefusal]
  · exact Bcd.decodeHigh_neverRefuses

theorem decodeByte_neverRefuses {byte : UInt8} : NeverRefuses (decodeByte byte) :=
  Bcd.decodeHigh_neverRefuses.map

theorem ofCode_neverRefuses {byte : UInt8} : NeverRefuses (FilterSlot.ofCode byte) := by
  unfold FilterSlot.ofCode
  repeat' split
  all_goals simp [Error.isRefusal]

theorem modeOfCode_neverRefuses {byte : UInt8} : NeverRefuses (modeOfCode byte) := by
  unfold modeOfCode
  split <;> simp [Error.isRefusal]

theorem parseMode_neverRefuses {data : List UInt8} : NeverRefuses (parseMode data) := by
  unfold parseMode
  split
  · simp [Error.isRefusal]
  · refine modeOfCode_neverRefuses.bind fun m _ => ?_
    split
    · exact neverRefuses_pure
    · exact ofCode_neverRefuses.bind fun _ _ => neverRefuses_pure

theorem parseDataMode_neverRefuses {data : List UInt8} : NeverRefuses (parseDataMode data) := by
  unfold parseDataMode
  repeat' split
  all_goals simp [Error.isRefusal]

theorem parseSwitch_neverRefuses {data : List UInt8} : NeverRefuses (parseSwitch data) := by
  unfold parseSwitch
  repeat' split
  all_goals simp [Error.isRefusal]

theorem parseSelector_neverRefuses {data : List UInt8} : NeverRefuses (parseSelector data) := by
  unfold parseSelector
  split
  · exact decodeByte_neverRefuses
  · simp [Error.isRefusal]

theorem parseDate_neverRefuses {data : List UInt8} : NeverRefuses (parseDate data) := by
  unfold parseDate
  split
  · refine decodeByte_neverRefuses.bind fun _ _ => decodeByte_neverRefuses.bind fun _ _ => ?_
    refine decodeByte_neverRefuses.bind fun _ _ => decodeByte_neverRefuses.bind fun _ _ => ?_
    exact neverRefuses_pure
  · simp [Error.isRefusal]

theorem parseTime_neverRefuses {data : List UInt8} : NeverRefuses (parseTime data) := by
  unfold parseTime
  split
  · refine decodeByte_neverRefuses.bind fun _ _ => decodeByte_neverRefuses.bind fun _ _ => ?_
    exact neverRefuses_pure
  · simp [Error.isRefusal]

theorem parseUtcOffset_neverRefuses {data : List UInt8} : NeverRefuses (parseUtcOffset data) := by
  unfold parseUtcOffset
  split
  · refine decodeByte_neverRefuses.bind fun _ _ => decodeByte_neverRefuses.bind fun _ _ => ?_
    exact neverRefuses_pure
  · simp [Error.isRefusal]

/-! ## Operations -/

section

variable (hk : k.Declared d)
include hk

theorem command_obeys {r : Request} (hr : Sends b d region k r) :
    (b.command r).Obeys (contract b d region) k fun _ k' => k' = k := by
  refine .bind (.ask hk hr fun _ => rfl) ?_
  rintro reply _ _ rfl
  exact .lift hk (fun _ => expectAccepted_neverRefuses) fun _ _ => rfl

theorem ask_obeys {operation : String} {t : Topic} (ht : t.command ≠ 0x05) :
    (b.ask operation t).Obeys (contract b d region) k fun _ k' => k' = k := by
  refine .bind (.ask hk (read_sends ht) fun _ => rfl) ?_
  rintro reply _ _ rfl
  exact .lift hk (fun _ => expectData_neverRefuses) fun _ _ => rfl

theorem read_obeys {α : Type} {operation : String} {t : Topic} {decode : List UInt8 → Outcome α}
    (ht : t.command ≠ 0x05) (hdecode : ∀ data, NeverRefuses (decode data)) :
    (do decode (← b.ask operation t) : Dialogue α).Obeys (contract b d region) k fun _ k' =>
      k' = k := by
  refine .bind (ask_obeys hk ht) ?_
  rintro data _ _ rfl
  exact .lift hk (fun _ => hdecode data) fun _ _ => rfl

/-- The conversation goes on with what was read. -/
theorem read_bind_obeys {α β : Type} {operation : String} {t : Topic}
    {decode : List UInt8 → Outcome α} {f : α → Dialogue β} {R : β → Tracking → Prop}
    (ht : t.command ≠ 0x05) (hdecode : ∀ data, NeverRefuses (decode data))
    (hf : ∀ a, (f a).Obeys (contract b d region) k R) :
    (do f (← decode (← b.ask operation t))).Obeys (contract b d region) k R := by
  refine .bind (ask_obeys hk ht) ?_
  rintro data _ _ rfl
  exact .lift_bind hk (fun _ => hdecode data) fun a _ => hf a

/-- Some requests, one after another. -/
theorem commands_obeys {requests : List Request}
    (h : ∀ r ∈ requests, ∀ k, Sends b d region k r) :
    (requests.forM b.command).Obeys (contract b d region) k fun _ _ => True :=
  .forM hk trivial fun r hr k' hk' _ => (command_obeys hk' (h r hr k')).any

/-- After switching to a VFO it is selected. -/
theorem switchTo_honours :
    (b.switchTo d v).Honours (contract b d region) k fun _ k' => k'.vfo = k.resolve v := by
  refine .known_bind (.lift_bind hk fun _ hv => ?_)
  split
  · refine .lift_bind hk fun r hr => .of_obeys (.bind (command_obeys hk (selectVfo_sends hr)) ?_)
    rintro _ _ _ rfl
    refine Dialogue.selected_obeys hk hk.resolve_ne_current fun _ => ?_
    exact (Descriptor.checkVfo_ok.1 hv).resolve_left hk.resolve_ne_current
  · rename_i h
    exact .of_obeys (.pure hk (Classical.not_not.1 h).symm)

theorem getFrequency_honours :
    (getFrequency b d v).Honours (contract b d region) k fun _ _ => True := by
  refine .lift_bind hk fun _ _ => .bind (switchTo_honours hk) fun _ k' hk' _ => ?_
  exact (read_obeys hk' (by decide) fun _ => decodeFrequency_neverRefuses).any

/-- What is sent is checked for the VFO that is selected by then. -/
theorem setFrequency_honours {hz : Nat} :
    (setFrequency b d region v hz).Honours (contract b d region) k fun _ _ => True := by
  refine .lift_bind hk fun _ _ => .known_bind (.lift_bind hk fun _ hc => ?_)
  refine .lift_bind hk fun r hr => .bind (switchTo_honours hk) fun _ k' hk' hv => ?_
  rw [Tracking.resolve_of_ne hk.resolve_ne_current] at hv
  exact (command_obeys hk' (.tune hz hr (hv ▸ hc))).any

theorem getMode_honours :
    (getMode b d region v).Honours (contract b d region) k fun _ _ => True := by
  refine .lift_bind hk fun _ _ => .bind (switchTo_honours hk) fun _ k' hk' _ => ?_
  refine read_bind_obeys hk' (by decide) (fun _ => parseMode_neverRefuses) fun (base, slot) => ?_
  dsimp only
  split
  · refine read_bind_obeys hk' (by decide) (fun _ => parseDataMode_neverRefuses) fun _ => ?_
    exact .pure hk' trivial
  · exact .pure hk' trivial

theorem setMode_honours {m : Mode} {width : Option Passband} :
    (setMode b d region v m width).Honours (contract b d region) k fun _ _ => True := by
  have hrest : ∀ width : Option Passband, (do
      b.switchTo d v
      (modeRequests b d region m width).forM b.command : Dialogue Unit).Honours
        (contract b d region) k fun _ _ => True := fun width =>
    .bind (switchTo_honours hk) fun _ _ hk' _ =>
      commands_obeys hk' fun _ hr _ => modeRequests_sends hr
  refine .lift_bind hk fun _ _ => .lift_bind hk fun _ _ => ?_
  split
  · exact .lift_bind hk fun width _ => hrest width
  · exact hrest none

theorem setVfo_honours : (setVfo b d v).Honours (contract b d region) k fun _ _ => True := by
  refine .lift_bind hk fun _ _ => .known_bind (.lift_bind hk fun _ hv => .lift_bind hk fun r hr => ?_)
  refine .of_obeys (.bind (command_obeys hk (selectVfo_sends hr)) ?_)
  rintro _ _ _ rfl
  refine (Dialogue.selected_obeys hk hk.resolve_ne_current fun _ => ?_).any
  exact (Descriptor.checkVfo_ok.1 hv).resolve_left hk.resolve_ne_current

/-- A meter that is not on the bus is refused before anything is sent. -/
theorem meterReading_bind_honours {α : Type} {l : Level} {f : Nat → Dialogue α}
    (hf : ∀ n, (f n).Obeys (contract b d region) k fun _ _ => True) :
    (b.meterReading l >>= f).Honours (contract b d region) k fun _ _ => True := by
  unfold Bus.meterReading
  split
  · refine .of_obeys (.bind (read_obeys hk ?_ fun _ => decodeLevel_neverRefuses) ?_)
    · exact (by decide : (0x15 : UInt8) ≠ 0x05)
    · rintro n _ _ rfl
      exact hf n
  · exact .fail hk

theorem getLevel_honours {l : Level} :
    (getLevel b d l).Honours (contract b d region) k fun _ _ => True := by
  refine .lift_bind hk fun _ _ => ?_
  split
  · refine .of_obeys (read_bind_obeys hk (by decide) (fun _ => parseSelector_neverRefuses) ?_)
    refine fun raw => .lift_bind hk (fun _ => ?_) fun _ _ => .pure hk trivial
    exact AttenuatorCoding.decode_neverRefuses
  · refine .of_obeys (read_bind_obeys hk (by decide) (fun _ => parseSelector_neverRefuses) ?_)
    refine fun raw => .lift_bind hk (fun _ => ?_) fun _ _ => .pure hk trivial
    exact indexToStep_neverRefuses
  · refine .of_obeys (read_bind_obeys hk (by decide) (fun _ => decodeLevel_neverRefuses) ?_)
    exact fun _ => .pure hk trivial
  · exact meterReading_bind_honours hk fun _ => .pure hk trivial
  · split
    · exact .fail hk
    · refine meterReading_bind_honours hk fun _ => ?_
      exact .lift_bind hk (fun _ => CalibrationTable.interpolate_neverRefuses) fun _ _ => .pure hk trivial

theorem setLevel_honours {l : Level} {value : LevelValue} :
    (setLevel b d l value).Honours (contract b d region) k fun _ _ => True := by
  refine .lift_bind hk fun _ _ => .lift_bind hk fun r hr => .of_obeys ?_
  exact (command_obeys hk (levelRequest_sends hr)).any

theorem getMemory_honours : getMemory.Honours (contract b d region) k fun _ _ => True := by
  refine .known_bind ?_
  split
  · exact .of_obeys (.pure hk trivial)
  · exact .fail hk

theorem setMemory_honours {channel : Nat} :
    (setMemory b d channel).Honours (contract b d region) k fun _ _ => True := by
  refine .lift_bind hk fun _ _ => .lift_bind hk fun r hr => .of_obeys ?_
  refine .bind (command_obeys hk (selectMemory_sends hr)) ?_
  rintro _ _ _ rfl
  refine .known_bind (.bind (R := fun _ _ => True) (.learn ?_ trivial) fun _ k' hk' _ => ?_)
  · exact ⟨hk.mem, hk.ne_current⟩
  · split
    · rename_i hmem
      exact (Dialogue.selected_obeys hk' (by decide) fun _ => hmem).any
    · exact .pure hk' trivial

theorem vfoOp_honours {o : VfoOp} :
    (vfoOp b d o).Honours (contract b d region) k fun _ _ => True :=
  .lift_bind hk fun _ _ => .of_obeys (command_obeys hk vfoOp_sends).any

/-- Before a scan the rig is put into the mode that it scans in. -/
theorem scan_honours {o : ScanOp} :
    (scan b d o).Honours (contract b d region) k fun _ _ => True := by
  have hscan : ∀ {k' : Tracking}, k'.Declared d →
      (b.command (b.scan o)).Obeys (contract b d region) k' fun _ _ => True :=
    fun hk' => (command_obeys hk' scan_sends).any
  refine .lift_bind hk fun _ ho => ?_
  cases o with
  | stop => exact .of_obeys (hscan hk)
  | vfo =>
    refine .of_obeys (.bind (command_obeys hk ?_) fun _ _ hk' _ => hscan hk')
    exact .other _ _ _ (by decide) rfl
  | memory =>
    refine .lift_bind hk fun r hr => .of_obeys (.bind (command_obeys hk (selectVfo_sends hr)) ?_)
    rintro _ _ _ rfl
    refine .bind (Dialogue.selected_obeys hk (by decide) fun hd => ?_) fun _ _ hk' _ => hscan hk'
    exact hd (Descriptor.checkMember_ok.1 ho)

theorem getClock_honours : (getClock b d).Honours (contract b d region) k fun _ _ => True := by
  refine .lift_bind hk fun _ _ => .of_obeys ?_
  refine read_bind_obeys hk (by decide) (fun _ => parseDate_neverRefuses) fun (_, _, _) => ?_
  refine read_bind_obeys hk (by decide) (fun _ => parseTime_neverRefuses) fun (_, _) => ?_
  refine read_bind_obeys hk (by decide) (fun _ => parseUtcOffset_neverRefuses) fun _ => ?_
  exact .pure hk trivial

theorem setClock_honours {t : ClockTime} :
    (setClock b d t).Honours (contract b d region) k fun _ _ => True := by
  refine .lift_bind hk fun _ _ => .lift_bind hk fun requests h => .of_obeys ?_
  exact commands_obeys hk fun _ hr _ => setClock_sends h hr

/-- **A CI-V rig honours its contract** in every operation. -/
theorem respond_honours {α : Type} {config : Config} (op : Operation α) :
    (respond b d config op).Honours (contract b d config.region) k fun _ _ => True := by
  cases op with
  | start => exact .of_obeys (.pure hk trivial)
  | close => exact .of_obeys (.hangUp hk (.pure hk trivial))
  | getFrequency v => exact getFrequency_honours hk
  | setFrequency v hz => exact setFrequency_honours hk
  | getMode v => exact getMode_honours hk
  | setMode v m width => exact setMode_honours hk
  | getVfo => exact .known_bind (.of_obeys (.pure hk trivial))
  | setVfo v => exact setVfo_honours hk
  | getPtt v => exact .of_obeys (read_obeys hk (by decide) fun _ => parseSwitch_neverRefuses).any
  | setPtt v on => exact .of_obeys (command_obeys hk (write_sends (by decide))).any
  | getSplit v => exact .of_obeys (read_obeys hk (by decide) fun _ => parseSwitch_neverRefuses).any
  | setSplit v on => exact .of_obeys (command_obeys hk (write_sends (by decide))).any
  | getLevel v l => exact getLevel_honours hk
  | setLevel v l value => exact setLevel_honours hk
  | getMemory v => exact getMemory_honours hk
  | setMemory v channel => exact setMemory_honours hk
  | vfoOp v o => exact vfoOp_honours hk
  | scan v o => exact scan_honours hk
  | getClock => exact getClock_honours hk
  | setClock t => exact setClock_honours hk
  | _ => exact .fail hk

end

end RigControl.Civ
