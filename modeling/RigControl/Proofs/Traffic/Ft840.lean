/-
What the FT-840 is sent. Each operation keeps the selected VFO a declared one, whatever the status
blocks say, and tunes only to what the receive ranges allow the VFO that is selected then.
-/
import RigControl.Ft840.Operations
import RigControl.Proofs.Contract
import RigControl.Proofs.Decoding
import RigControl.Proofs.Selection

namespace RigControl.Ft840

/-- The requests of the FT-840, with what is known about it. -/
inductive Sends (d : Descriptor) (region : Region) (k : Tracking) (r : Request) : Prop
  | complete (c : Command) (h : c.frame = .ok r.frame)
  | filled (c : Command) (payload params : List UInt8) (hc : c ≠ .setFrequency)
      (h : c.frameWith payload params = .ok r.frame)
  | tune (hz : Nat) (h : setFrequency hz = .ok r.frame)
      (hc : d.checkRxFrequency region k.vfo hz = .ok ())

/-- The model has the VFOs that the status flags can name. -/
def Suits (d : Descriptor) : Prop :=
  ∀ v ∈ [Vfo.a, .b, .memory], v ∈ d.vfos

/-- Every operation keeps the selection declared and sends these requests. -/
def contract (d : Descriptor) (region : Region) : Contract :=
  d.contract (Sends d region) (Suits d)

variable {d : Descriptor} {region : Region} {k : Tracking} {v : Vfo} {c : Command}

/-! ## Frames and blocks -/

theorem frame_of_complete (hc : c.template.isComplete = true) : ∃ frame, c.frame = .ok frame := by
  cases c <;> first | exact ⟨_, rfl⟩ | cases hc

theorem source_complete {l : Layout} (h : source v = .ok (c, l)) : c.template.isComplete = true := by
  cases v <;> cases h <;> rfl

theorem field_neverRefuses {block : List UInt8} {offset length : Nat} :
    Outcome.NeverRefuses (field block offset length) := by
  unfold field
  split <;> simp [Error.isRefusal]

theorem byteAt_neverRefuses {block : List UInt8} {offset : Nat} :
    Outcome.NeverRefuses (byteAt block offset) :=
  field_neverRefuses.bind fun _ _ => Outcome.neverRefuses_pure

theorem decodeMode_neverRefuses {block : List UInt8} {l : Layout} :
    Outcome.NeverRefuses (decodeMode block l) := by
  refine byteAt_neverRefuses.bind fun code _ => byteAt_neverRefuses.bind fun flag _ => ?_
  repeat' split
  all_goals simp [Error.isRefusal]

theorem activeVfo_neverRefuses {f : StatusFlags} : Outcome.NeverRefuses f.activeVfo := by
  unfold StatusFlags.activeVfo
  repeat' split
  all_goals simp [Error.isRefusal]

/-- The status flags name VFO A, VFO B or memory mode. -/
theorem activeVfo_mem {f : StatusFlags} (h : f.activeVfo = .ok v) :
    v ∈ [Vfo.a, .b, .memory] := by
  unfold StatusFlags.activeVfo at h
  repeat' split at h
  all_goals cases h
  all_goals decide

theorem setMode_sends {m : Mode} {narrow : Bool} {r : Request} (h : setMode m narrow = .ok r.frame) :
    Sends d region k r := by
  obtain ⟨code, -, h⟩ := Outcome.bind_eq_ok.1 h
  exact .filled .setMode [] [code] (by decide) h

theorem selection_sends {r : Request} (h : selection k v = .ok r.frame) : Sends d region k r := by
  unfold selection at h
  split at h
  · exact .complete .selectVfoA h
  · exact .complete .selectVfoB h
  · obtain ⟨channel, -, h⟩ := Outcome.bind_eq_ok.1 h
    exact .filled .recallMemory [] [channel] (by decide) h
  · cases h

theorem setClarifier_filled {offset : Int} {frame : List UInt8} (h : setClarifier offset = .ok frame) :
    ∃ payload params, Command.clarifier.frameWith payload params = .ok frame := by
  by_cases hbig : maxClarifier < offset.natAbs
  · simp [setClarifier, hbig] at h
  · simp only [setClarifier, hbig, if_false] at h
    obtain ⟨digits, -, h⟩ := Outcome.bind_eq_ok.1 h
    exact ⟨digits, _, h⟩

/-- Setting the offset takes at least one frame, and all of them are of one command. -/
theorem clarifierFrames_ok {offset : Int} {frames : List (List UInt8)}
    (h : clarifierFrames offset = .ok frames) : (∃ frame, frames.getLast? = some frame) ∧
      ∀ frame ∈ frames, ∃ payload params, Command.clarifier.frameWith payload params = .ok frame := by
  unfold clarifierFrames at h
  split at h
  · obtain ⟨off, hoff, h⟩ := Outcome.bind_eq_ok.1 h
    cases h
    exact ⟨⟨_, rfl⟩, List.forall_mem_singleton.2 ⟨[], _, hoff⟩⟩
  · obtain ⟨value, hvalue, h⟩ := Outcome.bind_eq_ok.1 h
    obtain ⟨on, hon, h⟩ := Outcome.bind_eq_ok.1 h
    cases h
    refine ⟨⟨_, rfl⟩, List.forall_mem_cons.2 ⟨⟨[], _, hon⟩, ?_⟩⟩
    exact List.forall_mem_singleton.2 (setClarifier_filled hvalue)

theorem clarifierFrames_sends {offset : Int} {frames : List (List UInt8)} {r : Request}
    (h : clarifierFrames offset = .ok frames) (hr : r.frame ∈ frames) : Sends d region k r := by
  obtain ⟨payload, params, hframe⟩ := (clarifierFrames_ok h).2 _ hr
  exact .filled .clarifier payload params (by decide) hframe

/-! ## Operations -/

section

variable (hk : k.Declared d)
include hk

theorem send_obeys {operation : String} {frame : List UInt8}
    (h : Sends d region k { operation, frame }) :
    (send operation frame).Obeys (contract d region) k fun _ k' => k' = k :=
  .tell hk h rfl

theorem command_obeys {operation : String} (hc : c.template.isComplete = true) :
    (command operation c).Obeys (contract d region) k fun _ k' => k' = k := by
  obtain ⟨frame, hf⟩ := frame_of_complete hc
  refine .lift_bind hk (fun _ => hf ▸ Outcome.neverRefuses_ok) fun _ h => ?_
  exact send_obeys hk (.complete c h)

/-- Reading a status block moves nothing. -/
theorem readBlock_obeys (hc : c.template.isComplete = true) :
    (readBlock c).Obeys (contract d region) k fun _ k' => k'.vfo = k.vfo := by
  obtain ⟨frame, hf⟩ := frame_of_complete hc
  refine .lift_bind hk (fun _ => hf ▸ Outcome.neverRefuses_ok) fun _ h => ?_
  refine .bind (.ask hk (.complete c h) fun _ => rfl) ?_
  rintro block _ _ rfl
  refine .known_bind (.bind (R := fun _ k' => k'.vfo = _) (.learn ?_ rfl) ?_)
  · exact ⟨hk.mem, hk.ne_current⟩
  · exact fun _ _ hk' h => .pure hk' h

/-- A VFO that was selected is selected. -/
theorem select_honours :
    (select d v).Honours (contract d region) k fun _ k' => k'.vfo = k.resolve v := by
  refine .known_bind (.lift_bind hk fun _ hv => .lift_bind hk fun frame hf => .of_obeys ?_)
  refine .bind (send_obeys hk (selection_sends hf)) ?_
  rintro _ _ _ rfl
  refine (Dialogue.selected_obeys hk hk.resolve_ne_current fun _ => ?_)
  exact (Descriptor.checkVfo_ok.1 hv).resolve_left hk.resolve_ne_current

/-- After switching to a VFO it is selected. -/
theorem switchTo_honours :
    (switchTo d v).Honours (contract d region) k fun _ k' => k'.vfo = k.resolve v := by
  refine .known_bind ?_
  split
  · exact select_honours hk
  · rename_i h
    exact .of_obeys (.pure hk (Classical.not_not.1 h).symm)

theorem readChannel_obeys :
    readChannel.Obeys (contract d region) k fun _ k' => k'.vfo = k.vfo := by
  refine .bind (readBlock_obeys hk rfl) fun block k₁ hk₁ h₁ => ?_
  refine .lift_bind hk₁ (fun _ => byteAt_neverRefuses.bind fun _ _ => Outcome.neverRefuses_pure) ?_
  intro channel _
  refine .known_bind (.bind (R := fun _ k' => k'.vfo = k.vfo) (.learn ?_ h₁) ?_)
  · exact ⟨hk₁.mem, hk₁.ne_current⟩
  · exact fun _ _ hk' h => .pure hk' h

/-- The rig reports a VFO that can be read. -/
theorem queryVfo_obeys :
    (queryVfo d).Obeys (contract d region) k fun v _ => v ∈ [Vfo.a, .b, .memory] := by
  refine .bind (readBlock_obeys hk rfl) fun block k₁ hk₁ _ => ?_
  refine .lift_bind hk₁ (fun _ => byteAt_neverRefuses.map) fun flags _ => ?_
  refine .lift_bind hk₁ (fun _ => activeVfo_neverRefuses) fun v hv => ?_
  have hv := activeVfo_mem hv
  have hne : v ≠ .current := fun h => by simp [h] at hv
  have hselected : ∀ k', k'.Declared d → (do Dialogue.selected d v; return v : Dialogue Vfo).Obeys
      (contract d region) k' fun v _ => v ∈ [Vfo.a, .b, .memory] := fun k' hk' =>
    .bind (Dialogue.selected_obeys hk' hne fun hd => hd v hv) fun _ _ hk'' _ => .pure hk'' hv
  split
  · have hread : (discard readChannel).Obeys (contract d region) k₁ fun _ _ => True :=
      .discard (readChannel_obeys hk₁) fun _ _ _ _ => trivial
    exact .bind hread fun _ k' hk' _ => hselected k' hk'
  · exact hselected k₁ hk₁

/-- The record of a VFO can be read if there is one. -/
theorem readRecord_obeys (hv : ∃ s, source v = .ok s) :
    (readRecord v).Obeys (contract d region) k fun _ k' => k'.vfo = k.vfo := by
  obtain ⟨s, hs⟩ := hv
  refine .lift_bind hk (fun _ => hs ▸ Outcome.neverRefuses_ok) fun (c, l) hc => ?_
  exact .bind (readBlock_obeys hk (source_complete hc)) fun _ _ hk' h => .pure hk' h

theorem readRecord_honours :
    (readRecord v).Honours (contract d region) k fun _ k' => k'.vfo = k.vfo := by
  refine .lift_bind hk fun (c, l) hc => .of_obeys ?_
  exact .bind (readBlock_obeys hk (source_complete hc)) fun _ _ hk' h => .pure hk' h

theorem getFrequency_honours :
    (getFrequency d v).Honours (contract d region) k fun _ _ => True := by
  have hdecode : ∀ {k' : Tracking} {block : List UInt8} {l : Layout}, k'.Declared d →
      (liftM (decodeFrequency block l) : Dialogue Nat).Obeys (contract d region) k' fun _ _ => True :=
    fun hk' => .lift hk' (fun _ => field_neverRefuses.bind fun _ _ => Outcome.neverRefuses_pure)
      fun _ _ => trivial
  refine .lift_bind hk fun _ _ => ?_
  split
  · refine .of_obeys (.bind (queryVfo_obeys hk) fun v k' hk' hv => ?_)
    refine .bind (readRecord_obeys hk' ?_) fun (_, _) _ hk'' _ => hdecode hk''
    simp only [List.mem_cons, List.not_mem_nil, or_false] at hv
    rcases hv with rfl | rfl | rfl <;> exact ⟨_, rfl⟩
  · rw [Dialogue.pure_then]
    exact .bind (readRecord_honours hk) fun (_, _) _ hk' _ => hdecode hk'

/-- What is sent is checked for the VFO that is selected by then. -/
theorem setFrequencyOf_honours {hz : Nat} :
    (setFrequencyOf d region v hz).Honours (contract d region) k fun _ _ => True := by
  refine .lift_bind hk fun _ _ => .known_bind (.lift_bind hk fun _ hc => ?_)
  refine .lift_bind hk fun frame hf => .bind (switchTo_honours hk) fun _ k' hk' hv => ?_
  rw [Tracking.resolve_of_ne hk.resolve_ne_current] at hv
  exact (send_obeys hk' (.tune hz hf (hv ▸ hc))).any

theorem getMode_honours :
    (getMode d v).Honours (contract d region) k fun _ _ => True := by
  refine .lift_bind hk fun _ _ => .known_bind (.bind (readRecord_honours hk) ?_)
  refine fun (_, _) _ hk' _ => .lift_bind hk' (fun _ => decodeMode_neverRefuses) fun _ _ => ?_
  exact .pure hk' trivial

theorem setModeOf_honours {m : Mode} {width : Option Passband} :
    (setModeOf d region v m width).Honours (contract d region) k fun _ _ => True := by
  refine .lift_bind hk fun _ _ => .lift_bind hk fun _ _ => .lift_bind hk fun narrow _ => ?_
  refine .lift_bind hk fun frame hf => .known_bind ?_
  have hsend : ∀ k', k'.Declared d →
      (send "set_mode" frame).Obeys (contract d region) k' fun _ _ => True :=
    fun k' hk' => (send_obeys hk' (setMode_sends hf)).any
  dsimp only
  split
  · exact .bind (select_honours hk) fun _ k' hk' _ => hsend k' hk'
  · exact .of_obeys (hsend k hk)

theorem setPtt_honours {on : Bool} :
    (setPtt d v on).Honours (contract d region) k fun _ _ => True := by
  refine .lift_bind hk fun _ _ => .bind (switchTo_honours hk) fun _ k' hk' _ => ?_
  exact (command_obeys hk' (by cases on <;> rfl)).any

theorem getSplit_obeys : getSplit.Obeys (contract d region) k fun _ _ => True := by
  refine .bind (readBlock_obeys hk rfl) fun _ k' hk' _ => ?_
  exact .lift_bind hk' (fun _ => byteAt_neverRefuses.map) fun _ _ => .pure hk' trivial

theorem getRit_honours : (getRit d v).Honours (contract d region) k fun _ _ => True := by
  refine .lift_bind hk fun _ _ => .known_bind (.bind (readRecord_honours hk) ?_)
  refine fun (_, _) _ hk' _ => .lift hk' (fun _ => ?_) fun _ _ => trivial
  exact field_neverRefuses.bind fun _ _ => Outcome.neverRefuses_pure

theorem setRit_honours {offset : Int} :
    (setRit d v offset).Honours (contract d region) k fun _ _ => True := by
  refine .lift_bind hk fun _ _ => .lift_bind hk fun _ _ => .lift_bind hk fun frames hf => ?_
  refine .bind (switchTo_honours hk) fun _ k' hk' _ => .forM hk' trivial ?_
  intro frame hframe k'' hk'' _
  exact (send_obeys hk'' (clarifierFrames_sends hf hframe)).any

theorem getLevel_honours {l : Level} :
    (getLevel d l).Honours (contract d region) k fun _ _ => True := by
  refine .lift_bind hk fun _ _ => ?_
  split
  · exact .fail hk
  · refine .of_obeys (.bind (readBlock_obeys hk rfl) fun _ k' hk' _ => ?_)
    refine .lift_bind hk' (fun _ => byteAt_neverRefuses) fun _ _ => ?_
    exact .lift_bind hk' (fun _ => CalibrationTable.interpolate_neverRefuses) fun _ _ => .pure hk' trivial

theorem setFunc_honours {f : Func} {on : Bool} :
    (setFunc d f on).Honours (contract d region) k fun _ _ => True := by
  refine .lift_bind hk fun _ _ => ?_
  split
  · exact .of_obeys ((command_obeys hk (by cases on <;> rfl)).any)
  · exact .fail hk

theorem setMemory_honours {channel : Nat} :
    (setMemory d channel).Honours (contract d region) k fun _ _ => True := by
  refine .lift_bind hk fun _ _ => .lift_bind hk fun n _ => .lift_bind hk fun frame hf => ?_
  refine .of_obeys (.bind (send_obeys hk (.filled .recallMemory [] [n] (by decide) hf)) ?_)
  rintro _ _ _ rfl
  refine .known_bind (.bind (R := fun _ _ => True) (.learn ?_ trivial) fun _ k' hk' _ => ?_)
  · exact ⟨hk.mem, hk.ne_current⟩
  · refine (Dialogue.selected_obeys hk' (by decide) fun hd => ?_).any
    exact hd .memory (by decide)

theorem vfoOp_honours {o : VfoOp} :
    (vfoOp d o).Honours (contract d region) k fun _ _ => True := by
  refine .lift_bind hk fun _ _ => ?_
  split
  · exact .of_obeys ((command_obeys hk rfl).any)
  · exact .fail hk

theorem sendPacing_honours {value : UInt8} :
    (sendPacing value).Honours (contract d region) k fun _ k' => k' = k :=
  .lift_bind hk fun _ h => .of_obeys (send_obeys hk (.filled .pacing [] [value] (by decide) h))

/-- **The FT-840 honours its contract** in every operation. -/
theorem respond_honours {α : Type} {config : Config} (op : Operation α) :
    (respond d config op).Honours (contract d config.region) k fun _ _ => True := by
  cases op with
  | start => exact .known_bind ((sendPacing_honours hk).any)
  | getFrequency v => exact getFrequency_honours hk
  | setFrequency v hz => exact setFrequencyOf_honours hk
  | getMode v => exact getMode_honours hk
  | setMode v m width => exact setModeOf_honours hk
  | getVfo => exact .of_obeys ((queryVfo_obeys hk).any)
  | setVfo v => exact (select_honours hk).any
  | setPtt v on => exact setPtt_honours hk
  | getSplit v => exact .of_obeys (getSplit_obeys hk)
  | setSplit v on =>
    exact .of_obeys ((command_obeys hk (by cases on <;> rfl)).any)
  | getRit v => exact getRit_honours hk
  | setRit v offset => exact setRit_honours hk
  | getLevel v l => exact getLevel_honours hk
  | setFunc v f on => exact setFunc_honours hk
  | getMemory v => exact .of_obeys ((readChannel_obeys hk).any)
  | setMemory v channel => exact setMemory_honours hk
  | vfoOp v o => exact vfoOp_honours hk
  | setPacing value =>
    refine .bind (sendPacing_honours hk) ?_
    rintro _ _ _ rfl
    exact .known_bind (.learn ⟨hk.mem, hk.ne_current⟩ trivial)
  | close => exact .of_obeys (.hangUp hk (.pure hk trivial))
  | _ => exact .fail hk

end

end RigControl.Ft840
