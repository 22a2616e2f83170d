/-
Where the writes of the FT-840 land. A write that is addressed to a VFO ends with a command of its own
(`lastFrame`), and the simulated rig has noted what was on display when it heard that. If the session and
the rig agree beforehand, it was the VFO that the write names, which was called up first if another one
was on display (`writes_land`).

There is one exception, of which the theorem tells where it lands instead. Setting the mode calls up VFO A
or B but not memory mode, so that the mode of a memory channel is set on whichever VFO is on display
(`setMode_memory_astray`).
-/
import RigControl.Proofs.Mirror.Ft840

namespace RigControl

/-- The VFO that a write to the frequency, the mode, the transmitter or the offset names. -/
def Operation.addressee? {α : Type} : Operation α → Option Vfo
  | setFrequency v _ | setMode v _ _ | setPtt v _ | setRit v _ => some v
  | _ => none

/-- Whether an operation sets the mode. -/
def Operation.setsMode {α : Type} : Operation α → Bool
  | setMode .. => true
  | _ => false

namespace Ft840

variable {answers : Answers} {timeout : Nat} {d : Descriptor} {config : Config} {k : Tracking}
  {v : Vfo} {s s' : Station} {frame : List UInt8}

/-- The last frame of a write that names a VFO. -/
def lastFrame (d : Descriptor) {α : Type} : Operation α → Outcome (List UInt8)
  | .setFrequency _ hz => setFrequency hz
  | .setMode _ m width => do setMode m (← isNarrow d m width)
  | .setPtt _ on => (if on then Command.pttOn else .pttOff).frame
  | .setRit _ offset => do return (← clarifierFrames offset).getLastD []
  | op => .error (.unsupported s!"{op.name} on {d.name}")

/-! ## What the rig has heard -/

/-- The VFO is on display, and was called up if it was not before. -/
structure Called (v : Vfo) (s s' : Station) : Prop where
  display : s'.display.vfo = v
  heard : s' = s ∨ ∃ call, Display.of? call = some s'.display ∧ s' = s.hear call

/-- The last frame was heard with the VFO on display, which was called up first if it was not. -/
def Landed (v : Vfo) (frame : List UInt8) (s s' : Station) : Prop :=
  ∃ front w, s'.heard = s.heard ++ front ++ [(w, frame)] ∧ w.vfo = v ∧
    (s.display.vfo ≠ v → ∃ call rest, front = (s.display, call) :: rest ∧ Display.of? call = some w)

theorem called_of_hear {w : Display} (h : Display.of? frame = some w) :
    Called w.vfo s (s.hear frame) := by
  have hw : (s.hear frame).display = w := by
    rw [Station.hear, h]
    rfl
  exact ⟨congrArg Display.vfo hw, .inr ⟨frame, hw ▸ h, rfl⟩⟩

/-- Frames that call up nothing are heard with the same on display. -/
theorem hear_all {frames : List (List UInt8)} (h : ∀ f ∈ frames, Display.of? f = none) :
    frames.foldl Station.hear s =
      { display := s.display, heard := s.heard ++ frames.map fun f => (s.display, f) } := by
  induction frames generalizing s with
  | nil => simp
  | cons f frames ih =>
    have hf := Station.display_hear (s := s) (h f List.mem_cons_self)
    rw [List.foldl_cons, ih fun f hf => h f (List.mem_cons_of_mem _ hf), hf]
    simp [Station.hear]

/-- Commands behind a call land where it went. -/
theorem Called.landed (h : Called v s s') {frames : List (List UInt8)}
    (hframes : ∀ f ∈ frames, Display.of? f = none) (hlast : frames.getLast? = some frame) :
    Landed v frame s (frames.foldl Station.hear s') := by
  obtain ⟨front, rfl⟩ := List.getLast?_eq_some_iff.1 hlast
  rw [hear_all hframes, List.map_append]
  obtain ⟨hdisplay, rfl | ⟨call, hcall, rfl⟩⟩ := h
  · refine ⟨front.map fun f => (s'.display, f), s'.display, by simp, hdisplay, fun hne => ?_⟩
    exact absurd hdisplay hne
  · refine ⟨(s.display, call) :: front.map fun f => ((s.hear call).display, f), _, ?_, hdisplay,
      fun _ => ⟨call, _, rfl, hcall⟩⟩
    simp [Station.hear]

/-! ## Operations -/

/-- If the conversation succeeds, the rig ends so. -/
def Attains (answers : Answers) (timeout : Nat) {α : Type} (x : Dialogue α) (k : Tracking) (s : Station)
    (R : Station → Prop) : Prop :=
  x.Held (answers.peer timeout) (fun o _ s' => o.isOk = true → R s') k s

section

variable {α β : Type} {R R' : Station → Prop}

theorem Attains.lift_bind {o : Outcome α} {f : α → Dialogue β}
    (hf : ∀ a, o = .ok a → Attains answers timeout (f a) k s R) :
    Attains answers timeout ((liftM o : Dialogue α) >>= f) k s R :=
  Dialogue.held_lift_bind hf fun _ _ => nofun

theorem Attains.bind {x : Dialogue α} {f : α → Dialogue β} (hx : Attains answers timeout x k s R)
    (hf : ∀ a k' s', R s' → Attains answers timeout (f a) k' s' R') :
    Attains answers timeout (x >>= f) k s R' := by
  refine Dialogue.held_bind (Dialogue.held_mono (fun o k' s' hend => ?_) hx)
  cases o with
  | ok a => exact hf a k' s' (hend rfl)
  | error e => exact nofun

end

theorem select_attains :
    Attains answers timeout (select d v) k s (Called (k.resolve v) s) := by
  refine .lift_bind (o := d.checkVfo (k.resolve v)) fun _ _ => .lift_bind fun frame h => ?_
  obtain ⟨c, w, hyields, hc, hw⟩ := selection_yields h
  refine Dialogue.held_bind (Dialogue.held_mono (fun o k' s' hend => ?_) (send_held hyields.length))
  obtain ⟨rfl, rfl⟩ := hend
  cases o with
  | error e => exact nofun
  | ok u =>
    rw [← hw]
    refine Dialogue.held_selected (fun _ _ _ => ?_) fun _ _ => nofun
    exact called_of_hear (hyields.display.trans hc)

theorem switchTo_attains (hs : s.display.vfo = k.vfo) :
    Attains answers timeout (switchTo d v) k s (Called (k.resolve v) s) := by
  show Attains answers timeout (if k.resolve v ≠ k.vfo then select d v else pure ()) k s _
  split
  · exact select_attains
  · rename_i hsame
    exact fun _ => ⟨hs.trans (Classical.not_not.1 hsame).symm, .inl rfl⟩

/-- Frames of one command are heard in turn. -/
theorem sends_attain {operation : String} {c : Command} {frames : List (List UInt8)}
    (h : ∀ f ∈ frames, c.Yields f) :
    Attains answers timeout (frames.forM (send operation)) k s
      fun s' => s' = frames.foldl Station.hear s := by
  induction frames generalizing k s with
  | nil => exact fun _ => rfl
  | cons f frames ih =>
    have hf := (h f List.mem_cons_self).length
    refine Dialogue.held_bind (Dialogue.held_mono (fun o k' s' hend => ?_) (send_held hf))
    obtain ⟨rfl, rfl⟩ := hend
    cases o with
    | ok u => exact ih fun f hf => h f (List.mem_cons_of_mem _ hf)
    | error e => exact nofun

/-- Once the VFO is on display, the frames of a command land there. -/
theorem land {x : Dialogue Unit} {operation : String} {c : Command} {frames : List (List UInt8)}
    (hx : Attains answers timeout x k s (Called v s)) (h : ∀ f ∈ frames, c.Yields f)
    (hc : c.display? = none) (hlast : frames.getLast? = some frame) :
    Attains answers timeout (do x; frames.forM (send operation)) k s (Landed v frame s) := by
  refine hx.bind fun _ k' s' hcalled => ?_
  refine Dialogue.held_mono (fun o _ s'' hheard hok => ?_) (sends_attain h)
  rw [hheard hok]
  exact hcalled.landed (fun f hf => (h f hf).display.trans hc) hlast

/-- A conversation that ends with one frame is one of a row of frames. -/
theorem land_one {x : Dialogue Unit} {operation : String} {c : Command}
    (hx : Attains answers timeout x k s (Called v s)) (h : c.Yields frame) (hc : c.display? = none) :
    Attains answers timeout (do x; send operation frame) k s (Landed v frame s) :=
  land hx (fun _ hf => List.mem_singleton.1 hf ▸ h) hc (rfl : [frame].getLast? = some frame)

/-- Where a write that names a VFO is to land: there, but for a mode of the memory channel, which lands on
whatever is on display. -/
def landing (k : Tracking) (v : Vfo) {α : Type} (op : Operation α) : Vfo :=
  if op.setsMode = true ∧ k.resolve v = .memory then k.vfo else k.resolve v

/-- The write lands with its last frame. -/
def Lands (answers : Answers) (timeout : Nat) (d : Descriptor) (config : Config) {α : Type}
    (op : Operation α) (v : Vfo) (k : Tracking) (s : Station) : Prop :=
  Attains answers timeout (respond d config op) k s fun s' =>
    ∃ frame, lastFrame d op = .ok frame ∧ Landed (landing k v op) frame s s'

theorem landing_of_not {α : Type} {op : Operation α} (h : op.setsMode = false) :
    landing k v op = k.resolve v := by
  refine if_neg fun hmode => ?_
  rw [h] at hmode
  exact Bool.false_ne_true hmode.1

/-- A write lands if its last frame does. -/
theorem Attains.lands {α β : Type} {x : Dialogue α} {op : Operation β} {w : Vfo}
    (h : Attains answers timeout x k s (Landed w frame s)) (hframe : lastFrame d op = .ok frame)
    (hw : landing k v op = w) : Attains answers timeout x k s fun s' =>
      ∃ frame, lastFrame d op = .ok frame ∧ Landed (landing k v op) frame s s' := by
  refine Dialogue.held_mono (fun o _ s' hend hok => ⟨frame, hframe, ?_⟩) h
  rw [hw]
  exact hend hok

section

variable (hs : s.display.vfo = k.vfo)
include hs

theorem resolve_resolve : k.resolve (k.resolve v) = k.resolve v := by
  have hne : k.vfo ≠ .current := hs ▸ s.display.vfo_ne_current
  by_cases hcur : v = .current
  · rw [hcur, Tracking.resolve_current, Tracking.resolve_of_ne hne]
  · rw [Tracking.resolve_of_ne hcur, Tracking.resolve_of_ne hcur]

theorem setFrequency_lands {hz : Nat} :
    Lands answers timeout d config (.setFrequency v hz) v k s := by
  refine .lift_bind fun _ _ => ?_
  refine .lift_bind (o := d.checkRxFrequency config.region (k.resolve v) hz) fun _ _ => ?_
  refine .lift_bind fun frame hframe => ?_
  obtain ⟨digits, -, hbuilt⟩ := Outcome.bind_eq_ok.1 hframe
  have hyields : Command.setFrequency.Yields frame := .inr ⟨digits, [], hbuilt⟩
  have hswitched : Attains answers timeout (switchTo d (k.resolve v)) k s
      (Called (k.resolve (k.resolve v)) s) := switchTo_attains hs
  rw [resolve_resolve hs] at hswitched
  exact (land_one hswitched hyields rfl).lands hframe (landing_of_not rfl)

/-- Setting the mode calls up VFO A or B in any case, and memory mode in none. -/
theorem setMode_lands {m : Mode} {width : Option Passband}
    (hd : ∀ v ∈ d.vfos, v ∈ [Vfo.a, .b, .memory]) :
    Lands answers timeout d config (.setMode v m width) v k s := by
  refine .lift_bind fun _ hv => .lift_bind fun _ _ => .lift_bind fun narrow hnarrow => ?_
  refine .lift_bind fun frame hframe => ?_
  obtain ⟨code, -, hbuilt⟩ := Outcome.bind_eq_ok.1 hframe
  have hyields : Command.setMode.Yields frame := .inr ⟨[], [code], hbuilt⟩
  have hlast : lastFrame d (.setMode v m width) = .ok frame :=
    Outcome.bind_eq_ok.2 ⟨narrow, hnarrow, hframe⟩
  show Attains answers timeout (if k.resolve v = .a ∨ k.resolve v = .b then
    (do select d (k.resolve v); send "set_mode" frame) else send "set_mode" frame) k s _
  split
  · rename_i htarget
    have hselected : Attains answers timeout (select d (k.resolve v)) k s
        (Called (k.resolve (k.resolve v)) s) := select_attains
    rw [resolve_resolve hs] at hselected
    have hlanding : landing k v (.setMode v m width) = k.resolve v := by
      refine if_neg fun h => ?_
      rw [h.2] at htarget
      simp at htarget
    exact (land_one hselected hyields rfl).lands hlast hlanding
  · rename_i htarget
    have hmemory : k.resolve v = .memory := by
      have hmem : k.resolve v ∈ [Vfo.a, .b, .memory] := by
        by_cases hcur : v = .current
        · rw [hcur, Tracking.resolve_current, ← hs]
          exact s.display.vfo_mem
        · rw [Tracking.resolve_of_ne hcur]
          exact hd v ((Descriptor.checkVfo_ok.1 hv).resolve_left hcur)
      simp only [List.mem_cons, List.not_mem_nil, or_false] at hmem
      rcases hmem with h | h | h
      · exact absurd (.inl h) htarget
      · exact absurd (.inr h) htarget
      · exact h
    have hstays : Attains answers timeout (pure () : Dialogue Unit) k s (Called k.vfo s) :=
      fun _ => ⟨hs, .inl rfl⟩
    have hlanding : landing k v (.setMode v m width) = k.vfo := if_pos ⟨rfl, hmemory⟩
    exact (land_one hstays hyields rfl).lands hlast hlanding

theorem setPtt_lands {on : Bool} : Lands answers timeout d config (.setPtt v on) v k s := by
  have hcomplete : (if on then Command.pttOn else .pttOff).template.isComplete = true := by
    cases on <;> rfl
  obtain ⟨frame, hframe⟩ := frame_of_complete hcomplete
  have hcommand : command "set_ptt" (if on then .pttOn else .pttOff) = send "set_ptt" frame := by
    rw [command, hframe]
    rfl
  refine .lift_bind fun _ _ => ?_
  rw [hcommand]
  have hnone : (if on then Command.pttOn else .pttOff).display? = none := by
    cases on <;> rfl
  exact (land_one (switchTo_attains hs) (.inl hframe) hnone).lands hframe (landing_of_not rfl)

theorem setRit_lands {offset : Int} : Lands answers timeout d config (.setRit v offset) v k s := by
  refine .lift_bind fun _ _ => .lift_bind fun _ _ => .lift_bind fun frames hframes => ?_
  obtain ⟨frame, hlast⟩ := (clarifierFrames_ok hframes).1
  have hframe : lastFrame d (.setRit v offset) = .ok frame := by
    refine Outcome.bind_eq_ok.2 ⟨frames, hframes, ?_⟩
    rw [List.getLastD_eq_getLast?, hlast]
    rfl
  have hyields : ∀ f ∈ frames, Command.clarifier.Yields f := fun f => clarifierFrames_yields hframes
  exact (land (switchTo_attains hs) hyields rfl hlast).lands hframe (landing_of_not rfl)

end

/-! ## Sessions -/

/-- **A write lands on the VFO that it names.** Once it has succeeded, the last frame that the rig has
heard is its command, and that VFO was on display then, called up first if it was not before. A mode of
the memory channel lands on whatever was on display. -/
theorem writes_land {e : Entry} {r : Rig (Simulated Station)} {α : Type}
    (he : Registry.standard.find? "FT-840" = some e) (hb : r.backend = .ft840)
    (hd : r.session.descriptor = e.descriptor) (hr : r.Mirrored (answers.peer timeout))
    {op : Operation α} (hop : op.addressee? = some v)
    (hok : ((Rig.perform op).run r).1.isOk = true) :
    let k := r.session.known
    let target := if op.setsMode = true ∧ k.resolve v = .memory then k.vfo else k.resolve v
    let before := r.session.engine.port.link.rig
    let after := ((Rig.perform op).run r).2.session.engine.port.link.rig
    ∃ frame front w, lastFrame e.descriptor op = .ok frame ∧
      after.heard = before.heard ++ front ++ [(w, frame)] ∧ w.vfo = target ∧
      (k.vfo ≠ target →
        ∃ call rest, front = (before.display, call) :: rest ∧ Display.of? call = some w) := by
  rw [find_standard] at he
  cases he
  have hvfos : ∀ v ∈ Models.ft840.vfos, v ∈ [Vfo.a, .b, .memory] := by
    intro v
    cases v <;> decide
  have hs : r.session.engine.port.link.rig.display.vfo = r.session.known.vfo := hr.shows
  have hlands : Lands answers timeout Models.ft840 r.session.config op v r.session.known
      r.session.engine.port.link.rig := by
    cases op with
    | setFrequency u hz =>
      cases hop
      exact setFrequency_lands hs
    | setMode u m width =>
      cases hop
      exact setMode_lands hs hvfos
    | setPtt u on =>
      cases hop
      exact setPtt_lands hs
    | setRit u offset =>
      cases hop
      exact setRit_lands hs
    | _ => cases hop
  have hdialogue : r.dialogue op = respond Models.ft840 r.session.config op := by
    rw [Rig.dialogue, hb, hd]
    rfl
  rw [Lands, ← hdialogue] at hlands
  obtain ⟨-, hend⟩ := Dialogue.held_run hr.attends hlands
  obtain ⟨frame, hframe, front, w, hheard, hw, hcalled⟩ := hend hok
  rw [hs] at hcalled
  exact ⟨frame, front, w, hframe, hheard, hw, hcalled⟩

/-- From VFO A an offset is set on VFO B, which is called up first. -/
theorem writes_land_other :
    let r : Rig (Simulated Station) := ⟨.ft840, .start Models.ft840 {} Answers.plain.link⟩
    let after := ((Rig.perform (.setRit .b (-120))).run r).2.session.engine.port.link.rig
    ((Rig.perform (.setRit .b (-120))).run r).1.isOk = true ∧
      ∃ front, after.heard = front ++ [(.b, [0x12, 0x00, 0xFF, 0xFF, 0x09])] ∧
        ∃ call rest, front = (.a, call) :: rest ∧ Display.of? call = some .b := by
  intro r after
  have hok : ((Rig.perform (.setRit .b (-120))).run r).1.isOk = true := by decide +kernel
  have hr : r.Mirrored (Answers.plain.peer 2000) := ⟨⟨rfl, rfl, rfl, rfl⟩, rfl⟩
  obtain ⟨frame, front, w, hframe, hheard, hw, hcalled⟩ :=
    writes_land find_standard rfl rfl hr (rfl : (Operation.setRit .b (-120)).addressee? = some .b) hok
  have hlast : lastFrame Models.ft840 (.setRit .b (-120)) = .ok [0x12, 0x00, 0xFF, 0xFF, 0x09] := by
    decide +kernel
  cases hlast.symm.trans hframe
  have hb : w = .b := by
    have hw : w.vfo = .b := hw
    cases w <;> first | rfl | cases hw
  subst hb
  exact ⟨hok, front, hheard, hcalled (by decide)⟩

/-- The mode of the memory channel is set from VFO A. This succeeds, all that the rig has heard is the
mode, and it has heard that with VFO A on display. -/
theorem setMode_memory_astray :
    let r : Rig (Simulated Station) := ⟨.ft840, .start Models.ft840 {} Answers.plain.link⟩
    let after := ((Rig.perform (.setMode .memory .usb none)).run r).2.session.engine.port.link.rig
    Vfo.memory ∈ Models.ft840.vfos ∧ r.Mirrored (Answers.plain.peer 2000) ∧
      ((Rig.perform (.setMode .memory .usb none)).run r).1.isOk = true ∧
      after.heard = [(.a, [0x00, 0x00, 0x00, 0x01, 0x0C])] ∧
      ¬ ∃ front w frame, after.heard = front ++ [(w, frame)] ∧ w.vfo = .memory := by
  intro r after
  have hheard : after.heard = [(.a, [0x00, 0x00, 0x00, 0x01, 0x0C])] := by decide +kernel
  refine ⟨by decide, ⟨⟨rfl, rfl, rfl, rfl⟩, rfl⟩, by decide +kernel, hheard, ?_⟩
  rintro ⟨front, w, frame, hlast, hw⟩
  rw [hheard] at hlast
  have hend := congrArg List.getLast? hlast
  rw [List.getLast?_concat] at hend
  cases hend
  cases hw

end Ft840

end RigControl
