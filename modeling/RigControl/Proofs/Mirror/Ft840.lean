/-
The FT-840 and its session. The rig acknowledges nothing, so that the session goes by what it has sent
and by the status flags. A simulated rig takes the frames that call up VFO A, VFO B or memory mode
(`Display.of?`), notes every frame with what was on display then, and answers as it likes, except that its
status flags name what is on display.

The session and that rig agree after any operations (`selection_mirrored`). A command for a VFO reaches
the rig while that one is on display (`writes_land`), but for one case: setting the mode of the memory
channel does not call up memory mode (`setMode_memory_astray`).
-/
import RigControl.Proofs.FixedFrames
import RigControl.Proofs.Mirror.Basic
import RigControl.Proofs.Registered

namespace RigControl.Ft840

/-! ## Frames -/

/-- What is on display. -/
inductive Display where
  | a
  | b
  | memory
deriving DecidableEq, Repr

namespace Display

def vfo : Display → Vfo
  | a => .a
  | b => .b
  | memory => .memory

/-- What a frame calls up, if anything. Memory mode is called up with any channel. -/
def of? (frame : List UInt8) : Option Display :=
  if frame = [0, 0, 0, 0, 0x05] then some a
  else if frame = [0, 0, 0, 1, 0x05] then some b
  else if frame[4]? = some 0x02 then some memory
  else none

theorem vfo_mem (w : Display) : w.vfo ∈ [Vfo.a, .b, .memory] := by
  cases w <;> decide

theorem vfo_ne_current (w : Display) : w.vfo ≠ .current := by
  cases w <;> decide

end Display

namespace Command

/-- What the frames of a command call up. -/
def display? : Command → Option Display
  | selectVfoA => some .a
  | selectVfoB => some .b
  | recallMemory => some .memory
  | _ => none

/-- The frame is one of the command. -/
def Yields (c : Command) (frame : List UInt8) : Prop :=
  c.frame = .ok frame ∨ ∃ payload params, c.frameWith payload params = .ok frame

variable {c : Command} {frame : List UInt8}

theorem Yields.length (h : c.Yields frame) : frame.length = 5 := by
  rcases h with h | ⟨payload, params, h⟩
  · obtain ⟨-, hlength, rfl⟩ := FixedFrame.frame_ok h
    exact hlength
  · exact FixedFrame.length_build h

/-- Parameters do not change what a frame calls up, as the code of the command stays. -/
theorem Yields.display (h : c.Yields frame) : Display.of? frame = c.display? := by
  rcases h with h | ⟨payload, params, h⟩
  · obtain ⟨-, -, rfl⟩ := FixedFrame.frame_ok h
    cases c <;> rfl
  · obtain ⟨hopen, -, -, hpayload, -⟩ := FixedFrame.build_ok h
    have hcode : frame[4]? = c.template.bytes[4]? :=
      FixedFrame.getElem?_build h (Nat.le_of_lt_succ hpayload) (by decide)
    have ha : frame[4]? ≠ some 0x05 → frame ≠ [0, 0, 0, 0, 0x05] ∧ frame ≠ [0, 0, 0, 1, 0x05] := by
      intro hne
      constructor <;> rintro rfl <;> exact hne rfl
    obtain ⟨ha, hb⟩ := ha (by rw [hcode]; cases c <;> first | decide | cases hopen)
    rw [Display.of?, if_neg ha, if_neg hb, hcode]
    cases c <;> first | rfl | cases hopen

end Command

/-! ## The simulated rig -/

/-- A rig in operation. -/
structure Station where
  display : Display := .a
  /-- The frames that it has heard, each with what was on display then. -/
  heard : List (Display × List UInt8) := []
deriving DecidableEq, Repr

namespace Station

def hear (s : Station) (frame : List UInt8) : Station where
  display := (Display.of? frame).getD s.display
  heard := s.heard ++ [(s.display, frame)]

/-- A frame that calls up nothing leaves the display alone. -/
theorem display_hear {s : Station} {frame : List UInt8} (h : Display.of? frame = none) :
    (s.hear frame).display = s.display := by
  rw [hear, h]
  rfl

end Station

/-- What a rig answers to its frames. The status flags name what is on display. -/
structure Answers where
  reply : Station → List UInt8 → List UInt8
  flags : ∀ s, ∃ f, StatusFlags.ofBlock (reply s Command.readFlags.template.bytes) = .ok f ∧
    f.activeVfo = .ok s.display.vfo

namespace Answers

/-- Status flags that name what is on display, and zeros to every other reading command. -/
def plain : Answers where
  reply s frame :=
    if frame = Command.readFlags.template.bytes then
      [match s.display with | .a => 0x80 | .b => 0xC0 | .memory => 0x20, 0, 0, 0, 0]
    else
      match Command.all.find? fun c => c.template.bytes == frame with
      | some c => List.replicate c.replyLength 0
      | none => []
  flags s := by
    rw [if_pos rfl]
    cases s.display <;> exact ⟨_, rfl, rfl⟩

variable (answers : Answers)

def device : Device Station where
  isWhole bytes := bytes.length == 5
  next := Station.hear
  answer := answers.reply

def peer (timeout : Nat) : Peer Station where
  device := answers.device
  timeout := timeout
  shows v s := s.display.vfo = v

/-- The link to the rig, which has VFO A on display. -/
def link : Simulated Station where
  device := answers.device
  rig := {}

theorem framed {frame : List UInt8} (h : frame.length = 5) : answers.device.Framed frame where
  ne_nil := by
    rintro rfl
    cases h
  whole_iff := by
    rintro front rest rfl -
    rw [List.length_append] at h
    show (front.length == 5) = true ↔ rest = []
    rw [beq_iff_eq, ← List.length_eq_zero_iff]
    omega

end Answers

variable {answers : Answers} {timeout : Nat} {d : Descriptor} {config : Config} {k : Tracking}
  {v : Vfo} {c : Command} {s : Station} {frame : List UInt8}

/-- A command that calls up nothing leaves the selection alone. -/
theorem keeps_of_yields {r : Request} (h : c.Yields r.frame) (hc : c.display? = none) :
    (answers.peer timeout).Keeps r := by
  have hnone : Display.of? r.frame = none := h.display.trans hc
  refine .of_next (answers.framed h.length) fun v s hs => ?_
  show (s.hear r.frame).display.vfo = v
  rw [Station.display_hear hnone]
  exact hs

/-- A frame that is sent is heard, unless the link is down. -/
theorem send_held {operation : String} (hlength : frame.length = 5) :
    (send operation frame).Held (answers.peer timeout)
      (fun o k' s' => k' = k ∧ s' = if o.isOk then s.hear frame else s) k s := by
  refine ⟨answers.framed hlength, fun o s' hturn => ?_⟩
  rcases hturn.written (answers.framed hlength) rfl with ⟨rfl, rfl⟩ | ⟨rfl, rfl⟩
  · exact ⟨rfl, rfl⟩
  · exact ⟨rfl, rfl⟩

theorem send_mirrors {operation : String} (h : c.Yields frame) (hc : c.display? = none) :
    (send operation frame).Mirrors (answers.peer timeout) k.vfo k fun _ k' => k' = k :=
  .tell (keeps_of_yields h hc) rfl

theorem send_moves {operation : String} {w : Display} (h : c.Yields frame)
    (hc : c.display? = some w) : (send operation frame).Moves (answers.peer timeout) w.vfo k := by
  intro s hs
  refine Dialogue.held_mono (fun o k' s' hend => ?_) (send_held h.length)
  obtain ⟨rfl, rfl⟩ := hend
  refine ⟨rfl, ?_⟩
  cases o with
  | ok u =>
    show ((Display.of? frame).getD s.display).vfo = w.vfo
    rw [h.display, hc]
    rfl
  | error e => exact hs

/-! ## Operations -/

theorem command_mirrors {operation : String} (hc : c.display? = none) :
    (command operation c).Mirrors (answers.peer timeout) k.vfo k fun _ _ => True :=
  .lift_bind fun _ h => (send_mirrors (.inl h) hc).any

theorem readBlock_mirrors (hc : c.display? = none) :
    (readBlock c).Mirrors (answers.peer timeout) k.vfo k fun _ k' => k'.vfo = k.vfo := by
  refine .lift_bind fun frame h => .bind (.ask (keeps_of_yields (.inl h) hc) fun _ => rfl) ?_
  rintro block _ rfl
  exact .known_bind (.learn_bind (.pure rfl rfl))

theorem readChannel_mirrors :
    readChannel.Mirrors (answers.peer timeout) k.vfo k fun _ k' => k'.vfo = k.vfo := by
  refine .bind (readBlock_mirrors rfl) fun block k' hk' => .lift_bind fun channel _ => ?_
  exact .known_bind (.learn_bind (.pure rfl hk'))

theorem source_display {l : Layout} (h : source v = .ok (c, l)) : c.display? = none := by
  cases v <;> cases h <;> rfl

theorem readRecord_mirrors :
    (readRecord v).Mirrors (answers.peer timeout) k.vfo k fun _ _ => True :=
  .lift_bind fun (_, _) h => .bind (readBlock_mirrors (source_display h)) fun _ _ _ => .pure rfl trivial

/-- Status flags that are cut short are the same flags. -/
theorem ofBlock_append {block rest : List UInt8} {f : StatusFlags}
    (h : StatusFlags.ofBlock block = .ok f) : StatusFlags.ofBlock (block ++ rest) = .ok f := by
  cases block with
  | nil => cases h
  | cons b block => exact h

/-- The status flags name the VFO that the session knows already. -/
theorem readFlags_mirrors : (readBlock .readFlags).Mirrors (answers.peer timeout) k.vfo k
    fun block k' => ∀ f v, StatusFlags.ofBlock block = .ok f → f.activeVfo = .ok v → v = k'.vfo := by
  refine .lift_bind fun frame hframe => .bind (R := fun block k' => k' = k ∧ ∀ f v,
    StatusFlags.ofBlock block = .ok f → f.activeVfo = .ok v → v = k.vfo) (fun s hs => ?_) ?_
  · cases hframe
    have hframed : answers.device.Framed Command.readFlags.template.bytes := answers.framed rfl
    have hkeeps : ∀ s : Station, s.display.vfo = k.vfo →
        (s.hear Command.readFlags.template.bytes).display.vfo = k.vfo := fun s hs => hs
    refine ⟨hframed, fun o s' hturn => ?_⟩
    have hs' : s'.display.vfo = k.vfo := hturn.keeps hframed hkeeps hs
    cases o with
    | error e => exact ⟨hs', nofun⟩
    | ok reply =>
      refine ⟨hs', fun _ h => ?_⟩
      cases h
      refine ⟨rfl, fun f v hf hv => ?_⟩
      -- The block is the front of an answer, and its first byte has the flags.
      obtain ⟨n, rest, hanswer⟩ := hturn.read hframed rfl rfl rfl
      obtain ⟨g, hg, hdisplay⟩ := answers.flags
        (answers.device.again Command.readFlags.template.bytes n s)
      have hanswer : answers.reply (answers.device.again Command.readFlags.template.bytes n s)
          Command.readFlags.template.bytes = reply ++ rest := hanswer
      rw [hanswer, ofBlock_append hf] at hg
      cases hg
      rw [hv] at hdisplay
      exact (Except.ok.inj hdisplay).trans (answers.device.again_keeps hkeeps n hs)
  · rintro block _ ⟨rfl, hblock⟩
    exact .known_bind (.learn_bind (.pure rfl hblock))

theorem selection_yields (h : selection k v = .ok frame) :
    ∃ c w, Command.Yields c frame ∧ c.display? = some w ∧ w.vfo = v := by
  unfold selection at h
  split at h
  · exact ⟨.selectVfoA, .a, .inl h, rfl, rfl⟩
  · exact ⟨.selectVfoB, .b, .inl h, rfl, rfl⟩
  · obtain ⟨channel, -, h⟩ := Outcome.bind_eq_ok.1 h
    exact ⟨.recallMemory, .memory, .inr ⟨[], [channel], h⟩, rfl, rfl⟩
  · cases h

theorem clarifierFrames_yields {offset : Int} {frames : List (List UInt8)}
    (h : clarifierFrames offset = .ok frames) (hframe : frame ∈ frames) :
    Command.clarifier.Yields frame :=
  .inr ((clarifierFrames_ok h).2 frame hframe)

section

variable (hd : Suits d)
include hd

theorem select_mirrors :
    (select d v).Mirrors (answers.peer timeout) k.vfo k fun _ _ => True := by
  refine .known_bind (.lift_bind fun _ _ => .lift_bind fun frame h => ?_)
  obtain ⟨c, w, hyields, hc, hw⟩ := selection_yields h
  rw [← hw]
  exact .move_bind (send_moves hyields hc) fun _ =>
    (Dialogue.Mirrors.selected (hd _ w.vfo_mem) w.vfo_ne_current).any

theorem switchTo_mirrors :
    (switchTo d v).Mirrors (answers.peer timeout) k.vfo k fun _ _ => True := by
  refine .known_bind ?_
  split
  · exact select_mirrors hd
  · exact .pure rfl trivial

/-- The rig is asked which VFO is selected, and it is the one that the session knows. -/
theorem queryVfo_mirrors :
    (queryVfo d).Mirrors (answers.peer timeout) k.vfo k fun _ _ => True := by
  refine .bind readFlags_mirrors fun block k₁ hblock => .lift_bind fun flags hflags => ?_
  refine .lift_bind fun v hv => ?_
  obtain rfl := hblock flags v hflags hv
  have hmem := activeVfo_mem hv
  have hne : k₁.vfo ≠ .current := fun h => by simp [h] at hmem
  have hselected : ∀ k : Tracking, k.vfo = k₁.vfo →
      (do Dialogue.selected d k₁.vfo; return k₁.vfo : Dialogue Vfo).Mirrors (answers.peer timeout)
        k.vfo k fun _ _ => True := by
    intro k hk
    rw [hk]
    exact .bind (.selected (hd _ hmem) hne) fun _ _ _ => .pure rfl trivial
  split
  · exact .bind (.discard readChannel_mirrors fun _ _ hk => hk) fun _ k hk => hselected k hk
  · exact hselected k₁ rfl

theorem getFrequency_mirrors :
    (getFrequency d v).Mirrors (answers.peer timeout) k.vfo k fun _ _ => True := by
  refine .lift_bind fun _ _ => ?_
  split
  · refine .bind (queryVfo_mirrors hd) fun v k _ => .bind readRecord_mirrors fun (_, _) k _ => ?_
    exact .lift fun _ _ => trivial
  · rw [Dialogue.pure_then]
    exact .bind readRecord_mirrors fun (_, _) k _ => .lift fun _ _ => trivial

theorem setFrequencyOf_mirrors {region : Region} {hz : Nat} :
    (setFrequencyOf d region v hz).Mirrors (answers.peer timeout) k.vfo k fun _ _ => True := by
  refine .lift_bind fun _ _ => .known_bind (.lift_bind fun _ _ => .lift_bind fun frame h => ?_)
  obtain ⟨digits, -, h⟩ := Outcome.bind_eq_ok.1 h
  have hyields : Command.setFrequency.Yields frame := .inr ⟨digits, [], h⟩
  exact .bind (switchTo_mirrors hd) fun _ _ _ => (send_mirrors hyields rfl).any

theorem setModeOf_mirrors {region : Region} {m : Mode} {width : Option Passband} :
    (setModeOf d region v m width).Mirrors (answers.peer timeout) k.vfo k fun _ _ => True := by
  refine .lift_bind fun _ _ => .lift_bind fun _ _ => .lift_bind fun narrow _ => ?_
  refine .lift_bind fun frame h => .known_bind ?_
  obtain ⟨code, -, h⟩ := Outcome.bind_eq_ok.1 h
  have hyields : Command.setMode.Yields frame := .inr ⟨[], [code], h⟩
  dsimp only
  split
  · exact .bind (select_mirrors hd) fun _ _ _ => (send_mirrors hyields rfl).any
  · exact (send_mirrors hyields rfl).any

theorem setPtt_mirrors {on : Bool} :
    (setPtt d v on).Mirrors (answers.peer timeout) k.vfo k fun _ _ => True :=
  .lift_bind fun _ _ => .bind (switchTo_mirrors hd) fun _ _ _ => command_mirrors (by cases on <;> rfl)

theorem setRit_mirrors {offset : Int} :
    (setRit d v offset).Mirrors (answers.peer timeout) k.vfo k fun _ _ => True := by
  refine .lift_bind fun _ _ => .lift_bind fun _ _ => .lift_bind fun frames hframes => ?_
  refine .bind (switchTo_mirrors hd) fun _ _ _ => .forM fun frame hframe k => ?_
  exact (send_mirrors (clarifierFrames_yields hframes hframe) rfl).any

theorem setMemory_mirrors {channel : Nat} :
    (setMemory d channel).Mirrors (answers.peer timeout) k.vfo k fun _ _ => True := by
  refine .lift_bind fun _ _ => .lift_bind fun n _ => .lift_bind fun frame h => ?_
  have hyields : Command.recallMemory.Yields frame := .inr ⟨[], [n], h⟩
  refine .move_bind (send_moves (w := .memory) hyields rfl) fun _ => .known_bind (.learn_bind ?_)
  exact (Dialogue.Mirrors.selected (hd .memory (by decide)) (by decide)).any

end

theorem getMode_mirrors :
    (getMode d v).Mirrors (answers.peer timeout) k.vfo k fun _ _ => True := by
  refine .lift_bind fun _ _ => .known_bind (.bind readRecord_mirrors fun (_, _) k _ => ?_)
  exact .lift_bind fun (_, _) _ => .pure rfl trivial

theorem getSplit_mirrors : getSplit.Mirrors (answers.peer timeout) k.vfo k fun _ _ => True :=
  .bind (readBlock_mirrors rfl) fun _ _ _ => .lift_bind fun _ _ => .pure rfl trivial

theorem getRit_mirrors :
    (getRit d v).Mirrors (answers.peer timeout) k.vfo k fun _ _ => True := by
  refine .lift_bind fun _ _ => .known_bind (.bind readRecord_mirrors fun (_, _) k _ => ?_)
  exact .lift fun _ _ => trivial

theorem getLevel_mirrors {l : Level} :
    (getLevel d l).Mirrors (answers.peer timeout) k.vfo k fun _ _ => True := by
  refine .lift_bind fun _ _ => ?_
  split
  · exact .fail
  · refine .bind (readBlock_mirrors rfl) fun _ _ _ => .lift_bind fun _ _ => ?_
    exact .lift_bind fun _ _ => .pure rfl trivial

theorem setFunc_mirrors {f : Func} {on : Bool} :
    (setFunc d f on).Mirrors (answers.peer timeout) k.vfo k fun _ _ => True := by
  refine .lift_bind fun _ _ => ?_
  split
  · exact command_mirrors (by cases on <;> rfl)
  · exact .fail

theorem vfoOp_mirrors {o : VfoOp} :
    (vfoOp d o).Mirrors (answers.peer timeout) k.vfo k fun _ _ => True := by
  refine .lift_bind fun _ _ => ?_
  split
  · exact command_mirrors rfl
  · exact .fail

theorem sendPacing_mirrors {value : UInt8} :
    (sendPacing value).Mirrors (answers.peer timeout) k.vfo k fun _ k' => k' = k :=
  .lift_bind fun _ h => send_mirrors (c := .pacing) (.inr ⟨[], [value], h⟩) rfl

/-- **Every operation mirrors the rig**, whatever comes of it. -/
theorem respond_mirrors {α : Type} (hd : Suits d) (op : Operation α) (k : Tracking) :
    (respond d config op).Mirrors (answers.peer timeout) k.vfo k fun _ _ => True := by
  cases op with
  | start => exact .known_bind sendPacing_mirrors.any
  | getFrequency v => exact getFrequency_mirrors hd
  | setFrequency v hz => exact setFrequencyOf_mirrors hd
  | getMode v => exact getMode_mirrors
  | setMode v m width => exact setModeOf_mirrors hd
  | getVfo => exact queryVfo_mirrors hd
  | setVfo v => exact select_mirrors hd
  | setPtt v on => exact setPtt_mirrors hd
  | getSplit v => exact getSplit_mirrors
  | setSplit v on => exact command_mirrors (by cases on <;> rfl)
  | getRit v => exact getRit_mirrors
  | setRit v offset => exact setRit_mirrors hd
  | getLevel v l => exact getLevel_mirrors
  | setFunc v f on => exact setFunc_mirrors
  | getMemory v => exact readChannel_mirrors.any
  | setMemory v channel => exact setMemory_mirrors hd
  | vfoOp v o => exact vfoOp_mirrors
  | setPacing value =>
    refine .bind sendPacing_mirrors ?_
    rintro _ _ rfl
    exact .known_bind (.learn_bind (.pure rfl trivial))
  | close => exact .hangUp (.pure rfl trivial)
  | _ => exact .fail

/-! ## Sessions -/

theorem find_standard : Registry.standard.find? "FT-840" = some ⟨Models.ft840, .ft840⟩ := by
  decide +kernel

theorem suits_ft840 : Suits Models.ft840 :=
  show ∀ v ∈ [Vfo.a, .b, .memory], v ∈ Models.ft840.vfos by decide

/-- **The session knows what its rig has on display**, after any operations with any arguments, the
refused and the failed ones included. -/
theorem selection_mirrored {e : Entry} {r s : Rig (Simulated Station)}
    (he : Registry.standard.find? "FT-840" = some e) (hc : e.create config answers.link = .ok r)
    (h : r.Performs s) :
    s.session.known.vfo = s.session.engine.port.link.rig.display.vfo := by
  rw [find_standard] at he
  cases he
  obtain rfl : (⟨.ft840, .start Models.ft840 config answers.link⟩ : Rig (Simulated Station)) = r :=
    Except.ok.inj hc
  have hr : Rig.Mirrored (answers.peer (config.resolve Models.ft840.line).timeout)
      ⟨.ft840, .start Models.ft840 config answers.link⟩ :=
    ⟨⟨rfl, rfl, rfl, rfl⟩, rfl⟩
  exact (h.mirrored hr fun op k => respond_mirrors suits_ft840 op k).shows.symm

/-- A memory channel is recalled, VFO B transmits, and a channel that the rig lacks is refused. -/
theorem selection_mirrored_recalled :
    let e : Entry := ⟨Models.ft840, .ft840⟩
    let r : Rig (Simulated Station) := ⟨.ft840, .start Models.ft840 {} Answers.plain.link⟩
    let s := ((Rig.perform (.setMemory .current 7)).run r).2
    let t := ((Rig.perform (.setPtt .b true)).run s).2
    let u := ((Rig.perform (.setMemory .current 200)).run t).2
    Registry.standard.find? "FT-840" = some e ∧ e.create {} Answers.plain.link = .ok r ∧
      s.session.known.vfo = .memory ∧ u.session.known.vfo = .b ∧
      u.session.known.vfo = u.session.engine.port.link.rig.display.vfo := by
  intro e r s t u
  have hc : e.create {} Answers.plain.link = .ok r := rfl
  have hu : r.Performs u := .perform _ (.perform _ (.perform _ .refl))
  exact ⟨find_standard, hc, by decide +kernel, by decide +kernel,
    selection_mirrored find_standard hc hu⟩

end RigControl.Ft840
