/-
Replies on a CI-V bus and the questions that they answer. Other stations use the same line, and a frame
carries no number: a reply is told from other traffic by its two addresses, its command and the further
command bytes. Whenever an operation succeeds, each reply that it has used is one to its own question, and
all that it has written was accepted.
-/
import RigControl.Proofs.Plan.Civ
import RigControl.Proofs.Settling

namespace RigControl.Civ

/-- A frame that answers a question: it comes from the rig to the controller, is no refusal, and repeats
the command and the further command bytes. -/
structure Frame.Answers (b : Bus) (t : Topic) (f : Frame) : Prop where
  source : f.source = b.rig
  target : f.target = b.controller
  notRefused : f.isRefused = false
  command : f.command = t.command
  sub : t.sub <+: f.payload

namespace Bus

/-- The exchanges of some questions, one after another, each with a reply that answers it. -/
inductive Asked (b : Bus) : List Topic → List Event → Prop
  | nil : Asked b [] []
  | cons {k : Tracking} {operation : String} {t : Topic} {reply : List UInt8} {f : Frame}
      {topics : List Topic} {h : List Event} (hreply : Frame.decode reply = .ok f)
      (hf : f.Answers b t) (hrest : Asked b topics h) :
      Asked b (t :: topics) (.exchange k (b.read operation t) (.ok reply) :: h)

/-- The exchanges that bring the rig to a VFO: none if it is there, and else a selection that the rig has
accepted. -/
def Switched (b : Bus) (k : Tracking) (v : Vfo) (h : List Event) : Prop :=
  if k.resolve v = k.vfo then h = []
  else ∃ r reply, b.selectVfo (k.resolve v) = .ok r ∧ b.IsAck reply ∧
    h = [.exchange k r (.ok reply)]

/-- The exchanges of questions about a VFO, for which it has to be selected. -/
def AskedOf (b : Bus) (k : Tracking) (v : Vfo) (topics : List Topic) (h : List Event) : Prop :=
  ∃ h₁ h₂, h = h₁ ++ h₂ ∧ b.Switched k v h₁ ∧ b.Asked topics h₂

end Bus

/-- All that was sent was accepted. -/
def Bus.AllAccepted (b : Bus) (h : List Event) : Prop :=
  ∀ x ∈ h, x.Completed b.Accepted

/-- What is asked about a level. -/
def levelTopic : Level → Option Topic
  | .attenuator => some .attenuator
  | .preamp => some .preamp
  | .rfPower => some .rfPower
  | l => (meterSub l).map .meter

/-- How the requests of an operation are answered when it succeeds. The state of the data modulator is
asked for only in a mode that can have one. -/
def Correlated (b : Bus) (k : Tracking) {α : Type} : Operation α → List Event → Prop
  | .getFrequency v, h => b.AskedOf k v [.frequency] h
  | .getMode v, h => b.AskedOf k v [.mode] h ∨ b.AskedOf k v [.mode, .dataMode] h
  | .getPtt _, h => b.Asked [.ptt] h
  | .getSplit _, h => b.Asked [.split] h
  | .getLevel _ l, h => ∃ t, levelTopic l = some t ∧ b.Asked [t] h
  | .getClock, h => b.Asked [.clockDate, .clockTime, .clockOffset] h
  | op, h => op.isWrite = true → b.AllAccepted h

open Outcome

section

variable {α : Type} {b : Bus} {d : Descriptor} {config : Config} {region : Region} {k : Tracking}
  {v : Vfo} {r : Request} {operation : String} {t : Topic}

/-! ## Questions -/

namespace Bus

theorem Asked.append {topics topics' : List Topic} {h h' : List Event} (hh : b.Asked topics h)
    (hh' : b.Asked topics' h') : b.Asked (topics ++ topics') (h ++ h') := by
  induction hh with
  | nil => exact hh'
  | cons hreply hf _ ih => exact .cons hreply hf ih

/-- Data are taken from an answer to the question only. -/
theorem expectData_ok {reply data : List UInt8}
    (h : b.expectData reply t.command t.sub = .ok data) :
    ∃ f, Frame.decode reply = .ok f ∧ f.Answers b t := by
  obtain ⟨f, hf, h⟩ := bind_eq_ok.1 h
  obtain ⟨hdecode, hsource, htarget⟩ := busDecode_ok.1 hf
  by_cases hrefused : f.isRefused = true
  · simp [hrefused] at h
  · rw [if_neg hrefused] at h
    by_cases hother : f.command ≠ t.command ∨ ¬ t.sub.isPrefixOf f.payload
    · rw [if_pos hother] at h
      cases h
    · rw [not_or, Classical.not_not, Classical.not_not] at hother
      have hsub : t.sub <+: f.payload := List.isPrefixOf_iff_prefix.1 hother.2
      exact ⟨f, hdecode, hsource, htarget, by simpa using hrefused, hother.1, hsub⟩

theorem ask_correlated : (b.ask operation t).Settles (fun _ => True) k fun h _ _ =>
    b.Asked [t] h := by
  refine .ask_bind trivial fun reply => .lift trivial fun data hdata => ?_
  obtain ⟨f, hdecode, hf⟩ := expectData_ok hdata
  exact .cons hdecode hf .nil

/-- What is made of the data is no further traffic. -/
theorem read_correlated {decode : List UInt8 → Outcome α} :
    (do decode (← b.ask operation t) : Dialogue α).Settles (fun _ => True) k fun h _ _ =>
      b.Asked [t] h :=
  .bind_silent ask_correlated fun _ _ => .lift trivial fun _ _ => rfl

theorem command_correlated : (b.command r).Settles (fun _ => True) k fun h _ k' =>
    (∃ reply, b.IsAck reply ∧ h = [.exchange k r (.ok reply)]) ∧ k' = k := by
  refine .ask_bind trivial fun reply => .lift trivial fun u hu => ?_
  exact ⟨⟨reply, expectAccepted_ok.1 hu, rfl⟩, rfl⟩

theorem switchTo_correlated : (b.switchTo d v).Settles (fun _ => True) k fun h _ _ =>
    b.Switched k v h := by
  refine .known_bind (.lift_bind trivial fun _ _ => ?_)
  by_cases htarget : k.resolve v ≠ k.vfo
  · rw [if_pos htarget]
    refine .lift_bind trivial fun r hr => .bind command_correlated ?_
    intro h _ k' hcommand
    obtain ⟨⟨reply, hack, rfl⟩, rfl⟩ := hcommand
    have hswitched : b.Switched k' v [.exchange k' r (.ok reply)] := by
      rw [Switched, if_neg htarget]
      exact ⟨r, reply, hr, hack, rfl⟩
    refine (Dialogue.Settles.selected_silent trivial).imp fun h _ _ hsilent => ?_
    rw [hsilent, List.append_nil]
    exact hswitched
  · rw [if_neg htarget]
    refine .pure ?_
    rw [Switched, if_pos (Classical.not_not.1 htarget)]

end Bus

/-! ## Operations that read -/

theorem getFrequency_correlated : (getFrequency b d v).Settles (fun _ => True) k fun h _ _ =>
    b.AskedOf k v [.frequency] h := by
  refine .lift_bind trivial fun _ _ => .bind Bus.switchTo_correlated fun h₁ _ k' hswitched => ?_
  refine Bus.read_correlated.imp fun h₂ _ _ hasked => ?_
  exact ⟨h₁, h₂, rfl, hswitched, hasked⟩

theorem getMode_correlated : (getMode b d region v).Settles (fun _ => True) k fun h _ _ =>
    b.AskedOf k v [.mode] h ∨ b.AskedOf k v [.mode, .dataMode] h := by
  refine .lift_bind trivial fun _ _ => .bind Bus.switchTo_correlated fun h₁ _ k₁ hswitched => ?_
  refine .bind Bus.ask_correlated fun h₂ data k₂ hmode => ?_
  refine .lift_bind trivial fun (base, slot) _ => ?_
  dsimp only
  -- A mode without data has no second question.
  split
  · refine .bind Bus.ask_correlated fun h₃ data k₃ hdata => .lift_bind trivial fun on _ => .pure ?_
    exact .inr ⟨h₁, h₂ ++ h₃, by simp, hswitched, hmode.append hdata⟩
  · exact .pure (.inl ⟨h₁, h₂, by simp, hswitched, hmode⟩)

theorem levelTopic_of_meterSub {l : Level} {sub : UInt8} (h : meterSub l = some sub) :
    levelTopic l = some (.meter sub) := by
  cases l <;> simp_all [levelTopic, meterSub]

theorem meterReading_correlated {l : Level} :
    (b.meterReading l).Settles (fun _ => True) k fun h _ _ =>
      ∃ t, levelTopic l = some t ∧ b.Asked [t] h := by
  unfold Bus.meterReading
  split
  · rename_i sub hsub
    exact Bus.read_correlated.imp fun h _ _ hasked => ⟨_, levelTopic_of_meterSub hsub, hasked⟩
  · exact .fail trivial

/-- A level is asked for once, whatever is made of the data. -/
theorem askLevel_correlated {l : Level} {f : List UInt8 → Dialogue α} (hl : levelTopic l = some t)
    (hf : ∀ data k', (f data).Settles (fun _ => True) k' fun h _ _ => h = []) :
    (b.ask operation t >>= f).Settles (fun _ => True) k fun h _ _ =>
      ∃ t, levelTopic l = some t ∧ b.Asked [t] h :=
  .bind_silent (Bus.ask_correlated.imp fun _ _ _ hasked => ⟨t, hl, hasked⟩) hf

theorem getLevel_correlated {l : Level} : (getLevel b d l).Settles (fun _ => True) k fun h _ _ =>
    ∃ t, levelTopic l = some t ∧ b.Asked [t] h := by
  refine .lift_bind trivial fun _ _ => ?_
  split
  · refine askLevel_correlated rfl fun _ _ => .lift_bind trivial fun _ _ => ?_
    exact .lift_bind trivial fun _ _ => .pure rfl
  · refine askLevel_correlated rfl fun _ _ => .lift_bind trivial fun _ _ => ?_
    exact .lift_bind trivial fun _ _ => .pure rfl
  · exact askLevel_correlated rfl fun _ _ => .lift_bind trivial fun _ _ => .pure rfl
  · exact .bind_silent meterReading_correlated fun _ _ => .pure rfl
  · split
    · exact .fail trivial
    · refine .bind_silent meterReading_correlated fun _ _ => ?_
      exact .lift_bind trivial fun _ _ => .pure rfl

theorem getClock_correlated : (getClock b d).Settles (fun _ => True) k fun h _ _ =>
    b.Asked [.clockDate, .clockTime, .clockOffset] h := by
  refine .lift_bind trivial fun _ _ => .bind Bus.ask_correlated fun h₁ _ _ hdate => ?_
  refine .lift_bind trivial fun (year, month, day) _ => ?_
  refine .bind Bus.ask_correlated fun h₂ _ _ htime => .lift_bind trivial fun (hour, minute) _ => ?_
  refine .bind Bus.ask_correlated fun h₃ _ _ hoffset => .lift_bind trivial fun _ _ => .pure ?_
  have hall := hdate.append (htime.append hoffset)
  simpa using hall

/-! ## Operations that write -/

namespace Bus

variable {β : Type} {x : Dialogue α} {f : α → Dialogue β} {o : Outcome α}

theorem AllAccepted.append {h h' : List Event} (hh : b.AllAccepted h) (hh' : b.AllAccepted h') :
    b.AllAccepted (h ++ h') := by
  intro x hx
  rcases List.mem_append.1 hx with hx | hx
  · exact hh x hx
  · exact hh' x hx

theorem allAccepted_singleton {reply : List UInt8} (h : b.IsAck reply) :
    b.AllAccepted [.exchange k r (.ok reply)] := by
  intro x hx
  rw [List.mem_singleton.1 hx]
  exact ⟨reply, rfl, h⟩

theorem Switched.allAccepted {h : List Event} (hh : b.Switched k v h) : b.AllAccepted h := by
  unfold Switched at hh
  split at hh
  · simp [hh, AllAccepted]
  · obtain ⟨r, reply, -, hack, rfl⟩ := hh
    exact allAccepted_singleton hack

/-- If the conversation succeeds, all that it has sent was accepted. -/
def Accepts (b : Bus) (x : Dialogue α) (k : Tracking) : Prop :=
  x.Settles (fun _ => True) k fun h _ _ => b.AllAccepted h

namespace Accepts

theorem of_silent (hx : x.Settles (fun _ => True) k fun h _ _ => h = []) : b.Accepts x k :=
  hx.imp fun h _ _ hsilent => by simp [hsilent, AllAccepted]

theorem lift_bind {g : α → Dialogue β} (hg : ∀ a, b.Accepts (g a) k) :
    b.Accepts ((liftM o : Dialogue α) >>= g) k :=
  Dialogue.Settles.lift_bind trivial fun a _ => hg a

theorem known_bind {g : Tracking → Dialogue α} (hg : b.Accepts (g k) k) :
    b.Accepts (Dialogue.known >>= g) k :=
  Dialogue.Settles.known_bind hg

theorem bind (hx : b.Accepts x k) (hf : ∀ a k', b.Accepts (f a) k') : b.Accepts (x >>= f) k :=
  Dialogue.Settles.bind hx fun _ a k' hfirst => (hf a k').imp fun _ _ _ hrest => hfirst.append hrest

theorem learn {k' : Tracking} : b.Accepts (Dialogue.learn k') k :=
  of_silent (.learn rfl)

theorem selected : b.Accepts (Dialogue.selected d v) k :=
  of_silent (.selected_silent trivial)

theorem command : b.Accepts (b.command r) k := by
  refine command_correlated.imp fun h _ k' hcommand => ?_
  obtain ⟨⟨reply, hack, rfl⟩, -⟩ := hcommand
  exact allAccepted_singleton hack

/-- Some requests, one after another. -/
theorem commands {requests : List Request} : b.Accepts (requests.forM b.command) k := by
  induction requests generalizing k with
  | nil => exact of_silent (.pure rfl)
  | cons r requests ih => exact bind command fun _ _ => ih

theorem switchTo : b.Accepts (b.switchTo d v) k :=
  switchTo_correlated.imp fun _ _ _ hswitched => hswitched.allAccepted

end Accepts

end Bus

theorem setMode_accepts {m : Mode} {width : Option Passband} :
    b.Accepts (setMode b d region v m width) k := by
  have hrest : ∀ width : Option Passband, b.Accepts (do
      b.switchTo d v
      (modeRequests b d region m width).forM b.command) k := by
    intro width
    exact .bind .switchTo fun _ _ => .commands
  refine .lift_bind fun _ => .lift_bind fun _ => ?_
  split
  · exact .lift_bind fun width => hrest width
  · exact hrest none

theorem setMemory_accepts {channel : Nat} : b.Accepts (setMemory b d channel) k := by
  refine .lift_bind fun _ => .lift_bind fun r => .bind .command fun _ k' => .known_bind ?_
  refine .bind .learn fun _ _ => ?_
  split
  · exact .selected
  · exact .of_silent (.pure rfl)

theorem scan_accepts {o : ScanOp} : b.Accepts (scan b d o) k := by
  refine .lift_bind fun _ => ?_
  cases o with
  | stop => exact .command
  | vfo => exact .bind .command fun _ _ => .command
  | memory =>
    refine .lift_bind fun r => .bind .command fun _ _ => ?_
    exact .bind .selected fun _ _ => .command

/-- **All that is written is accepted** when an operation that writes succeeds. -/
theorem respond_accepts {op : Operation α} (hop : op.isWrite = true) :
    b.Accepts (respond b d config op) k := by
  cases op with
  | setFrequency v hz =>
    refine .lift_bind fun _ => .known_bind (.lift_bind fun _ => .lift_bind fun r => ?_)
    exact .bind .switchTo fun _ _ => .command
  | setMode v m width => exact setMode_accepts
  | setVfo v =>
    refine .lift_bind fun _ => .known_bind (.lift_bind fun _ => .lift_bind fun r => ?_)
    exact .bind .command fun _ _ => .selected
  | setPtt v on => exact .command
  | setSplit v on => exact .command
  | setLevel v l value => exact .lift_bind fun _ => .lift_bind fun r => .command
  | setMemory v channel => exact setMemory_accepts
  | vfoOp v o => exact .lift_bind fun _ => .command
  | scan v o => exact scan_accepts
  | setClock t => exact .lift_bind fun _ => .lift_bind fun requests => .commands
  | setRit | setFunc => exact .of_silent (.fail trivial)
  | _ => cases hop

/-- **Replies answer their questions** on the bus. -/
theorem respond_correlated (op : Operation α) :
    (respond b d config op).Settles (fun _ => True) k fun h _ _ => Correlated b k op h := by
  cases op with
  | getFrequency v => exact getFrequency_correlated
  | getMode v => exact getMode_correlated
  | getPtt v => exact Bus.read_correlated
  | getSplit v => exact Bus.read_correlated
  | getLevel v l => exact getLevel_correlated
  | getClock => exact getClock_correlated
  | _ => exact .of_imp respond_accepts

end

end RigControl.Civ
