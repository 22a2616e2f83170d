/-
A CI-V rig with a main and a sub receiver, and its session. The rig cannot be asked what it has selected,
so that the session goes by what it has sent and the rig has accepted. A simulated rig takes the frames that
select a receiver, enter memory mode or leave it (`Call.of?`), accepts each of these behind any number of
echoes, and answers as it likes otherwise.

Leaving memory mode is sent in front of a scan, and the session does not record it. The rig is astray from
then on until it is sent to a receiver or into memory mode again. After any operations, the session and the
rig agree unless it is astray, and then they do not (`selection_followed`). A scan right after a memory
channel was selected is all it takes (`scan_astray`).
-/
import RigControl.Proofs.CivRequests
import RigControl.Proofs.Mirror.Basic
import RigControl.Proofs.Plan.Civ
import RigControl.Rig.Registry

namespace RigControl.Civ

/-! ## Frames -/

/-- The receivers of the rig. -/
inductive Receiver where
  | main
  | sub
deriving DecidableEq, Repr

def Receiver.vfo : Receiver → Vfo
  | main => .main
  | sub => .sub

/-- What a frame can do to the selection. -/
inductive Call where
  | select (receiver : Receiver)
  /-- Enter memory mode. -/
  | memory
  /-- Leave memory mode for the receiver that was selected last. -/
  | leave
deriving DecidableEq, Repr

/-- What is selected by name. -/
def Call.vfo? : Call → Option Vfo
  | select receiver => some receiver.vfo
  | memory => some .memory
  | leave => none

/-- What a frame does to the selection, by what follows its addresses. -/
def Call.of? (frame : List UInt8) : Option Call :=
  if frame.drop 4 = [0x07, 0xD0, 0xFD] then some (select .main)
  else if frame.drop 4 = [0x07, 0xD1, 0xFD] then some (select .sub)
  else if frame.drop 4 = [0x07, 0xFD] then some leave
  else if frame[4]? = some 0x08 then some memory
  else none

/-- The command has nothing to do with the selection. -/
def Aside (command : UInt8) : Prop :=
  command ≠ 0x07 ∧ command ≠ 0x08

instance {command : UInt8} : Decidable (Aside command) :=
  inferInstanceAs (Decidable (_ ∧ _))

variable {b : Bus} {command : UInt8} {payload : List UInt8}

theorem Call.of?_aside (h : Aside command) : Call.of? (b.frame command payload) = none := by
  obtain ⟨h7, h8⟩ := h
  have hdrop : (b.frame command payload).drop 4 = command :: (payload ++ [terminator]) := rfl
  have hcode : (b.frame command payload)[4]? = some command := rfl
  simp [Call.of?, hdrop, hcode, h7, h8]

theorem Call.of?_memory : Call.of? (b.frame 0x08 payload) = some .memory := by
  have hdrop : (b.frame 0x08 payload).drop 4 = 0x08 :: (payload ++ [terminator]) := rfl
  have hcode : (b.frame 0x08 payload)[4]? = some 0x08 := rfl
  simp [Call.of?, hdrop, hcode]

/-! ## The simulated rig -/

/-- A rig in operation. -/
structure Station where
  /-- The receiver that was selected last. -/
  receiver : Receiver := .main
  inMemory : Bool := false
  /-- Whether the rig has left memory mode and was not sent anywhere since. -/
  astray : Bool := false
deriving DecidableEq, Repr

namespace Station

def selection (s : Station) : Vfo :=
  if s.inMemory then .memory else s.receiver.vfo

def hear (s : Station) (frame : List UInt8) : Station :=
  match Call.of? frame with
  | some (.select receiver) => { receiver := receiver }
  | some .memory => { s with inMemory := true, astray := false }
  | some .leave => { s with inMemory := false, astray := s.astray || s.inMemory }
  | none => s

/-- What the session takes for the selection: that, or memory mode as long as the rig is astray. -/
def Shows (v : Vfo) (s : Station) : Prop :=
  if s.astray then v = .memory ∧ s.inMemory = false else v = s.selection

/-- Leaving memory mode is not noticed. -/
theorem shows_hear_leave {v : Vfo} {s : Station} {frame : List UInt8} (h : Shows v s)
    (hcall : Call.of? frame = some .leave) : Shows v (s.hear frame) := by
  obtain ⟨receiver, inMemory, astray⟩ := s
  rw [hear, hcall]
  cases astray <;> cases inMemory <;> simp_all [Shows, selection]

/-- What is selected by name is selected. -/
theorem shows_hear_call {v : Vfo} {frame : List UInt8} {call : Call} (s : Station)
    (hcall : Call.of? frame = some call) (hv : call.vfo? = some v) : Shows v (s.hear frame) := by
  rw [hear, hcall]
  cases call <;> cases hv <;> rfl

theorem shows_hear_none {v : Vfo} {s : Station} {frame : List UInt8} (h : Shows v s)
    (hcall : Call.of? frame = none) : Shows v (s.hear frame) := by
  rw [hear, hcall]
  exact h

end Station

/-- The frame in which the rig accepts a command. -/
def Bus.ack (b : Bus) : List UInt8 :=
  (Bus.mk b.controller b.rig).frame accepted []

/-- What a rig answers to its frames. It accepts whatever is for its selection, behind echoes. -/
structure Answers (b : Bus) where
  reply : Station → List UInt8 → List UInt8
  accepts : ∀ s frame, Call.of? frame ≠ none → ∃ echoes further,
    reply s frame = (List.replicate echoes frame).flatten ++ (b.ack ++ further)

namespace Answers

/-- One echo and the acceptance of every frame. -/
def plain (b : Bus) : Answers b where
  reply _ frame := frame ++ b.ack
  accepts _ frame _ := ⟨1, [], by simp⟩

variable (answers : Answers b)

def device : Device Station where
  isWhole bytes := bytes.getLast? == some terminator
  next := Station.hear
  answer := answers.reply

def peer (timeout : Nat) : Peer Station where
  device := answers.device
  timeout := timeout
  shows := Station.Shows

/-- The link to the rig, which has its main receiver selected. -/
def link : Simulated Station where
  device := answers.device
  rig := {}

end Answers

/-- A frame with a clear payload is one to a rig that goes by the terminator. -/
theorem Bus.Sound.framed_of {S : Type} {D : Device S} (hb : b.Sound)
    (hwhole : ∀ bytes, D.isWhole bytes = (bytes.getLast? == some terminator)) (hc : command < 0xFA)
    (hp : Clear payload) : D.Framed (b.frame command payload) :=
  Device.framed_of_terminated hwhole rfl (hb.notMem_terminator hc hp)

theorem Bus.Sound.framed (hb : b.Sound) (answers : Answers b) (hc : command < 0xFA)
    (hp : Clear payload) : answers.device.Framed (b.frame command payload) :=
  hb.framed_of (fun _ => rfl) hc hp

theorem Bus.Sound.ack_block (hb : b.Sound) : Block terminator Bus.maxFrame b.ack := by
  refine ⟨[preamble, preamble, b.controller, b.rig, accepted], ?_, rfl, (by decide : 6 ≤ 64)⟩
  have hpreamble : terminator ≠ preamble := by decide
  have haccepted : terminator ≠ accepted := by decide
  simp only [List.mem_cons, List.not_mem_nil, or_false, not_or]
  exact ⟨hpreamble, hpreamble, hb.controller_clear.1.symm, hb.rig_clear.1.symm, haccepted⟩

/-- The session takes the frame for an acceptance. -/
theorem Bus.Sound.expectAccepted_ack (hb : b.Sound) : b.expectAccepted b.ack = .ok () := by
  refine expectAccepted_ok.2 (Frame.decode_of_heard ?_)
  show Frame.Heard _ ([] ++ b.ack)
  refine Frame.heard_encode (by decide) hb.controller_clear.2.2 ?_
  have haccepted : collision ≠ accepted := by decide
  show collision ∉ [b.controller, b.rig, accepted]
  simp only [List.mem_cons, List.not_mem_nil, or_false, not_or]
  exact ⟨hb.controller_clear.2.1.symm, hb.rig_clear.2.symm, haccepted⟩

/-! ## Requests -/

variable {answers : Answers b} {timeout : Nat} {d : Descriptor} {region : Region} {config : Config}
  {k : Tracking} {v : Vfo} {r : Request}

theorem command_mirrors (hr : (answers.peer timeout).Keeps r) :
    (b.command r).Mirrors (answers.peer timeout) k.vfo k fun _ k' => k' = k := by
  refine .bind (.ask hr fun _ => rfl) ?_
  rintro reply _ rfl
  exact .lift fun _ _ => rfl

/-- Some requests that leave the selection alone. -/
theorem commands_mirror {requests : List Request}
    (h : ∀ r ∈ requests, (answers.peer timeout).Keeps r) :
    (requests.forM b.command).Mirrors (answers.peer timeout) k.vfo k fun _ _ => True :=
  .forM fun r hr _ => (command_mirrors (h r hr)).any

section

variable (hb : b.Sound)
include hb

theorem keeps_aside (h : b.Says command r) (hc : command < 0xFA) (haside : Aside command) :
    (answers.peer timeout).Keeps r := by
  obtain ⟨operation, payload, hclear, rfl⟩ := h
  refine .of_next (hb.framed answers hc hclear) fun v s hs => ?_
  exact Station.shows_hear_none hs (Call.of?_aside haside)

theorem vfoMode_keeps : (answers.peer timeout).Keeps b.vfoMode :=
  .of_next (hb.framed answers (by decide) (by decide)) fun _ _ hs =>
    Station.shows_hear_leave hs rfl

theorem vfoOp_keeps {o : VfoOp} : (answers.peer timeout).Keeps (b.vfoOp o) := by
  have hnone : Call.of? (b.vfoOp o).frame = none := by cases o <;> rfl
  refine .of_next ?_ fun _ _ hs => Station.shows_hear_none hs hnone
  cases o <;> exact hb.framed answers (by decide) (by decide)

/-- A request that selects a VFO by name does so if the rig accepts it. -/
theorem command_moves {operation : String} {call : Call} (ht : 0 < timeout) (hc : command < 0xFA)
    (hp : Clear payload) (hlength : payload.length ≤ 58)
    (hcall : Call.of? (b.frame command payload) = some call) (hv : call.vfo? = some v) :
    (b.command (b.request operation command payload)).Moves (answers.peer timeout) v k := by
  have hframed := hb.framed answers hc hp
  have hsome : Call.of? (b.frame command payload) ≠ none := by rw [hcall]; nofun
  have hne : b.ack ≠ b.frame command payload := fun heq =>
    hsome (heq ▸ Call.of?_aside (by decide))
  refine fun s hs => ⟨hframed, fun o s' hturn => ?_⟩
  obtain ⟨echoes, further, hreply⟩ := answers.accepts s _ hsome
  have hanswer := hturn.answered hframed ht rfl rfl (hb.block hc hp hlength) hb.ack_block hne hreply
  rcases hanswer with ⟨rfl, rfl⟩ | ⟨rfl, rfl⟩
  · show Dialogue.Held _ (liftM (b.expectAccepted b.ack)) _ _ _
    rw [hb.expectAccepted_ack]
    exact ⟨rfl, s.shows_hear_call hcall hv⟩
  · exact ⟨rfl, hs⟩

theorem selectVfo_moves (ht : 0 < timeout) (hv : v ∈ [Vfo.main, .sub, .memory])
    (h : b.selectVfo v = .ok r) : (b.command r).Moves (answers.peer timeout) v k := by
  simp only [List.mem_cons, List.not_mem_nil, or_false] at hv
  rcases hv with rfl | rfl | rfl <;> cases h
  · have hcall : Call.of? (b.frame 0x07 [0xD0]) = some (.select .main) := rfl
    exact command_moves hb ht (by decide) (by decide) (by decide) hcall rfl
  · have hcall : Call.of? (b.frame 0x07 [0xD1]) = some (.select .sub) := rfl
    exact command_moves hb ht (by decide) (by decide) (by decide) hcall rfl
  · exact command_moves hb ht (by decide) (by decide) (by decide) Call.of?_memory rfl

/-! ## Operations -/

theorem read_mirrors {operation : String} {t : Topic} (ht : Clear (t.command :: t.sub))
    (haside : Aside t.command) :
    (b.ask operation t).Mirrors (answers.peer timeout) k.vfo k fun _ k' => k' = k := by
  have hsub : Clear t.sub := fun a ha => ht a (List.mem_cons_of_mem _ ha)
  have hkeeps : (answers.peer timeout).Keeps (b.read operation t) :=
    keeps_aside hb (.read hsub) (ht _ List.mem_cons_self) haside
  refine .bind (.ask hkeeps fun _ => rfl) ?_
  rintro reply _ rfl
  exact .lift fun _ _ => rfl

/-- The conversation goes on with what was read. -/
theorem read_bind_mirrors {α β : Type} {operation : String} {t : Topic}
    {decode : List UInt8 → Outcome α} {f : α → Dialogue β} (ht : Clear (t.command :: t.sub))
    (haside : Aside t.command)
    (hf : ∀ a, (f a).Mirrors (answers.peer timeout) k.vfo k fun _ _ => True) :
    (do f (← decode (← b.ask operation t))).Mirrors (answers.peer timeout) k.vfo k fun _ _ => True := by
  refine .bind (read_mirrors hb ht haside) ?_
  rintro data _ rfl
  exact .lift_bind fun a _ => hf a

/-- What is read is the answer. -/
theorem read_decode_mirrors {α : Type} {operation : String} {t : Topic}
    {decode : List UInt8 → Outcome α} (ht : Clear (t.command :: t.sub)) (haside : Aside t.command) :
    (do decode (← b.ask operation t) : Dialogue α).Mirrors (answers.peer timeout) k.vfo k
      fun _ k' => k' = k := by
  refine .bind (read_mirrors hb ht haside) ?_
  rintro data _ rfl
  exact .lift fun _ _ => rfl

theorem meterReading_mirrors {l : Level} :
    (b.meterReading l).Mirrors (answers.peer timeout) k.vfo k fun _ k' => k' = k := by
  unfold Bus.meterReading
  split
  · rename_i sub hsub
    have hclear : Clear [0x15, sub] := by
      unfold meterSub at hsub
      split at hsub <;> cases hsub <;> decide
    exact read_decode_mirrors hb (t := .meter sub) hclear (show Aside 0x15 by decide)
  · exact .fail

theorem getLevel_mirrors {l : Level} :
    (getLevel b d l).Mirrors (answers.peer timeout) k.vfo k fun _ _ => True := by
  refine .lift_bind fun _ _ => ?_
  split
  · refine read_bind_mirrors hb (by decide) (by decide) fun raw => ?_
    exact .lift_bind fun _ _ => .pure rfl trivial
  · refine read_bind_mirrors hb (by decide) (by decide) fun raw => ?_
    exact .lift_bind fun _ _ => .pure rfl trivial
  · exact read_bind_mirrors hb (by decide) (by decide) fun _ =>
      .pure rfl trivial
  · exact .bind (meterReading_mirrors hb) fun _ _ _ => .pure rfl trivial
  · split
    · exact .fail
    · refine .bind (meterReading_mirrors hb) fun _ _ _ => ?_
      exact .lift_bind fun _ _ => .pure rfl trivial

theorem getClock_mirrors :
    (getClock b d).Mirrors (answers.peer timeout) k.vfo k fun _ _ => True := by
  refine .lift_bind fun _ _ => ?_
  refine read_bind_mirrors hb (by decide) (by decide) fun (_, _, _) => ?_
  refine read_bind_mirrors hb (by decide) (by decide) fun (_, _) => ?_
  refine read_bind_mirrors hb (by decide) (by decide) fun _ => ?_
  exact .pure rfl trivial

theorem setClock_mirrors {t : ClockTime} :
    (setClock b d t).Mirrors (answers.peer timeout) k.vfo k fun _ _ => True := by
  refine .lift_bind fun _ _ => .lift_bind fun requests h => commands_mirror fun r hr => ?_
  exact keeps_aside hb (.setClock h hr) (by decide) (by decide)

end

/-- The model has a main and a sub receiver and a memory mode, and few enough steps to number them. -/
structure Fits (d : Descriptor) : Prop where
  vfos : ∀ v, v ∈ d.vfos ↔ v ∈ [Vfo.main, .sub, .memory]
  preamp : d.preamp.length < 0xFA

theorem setLevel_mirrors {l : Level} {value : LevelValue} (hb : b.Sound) (hd : Fits d) :
    (setLevel b d l value).Mirrors (answers.peer timeout) k.vfo k fun _ _ => True := by
  refine .lift_bind fun _ _ => .lift_bind fun r hr => (command_mirrors ?_).any
  rcases Bus.Says.levelRequest hd.preamp hr with h | h | h
  · exact keeps_aside hb h (by decide) (by decide)
  · exact keeps_aside hb h (by decide) (by decide)
  · exact keeps_aside hb h (by decide) (by decide)

section

variable (hb : b.Sound) (ht : 0 < timeout) (hd : Fits d)
include hb ht hd

/-- A VFO that was selected is recorded. -/
theorem select_mirrors (hv : d.checkVfo v = .ok ()) (h : b.selectVfo v = .ok r) :
    (do b.command r; Dialogue.selected d v : Dialogue Unit).Mirrors (answers.peer timeout) k.vfo k
      fun _ _ => True := by
  have hne : v ≠ .current := by
    rintro rfl
    cases h
  have hmem : v ∈ d.vfos := (Descriptor.checkVfo_ok.1 hv).resolve_left hne
  exact .move_bind (selectVfo_moves hb ht ((hd.vfos v).1 hmem) h) fun _ =>
    Dialogue.Mirrors.any (.selected hmem hne)

theorem switchTo_mirrors :
    (b.switchTo d v).Mirrors (answers.peer timeout) k.vfo k fun _ _ => True := by
  refine .known_bind (.lift_bind fun _ hv => ?_)
  split
  · exact .lift_bind fun r hr => select_mirrors hb ht hd hv hr
  · exact .pure rfl trivial

theorem getFrequency_mirrors :
    (getFrequency b d v).Mirrors (answers.peer timeout) k.vfo k fun _ _ => True := by
  refine .lift_bind fun _ _ => .bind (switchTo_mirrors hb ht hd) fun _ _ _ => ?_
  exact (read_decode_mirrors hb (by decide) (by decide)).any

theorem setFrequency_mirrors {hz : Nat} :
    (setFrequency b d region v hz).Mirrors (answers.peer timeout) k.vfo k fun _ _ => True := by
  refine .lift_bind fun _ _ => .known_bind (.lift_bind fun _ _ => .lift_bind fun r hr => ?_)
  refine .bind (switchTo_mirrors hb ht hd) fun _ _ _ => (command_mirrors ?_).any
  exact keeps_aside hb (.setFrequency hr) (by decide) (by decide)

theorem getMode_mirrors :
    (getMode b d region v).Mirrors (answers.peer timeout) k.vfo k fun _ _ => True := by
  refine .lift_bind fun _ _ => .bind (switchTo_mirrors hb ht hd) fun _ _ _ => ?_
  refine read_bind_mirrors hb (by decide) (by decide) fun (base, slot) => ?_
  dsimp only
  split
  · exact read_bind_mirrors hb (by decide) (by decide) fun _ => .pure rfl trivial
  · exact .pure rfl trivial

theorem setMode_mirrors {m : Mode} {width : Option Passband} :
    (setMode b d region v m width).Mirrors (answers.peer timeout) k.vfo k fun _ _ => True := by
  have hrest : ∀ width : Option Passband, (do
      b.switchTo d v
      (modeRequests b d region m width).forM b.command : Dialogue Unit).Mirrors
        (answers.peer timeout) k.vfo k fun _ _ => True := by
    refine fun width => .bind (switchTo_mirrors hb ht hd) fun _ _ _ => commands_mirror fun r hr => ?_
    rcases Bus.Says.modeRequests hr with h | h
    · exact keeps_aside hb h (by decide) (by decide)
    · exact keeps_aside hb h (by decide) (by decide)
  refine .lift_bind fun _ _ => .lift_bind fun _ _ => ?_
  split
  · exact .lift_bind fun width _ => hrest width
  · exact hrest none

theorem setVfo_mirrors :
    (setVfo b d v).Mirrors (answers.peer timeout) k.vfo k fun _ _ => True :=
  .lift_bind fun _ _ => .known_bind <| .lift_bind fun _ hv => .lift_bind fun _ hr =>
    select_mirrors hb ht hd hv hr

/-- A memory channel that was selected puts the rig into memory mode. -/
theorem setMemory_mirrors {channel : Nat} :
    (setMemory b d channel).Mirrors (answers.peer timeout) k.vfo k fun _ _ => True := by
  have hmem : Vfo.memory ∈ d.vfos := (hd.vfos .memory).2 (by decide)
  refine .lift_bind fun _ _ => .lift_bind fun r hr => ?_
  obtain ⟨digits, hdigits, hr⟩ := Outcome.bind_eq_ok.1 hr
  cases hr
  have hlength : digits.length ≤ 58 := by
    rw [Bcd.ByteOrder.length_of_encode (o := .high) hdigits]
    decide
  refine .move_bind (command_moves hb ht (by decide) (Bcd.encodeHigh_clear hdigits) hlength
    Call.of?_memory rfl) fun _ => .known_bind (.learn_bind ?_)
  rw [if_pos (show d.vfos.contains .memory = true from hmem)]
  exact Dialogue.Mirrors.any (.selected hmem (by decide))

/-- In front of a scan the rig enters memory mode, which is recorded, or leaves it, which is not. -/
theorem scan_mirrors {o : ScanOp} :
    (scan b d o).Mirrors (answers.peer timeout) k.vfo k fun _ _ => True := by
  have hscan : ∀ k : Tracking, (b.command (b.scan o)).Mirrors (answers.peer timeout) k.vfo k
      fun _ _ => True := fun k =>
    (command_mirrors (keeps_aside hb .scan (by decide) (by decide))).any
  refine .lift_bind fun _ _ => ?_
  cases o with
  | stop => exact hscan k
  | vfo => exact .bind (command_mirrors (vfoMode_keeps hb)) fun _ k _ => hscan k
  | memory =>
    have hmem : Vfo.memory ∈ d.vfos := (hd.vfos .memory).2 (by decide)
    refine .lift_bind fun r hr => .move_bind (selectVfo_moves hb ht (by decide) hr) fun _ => ?_
    exact .bind (.selected hmem (by decide)) fun _ k _ => hscan k

end

theorem getMemory_mirrors : getMemory.Mirrors (answers.peer timeout) k.vfo k fun _ _ => True := by
  refine .known_bind ?_
  split
  · exact .pure rfl trivial
  · exact .fail

/-- **Every operation follows the rig**, whatever comes of it. -/
theorem respond_mirrors {α : Type} (hb : b.Sound) (ht : 0 < timeout) (hd : Fits d) (op : Operation α)
    (k : Tracking) :
    (respond b d config op).Mirrors (answers.peer timeout) k.vfo k fun _ _ => True := by
  cases op with
  | start => exact .pure rfl trivial
  | close => exact .hangUp (.pure rfl trivial)
  | getFrequency v => exact getFrequency_mirrors hb ht hd
  | setFrequency v hz => exact setFrequency_mirrors hb ht hd
  | getMode v => exact getMode_mirrors hb ht hd
  | setMode v m width => exact setMode_mirrors hb ht hd
  | getVfo => exact .known_bind (.pure rfl trivial)
  | setVfo v => exact setVfo_mirrors hb ht hd
  | getPtt v => exact (read_decode_mirrors hb (by decide) (by decide)).any
  | setPtt v on => exact (command_mirrors (keeps_aside hb .setPtt (by decide) (by decide))).any
  | getSplit v => exact (read_decode_mirrors hb (by decide) (by decide)).any
  | setSplit v on => exact (command_mirrors (keeps_aside hb .setSplit (by decide) (by decide))).any
  | getLevel v l => exact getLevel_mirrors hb
  | setLevel v l value => exact setLevel_mirrors hb hd
  | getMemory v => exact getMemory_mirrors
  | setMemory v channel => exact setMemory_mirrors hb ht hd
  | vfoOp v o => exact .lift_bind fun _ _ => (command_mirrors (vfoOp_keeps hb)).any
  | scan v o => exact scan_mirrors hb ht hd
  | getClock => exact getClock_mirrors hb
  | setClock t => exact setClock_mirrors hb
  | _ => exact .fail

/-! ## Sessions -/

theorem find_standard : Registry.standard.find? "IC-7800" = some ⟨Models.ic7800, .civ⟩ := by
  decide +kernel

theorem fits_ic7800 : Fits Models.ic7800 where
  vfos v := by cases v <;> decide
  preamp := by decide

/-- Sessions all have the same address. -/
theorem controller_of_backend (h : Family.civ.backend d config = .ok (.civ b)) : b.controller = 0xE0 := by
  unfold Family.backend at h
  dsimp only at h
  split at h
  · cases h
    rfl
  · cases h

/-- What the session takes for the selection is it unless the rig is astray, and memory mode then. -/
theorem Station.Shows.eq_selection {v : Vfo} {s : Station} (h : s.Shows v) :
    (v = s.selection ↔ s.astray = false) ∧ (s.astray = true → v = .memory) := by
  obtain ⟨receiver, inMemory, astray⟩ := s
  cases astray with
  | false => exact ⟨⟨fun _ => rfl, fun _ => h⟩, nofun⟩
  | true =>
    obtain ⟨rfl, rfl⟩ : v = .memory ∧ inMemory = false := h
    cases receiver <;> exact ⟨⟨nofun, nofun⟩, fun _ => rfl⟩

/-- **The session knows what its rig has selected unless the rig is astray**, after any operations with any
arguments, the refused and the failed ones included. It takes a rig that is astray to be in memory mode. -/
theorem selection_followed {e : Entry} {r s : Rig (Simulated Station)}
    (he : Registry.standard.find? "IC-7800" = some e) (hc : e.create config answers.link = .ok r)
    (hb : r.backend = .civ b) (hrig : b.rig ≠ terminator ∧ b.rig ≠ collision)
    (ht : config.timeout ≠ some 0) (h : r.Performs s) :
    let rig := s.session.engine.port.link.rig
    (s.session.known.vfo = rig.selection ↔ rig.astray = false) ∧
      (rig.astray = true → s.session.known.vfo = .memory) := by
  rw [find_standard] at he
  cases he
  obtain ⟨backend, hbackend, hr⟩ := Outcome.bind_eq_ok.1 hc
  cases hr
  obtain rfl : backend = .civ b := hb
  have hsound : b.Sound := by
    refine ⟨hrig, ?_⟩
    rw [controller_of_backend hbackend]
    decide
  have htimeout : 0 < (config.resolve Models.ic7800.line).timeout := by
    show 0 < config.timeout.getD 1000
    match config.timeout, ht with
    | none, _ => decide
    | some (n + 1), _ => exact Nat.succ_pos n
  have hr : Rig.Mirrored (answers.peer (config.resolve Models.ic7800.line).timeout)
      ⟨.civ b, .start Models.ic7800 config answers.link⟩ :=
    ⟨⟨rfl, rfl, rfl, rfl⟩, rfl⟩
  have hs := h.mirrored hr fun op k => respond_mirrors hsound htimeout fits_ic7800 op k
  exact Station.Shows.eq_selection hs.shows

/-- A rig on an address of its own selects its sub receiver, a memory channel and the sub receiver again,
and a channel that it lacks is refused. -/
theorem selection_followed_back :
    let e : Entry := ⟨Models.ic7800, .civ⟩
    let answers := Answers.plain { rig := 0x70 }
    let config : Config := { address := some 0x70 }
    let r : Rig (Simulated Station) := ⟨.civ { rig := 0x70 }, .start Models.ic7800 config answers.link⟩
    let s := ((Rig.perform (.setVfo .sub)).run r).2
    let t := ((Rig.perform (.setMemory .current 7)).run s).2
    let u := ((Rig.perform (.setVfo .sub)).run t).2
    let v := ((Rig.perform (.setMemory .current 200)).run u).2
    Registry.standard.find? "IC-7800" = some e ∧ e.create config answers.link = .ok r ∧
      t.session.known.vfo = .memory ∧ v.session.known.vfo = .sub ∧
      v.session.known.vfo = v.session.engine.port.link.rig.selection := by
  intro e answers config r s t u v
  have hc : e.create config answers.link = .ok r := rfl
  have hv : r.Performs v := .perform _ (.perform _ (.perform _ (.perform _ .refl)))
  have hfollowed := selection_followed find_standard hc rfl (by decide) (by decide) hv
  exact ⟨find_standard, hc, by decide +kernel, by decide +kernel, hfollowed.1.2 (by decide +kernel)⟩

/-- After a memory channel, the rig scans outside of memory mode, and both operations succeed. The rig has
left memory mode, and the session has not noticed. -/
theorem scan_astray :
    let e : Entry := ⟨Models.ic7800, .civ⟩
    let answers := Answers.plain { rig := 0x6A }
    let r : Rig (Simulated Station) := ⟨.civ { rig := 0x6A }, .start Models.ic7800 {} answers.link⟩
    let s := ((Rig.perform (.setMemory .current 1)).run r).2
    let t := ((Rig.perform (.scan .current .vfo)).run s).2
    Registry.standard.find? "IC-7800" = some e ∧ e.create {} answers.link = .ok r ∧ r.Performs t ∧
      ((Rig.perform (.setMemory .current 1)).run r).1 = .ok () ∧
      ((Rig.perform (.scan .current .vfo)).run s).1 = .ok () ∧
      r.session.known.vfo = r.session.engine.port.link.rig.selection ∧
      t.session.known.vfo = .memory ∧ t.session.engine.port.link.rig.selection = .main :=
  ⟨find_standard, rfl, .perform _ (.perform _ .refl), by decide +kernel, by decide +kernel, rfl,
    by decide +kernel, by decide +kernel⟩

end RigControl.Civ
