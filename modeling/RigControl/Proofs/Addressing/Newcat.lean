/-
How the newer Yaesu rigs are addressed. The frequency and the mode of each VFO have mnemonics of their
own, and a command begins with its mnemonic.
-/
import RigControl.Newcat.Operations
import RigControl.Proofs.Addressing.Basic
import RigControl.Proofs.AsciiFrames
import RigControl.Proofs.Selection

namespace RigControl.Newcat

open Outcome

/-- The frame is a command of the mnemonic. -/
def Carries (mnemonic : String) (frame : List UInt8) : Prop :=
  ∃ body, frame = Text.utf8 (AsciiFrame.semicolon.commandText mnemonic body)

/-- The mnemonics of the two VFOs. -/
def mnemonic? : Access → Vfo → Option String
  | .frequency, .a => some "FA"
  | .frequency, .b => some "FB"
  | .mode, .a => some "MD0"
  | .mode, .b => some "MD1"
  | _, _ => none

def addressing : Addressing where
  selector := "VS"
  Names access v frame := ∃ mnemonic ∈ mnemonic? access v, Carries mnemonic frame

variable {α : Type} {d : Descriptor} {k k' : Tracking} {op : Operation α} {v : Vfo} {r : Request}
  {operation mnemonic : String}

/-! ## Frames -/

theorem query_carries : Carries mnemonic (AsciiFrame.semicolon.query mnemonic) :=
  ⟨[], AsciiFrame.query_eq AsciiFrame.semicolon_ascii⟩

theorem command_carries {fields : List Field} (h : command operation mnemonic fields = .ok r) :
    Carries mnemonic r.frame := by
  obtain ⟨frame, hframe, h⟩ := bind_eq_ok.1 h
  cases h
  exact ⟨_, ((AsciiFrame.build_eq_ok AsciiFrame.semicolon_ascii).1 hframe).2⟩

/-- The mnemonics of the commands that are not about the selection. -/
def others : List String :=
  ["FA", "FB", "MD0", "MD1", "TX", "FT", "RA0", "PA0", "SM0", "AI"]

theorem Carries.spares {frame : List UInt8} (h : Carries mnemonic frame) (hm : mnemonic ∈ others) :
    ¬ Text.utf8 "VS".toList <+: frame := by
  obtain ⟨body, rfl⟩ := h
  rw [AsciiFrame.commandText, List.append_assoc]
  have hother : ∀ m ∈ others, "VS".length ≤ m.length ∧ ¬ "VS".toList <+: m.toList := by decide
  exact Addressing.spares_of_mnemonic (hother _ hm).1 (hother _ hm).2

/-- The command of an operation that is about no VFO. -/
theorem Carries.allows {frame : List UInt8} (h : Carries mnemonic frame) (hm : mnemonic ∈ others)
    (hop : op.access? = none) : addressing.Allows k op frame where
  spares := h.spares hm
  names access v hv := by simp [hop] at hv

/-- The command of an operation that is about a VFO. -/
theorem allows_of_names {frame : List UInt8} {access : Access} (hop : op.access? = some (access, v))
    (h : addressing.Names access (k.resolve v) frame) : addressing.Allows k op frame where
  spares := by
    obtain ⟨mnemonic, hm, h⟩ := h
    refine h.spares ?_
    unfold mnemonic? at hm
    split at hm <;> cases hm <;> decide
  names access' v' hv := by
    cases hop.symm.trans hv
    exact h

section

variable (hv : v = .a ∨ v = .b)
include hv

/-- The mnemonic of a command about a VFO that the rig has is the VFO's own. -/
theorem frequencyMnemonic_eq (h : frequencyMnemonic v = .ok mnemonic) :
    mnemonic? .frequency v = some mnemonic := by
  rcases hv with rfl | rfl <;> (cases h; rfl)

theorem modeMnemonic_eq (h : modeMnemonic v = .ok mnemonic) :
    mnemonic? .mode v = some mnemonic := by
  rcases hv with rfl | rfl <;> (cases h; rfl)

theorem readFrequency_names (h : readFrequency v = .ok r) : addressing.Names .frequency v r.frame := by
  obtain ⟨mnemonic, hm, h⟩ := bind_eq_ok.1 h
  cases h
  exact ⟨mnemonic, frequencyMnemonic_eq hv hm, query_carries⟩

theorem setFrequency_names {hz : Nat} (h : setFrequency v hz = .ok r) :
    addressing.Names .frequency v r.frame := by
  obtain ⟨mnemonic, hm, h⟩ := bind_eq_ok.1 h
  obtain ⟨r', hcommand, h⟩ := bind_eq_ok.1 h
  cases h
  exact ⟨mnemonic, frequencyMnemonic_eq hv hm, command_carries (r := r') hcommand⟩

theorem readMode_names (h : readMode v = .ok r) : addressing.Names .mode v r.frame := by
  obtain ⟨mnemonic, hm, h⟩ := bind_eq_ok.1 h
  cases h
  exact ⟨mnemonic, modeMnemonic_eq hv hm, query_carries⟩

theorem setMode_names {m : Mode} (h : setMode v m = .ok r) : addressing.Names .mode v r.frame := by
  obtain ⟨mnemonic, hm, h⟩ := bind_eq_ok.1 h
  obtain ⟨r', hcommand, h⟩ := bind_eq_ok.1 h
  cases h
  exact ⟨mnemonic, modeMnemonic_eq hv hm, command_carries (r := r') hcommand⟩

end

/-! ## Operations -/

section

variable (hk : k'.vfo = k.vfo)
include hk

theorem ask_addresses (hr : addressing.Allows k op r.frame) :
    (ask mnemonic r).Obeys (addressing.contract k op) k' fun _ _ => True :=
  .bind (Addressing.ask hk hr) fun _ _ hk _ => Addressing.lift hk

/-- Reading a value that is about no VFO. -/
theorem read_addresses {β : Type} {decode : List Char → Outcome β} (hm : mnemonic ∈ others)
    (hop : op.access? = none) :
    (do decode (← ask mnemonic (query operation mnemonic)) : Dialogue β).Obeys
      (addressing.contract k op) k' fun _ _ => True :=
  .bind (ask_addresses hk (query_carries.allows hm hop)) fun _ _ hk _ => Addressing.lift hk

/-- Writing a value that is about no VFO. -/
theorem write_addresses {fields : List Field} (hm : mnemonic ∈ others) (hop : op.access? = none) :
    (do .tell (← command operation mnemonic fields) : Dialogue Unit).Obeys
      (addressing.contract k op) k' fun _ _ => True :=
  Addressing.lift_bind hk fun _ hr => Addressing.tell hk ((command_carries hr).allows hm hop)

end

theorem start_addresses (hop : op.access? = none) :
    start.Obeys (addressing.contract k op) k fun _ _ => True := by
  refine .bind (ask_addresses rfl (query_carries.allows (by decide) hop)) fun s k' hk _ => ?_
  refine Addressing.lift_bind hk fun previous _ => Addressing.lift_bind hk fun r hr => ?_
  refine .bind (Addressing.tell hk ((command_carries hr).allows (by decide) hop)) fun _ k' hk _ => ?_
  exact .known_bind (.learn hk trivial)

theorem close_addresses {config : Config} (hop : op.access? = none) :
    (close config).Obeys (addressing.contract k op) k fun _ _ => True := by
  refine .known_bind (.bind (.learn (R := fun _ _ => True) rfl trivial) fun _ k' hk _ => ?_)
  have hdown : ∀ k', k'.vfo = k.vfo →
      (Dialogue.hangUp (pure ())).Obeys (addressing.contract k op) k' fun _ _ => True :=
    fun k' hk => .hangUp hk (.pure hk trivial)
  split
  · split
    · refine Addressing.lift_bind hk fun r hr => ?_
      exact .bind (Addressing.tell hk ((command_carries hr).allows (by decide) hop))
        fun _ k' hk _ => hdown k' hk
    · exact hdown k' hk
  · exact hdown k' hk

section

variable (hd : ∀ v ∈ d.vfos, v = .a ∨ v = .b) (hk : k.Declared d)
include hd hk

theorem getFrequency_addresses (hop : op.access? = some (.frequency, v)) :
    (getFrequency d v).Obeys (addressing.contract k op) k fun _ _ => True := by
  refine Addressing.lift_bind rfl fun _ hv => .known_bind ?_
  refine Addressing.lift_bind rfl fun mnemonic _ => Addressing.lift_bind rfl fun r hr => ?_
  have hnames := readFrequency_names (hd _ (hk.resolve_mem hv)) hr
  exact .bind (ask_addresses rfl (allows_of_names hop hnames)) fun _ _ hk _ => Addressing.lift hk

theorem setFrequencyOf_addresses {region : Region} {hz : Nat}
    (hop : op.access? = some (.frequency, v)) :
    (setFrequencyOf d region v hz).Obeys (addressing.contract k op) k fun _ _ => True := by
  refine Addressing.lift_bind rfl fun _ hv => .known_bind (Addressing.lift_bind rfl fun _ _ => ?_)
  refine Addressing.lift_bind rfl fun r hr => ?_
  have hnames := setFrequency_names (hd _ (hk.resolve_mem hv)) hr
  exact Addressing.tell rfl (allows_of_names hop hnames)

theorem getMode_addresses (hop : op.access? = some (.mode, v)) :
    (getMode d v).Obeys (addressing.contract k op) k fun _ _ => True := by
  refine Addressing.lift_bind rfl fun _ hv => .known_bind ?_
  refine Addressing.lift_bind rfl fun mnemonic _ => Addressing.lift_bind rfl fun r hr => ?_
  have hnames := readMode_names (hd _ (hk.resolve_mem hv)) hr
  refine .bind (ask_addresses rfl (allows_of_names hop hnames)) fun _ _ hk _ => ?_
  exact Addressing.lift_bind hk fun _ _ => .pure hk trivial

theorem setModeOf_addresses {region : Region} {m : Mode} {width : Option Passband}
    (hop : op.access? = some (.mode, v)) :
    (setModeOf d region v m width).Obeys (addressing.contract k op) k fun _ _ => True := by
  refine Addressing.lift_bind rfl fun _ hv => Addressing.lift_bind rfl fun _ _ => ?_
  refine .bind (R := fun _ _ => True) (.discard (Addressing.lift rfl) fun _ _ _ _ => trivial) ?_
  refine fun _ k' hk' _ => .known_bind ?_
  refine Addressing.lift_bind hk' fun r hr => Addressing.tell hk' (allows_of_names hop ?_)
  have hresolve : k'.resolve v = k.resolve v := by simp [Tracking.resolve, show k'.vfo = k.vfo from hk']
  rw [hresolve] at hr
  exact setMode_names (hd _ (hk.resolve_mem hv)) hr

end

theorem getLevel_addresses {l : Level} (hop : op.access? = none) :
    (getLevel d l).Obeys (addressing.contract k op) k fun _ _ => True := by
  have hasked {mnemonic : String} (hm : mnemonic ∈ others) :
      (ask mnemonic (query "get_level" mnemonic)).Obeys (addressing.contract k op) k fun _ _ => True :=
    ask_addresses rfl (query_carries.allows hm hop)
  refine Addressing.lift_bind rfl fun _ _ => ?_
  split
  · refine .bind (hasked (by decide)) fun _ k' hk _ => Addressing.lift_bind hk fun _ _ => ?_
    exact Addressing.lift_bind hk fun _ _ => .pure hk trivial
  · refine .bind (hasked (by decide)) fun _ k' hk _ => Addressing.lift_bind hk fun _ _ => ?_
    exact Addressing.lift_bind hk fun _ _ => .pure hk trivial
  · refine .bind (hasked (by decide)) fun _ k' hk _ => Addressing.lift_bind hk fun _ _ => ?_
    exact .pure hk trivial
  · refine .bind (hasked (by decide)) fun _ k' hk _ => Addressing.lift_bind hk fun _ _ => ?_
    split
    · exact Addressing.lift_bind hk fun _ _ => .pure hk trivial
    · exact Addressing.fail hk
  · exact Addressing.fail rfl

theorem setLevel_addresses {l : Level} {value : LevelValue} (hop : op.access? = none) :
    (setLevel d l value).Obeys (addressing.contract k op) k fun _ _ => True := by
  refine Addressing.lift_bind rfl fun _ _ => Addressing.lift_bind rfl fun r hr => ?_
  refine Addressing.tell rfl ?_
  unfold levelRequest at hr
  split at hr
  · obtain ⟨db, -, hr⟩ := bind_eq_ok.1 hr
    obtain ⟨raw, -, hr⟩ := bind_eq_ok.1 hr
    exact (command_carries hr).allows (by decide) hop
  · obtain ⟨db, -, hr⟩ := bind_eq_ok.1 hr
    obtain ⟨index, -, hr⟩ := bind_eq_ok.1 hr
    exact (command_carries hr).allows (by decide) hop
  · cases hr

/-- **A newer Yaesu rig with two VFOs leaves the selection alone** unless the operation is about it. -/
theorem respond_addresses {config : Config} (hd : ∀ v ∈ d.vfos, v = .a ∨ v = .b)
    (hk : k.Declared d) (hop : op.isSelection = false) :
    (respond d config op).Obeys (addressing.contract k op) k fun _ _ => True := by
  cases op with
  | start => exact start_addresses rfl
  | close => exact close_addresses rfl
  | getFrequency v => exact getFrequency_addresses hd hk rfl
  | setFrequency v hz => exact setFrequencyOf_addresses hd hk rfl
  | getMode v => exact getMode_addresses hd hk rfl
  | setMode v m width => exact setModeOf_addresses hd hk rfl
  | getVfo => cases hop
  | setVfo v => cases hop
  | getPtt v => exact read_addresses rfl (by decide) rfl
  | setPtt v on => exact write_addresses rfl (by decide) rfl
  | getSplit v => exact read_addresses rfl (by decide) rfl
  | setSplit v on => exact write_addresses rfl (by decide) rfl
  | getLevel v l => exact getLevel_addresses rfl
  | setLevel v l value => exact setLevel_addresses rfl
  | _ => exact Addressing.fail rfl

end RigControl.Newcat
