/-
The plans of a CI-V rig. Every command is answered, so that a request is complete once the rig has
accepted it.
-/
import RigControl.Proofs.Plan.Basic
import RigControl.Proofs.Traffic.Civ

namespace RigControl.Civ

open Outcome

namespace Bus

variable (b : Bus)

/-- A frame in which the rig tells the controller that it has accepted a command. -/
def IsAck (reply : List UInt8) : Prop :=
  Frame.decode reply = .ok ⟨b.controller, b.rig, accepted, []⟩

/-- The rig has answered that it accepts. -/
def Accepted : Completion := fun _ o =>
  ∃ reply, o = .ok reply ∧ b.IsAck reply

/-- The selection that is due before an operation on a VFO. -/
def switching (d : Descriptor) (k : Tracking) (v : Vfo) : Outcome (Option (Vfo × Request)) := do
  let target := k.resolve v
  d.checkVfo target
  if target ≠ k.vfo then return some (target, ← b.selectVfo target)
  return none

end Bus

/-- What a write operation sends. -/
def plan (b : Bus) (d : Descriptor) (config : Config) (k : Tracking) {α : Type} :
    Operation α → Outcome Plan
  | .setFrequency v hz => do
    d.checkVfo v
    let target := k.resolve v
    d.checkRxFrequency config.region target hz
    let r ← b.setFrequency hz
    return { selection := ← b.switching d k target, commands := [r] }
  | .setMode v m width => do
    d.checkVfo v
    d.checkMode config.region m
    let width ← if width.isSome then d.filterFor m width else pure none
    return {
      selection := ← b.switching d k v
      commands := modeRequests b d config.region m width }
  | .setVfo v => do
    d.checkVfo v
    let target := k.resolve v
    d.checkVfo target
    return { selection := some (target, ← b.selectVfo target) }
  | .setPtt _ on => return { commands := [b.setPtt on] }
  | .setSplit _ on => return { commands := [b.setSplit on] }
  | .setLevel _ l value => do
    d.checkWriteLevel l
    return { commands := [← levelRequest b d l value] }
  | .setMemory _ channel => do
    d.checkMemoryChannel channel
    let r ← b.selectMemory channel
    return if d.vfos.contains .memory then { selection := some (.memory, r) } else { commands := [r] }
  | .vfoOp _ o => do
    d.checkVfoOp o
    return { commands := [b.vfoOp o] }
  | .scan _ o => do
    d.checkScan o
    match o with
    | .stop => return { commands := [b.scan o] }
    | .vfo => return { commands := [b.vfoMode, b.scan o] }
    | .memory =>
      return { selection := some (.memory, ← b.selectVfo .memory), commands := [b.scan o] }
  | .setClock t => do
    d.checkWriteParm .time
    return { commands := ← b.setClock t }
  | op => .error (.unsupported s!"{op.name} on {d.name}")

variable {b : Bus} {d : Descriptor} {config : Config} {k : Tracking} {v : Vfo}
  {r : Request}

theorem busDecode_ok {reply : List UInt8} {f : Frame} : b.decode reply = .ok f ↔
    Frame.decode reply = .ok f ∧ f.source = b.rig ∧ f.target = b.controller := by
  rw [Bus.decode, bind_eq_ok]
  constructor
  · rintro ⟨g, hg, h⟩
    by_cases hother : g.source ≠ b.rig ∨ g.target ≠ b.controller
    · simp [hother] at h
    · rw [if_neg hother] at h
      cases h
      rw [not_or, Classical.not_not, Classical.not_not] at hother
      exact ⟨hg, hother⟩
  · rintro ⟨hf, hsource, htarget⟩
    exact ⟨f, hf, by simp [hsource, htarget]⟩

theorem expectAccepted_ok {reply : List UInt8} :
    b.expectAccepted reply = .ok () ↔ b.IsAck reply := by
  rw [Bus.expectAccepted, bind_eq_ok]
  constructor
  · rintro ⟨f, hf, h⟩
    obtain ⟨hf, hsource, htarget⟩ := busDecode_ok.1 hf
    by_cases haccepted : f.isAccepted = true
    · obtain ⟨target, source, command, payload⟩ := f
      simp only [Frame.isAccepted, Bool.and_eq_true, beq_iff_eq, List.isEmpty_iff] at haccepted
      obtain ⟨rfl, rfl⟩ := haccepted
      rw [Bus.IsAck, ← hsource, ← htarget]
      exact hf
    · rw [if_neg haccepted] at h
      dsimp only at h
      split at h <;> cases h
  · intro h
    exact ⟨_, busDecode_ok.2 ⟨h, rfl, rfl⟩, rfl⟩

theorem command_row (hv : k.vfo = v) : (b.command r).Row b.Accepted [r] v k := by
  rw [Dialogue.Row, Bus.command, Dialogue.wp_bind, Dialogue.wp_ask]
  refine ⟨fun e => ⟨.stop ?_, hv⟩, fun reply => ?_⟩
  · rintro ⟨reply, h, -⟩
    cases h
  · rw [Dialogue.Post.before_ok, Dialogue.wp_lift]
    refine ⟨fun _ h => ⟨.cons ⟨reply, rfl, expectAccepted_ok.1 h⟩ .nil, hv⟩, fun e h => ?_⟩
    refine ⟨.stop ?_, hv⟩
    rintro ⟨reply', hreply, hack⟩
    cases hreply
    rw [expectAccepted_ok.2 hack] at h
    cases h

/-- Some requests, one after another. -/
theorem commands_row {requests : List Request} (hv : k.vfo = v) :
    (requests.forM b.command).Row b.Accepted requests v k := by
  have hrow : (requests.forM b.command).Row b.Accepted (requests.map id) v k :=
    .forM hv fun _ _ _ hv => command_row hv
  rwa [List.map_id] at hrow

section

variable (hk : k.Declared d)
include hk

theorem switchTo_carries : (b.switchTo d v).Carries b.Accepted
    (do return { selection := ← b.switching d k v }) k := by
  rw [Bus.switching]
  simp only [bind_assoc]
  refine .known_bind (.lift_bind fun _ hv => ?_)
  by_cases h : k.resolve v ≠ k.vfo
  · rw [if_pos h, if_pos h]
    simp only [bind_assoc, pure_bind]
    refine .lift_bind fun r _ => .select_bind (command_row rfl) fun _ _ => ?_
    exact .selected (hk.mem_of_checked hv) hk.resolve_ne_current
  · rw [if_neg h, if_neg h]
    exact .of_row (.done rfl)

theorem setFrequency_carries {hz : Nat} : (setFrequency b d config.region v hz).Carries b.Accepted
    (plan b d config k (.setFrequency v hz)) k := by
  refine .lift_bind fun _ _ => .known_bind (.lift_bind fun _ _ => .lift_bind fun r _ => ?_)
  exact .switch_bind (switchTo_carries hk) fun _ => command_row rfl

theorem setMode_carries {m : Mode} {width : Option Passband} :
    (setMode b d config.region v m width).Carries b.Accepted
      (plan b d config k (.setMode v m width)) k := by
  have hrest : ∀ width : Option Passband, (do
      b.switchTo d v
      (modeRequests b d config.region m width).forM b.command : Dialogue Unit).Carries b.Accepted (do
        return {
          selection := ← b.switching d k v
          commands := modeRequests b d config.region m width }) k := fun width =>
    .switch_bind (switchTo_carries hk) fun _ => commands_row rfl
  refine .lift_bind fun _ _ => .lift_bind fun _ _ => ?_
  cases width with
  | none => exact hrest none
  | some w => exact .lift_bind fun width _ => hrest width

theorem setVfo_carries :
    (setVfo b d v).Carries b.Accepted (plan b d config k (.setVfo v)) k := by
  refine .lift_bind fun _ _ => .known_bind (.lift_bind fun _ hv => .lift_bind fun r _ => ?_)
  refine .select_bind (command_row rfl) fun _ _ => ?_
  exact .selected (hk.mem_of_checked hv) hk.resolve_ne_current

end

theorem setLevel_carries {l : Level} {value : LevelValue} :
    (setLevel b d l value).Carries b.Accepted (plan b d config k (.setLevel v l value)) k :=
  .lift_bind fun _ _ => .lift_bind fun _ _ => .of_row (command_row rfl)

theorem setMemory_carries {channel : Nat} :
    (setMemory b d channel).Carries b.Accepted (plan b d config k (.setMemory v channel)) k := by
  refine .lift_bind fun _ _ => .lift_bind fun r _ => ?_
  by_cases hmem : d.vfos.contains .memory = true
  · rw [if_pos hmem, if_pos hmem]
    refine .select_bind (command_row rfl) fun _ _ => .known_bind (.learn_bind ?_)
    exact .selected hmem (by decide)
  · rw [if_neg hmem, if_neg hmem]
    refine .of_row (.bind (command_row rfl) fun _ _ hv => .known_bind (.learn_bind ?_))
    exact .done hv

theorem vfoOp_carries {o : VfoOp} :
    (vfoOp b d o).Carries b.Accepted (plan b d config k (.vfoOp v o)) k :=
  .lift_bind fun _ _ => .of_row (command_row rfl)

theorem scan_carries (hd : Suits d) {o : ScanOp} :
    (scan b d o).Carries b.Accepted (plan b d config k (.scan v o)) k := by
  refine .lift_bind fun _ ho => ?_
  cases o with
  | stop => exact .of_row (command_row rfl)
  | vfo => exact .of_row (.bind (command_row rfl) fun _ _ hv => command_row hv)
  | memory =>
    have hmem : Vfo.memory ∈ d.vfos := hd (Descriptor.checkMember_ok.1 ho)
    refine .lift_bind fun r _ => .select_bind (command_row rfl) fun _ _ => ?_
    exact .bind (.selected hmem (by decide)) fun _ _ hv => command_row hv

theorem setClock_carries {t : ClockTime} :
    (setClock b d t).Carries b.Accepted (plan b d config k (.setClock t)) k :=
  .lift_bind fun _ _ => .lift_bind fun _ _ => .of_row (commands_row rfl)

/-- **A CI-V rig carries out the plan** of every operation that writes. -/
theorem respond_carries {α : Type} (hd : Suits d) (hk : k.Declared d) {op : Operation α}
    (hop : op.isWrite = true) :
    (respond b d config op).Carries b.Accepted (plan b d config k op) k := by
  cases op with
  | setFrequency v hz => exact setFrequency_carries hk
  | setMode v m width => exact setMode_carries hk
  | setVfo v => exact setVfo_carries hk
  | setPtt v on => exact .of_row (command_row rfl)
  | setSplit v on => exact .of_row (command_row rfl)
  | setLevel v l value => exact setLevel_carries
  | setMemory v channel => exact setMemory_carries
  | vfoOp v o => exact vfoOp_carries
  | scan v o => exact scan_carries hd
  | setClock t => exact setClock_carries
  | setRit | setFunc => exact .fail
  | _ => cases hop

end RigControl.Civ
