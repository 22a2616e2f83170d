/-
The plans of the FT-840. Nothing is acknowledged, so that a request is complete once it is written.
-/
import RigControl.Proofs.Plan.Basic
import RigControl.Proofs.Traffic.Ft840

namespace RigControl.Ft840

open Outcome

def request (operation : String) (frame : List UInt8) : Request :=
  { operation := operation, frame := frame }

/-- Nothing was to be waited for, and nothing went wrong. -/
def Written : Completion := fun r o =>
  r.reply = .none ∧ o.isOk = true

/-- The selection of a VFO. -/
def selecting (d : Descriptor) (k : Tracking) (v : Vfo) : Outcome (Option (Vfo × Request)) := do
  let target := k.resolve v
  d.checkVfo target
  return some (target, request "set_vfo" (← selection k target))

/-- The selection that is due before an operation on a VFO. -/
def switching (d : Descriptor) (k : Tracking) (v : Vfo) : Outcome (Option (Vfo × Request)) :=
  if k.resolve v ≠ k.vfo then selecting d k v else return none

/-- What a write operation sends. -/
def plan (d : Descriptor) (config : Config) (k : Tracking) {α : Type} : Operation α → Outcome Plan
  | .setFrequency v hz => do
    d.checkVfo v
    let target := k.resolve v
    d.checkRxFrequency config.region target hz
    let frame ← setFrequency hz
    return { selection := ← switching d k target, commands := [request "set_freq" frame] }
  | .setMode v m width => do
    d.checkVfo v
    d.checkMode config.region m
    let frame ← setMode m (← isNarrow d m width)
    let target := k.resolve v
    let commands := [request "set_mode" frame]
    if target = .a ∨ target = .b then return { selection := ← selecting d k target, commands }
    return { commands }
  | .setVfo v => do return { selection := ← selecting d k v }
  | .setPtt v on => do
    d.checkVfo v
    let frame ← (if on then Command.pttOn else .pttOff).frame
    return { selection := ← switching d k v, commands := [request "set_ptt" frame] }
  | .setSplit _ on => do
    let frame ← (if on then Command.splitOn else .splitOff).frame
    return { commands := [request "set_split" frame] }
  | .setRit v offset => do
    d.checkVfo v
    d.checkRit offset
    let frames ← clarifierFrames offset
    return { selection := ← switching d k v, commands := frames.map (request "set_rit") }
  | .setFunc _ f on => do
    d.checkWriteFunc f
    if f = .tuner then
      let frame ← (if on then Command.tunerOn else .tunerOff).frame
      return { commands := [request "set_func" frame] }
    throw (.unsupported s!"function {f.name}")
  | .setMemory _ channel => do
    d.checkMemoryChannel channel
    let frame ← recallMemory (← channelByte channel)
    return { selection := some (.memory, request "set_mem" frame) }
  | .vfoOp _ o => do
    d.checkVfoOp o
    if o = .tune then return { commands := [request "vfo_op" (← Command.tunerStart.frame)] }
    throw (.unsupported s!"VFO operation {o.name}")
  | op => .error (.unsupported s!"{op.name} on {d.name}")

variable {d : Descriptor} {config : Config} {k : Tracking} {v : Vfo} {c : Command}

theorem send_row {operation : String} {frame : List UInt8} (hv : k.vfo = v) :
    (send operation frame).Row Written [request operation frame] v k := by
  rw [Dialogue.Row, send, Dialogue.wp_tell]
  refine ⟨fun e => ⟨.stop ?_, hv⟩, fun reply => ⟨.cons ⟨rfl, rfl⟩ .nil, hv⟩⟩
  rintro ⟨-, h⟩
  cases h

theorem command_row {operation : String} {frame : List UInt8} (hc : c.frame = .ok frame)
    (hv : k.vfo = v) : (command operation c).Row Written [request operation frame] v k := by
  rw [command, hc]
  exact send_row hv

section

variable (hk : k.Declared d)
include hk

theorem select_carries : (select d v).Carries Written
    (do return { selection := ← selecting d k v }) k := by
  rw [selecting]
  simp only [bind_assoc, pure_bind]
  refine .known_bind (.lift_bind fun _ hv => .lift_bind fun frame _ => ?_)
  refine .select_bind (send_row rfl) fun _ _ => ?_
  exact .selected (hk.mem_of_checked hv) hk.resolve_ne_current

theorem switchTo_carries : (switchTo d v).Carries Written
    (do return { selection := ← switching d k v }) k := by
  refine .known_bind ?_
  by_cases h : k.resolve v ≠ k.vfo
  · rw [switching, if_pos h, if_pos h]
    exact select_carries hk
  · rw [switching, if_neg h, if_neg h]
    exact .of_row (.done rfl)

theorem setFrequencyOf_carries {hz : Nat} : (setFrequencyOf d config.region v hz).Carries Written
    (plan d config k (.setFrequency v hz)) k := by
  refine .lift_bind fun _ _ => .known_bind (.lift_bind fun _ _ => .lift_bind fun frame _ => ?_)
  exact .switch_bind (switchTo_carries hk) fun _ => send_row rfl

theorem setModeOf_carries {m : Mode} {width : Option Passband} :
    (setModeOf d config.region v m width).Carries Written
      (plan d config k (.setMode v m width)) k := by
  refine .lift_bind fun _ _ => .lift_bind fun _ _ => .lift_bind fun narrow _ => ?_
  refine .lift_bind fun frame _ => .known_bind ?_
  by_cases h : k.resolve v = .a ∨ k.resolve v = .b
  · simp only [h, if_true]
    exact .switch_bind (select_carries hk) fun _ => send_row rfl
  · simp only [h, if_false]
    exact .of_row (send_row rfl)

theorem setPtt_carries {on : Bool} :
    (setPtt d v on).Carries Written (plan d config k (.setPtt v on)) k := by
  obtain ⟨frame, hframe⟩ : ∃ frame, (if on then Command.pttOn else .pttOff).frame = .ok frame :=
    frame_of_complete (by cases on <;> rfl)
  refine .lift_bind fun _ _ => ?_
  rw [hframe]
  exact .switch_bind (switchTo_carries hk) fun _ => command_row hframe rfl

theorem setRit_carries {offset : Int} :
    (setRit d v offset).Carries Written (plan d config k (.setRit v offset)) k := by
  refine .lift_bind fun _ _ => .lift_bind fun _ _ => .lift_bind fun frames _ => ?_
  exact .switch_bind (switchTo_carries hk) fun _ => .forM rfl fun _ _ _ hv => send_row hv

end

theorem setMemory_carries {channel : Nat} (hmem : Vfo.memory ∈ d.vfos) :
    (setMemory d channel).Carries Written (plan d config k (.setMemory v channel)) k := by
  refine .lift_bind fun _ _ => .lift_bind fun n _ => .lift_bind fun frame _ => ?_
  refine .select_bind (send_row rfl) fun _ _ => .known_bind (.learn_bind ?_)
  exact .selected hmem (by decide)

theorem setFunc_carries {f : Func} {on : Bool} :
    (setFunc d f on).Carries Written (plan d config k (.setFunc v f on)) k := by
  obtain ⟨frame, hframe⟩ : ∃ frame, (if on then Command.tunerOn else .tunerOff).frame = .ok frame :=
    frame_of_complete (by cases on <;> rfl)
  refine .lift_bind fun _ _ => ?_
  rw [hframe]
  by_cases h : f = .tuner
  · rw [if_pos h, if_pos h]
    exact .of_row (command_row hframe rfl)
  · rw [if_neg h, if_neg h]
    exact .fail

theorem setSplit_carries {on : Bool} :
    (command "set_split" (if on then .splitOn else .splitOff)).Carries Written
      (plan d config k (.setSplit v on)) k := by
  obtain ⟨frame, hframe⟩ : ∃ frame, (if on then Command.splitOn else .splitOff).frame = .ok frame :=
    frame_of_complete (by cases on <;> rfl)
  show Dialogue.Carries _ _ ((if on then Command.splitOn else .splitOff).frame >>= _) k
  rw [hframe]
  exact .of_row (command_row hframe rfl)

theorem vfoOp_carries {o : VfoOp} :
    (vfoOp d o).Carries Written (plan d config k (.vfoOp v o)) k := by
  refine .lift_bind fun _ _ => ?_
  by_cases h : o = .tune
  · rw [if_pos h, if_pos h]
    exact .of_row (command_row rfl rfl)
  · rw [if_neg h, if_neg h]
    exact .fail

/-- **The FT-840 carries out the plan** of every operation that writes. -/
theorem respond_carries {α : Type} (hd : Suits d) (hk : k.Declared d) {op : Operation α}
    (hop : op.isWrite = true) :
    (respond d config op).Carries Written (plan d config k op) k := by
  cases op with
  | setFrequency v hz => exact setFrequencyOf_carries hk
  | setMode v m width => exact setModeOf_carries hk
  | setVfo v => exact select_carries hk
  | setPtt v on => exact setPtt_carries hk
  | setSplit v on => exact setSplit_carries
  | setRit v offset => exact setRit_carries hk
  | setFunc v f on => exact setFunc_carries
  | setMemory v channel => exact setMemory_carries (hd .memory (by decide))
  | vfoOp v o => exact vfoOp_carries
  | setLevel | scan | setClock => exact .fail
  | _ => cases hop

end RigControl.Ft840
