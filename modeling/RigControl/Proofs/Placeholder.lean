/-
The VFO `current` as a placeholder. An operation that is asked about it answers, sends and leaves behind
exactly what it would if asked about the selected VFO by name (`current_is_placeholder`), since all that a
conversation does with a VFO is to resolve it against what was known at its start. The one operation that
is different asks the rig what it has selected (`Backend.asksSelection`).
-/
import RigControl.Proofs.Refused

namespace RigControl

variable {σ α β : Type} [Link σ] {d : Descriptor} {k : Tracking}

/-! ## What a conversation makes of what is known -/

namespace Dialogue

/-- The conversation after it has looked at what is known at its start. -/
def given (k : Tracking) : Dialogue α → Dialogue α
  | look next => (next k).given k
  | x => x

theorem run_given (s : Session σ) (x : Dialogue α) : (x.given s.known).run.run s = x.run.run s := by
  induction x with
  | look next ih => exact ih s.known
  | done | note | exchange | hangUp => rfl

theorem history_given (s : Session σ) (x : Dialogue α) :
    (x.given s.known).history s = x.history s := by
  induction x with
  | look next ih => exact ih s.known
  | done | note | exchange | hangUp => rfl

theorem given_bind (x : Dialogue α) (f : α → Dialogue β) :
    (x >>= f).given k = (x.given k >>= f).given k := by
  induction x with
  | look next ih => exact ih k
  | done | note | exchange | hangUp => rfl

/-- From what is known, the two conversations are one. -/
def Alike (k : Tracking) (x y : Dialogue α) : Prop :=
  x.given k = y.given k

namespace Alike

variable {x y : Dialogue α} {f g : Unit → Dialogue α}

theorem refl (x : Dialogue α) : x.Alike k x := rfl

theorem run_eq {s : Session σ} (h : x.Alike s.known y) : x.run.run s = y.run.run s := by
  rw [← run_given s x, ← run_given s y, h]

theorem history_eq {s : Session σ} (h : x.Alike s.known y) : x.history s = y.history s := by
  rw [← history_given s x, ← history_given s y, h]

/-- What comes after the same beginning may be anything. -/
theorem bind (h : x.Alike k y) (f : α → Dialogue β) : (x >>= f).Alike k (y >>= f) := by
  rw [Alike, given_bind, h, ← given_bind]

/-- Both look at the same. -/
theorem known_bind {f g : Tracking → Dialogue α} (h : (f k).Alike k (g k)) :
    (known >>= f).Alike k (known >>= g) := h

/-- Both make the same check. -/
theorem lift_bind {o : Outcome β} {f g : β → Dialogue α} (h : ∀ a, (f a).Alike k (g a)) :
    ((liftM o : Dialogue β) >>= f).Alike k ((liftM o : Dialogue β) >>= g) := by
  cases o with
  | ok a => exact h a
  | error e => rfl

theorem discard_bind {o : Outcome β} (h : (f ()).Alike k (g ())) :
    (Functor.discard (liftM o : Dialogue β) >>= f).Alike k
      (Functor.discard (liftM o : Dialogue β) >>= g) := by
  cases o with
  | ok a => exact h
  | error e => rfl

/-- The model accepts the placeholder and what it stands for. -/
theorem checked (hk : k.Declared d) (h : (f ()).Alike k (g ())) :
    ((liftM (d.checkVfo .current) : Dialogue Unit) >>= f).Alike k
      ((liftM (d.checkVfo k.vfo) : Dialogue Unit) >>= g) := by
  rw [Descriptor.checkVfo_ok.2 (.inl rfl), Descriptor.checkVfo_ok.2 (.inr hk.mem)]
  exact h

end Alike

end Dialogue

/-! ## Operations -/

/-- The operation asked about a VFO, if it is about one. -/
def Operation.withVfo (w : Vfo) : Operation α → Operation α
  | getFrequency _ => getFrequency w
  | setFrequency _ hz => setFrequency w hz
  | getMode _ => getMode w
  | setMode _ m width => setMode w m width
  | setVfo _ => setVfo w
  | getPtt _ => getPtt w
  | setPtt _ on => setPtt w on
  | getSplit _ => getSplit w
  | setSplit _ on => setSplit w on
  | getRit _ => getRit w
  | setRit _ offset => setRit w offset
  | getLevel _ l => getLevel w l
  | setLevel _ l value => setLevel w l value
  | getFunc _ f => getFunc w f
  | setFunc _ f on => setFunc w f on
  | getMemory _ => getMemory w
  | setMemory _ channel => setMemory w channel
  | vfoOp _ o => vfoOp w o
  | scan _ o => scan w o
  | op => op

/-- Whether the rig is asked what it has selected when the operation is about `current`. -/
def Backend.asksSelection : Backend → Operation α → Bool
  | ft840, .getFrequency _ => true
  | _, _ => false

/-! ## Families -/

variable {region : Region} {config : Config}

namespace Ft840

theorem switchTo_current (hk : k.Declared d) : (switchTo d .current).Alike k (switchTo d k.vfo) := by
  refine .known_bind ?_
  rw [hk.resolve_self, Tracking.resolve_current, if_neg (not_not_intro rfl), if_neg (not_not_intro rfl)]
  exact .refl _

theorem select_current (hk : k.Declared d) : (select d .current).Alike k (select d k.vfo) := by
  refine .known_bind ?_
  rw [hk.resolve_self]
  exact .refl _

theorem setFrequencyOf_current (hk : k.Declared d) (hz : Nat) :
    (setFrequencyOf d region .current hz).Alike k (setFrequencyOf d region k.vfo hz) := by
  refine .checked hk (.known_bind ?_)
  rw [hk.resolve_self]
  exact .refl _

theorem getMode_current (hk : k.Declared d) : (getMode d .current).Alike k (getMode d k.vfo) := by
  refine .checked hk (.known_bind ?_)
  rw [hk.resolve_self]
  exact .refl _

theorem setModeOf_current (hk : k.Declared d) (m : Mode) (width : Option Passband) :
    (setModeOf d region .current m width).Alike k (setModeOf d region k.vfo m width) := by
  refine .checked hk (.lift_bind fun _ => .lift_bind fun narrow => .lift_bind fun frame => .known_bind ?_)
  rw [hk.resolve_self]
  exact .refl _

theorem setPtt_current (hk : k.Declared d) (on : Bool) :
    (setPtt d .current on).Alike k (setPtt d k.vfo on) :=
  .checked hk (.bind (switchTo_current hk) _)

theorem getRit_current (hk : k.Declared d) : (getRit d .current).Alike k (getRit d k.vfo) := by
  refine .checked hk (.known_bind ?_)
  rw [hk.resolve_self]
  exact .refl _

theorem setRit_current (hk : k.Declared d) (offset : Int) :
    (setRit d .current offset).Alike k (setRit d k.vfo offset) :=
  .checked hk (.lift_bind fun _ => .lift_bind fun _ => .bind (switchTo_current hk) _)

theorem respond_current (hk : k.Declared d) (op : Operation α)
    (hop : Backend.ft840.asksSelection op = false) :
    (respond d config (op.withVfo .current)).Alike k (respond d config (op.withVfo k.vfo)) := by
  cases op with
  | getFrequency => cases hop
  | setFrequency _ hz => exact setFrequencyOf_current hk hz
  | getMode => exact getMode_current hk
  | setMode _ m width => exact setModeOf_current hk m width
  | setVfo => exact select_current hk
  | setPtt _ on => exact setPtt_current hk on
  | getRit => exact getRit_current hk
  | setRit _ offset => exact setRit_current hk offset
  | _ => exact .refl _

end Ft840

namespace Newcat

theorem getFrequency_current (hk : k.Declared d) :
    (getFrequency d .current).Alike k (getFrequency d k.vfo) := by
  refine .checked hk (.known_bind ?_)
  rw [hk.resolve_self]
  exact .refl _

theorem setFrequencyOf_current (hk : k.Declared d) (hz : Nat) :
    (setFrequencyOf d region .current hz).Alike k (setFrequencyOf d region k.vfo hz) := by
  refine .checked hk (.known_bind ?_)
  rw [hk.resolve_self]
  exact .refl _

theorem getMode_current (hk : k.Declared d) : (getMode d .current).Alike k (getMode d k.vfo) := by
  refine .checked hk (.known_bind ?_)
  rw [hk.resolve_self]
  exact .refl _

theorem setModeOf_current (hk : k.Declared d) (m : Mode) (width : Option Passband) :
    (setModeOf d region .current m width).Alike k (setModeOf d region k.vfo m width) := by
  refine .checked hk (.lift_bind fun _ => .discard_bind (.known_bind ?_))
  rw [hk.resolve_self]
  exact .refl _

theorem selectVfo_current (hk : k.Declared d) :
    (selectVfo d .current).Alike k (selectVfo d k.vfo) := by
  refine .checked hk (.known_bind ?_)
  rw [hk.resolve_self]
  exact .refl _

theorem respond_current (hk : k.Declared d) (op : Operation α) :
    (respond d config (op.withVfo .current)).Alike k (respond d config (op.withVfo k.vfo)) := by
  cases op with
  | getFrequency => exact getFrequency_current hk
  | setFrequency _ hz => exact setFrequencyOf_current hk hz
  | getMode => exact getMode_current hk
  | setMode _ m width => exact setModeOf_current hk m width
  | setVfo => exact selectVfo_current hk
  | _ => exact .refl _

end Newcat

namespace Civ

variable {b : Bus}

theorem switchTo_current (hk : k.Declared d) :
    (b.switchTo d .current).Alike k (b.switchTo d k.vfo) := by
  refine .known_bind ?_
  rw [hk.resolve_self]
  exact .refl _

theorem getFrequency_current (hk : k.Declared d) :
    (getFrequency b d .current).Alike k (getFrequency b d k.vfo) :=
  .checked hk (.bind (switchTo_current hk) _)

theorem setFrequency_current (hk : k.Declared d) (hz : Nat) :
    (setFrequency b d region .current hz).Alike k (setFrequency b d region k.vfo hz) := by
  refine .checked hk (.known_bind ?_)
  rw [hk.resolve_self]
  exact .refl _

theorem getMode_current (hk : k.Declared d) :
    (getMode b d region .current).Alike k (getMode b d region k.vfo) :=
  .checked hk (.bind (switchTo_current hk) _)

theorem setMode_current (hk : k.Declared d) (m : Mode) (width : Option Passband) :
    (setMode b d region .current m width).Alike k (setMode b d region k.vfo m width) := by
  refine .checked hk (.lift_bind fun _ => ?_)
  cases width with
  | none => exact .bind (switchTo_current hk) _
  | some w => exact .lift_bind fun _ => .bind (switchTo_current hk) _

theorem setVfo_current (hk : k.Declared d) : (setVfo b d .current).Alike k (setVfo b d k.vfo) := by
  refine .checked hk (.known_bind ?_)
  rw [hk.resolve_self]
  exact .refl _

theorem respond_current (hk : k.Declared d) (op : Operation α) :
    (respond b d config (op.withVfo .current)).Alike k (respond b d config (op.withVfo k.vfo)) := by
  cases op with
  | getFrequency => exact getFrequency_current hk
  | setFrequency _ hz => exact setFrequency_current hk hz
  | getMode => exact getMode_current hk
  | setMode _ m width => exact setMode_current hk m width
  | setVfo => exact setVfo_current hk
  | _ => exact .refl _

end Civ

namespace Tmd710

theorem getFrequency_current (hk : k.Declared d) :
    (getFrequency d .current).Alike k (getFrequency d k.vfo) := by
  refine .checked hk (.known_bind ?_)
  rw [hk.resolve_self]
  exact .refl _

theorem setFrequencyOf_current (hk : k.Declared d) (hz : Nat) :
    (setFrequencyOf d region .current hz).Alike k (setFrequencyOf d region k.vfo hz) := by
  refine .checked hk (.known_bind ?_)
  rw [hk.resolve_self]
  exact .refl _

theorem setVfo_current (hk : k.Declared d) : (setVfo d .current).Alike k (setVfo d k.vfo) := by
  refine .checked hk (.known_bind ?_)
  rw [hk.resolve_self]
  exact .refl _

theorem respond_current (hk : k.Declared d) (op : Operation α) :
    (respond d config (op.withVfo .current)).Alike k (respond d config (op.withVfo k.vfo)) := by
  cases op with
  | getFrequency => exact getFrequency_current hk
  | setFrequency _ hz => exact setFrequencyOf_current hk hz
  | setVfo => exact setVfo_current hk
  | _ => exact .refl _

end Tmd710

namespace Ekd500

theorem setFrequencyOf_current (hk : k.Declared d) (hz : Nat) :
    (setFrequencyOf d region .current hz).Alike k (setFrequencyOf d region k.vfo hz) := by
  refine .checked hk (.known_bind ?_)
  rw [hk.resolve_self]
  exact .refl _

theorem respond_current (hk : k.Declared d) (op : Operation α) :
    (respond d config (op.withVfo .current)).Alike k (respond d config (op.withVfo k.vfo)) := by
  cases op with
  | setFrequency _ hz => exact setFrequencyOf_current hk hz
  | _ => exact .refl _

end Ekd500

/-! ## All families -/

theorem Backend.respond_current {b : Backend} (hk : k.Declared d) (op : Operation α)
    (hop : b.asksSelection op = false) :
    (b.respond d config (op.withVfo .current)).Alike k
      (b.respond d config (op.withVfo k.vfo)) := by
  cases b with
  | ft840 => exact Ft840.respond_current hk op hop
  | newcat => exact Newcat.respond_current hk op
  | civ bus => exact Civ.respond_current hk op
  | tmd710 => exact Tmd710.respond_current hk op
  | ekd500 => exact Ekd500.respond_current hk op

namespace Rig

variable {e : Entry} {link : σ} {r s : Rig σ}

/-- **`current` is only a placeholder**: in any state of a registered model, over any link, an operation
on it and the same operation on the VFO that the session has selected have the same answer, the same
events and the same state of session and link at their end. -/
theorem current_is_placeholder (he : e ∈ Registry.standard.entries)
    (hc : e.create config link = .ok r) (h : r.Reaches s) (op : Operation α)
    (hop : s.backend.asksSelection op = false) :
    let named := op.withVfo s.session.known.vfo
    (perform (op.withVfo .current)).run s = (perform named).run s ∧
      s.history (op.withVfo .current) = s.history named := by
  intro named
  have halike : (s.dialogue (op.withVfo .current)).Alike s.session.known (s.dialogue named) :=
    Backend.respond_current (h.declared_of_standard he hc) op hop
  refine ⟨?_, halike.history_eq⟩
  exact congrArg (fun x : Outcome α × Session σ => (x.1, { s with session := x.2 })) halike.run_eq

/-- An IC-7800 is brought to its sub receiver, and the receiver that is selected is tuned. -/
theorem current_is_placeholder_sub :
    let e : Entry := ⟨Models.ic7800, .civ⟩
    let bus : Civ.Bus := { rig := 0x6A }
    let accepted := (Civ.Bus.mk 0xE0 0x6A).frame Civ.accepted []
    let link : ScriptedLink := { script := [⟨bus.frame 0x07 [0xD1], accepted⟩,
      ⟨bus.frame 0x05 [0x00, 0x50, 0x25, 0x14, 0x00], accepted⟩] }
    let r : Rig ScriptedLink := ⟨.civ bus, .start Models.ic7800 {} link⟩
    let s := ((perform (.setVfo .sub)).run r).2
    let tuned := (perform (.setFrequency .current 14255000)).run s
    e ∈ Registry.standard.entries ∧ e.create {} link = .ok r ∧
      s.session.known.vfo = .sub ∧
      s.backend.asksSelection (.setFrequency .current 14255000) = false ∧
      tuned = (perform (.setFrequency .sub 14255000)).run s ∧
      tuned.1 = .ok () ∧ tuned.2.session.engine.port.link.script = [] := by
  intro e bus accepted link r s tuned
  have he : e ∈ Registry.standard.entries := by decide +kernel
  have hc : e.create {} link = .ok r := rfl
  have hsub : s.session.known.vfo = .sub := by decide +kernel
  have hop : s.backend.asksSelection (.setFrequency .current 14255000) = false := rfl
  obtain ⟨hrun, -⟩ := current_is_placeholder he hc (.perform _ .refl) _ hop
  rw [hsub] at hrun
  exact ⟨he, hc, hsub, hop, hrun, by decide +kernel, by decide +kernel⟩

end Rig

end RigControl
