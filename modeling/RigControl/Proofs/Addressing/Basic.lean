/-
Rigs whose commands say which VFO they are about (`Addressing`). Such a rig need not have a VFO selected
to read or tune it. So an operation that is not about the selection leaves it alone, in what is known as
in what is sent (`Addressing.contract`).
-/
import RigControl.Proofs.Contract
import RigControl.Proofs.Numerals
import RigControl.Rig.Operation

namespace RigControl

variable {α : Type}

/-- What a VFO is asked for or set to. -/
inductive Access where
  | frequency
  | mode
deriving DecidableEq, Repr

namespace Operation

/-- The operations about the selection itself. -/
def isSelection : Operation α → Bool
  | getVfo => true
  | setVfo _ => true
  | _ => false

/-- The VFO whose frequency or mode is read or written. -/
def access? : Operation α → Option (Access × Vfo)
  | getFrequency v => some (.frequency, v)
  | setFrequency v _ => some (.frequency, v)
  | getMode v => some (.mode, v)
  | setMode v _ _ => some (.mode, v)
  | _ => none

end Operation

/-- How the commands of a rig say what they are about. -/
structure Addressing where
  /-- The mnemonic of the commands that read or move the selection. -/
  selector : String
  /-- The frame names the VFO, as a command about its frequency or mode does. -/
  Names : Access → Vfo → List UInt8 → Prop

namespace Addressing

variable {a : Addressing} {k k' : Tracking} {op : Operation α}

/-- A frame of an operation that is not about the selection. -/
structure Allows (a : Addressing) (k : Tracking) (op : Operation α) (frame : List UInt8) : Prop where
  spares : ¬ Text.utf8 a.selector.toList <+: frame
  names : ∀ access v, op.access? = some (access, v) → a.Names access (k.resolve v) frame

/-- The selection stays as it is, and such frames are sent. -/
def contract (a : Addressing) (k : Tracking) (op : Operation α) : Contract where
  keeps k' := k'.vfo = k.vfo
  sends _ r := a.Allows k op r.frame
  firm := False

/-- A text that begins otherwise does not begin with the selector. -/
theorem spares_of_mnemonic {selector mnemonic : String} (hlength : selector.length ≤ mnemonic.length)
    (hne : ¬ selector.toList <+: mnemonic.toList) {rest : List Char} :
    ¬ Text.utf8 selector.toList <+: Text.utf8 (mnemonic.toList ++ rest) := by
  intro h
  have hfront := Text.prefix_of_utf8 h
  exact hne (List.prefix_of_prefix_length_le hfront (List.prefix_append _ _) hlength)

/-! ## Following a conversation -/

section

variable {β γ : Type} {o : Outcome β} {f : β → Dialogue γ} {r : Request} (hk : k'.vfo = k.vfo)
include hk

/-- A check may refuse. -/
theorem lift_bind (hf : ∀ b, o = .ok b → (f b).Obeys (a.contract k op) k' fun _ _ => True) :
    ((liftM o : Dialogue β) >>= f).Obeys (a.contract k op) k' fun _ _ => True :=
  .lift_bind hk False.elim hf

theorem lift : (liftM o : Dialogue β).Obeys (a.contract k op) k' fun _ _ => True :=
  .lift hk False.elim fun _ _ => trivial

theorem fail {e : Error} : (Dialogue.fail e : Dialogue β).Obeys (a.contract k op) k' fun _ _ => True :=
  .fail hk False.elim

theorem tell (hr : a.Allows k op r.frame) :
    (Dialogue.tell r).Obeys (a.contract k op) k' fun _ _ => True :=
  .tell hk hr trivial

theorem ask (hr : a.Allows k op r.frame) :
    (Dialogue.ask r).Obeys (a.contract k op) k' fun _ _ => True :=
  .ask hk hr fun _ => trivial

end

end Addressing

end RigControl
