/-
What the EKD-500 is sent: nothing but frequencies. The frames name no VFO; each frequency is checked for
a VFO of the model.
-/
import RigControl.Ekd500.Operations
import RigControl.Proofs.Selection

namespace RigControl.Ekd500

/-- The requests of the EKD-500. -/
inductive Sends (d : Descriptor) (region : Region) (r : Request) : Prop
  | tune (v : Vfo) (hz : Nat) (hv : v ∈ d.vfos) (h : setFrequency hz = .ok r)
      (hc : d.checkRxFrequency region v hz = .ok ())

/-- Every operation keeps the selection declared and sends these requests. -/
def contract (d : Descriptor) (region : Region) : Contract :=
  d.contract (fun _ => Sends d region) True

variable {d : Descriptor} {region : Region} {k : Tracking} {v : Vfo}

theorem setFrequencyOf_honours {hz : Nat} (hk : k.Declared d) :
    (setFrequencyOf d region v hz).Honours (contract d region) k fun _ _ => True := by
  refine .lift_bind hk fun _ hv => .known_bind (.lift_bind hk fun _ hc => .lift_bind hk fun r hr => ?_)
  exact .of_obeys (.tell hk (.tune _ hz (hk.resolve_mem hv) hr hc) trivial)

/-- **The EKD-500 honours its contract** in every operation. -/
theorem respond_honours {α : Type} {config : Config} (op : Operation α) (hk : k.Declared d) :
    (respond d config op).Honours (contract d config.region) k fun _ _ => True := by
  cases op with
  | start => exact .of_obeys (.pure hk trivial)
  | close => exact .of_obeys (.hangUp hk (.pure hk trivial))
  | setFrequency v hz => exact setFrequencyOf_honours hk
  | getVfo => exact .known_bind (.of_obeys (.pure hk trivial))
  | _ => exact .fail hk

end RigControl.Ekd500
