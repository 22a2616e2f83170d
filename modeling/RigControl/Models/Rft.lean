/-
The model of RFT: the EKD-500, a short-wave receiver of which only the frequency can be set.
-/
import RigControl.Capability.Descriptor

namespace RigControl.Models

def ekd500 : Descriptor :=
  let vfos : Flags Vfo := .ofList [.a]
  let modes := Mode.ssbSet ∪ .ofList [.am, .cw, .fm]
  let rx : List FreqRange := [{ min := 10000, max := 30000000, modes, vfos }]
  { id := .of .rft 1
    maker := .rft
    name := "EKD-500"
    vfos
    rxOne := rx
    rxTwo := rx
    tuningSteps := [⟨modes, 10⟩]
    filters := [⟨modes, some ⟨2400⟩⟩]
    line := { baudMin := 300, baudMax := 2400, timeout := 200 } }

end RigControl.Models
