/-
The model of Kenwood: the TM-D710, a mobile transceiver for 2 m and 70 cm.
-/
import RigControl.Models.Bands

namespace RigControl.Models

/-- Band A also receives AM, as aircraft use it; band B also reaches above 800 MHz. -/
def tmD710 : Descriptor :=
  let both : Flags Vfo := .ofList [.a, .b]
  let bandA : Flags Vfo := .ofList [.a]
  let bandB : Flags Vfo := .ofList [.b]
  let fm : Flags Mode := .ofList [.fm]
  let amFm : Flags Mode := .ofList [.am, .fm]
  let rx : List FreqRange :=
    [{ min := 118000000, max := 470000000, modes := amFm, vfos := bandA },
      { min := 136000000, max := 524000000, modes := fm, vfos := bandB },
      { min := 800000000, max := 1300000000, modes := fm, vfos := bandB }]
  { id := .of .kenwood 34
    maker := .kenwood
    name := "TM-D710"
    vfos := both
    rxOne := rx
    rxTwo := rx
    txOne := [transmit (144000000, 146000000) fm 50 500 both,
      transmit (430000000, 440000000) fm 50 500 both]
    txTwo := [transmit (144000000, 148000000) fm 50 500 both,
      transmit (430000000, 450000000) fm 50 500 both]
    tuningSteps := [5000, 6250, 10000, 12500, 25000, 50000, 100000].map fun hz => ⟨amFm, hz⟩
    filters := [⟨fm, some ⟨15000⟩⟩, ⟨fm, some ⟨6000⟩⟩, ⟨.ofList [.am], some ⟨4000⟩⟩]
    line := { baudMin := 9600, baudMax := 57600 } }

end RigControl.Models
