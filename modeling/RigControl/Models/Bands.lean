/-
Amateur bands on short wave, as the lowest and the highest frequency in hertz, and what the models with
a transmitter have in common.
-/
import RigControl.Capability.Descriptor

namespace RigControl.Models

/-- The bands below 30 MHz that both regions share. -/
def shortWave : List (Nat × Nat) :=
  [(1800000, 2000000), (3500000, 4000000), (7000000, 7300000), (10100000, 10150000),
    (14000000, 14350000), (18068000, 18168000), (21000000, 21450000), (24890000, 24990000),
    (28000000, 29700000)]

/-- The band around 6 m. -/
def sixMetres : Nat × Nat := (50000000, 54000000)

/-- The channels around 60 m, which only region two has. -/
def sixtyMetres : List (Nat × Nat) :=
  [(5330500, 5333500), (5346500, 5349500), (5366500, 5369500), (5371500, 5374500),
    (5403500, 5406500)]

/-- A power in watts, given in tenths. -/
def tenths (n : Nat) : Single := .nearest false n 10

/-- A range to transmit in, with the least and the greatest power in tenths of a watt. -/
def transmit (band : Nat × Nat) (modes : Flags Mode) (least greatest : Nat) (vfos : Flags Vfo) :
    FreqRange :=
  FreqRange.withPower { min := band.1, max := band.2, modes, vfos } (tenths least) (tenths greatest)

/-- Every mode that is not in a set. -/
def allBut (modes : Flags Mode) : Flags Mode :=
  .ofList ((Enumeration.all : List Mode).filter fun m => !modes.contains m)

/-- Breakpoints from whole numbers. -/
def table (points : List (Int32 × Int)) : CalibrationTable :=
  ⟨points.map fun (raw, value) => ⟨raw, .ofInt value⟩⟩

end RigControl.Models
