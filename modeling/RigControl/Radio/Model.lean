/-
Makers, model numbers and regions.
-/
import RigControl.Radio.Vfo

namespace RigControl

inductive Manufacturer where
  | yaesu
  | kenwood
  | icom
  /-- Rundfunk- und Fernmeldetechnik, a maker of professional receivers. -/
  | rft
deriving DecidableEq, Repr

namespace Manufacturer

def all : List Manufacturer := [yaesu, kenwood, icom, rft]

/-- The thousands of the model numbers of a maker. -/
def block : Manufacturer → Nat
  | yaesu => 1
  | kenwood => 2
  | icom => 3
  | rft => 24

def label : Manufacturer → String
  | yaesu => "Yaesu"
  | kenwood => "Kenwood"
  | icom => "Icom"
  | rft => "RFT"

def parse (s : String) : Except UnknownName Manufacturer :=
  named "manufacturer" s <|
    [("yaesu", yaesu), ("kenwood", kenwood), ("icom", icom), ("rft", rft)].lookup (s.map Text.small)

end Manufacturer

/-- The number of a model: the maker's block times a thousand, plus a number of its own. -/
structure ModelId where
  raw : Nat
deriving DecidableEq, Repr

def ModelId.of (maker : Manufacturer) (number : Nat) : ModelId :=
  ⟨maker.block * 1000 + number⟩

/-- The region of the world whose band plan applies. -/
inductive Region where
  /-- Europe, Africa and the Middle East. -/
  | one
  /-- The Americas. -/
  | two
deriving DecidableEq, Repr

def Region.parse (s : String) : Except UnknownName Region :=
  named "ITU region" s <| [("1", Region.one), ("2", Region.two)].lookup s

end RigControl
