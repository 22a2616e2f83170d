/-
Frequencies for people. They are counted in hertz and shown in megahertz with six places. Both the count
and the quotient are rounded to 53 binary digits, which shows from about 2 ^ 53 hertz on.
-/
import RigControl.Text.FixedPoint

namespace RigControl

/-- The quotient rounded to 53 binary digits. -/
def rounded53 (num den : Nat) : Nat × Int :=
  Rounding.toBinary 53 (-1074) num den

/-- A frequency in megahertz, as text. -/
def megahertz (hz : Nat) : String :=
  let (m, q) := rounded53 hz 1
  let (n, d) := Rounding.inUnits m 1000000 (-q)
  let (m, q) := rounded53 n d
  String.ofList (Text.fixedPoint 6 m q) ++ " MHz"

end RigControl
