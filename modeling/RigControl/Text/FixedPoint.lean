/-
Decimal text with a set number of places. A binary number is held exactly, as `m * 2 ^ q`, and is
rounded once; a tie goes to the even neighbour.
-/
import RigControl.Rounding

namespace RigControl.Text

/-- A number of units of the last place, with the point set before the last `places` digits. -/
def withPoint (places units : Nat) : List Char :=
  let digits := Nat.toDigits 10 units
  let padded := List.replicate (places + 1 - digits.length) '0' ++ digits
  padded.take (padded.length - places) ++ '.' :: padded.drop (padded.length - places)

/-- The number `m * 2 ^ q` with `places` digits after the point. -/
def fixedPoint (places m : Nat) (q : Int) : List Char :=
  let (n, d) := Rounding.inUnits (m * Nat.pow 10 places) 1 (-q)
  withPoint places (Rounding.halfEven n d)

end RigControl.Text
