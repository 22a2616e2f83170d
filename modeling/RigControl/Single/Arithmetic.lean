/-
Arithmetic in single precision. A result is the exact one rounded once. What is not a number is passed
on, the left one first.
-/
import RigControl.Single

namespace RigControl.Single

/-- A value that is not a number, as it is passed on by arithmetic. -/
def quiet (x : Single) : Single := ⟨x.bits ||| 0x00400000⟩

/-- What arithmetic answers when there is no answer. -/
def undefined : Single := ⟨0xFFC00000⟩

/-- An operation on numbers, extended to what is not a number. -/
def onNumbers (op : Single → Single → Single) (x y : Single) : Single :=
  if x.isNaN then x.quiet else if y.isNaN then y.quiet else op x y

/-- The value `n * 2 ^ q` of an integer that is not 0. -/
def scaled (n q : Int) : Single :=
  let (num, den) := Rounding.inUnits n.natAbs 1 (-q)
  nearest (n < 0) num den

/-- A finite value in units of `2 ^ q`, for a `q` that is not above its exponent. -/
def unitsOf (x : Single) (q : Int) : Int :=
  let n : Int := (x.significand * Nat.pow 2 (x.exponent - q).toNat : Nat)
  if x.isNegative then -n else n

def difference (x y : Single) : Single :=
  if x.isInfinite then
    if y.isInfinite && x.isNegative == y.isNegative then undefined else x
  else if y.isInfinite then infinity (!y.isNegative)
  else
    let q := min x.exponent y.exponent
    let n := x.unitsOf q - y.unitsOf q
    if n = 0 then zero (x.significand = 0 && x.isNegative && !y.isNegative) else scaled n q

def product (x y : Single) : Single :=
  let negative := x.isNegative != y.isNegative
  let hasZero := x.magnitude = 0 || y.magnitude = 0
  if x.isInfinite || y.isInfinite then if hasZero then undefined else infinity negative
  else if hasZero then zero negative
  else
    let (num, den) := Rounding.inUnits (x.significand * y.significand) 1 (-(x.exponent + y.exponent))
    nearest negative num den

def quotient (x y : Single) : Single :=
  let negative := x.isNegative != y.isNegative
  if x.isInfinite then if y.isInfinite then undefined else infinity negative
  else if y.isInfinite then zero negative
  else if y.magnitude = 0 then if x.magnitude = 0 then undefined else infinity negative
  else
    let (num, den) := Rounding.inUnits x.significand y.significand (y.exponent - x.exponent)
    nearest negative num den

instance : Sub Single := ⟨onNumbers difference⟩
instance : Mul Single := ⟨onNumbers product⟩
instance : Div Single := ⟨onNumbers quotient⟩

end RigControl.Single
