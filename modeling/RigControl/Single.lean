/-
Numbers in single precision, held by their bits: a value that is only passed on stays as it is, and
two values are equal exactly when all their bits are.
-/
import RigControl.Text.FixedPoint

namespace RigControl

/-- A binary number of 32 bits: a sign, eight bits of exponent, 23 of fraction. -/
structure Single where
  bits : UInt32
deriving DecidableEq, Repr

namespace Single

def isNegative (x : Single) : Bool := x.bits ≥ 0x80000000

/-- The bits without the sign. -/
def magnitude (x : Single) : Nat := x.bits.toNat % 0x80000000

def biasedExponent (x : Single) : Nat := x.magnitude / 0x800000

def fraction (x : Single) : Nat := x.magnitude % 0x800000

def isNaN (x : Single) : Bool := x.biasedExponent = 255 && x.fraction ≠ 0

def isInfinite (x : Single) : Bool := x.biasedExponent = 255 && x.fraction = 0

/-- The integer `m` when the magnitude of a finite value is `m * 2 ^ q`. -/
def significand (x : Single) : Nat :=
  if x.biasedExponent = 0 then x.fraction else 0x800000 + x.fraction

/-- The exponent `q` when the magnitude of a finite value is `m * 2 ^ q`. -/
def exponent (x : Single) : Int :=
  if x.biasedExponent = 0 then -149 else (x.biasedExponent : Int) - 150

/-- The value with a sign and the other bits. -/
def ofMagnitude (negative : Bool) (magnitude : Nat) : Single :=
  ⟨(if negative then magnitude + 0x80000000 else magnitude).toUInt32⟩

def zero (negative : Bool) : Single := ofMagnitude negative 0

def infinity (negative : Bool) : Single := ofMagnitude negative 0x7F800000

/-- The nearest value to a quotient, infinity if it is too large. -/
def nearest (negative : Bool) (num den : Nat) : Single :=
  if num = 0 then zero negative
  else
    let (m, q) := Rounding.toBinary 24 (-149) num den
    ofMagnitude negative (min ((q + 149).toNat * 0x800000 + m) 0x7F800000)

/-- The nearest value to an integer. -/
def ofInt (n : Int) : Single := nearest (n < 0) n.natAbs 1

/-- The place of a number in the order; both zeros have the same. -/
def key (x : Single) : Int := if x.isNegative then -x.magnitude else x.magnitude

/-- The order of numbers; nothing is below or above what is not a number. -/
def lt (x y : Single) : Bool := !x.isNaN && !y.isNaN && x.key < y.key

def le (x y : Single) : Bool := !x.isNaN && !y.isNaN && x.key ≤ y.key

/-- The nearest integer, halves away from zero, kept within 32 bits. -/
def round (x : Single) : Int :=
  if x.isNaN then 0
  else if x.isInfinite then if x.isNegative then -0x80000000 else 0x7FFFFFFF
  else
    let (num, den) := Rounding.inUnits x.significand 1 (-x.exponent)
    let n : Int := Rounding.halfUp num den
    if x.isNegative then max (-n) (-0x80000000) else min n 0x7FFFFFFF

/-- The value with `places` digits after the point. -/
def toFixed (places : Nat) (x : Single) : String :=
  if x.isNaN then "NaN"
  else
    let text := if x.isInfinite then "inf".toList
      else Text.fixedPoint places x.significand x.exponent
    String.ofList (if x.isNegative then '-' :: text else text)

end Single

end RigControl
