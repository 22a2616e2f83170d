/-
The shortest decimal text of a number in single precision: of all decimal numbers that round to it, the
one with the fewest digits, and of those the nearest.
-/
import RigControl.Single

namespace RigControl.Single

/-- The numbers that round to a value, from `least` to `greatest`, both counted like `value` in units
of one part in `scale`. -/
structure Neighbourhood where
  least : Nat
  value : Nat
  greatest : Nat
  scale : Nat
  /-- Whether the ends belong to it. -/
  closed : Bool

/-- The neighbourhood of a finite value above zero. It reaches half way to the next values; the one
below is nearer where the exponent changes. The ends belong to an even significand. -/
def neighbourhood (x : Single) : Neighbourhood :=
  let m := x.significand
  let q := x.exponent - 2
  let units n := n * Nat.pow 2 q.toNat
  { least := units (if m = 0x800000 then 4 * m - 1 else 4 * m - 2)
    value := units (4 * m)
    greatest := units (4 * m + 2)
    scale := Nat.pow 2 (-q).toNat
    closed := m % 2 = 0 }

/-- Whether `n / d` is in a neighbourhood. -/
def Neighbourhood.has (b : Neighbourhood) (n d : Nat) : Bool :=
  if b.closed then b.least * d ≤ n * b.scale && n * b.scale ≤ b.greatest * d
  else b.least * d < n * b.scale && n * b.scale < b.greatest * d

/-- The multiple of `10 ^ e` in a neighbourhood that is nearest to the value, the upper one if two are
equally near. -/
def Neighbourhood.multiple? (b : Neighbourhood) (e : Int) : Option Nat :=
  let up := Nat.pow 10 e.toNat
  let down := Nat.pow 10 (-e).toNat
  let k := b.value * down / (b.scale * up)
  let below := b.has (k * up) down
  let above := b.has ((k + 1) * up) down
  let nearBelow := 2 * (b.value * down % (b.scale * up)) < b.scale * up
  if below && (nearBelow || !above) then some k
  else if above then some (k + 1)
  else none

/-- The shortest decimal number that rounds to the value, as a count of the power of ten given by the
exponent. -/
def shortestDecimal (x : Single) : Nat × Int :=
  let b := x.neighbourhood
  let exponents := (List.range 90).map fun (i : Nat) => (40 : Int) - i
  (exponents.findSome? fun e => (b.multiple? e).map fun k => (k, e)).getD (0, 0)

/-- The number `n * 10 ^ e`, written out. -/
def positional (n : Nat) (e : Int) : List Char :=
  if 0 ≤ e then Nat.toDigits 10 (n * Nat.pow 10 e.toNat)
  else Text.withPoint (-e).toNat n

/-- The shortest text of a number. -/
def shortest (x : Single) : String :=
  if x.isNaN then "NaN"
  else
    let magnitude :=
      if x.isInfinite then "inf".toList
      else if x.significand = 0 then ['0']
      else positional x.shortestDecimal.1 x.shortestDecimal.2
    String.ofList (if x.isNegative then '-' :: magnitude else magnitude)

end RigControl.Single
