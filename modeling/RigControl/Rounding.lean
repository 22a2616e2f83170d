/-
Rounding of quotients, to integers and to binary numbers of limited precision.
-/

namespace RigControl.Rounding

/-- The quotient rounded to the nearest integer, a tie to the even one. -/
def halfEven (num den : Nat) : Nat :=
  let q := num / den
  match compare (2 * (num % den)) den with
  | .lt => q
  | .gt => q + 1
  | .eq => if q % 2 = 0 then q else q + 1

/-- The quotient rounded to the nearest integer, a tie to the greater one. -/
def halfUp (num den : Nat) : Nat :=
  (2 * num + den) / (2 * den)

/-- The quotient in units of `2 ^ q`, as another quotient. -/
def inUnits (num den : Nat) (q : Int) : Nat × Nat :=
  (num * Nat.pow 2 (-q).toNat, den * Nat.pow 2 q.toNat)

/-- The exponent of the last of `digits` binary digits of a quotient above zero. -/
def lastPlace (digits num den : Nat) : Int :=
  let q : Int := (num.log2 : Int) - den.log2 - digits
  let (n, d) := inUnits num den q
  if n < d * Nat.pow 2 digits then q else q + 1

/-- The quotient rounded to the nearest `m * 2 ^ q` with at most `digits` binary digits and an exponent
of at least `least`, a tie to the even `m`. -/
def toBinary (digits : Nat) (least : Int) (num den : Nat) : Nat × Int :=
  let q := max (lastPlace digits num den) least
  let (n, d) := inUnits num den q
  (halfEven n d, q)

end RigControl.Rounding
