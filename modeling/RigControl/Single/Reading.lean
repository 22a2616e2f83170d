/-
Decimal text as a number in single precision. The text is taken exactly and rounded once.
-/
import RigControl.Single

namespace RigControl.Single

/-- Why a text is not a number. -/
inductive TextError where
  | empty
  | malformed
deriving DecidableEq, Repr

def TextError.message : TextError → String
  | empty => "cannot parse float from empty string"
  | malformed => "invalid float literal"

/-- The number that digits stand for. -/
def digitsValue (digits : List Char) : Nat :=
  digits.foldl (fun n c => 10 * n + (c.toNat - '0'.toNat)) 0

/-- Reads one or more digits and nothing else. -/
def digits? (s : List Char) : Option Nat :=
  if s ≠ [] ∧ s.all Char.isDigit then some (digitsValue s) else none

/-- Reads an exponent, whose sign may be left out if it is plus. -/
def exponent? : List Char → Option Int
  | '-' :: rest => (digits? rest).map fun n => -(n : Int)
  | '+' :: rest => (digits? rest).map fun n => (n : Int)
  | s => (digits? s).map fun n => (n : Int)

/-- Reads a number without a sign as an integer and the power of ten that it counts. There has to be a
digit before or after the point. -/
def decimal? (s : List Char) : Option (Nat × Int) :=
  let whole := s.takeWhile Char.isDigit
  let rest := s.dropWhile Char.isDigit
  let pointed := rest.head? = some '.'
  let fraction := if pointed then rest.tail.takeWhile Char.isDigit else []
  let rest := if pointed then rest.tail.dropWhile Char.isDigit else rest
  let value := digitsValue (whole ++ fraction)
  if whole ++ fraction = [] then none
  else
    match rest with
    | [] => some (value, -fraction.length)
    | c :: rest =>
      if c = 'e' ∨ c = 'E' then (exponent? rest).map fun e => (value, e - fraction.length)
      else none

/-- The nearest value to `n * 10 ^ e`. Numbers far above the greatest value and far below the least one
are told by their digits alone. -/
def ofDecimal (negative : Bool) (n : Nat) (e : Int) : Single :=
  let top := e + (Nat.toDigits 10 n).length
  if n = 0 then zero negative
  else if 40 < top then infinity negative
  else if top < -50 then zero negative
  else nearest negative (n * Nat.pow 10 e.toNat) (Nat.pow 10 (-e).toNat)

/-- Reads a number without a sign, or one of the words for what is no finite number. -/
def unsigned? (negative : Bool) (s : List Char) : Option Single :=
  match decimal? s with
  | some (n, e) => some (ofDecimal negative n e)
  | none =>
    let word := String.ofList (s.map Char.toLower)
    if word = "inf" ∨ word = "infinity" then some (infinity negative)
    else if word = "nan" then some (ofMagnitude negative 0x7FC00000)
    else none

def ofText (s : List Char) : Except TextError Single :=
  let value := match s with
    | '-' :: rest => unsigned? true rest
    | '+' :: rest => unsigned? false rest
    | s => unsigned? false s
  match value with
  | some x => .ok x
  | none => .error (if s = [] then .empty else .malformed)

end RigControl.Single
