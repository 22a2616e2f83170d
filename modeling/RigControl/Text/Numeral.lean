/-
Decimal numerals: fields of a set width, filled with zeros on the left, and their reading. Reading goes
from left to right and reports what goes wrong first.
-/
import RigControl.Error
import RigControl.Text.Quoted

namespace RigControl.Text

/-- A decimal number with zeros in front up to at least `width` digits. -/
def zeroPadded (width value : Nat) : List Char :=
  let digits := Nat.toDigits 10 value
  List.replicate (width - digits.length) '0' ++ digits

/-- A decimal field of exactly `width` digits; a value that needs more is refused. -/
def decimalField (value width : Nat) : Outcome (List Char) :=
  let text := zeroPadded width value
  if text.length ≤ width then .ok text
  else .error (.invalidParameter s!"{value} does not fit in {width} decimal digits")

/-- Why a text is not a numeral. -/
inductive NumeralError where
  | empty
  | notDigit
  | tooLarge
  | tooSmall
deriving DecidableEq, Repr

def NumeralError.message : NumeralError → String
  | empty => "cannot parse integer from empty string"
  | notDigit => "invalid digit found in string"
  | tooLarge => "number too large to fit in target type"
  | tooSmall => "number too small to fit in target type"

/-- Reads digits, which go on from `value`. A value above `greatest` is reported as `excess`. -/
def digits (greatest : Nat) (excess : NumeralError) (value : Nat) :
    List Char → Except NumeralError Nat
  | [] => .ok value
  | c :: rest =>
    if c.isDigit then
      let value := 10 * value + (c.toNat - '0'.toNat)
      if value ≤ greatest then digits greatest excess value rest else .error excess
    else .error .notDigit

/-- Reads one or more digits. -/
def natural (greatest : Nat) (excess : NumeralError) : List Char → Except NumeralError Nat
  | [] => .error .notDigit
  | s => digits greatest excess 0 s

/-- Reads an unsigned number up to `greatest`. A plus sign in front is allowed. -/
def unsigned (greatest : Nat) : List Char → Except NumeralError Nat
  | [] => .error .empty
  | '+' :: rest => natural greatest .tooLarge rest
  | s => natural greatest .tooLarge s

/-- Reads a signed number from `-greatest - 1` to `greatest`. -/
def signed (greatest : Nat) : List Char → Except NumeralError Int
  | '-' :: rest => (natural (greatest + 1) .tooSmall rest).map fun n => -(n : Int)
  | s => (unsigned greatest s).map fun n => (n : Int)

/-- Reads a decimal field of a reply, with blanks around it, as a number of 64 bits. -/
def parseDecimal (field : List Char) : Outcome Nat :=
  (unsigned (UInt64.size - 1) (trim field)).mapError fun _ =>
    .protocol s!"expected decimal field, got {quoted field}"

end RigControl.Text
