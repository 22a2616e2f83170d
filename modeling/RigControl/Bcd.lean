/-
Packed decimal numbers: two digits a byte, in either byte order. Writing refuses a value that needs
more digits than the field has, and reading refuses the nibbles above nine, so that a link which has
lost its place shows at once.
-/
import RigControl.Error
import RigControl.Text.Quoted

namespace RigControl.Bcd

/-- Bytes taken by a field of `digits` digits. -/
def byteCount (digits : Nat) : Nat :=
  (digits + 1) / 2

/-- The most digits of which every number has 64 bits. -/
def maxDigits : Nat := 19

/-- Refuses empty fields and values with too many digits. A field of more than `maxDigits` digits has room
for every value of 64 bits, and the power would not have room in as many. -/
def checkFits (value digits : Nat) : Outcome Unit :=
  if digits = 0 then .error (.invalidParameter "BCD field must hold at least one digit")
  else if digits ≤ maxDigits ∧ (UInt64.pow 10 digits).toNat ≤ value then
    .error (.invalidParameter s!"{value} does not fit in {digits} BCD digits")
  else .ok ()

/-- The byte that holds two digits. -/
def pair (high low : Nat) : UInt8 :=
  (16 * high + low).toUInt8

/-- The `digits` low digits of `value`, low byte first. -/
def packLow (value : Nat) : Nat → List UInt8
  | 0 => []
  | 1 => [pair 0 (value % 10)]
  | digits + 2 => pair (value / 10 % 10) (value % 10) :: packLow (value / 100) digits

/-- The `digits` low digits of `value`, high byte first. -/
def packHigh (value : Nat) : Nat → List UInt8
  | 0 => []
  | 1 => [pair 0 (value % 10)]
  | digits + 2 => packHigh (value / 100) digits ++ [pair (value / 10 % 10) (value % 10)]

/-- Writes a field, low byte first. -/
def encodeLow (value digits : Nat) : Outcome (List UInt8) := do
  checkFits value digits
  return packLow value digits

/-- Writes a field, high byte first. -/
def encodeHigh (value digits : Nat) : Outcome (List UInt8) := do
  checkFits value digits
  return packHigh value digits

/-- A digit of a field and the byte it stands in. -/
structure Nibble where
  byte : UInt8
  digit : Nat
deriving DecidableEq, Repr

/-- The nibble of a byte that counts tens. -/
def Nibble.high (byte : UInt8) : Nibble := ⟨byte, byte.toNat / 16⟩

/-- The nibble of a byte that counts ones. -/
def Nibble.low (byte : UInt8) : Nibble := ⟨byte, byte.toNat % 16⟩

/-- Appends a digit to a number of at most 64 bits. -/
def accumulate (value : Nat) (n : Nibble) : Outcome Nat :=
  if 9 < n.digit then
    .error (.protocol
      s!"invalid BCD digit 0x{(Text.hexDigit n.digit).toUpper} in byte 0x{Text.hexPairUpper n.byte}")
  else if UInt64.size ≤ 10 * value + n.digit then .error (.protocol "BCD value overflows 64 bits")
  else .ok (10 * value + n.digit)

/-- The value of a run of digits, the highest first. -/
def value (nibbles : List Nibble) : Outcome Nat :=
  nibbles.foldlM accumulate 0

/-- The first bytes of a field, enough for its digits. -/
def field (bytes : List UInt8) (digits : Nat) : Outcome (List UInt8) :=
  if bytes.length < byteCount digits then
    .error (.protocol
      s!"BCD field needs {byteCount digits} bytes for {digits} digits, got {bytes.length}")
  else .ok (bytes.take (byteCount digits))

/-- Reads a field with its low byte first; further bytes are left alone. -/
def decodeLow (bytes : List UInt8) (digits : Nat) : Outcome Nat := do
  let bytes ← field bytes digits
  value ((bytes.flatMap fun b => [.low b, .high b]).take digits).reverse

/-- Reads a field with its high byte first. The first nibble of an odd field is not in use. -/
def decodeHigh (bytes : List UInt8) (digits : Nat) : Outcome Nat := do
  let bytes ← field bytes digits
  value ((bytes.flatMap fun b => [.high b, .low b]).drop (digits % 2))

end RigControl.Bcd
