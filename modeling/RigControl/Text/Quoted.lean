/-
Quotations in messages. Text is shown between double quotes and single characters between single
quotes; the quote in use, the backslash and whatever cannot be seen is written as an escape. Bytes
are shown as capital pairs of hexadecimal digits between brackets.
-/
import RigControl.Text.CharClass

namespace RigControl.Text

/-- The digit of a value below sixteen, in lower case. -/
def hexDigit (n : Nat) : Char :=
  Nat.digitChar (n % 16)

/-- The two lower-case hexadecimal digits of a byte. -/
def hexPair (b : UInt8) : String :=
  String.ofList [hexDigit (b.toNat / 16), hexDigit b.toNat]

/-- The two upper-case hexadecimal digits of a byte. -/
def hexPairUpper (b : UInt8) : String :=
  (hexPair b).map Char.toUpper

def hexLiteral (b : UInt8) : String :=
  "0x" ++ hexPair b

/-- Bytes without separators. -/
def hexString (bytes : List UInt8) : String :=
  String.join (bytes.map hexPair)

/-- Bytes separated by blanks, as dumps show them. -/
def hexDump (bytes : List UInt8) : String :=
  " ".intercalate (bytes.map hexPair)

/-- Bytes as messages list them. -/
def hexList (bytes : List UInt8) : String :=
  "[" ++ ", ".intercalate (bytes.map hexPairUpper) ++ "]"

/-- Numbers as messages list them. -/
def natList (ns : List Nat) : String :=
  "[" ++ ", ".intercalate (ns.map toString) ++ "]"

/-- A backslash and a letter. -/
def escaped (letter : Char) : List Char := ['\x5c', letter]

/-- One character inside a quotation that uses `quote`. -/
def escapeChar (quote c : Char) : List Char :=
  if c = '\x00' then escaped '0'
  else if c = '\t' then escaped 't'
  else if c = '\n' then escaped 'n'
  else if c = '\r' then escaped 'r'
  else if c = '\x5c' ∨ c = quote then escaped c
  else if isPlain c then [c]
  else "\\u\x7b".toList ++ Nat.toDigits 16 c.toNat ++ ['\x7d']

/-- Text between double quotes. -/
def quoted (s : List Char) : String :=
  String.ofList ('\x22' :: s.flatMap (escapeChar '\x22') ++ ['\x22'])

/-- A character between single quotes. -/
def quotedChar (c : Char) : String :=
  String.ofList ('\x27' :: escapeChar '\x27' c ++ ['\x27'])

end RigControl.Text
