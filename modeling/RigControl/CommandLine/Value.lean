/-
Values on a command line: the kinds there are, and how each is read from its text. A text that is none
of its kind is a misuse of the command line, whatever is wrong with it.
-/
import RigControl.Radio.Level
import RigControl.Radio.Mode
import RigControl.Radio.Model
import RigControl.Radio.Vfo
import RigControl.Text.Numeral

namespace RigControl.CommandLine

/-- What an option or a word stands for. -/
inductive Value where
  | text (s : String)
  | number (n : Nat)
  | offset (n : Int)
  | region (r : Region)
  | address (a : UInt8)
  | vfo (v : Vfo)
  | mode (m : Mode)
  | level (l : Level)
deriving DecidableEq, Repr

/-- What is expected of the text of a value. -/
inductive Kind where
  /-- Any text. -/
  | text
  /-- A number of 32 bits without a sign. -/
  | count
  /-- A number of 64 bits without a sign. -/
  | frequency
  /-- A number of 32 bits with a sign. -/
  | offset
  | region
  /-- A byte in hexadecimal digits. -/
  | address
  | vfo
  | mode
  | level
deriving DecidableEq, Repr

/-- Reads a signed number that lies from `low` up to `high`. -/
def readWithin (low high : Int) (s : String) : Option Int :=
  (Text.signed 0x7FFFFFFFFFFFFFFF s.toList).toOption.filter fun n => low ≤ n && n ≤ high

def hexValue? (c : Char) : Option Nat :=
  if c.isDigit then some (c.toNat - '0'.toNat)
  else if 'a' ≤ c ∧ c ≤ 'f' then some (c.toNat - 'a'.toNat + 10)
  else if 'A' ≤ c ∧ c ≤ 'F' then some (c.toNat - 'A'.toNat + 10)
  else none

/-- Reads hexadecimal digits as a byte, which go on from `value`. -/
def readHexDigits (value : Nat) : List Char → Option UInt8
  | [] => some value.toUInt8
  | c :: rest => do
    let value := 16 * value + (← hexValue? c)
    if value < 256 then readHexDigits value rest else none

/-- Reads a byte in one or more hexadecimal digits, after a plus sign that may be left out. -/
def readHexNumber : List Char → Option UInt8
  | [] | ['+'] => none
  | '+' :: digits => readHexDigits 0 digits
  | digits => readHexDigits 0 digits

/-- Reads an address, with or without the mark of hexadecimal numbers in front. -/
def readAddress (s : String) : Option UInt8 :=
  match s.toList with
  | '0' :: 'x' :: digits | '0' :: 'X' :: digits => readHexNumber digits
  | digits => readHexNumber digits

def Kind.read (s : String) : Kind → Option Value
  | text => some (.text s)
  | count => (readWithin 0 0xFFFFFFFF s).map fun n => .number n.toNat
  | frequency => (Text.unsigned (UInt64.size - 1) s.toList).toOption.map .number
  | offset => (readWithin (-0x80000000) 0x7FFFFFFF s).map .offset
  | region => (Region.parse s).toOption.map .region
  | address => (readAddress s).map .address
  | vfo => (Vfo.parse s).toOption.map .vfo
  | mode => (Mode.parse s).toOption.map .mode
  | level => (Level.parse s).toOption.map .level

end RigControl.CommandLine
