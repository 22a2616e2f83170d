/-
Commands in text: a mnemonic, fields, and a byte that ends the command. Some rigs set a separator in
front of each field.
-/
import RigControl.Text.Numeral
import RigControl.Text.Pieces
import RigControl.Text.Utf8

namespace RigControl

inductive Field where
  /-- A decimal number of exactly `width` digits. -/
  | num (value width : Nat)
  | text (s : List Char)
deriving DecidableEq, Repr

/-- The layout of commands in text. -/
structure AsciiFrame where
  terminator : UInt8
  separator : Option UInt8 := none
deriving DecidableEq, Repr

namespace AsciiFrame

/-- Commands that end in a semicolon. -/
def semicolon : AsciiFrame := ⟨0x3B, none⟩

/-- Commands that end in a carriage return. -/
def cr : AsciiFrame := ⟨0x0D, none⟩

/-- Commands that end in a carriage return and have blanks between their fields. -/
def crSpaced : AsciiFrame := ⟨0x0D, some 0x20⟩

/-- The character with the number of a byte. -/
def charOf (b : UInt8) : Char := Char.ofNat b.toNat

/-- The bytes of a field. Text must not hold the terminator. -/
def fieldBytes (f : AsciiFrame) : Field → Outcome (List UInt8)
  | .num value width => (Text.decimalField value width).map Text.utf8
  | .text s =>
    if f.terminator ∈ Text.utf8 s then
      .error (.invalidParameter s!"field {Text.quoted s} contains the terminator")
    else .ok (Text.utf8 s)

/-- The bytes of some fields, each with the separator in front. -/
def fieldsBytes (f : AsciiFrame) : List Field → Outcome (List UInt8)
  | [] => .ok []
  | x :: rest => do
    let first ← f.fieldBytes x
    let others ← f.fieldsBytes rest
    return f.separator.toList ++ first ++ others

/-- A command: mnemonic, fields, terminator. -/
def build (f : AsciiFrame) (mnemonic : String) (fields : List Field) : Outcome (List UInt8) := do
  let body ← f.fieldsBytes fields
  return Text.utf8 mnemonic.toList ++ body ++ [f.terminator]

/-- A command without fields. -/
def query (f : AsciiFrame) (mnemonic : String) : List UInt8 :=
  Text.utf8 mnemonic.toList ++ [f.terminator]

/-- The text before a last character. -/
def dropLast? (c : Char) (s : List Char) : Option (List Char) :=
  if s.getLast? = some c then some s.dropLast else none

/-- The text after a first part. -/
def dropFirst? : List Char → List Char → Option (List Char)
  | [], s => some s
  | c :: cs, x :: s => if c = x then dropFirst? cs s else none
  | _ :: _, [] => none

/-- The text of a reply between mnemonic and terminator, without the separator in front of it. -/
def parse (f : AsciiFrame) (mnemonic : String) (reply : List UInt8) : Outcome (List Char) :=
  match Text.ofUtf8? reply with
  | none => .error (.protocol "reply is not ASCII")
  | some text =>
    match dropLast? (charOf f.terminator) text with
    | none => .error (.protocol
        s!"reply {Text.quoted text} is missing terminator {Text.quotedChar (charOf f.terminator)}")
    | some text =>
      match dropFirst? mnemonic.toList text with
      | none => .error (.protocol s!"expected {mnemonic} reply, got {Text.quoted text}")
      | some body =>
        match f.separator with
        | none => .ok body
        | some sep => .ok ((dropFirst? [charOf sep] body).getD body)

/-- The fields of a reply. Without a separator it is one field. -/
def fields (f : AsciiFrame) (mnemonic : String) (reply : List UInt8) : Outcome (List (List Char)) := do
  let body ← f.parse mnemonic reply
  match f.separator with
  | none => return [body]
  | some sep => return Text.pieces (charOf sep) body

end AsciiFrame

end RigControl
