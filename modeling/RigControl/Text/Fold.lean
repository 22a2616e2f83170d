/-
Letters without regard to case. A word is compared with words in ASCII letters only, so a fold has to
find just the letters whose other case is an ASCII letter.
-/

namespace RigControl.Text

/-- The ASCII capital of a letter that has one, otherwise the character: besides the ASCII letters
the dotless i and the long s. -/
def capital (c : Char) : Char :=
  if c = 'ı' then 'I' else if c = 'ſ' then 'S' else c.toUpper

/-- The small ASCII letter of a letter that has one, otherwise the character: besides the ASCII
letters the Kelvin sign. -/
def small (c : Char) : Char :=
  if c = '\u212a' then 'k' else c.toLower

/-- Looks up a word that is written in capitals. -/
def lookupCapital {α : Type} (words : List (String × α)) (s : String) : Option α :=
  words.lookup (s.map capital)

end RigControl.Text
