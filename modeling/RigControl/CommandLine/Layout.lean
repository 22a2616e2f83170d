/-
Text in lines and columns.
-/

namespace RigControl.CommandLine

/-- A text filled with blanks up to a width. -/
def padded (width : Nat) (s : String) : String :=
  s.pushn ' ' (width - s.length)

/-- Lines of text, each ended. -/
def unlines (lines : List String) : String :=
  String.join (lines.map (· ++ "\n"))

def headed (heading : String) (lines : List String) : List String :=
  heading :: lines.map ("  " ++ ·)

/-- Two columns, the second one two blanks behind the longest text of the first. -/
def columns (rows : List (String × String)) : List String :=
  let width := (rows.map fun row => row.1.length).foldl max 0
  rows.map fun row => padded (width + 2) row.1 ++ row.2

end RigControl.CommandLine
