/-
The pages that show how a command is used.
-/
import RigControl.CommandLine.Commands
import RigControl.CommandLine.Layout

namespace RigControl.CommandLine

/-- A switch as it is shown, behind the place of its letter. An option is followed by its name in
capitals, which stands for its value. -/
def Switch.label (s : Switch) : String :=
  let value := s.name.map fun c => if c = '-' then '_' else c.toUpper
  "    --" ++ s.name ++ if s.kind?.isSome then " <" ++ value ++ ">" else ""

namespace Signature

/-- The line that shows a command in use. -/
def usage (t : Signature) (leads : Bool) : String :=
  " ".intercalate <| ["Usage:", programName] ++ t.path ++
    (if t.switches = [] then [] else ["[OPTIONS]"]) ++ t.words.map Word.label ++
    if leads then ["<COMMAND>"] else []

/-- The switches of a command with those that every command has, and what they do. -/
def switchRows (t : Signature) : List (String × String) :=
  t.switches.map (fun s => (s.label, s.about)) ++
    (if t.isHelp then [] else [("-h, --help", "Print help")]) ++
    if t.path = [] then [("-V, --version", "Print version")] else []

end Signature

/-- A part of a page under a heading; it is left out if there is nothing in it. -/
def part (heading : String) (rows : List (String × String)) : List String :=
  if rows = [] then [] else "" :: headed heading (columns rows)

def Menu.page (m : Menu) (t : Signature) : List String :=
  let commands := m.under t
  (if t.about = "" then [] else [t.about, ""]) ++ [t.usage (commands ≠ [])] ++
    part "Commands:" (commands.map fun u => (u.name, u.about)) ++
    part "Arguments:" (t.words.map fun w => (w.label, w.about)) ++
    part "Options:" t.switchRows

end RigControl.CommandLine
