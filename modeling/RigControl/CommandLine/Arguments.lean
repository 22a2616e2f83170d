/-
Taking a command line apart. Flags and options come in any order, each at most once; a lone pair of
hyphens says that only words follow. What is given is looked at from left to right, so that a request
for help is granted only if nothing before it was wrong. An option right before the name of a command
is the exception: its value is looked at after the arguments of that command.
-/
import RigControl.CommandLine.Menu

namespace RigControl.CommandLine

/-- Why the arguments do not lead to a command. -/
inductive Stop where
  /-- They make no sense. -/
  | misuse
  /-- They ask how a command is used. -/
  | help (t : Signature)
  /-- They ask which version of the program this is. -/
  | version
deriving DecidableEq, Repr

/-- What was found; finding nothing is a misuse. -/
def orMisuse {α : Type} : Option α → Except Stop α
  | some a => .ok a
  | none => .error .misuse

/-- One argument by its shape. -/
inductive Argument where
  | word
  /-- A lone pair of hyphens. -/
  | separator
  /-- A name after two hyphens, with the value after an equals sign if there is one. -/
  | named (name : String) (value : Option String)
  /-- A letter after one hyphen, with what follows it. -/
  | letter (first : Char) (rest : List Char)
deriving DecidableEq, Repr

/-- The shape of an argument. A lone hyphen is a word. -/
def Argument.ofText : List Char → Argument
  | ['-', '-'] => separator
  | '-' :: '-' :: s =>
    let value := match s.dropWhile (· ≠ '=') with
      | [] => none
      | _ :: value => some (String.ofList value)
    named (String.ofList (s.takeWhile (· ≠ '='))) value
  | '-' :: first :: rest => letter first rest
  | _ => word

/-- What a command line gives. -/
structure Given where
  flags : List String := []
  /-- Values of options under their names. -/
  options : List (String × Value) := []
  /-- Options whose values are still to be looked at. -/
  held : List (Switch × String) := []
  words : List Value := []
deriving DecidableEq, Repr

namespace Given

def has (g : Given) (name : String) : Bool := name ∈ g.flags || (g.options.lookup name).isSome

/-- Takes a flag, once. -/
def addFlag (g : Given) (s : Switch) : Option Given :=
  if g.has s.name then none else some { g with flags := g.flags ++ [s.name] }

/-- Takes an option, once, with the text of its value. -/
def addOption (g : Given) (s : Switch) (text : String) : Option Given := do
  let value ← (← s.kind?).read text
  if g.has s.name then none else some { g with options := g.options ++ [(s.name, value)] }

/-- Takes an option whose value is looked at later. -/
def hold (g : Given) (s : Switch) (text : String) : Given := { g with held := g.held ++ [(s, text)] }

/-- Looks at what was put off. -/
def settle (g : Given) : Option Given :=
  g.held.foldlM (fun g (s, text) => g.addOption s text) { g with held := [] }

/-- Takes a word, if the command has room for it. -/
def addWord (t : Signature) (g : Given) (text : String) : Option Given := do
  let word ← t.words[g.words.length]?
  let value ← word.kind.read text
  return { g with words := g.words ++ [value] }

/-- Whether the next word of the command may be a negative number. -/
def takesNegative (t : Signature) (g : Given) : Bool :=
  (t.words[g.words.length]?.map Word.kind) = some .offset

end Given

namespace Menu

/-- Whether the arguments start with the name of a command that another one leads to. -/
def leads (m : Menu) (t : Signature) : List String → Bool
  | [] => false
  | name :: _ => (m.next? t name).isSome

/-- The help on the command that names after another command lead to. -/
def help (m : Menu) (t : Signature) (names : List String) : Stop :=
  match m.find? (t.path ++ names) with
  | some t => .help t
  | none => .misuse

/-- Takes the arguments of a command apart, and those of the command that they lead to. -/
def scan (m : Menu) (t : Signature) (g : Given) : List String → Except Stop (Signature × Given)
  | [] => .ok (t, g)
  | argument :: rest =>
    match Argument.ofText argument.toList with
    | .word =>
      match m.next? t argument with
      | some u => if u.isHelp then .error (m.help t rest) else m.scan u g rest
      | none => do m.scan t (← orMisuse (g.addWord t argument)) rest
    | .separator => do return (t, ← orMisuse (rest.foldlM (Given.addWord t) g))
    | .letter first tail =>
      if first.isDigit ∧ tail.all Char.isDigit ∧ g.takesNegative t then do
        m.scan t (← orMisuse (g.addWord t argument)) rest
      else if first = 'h' then .error (.help t)
      else if first = 'V' ∧ t.path = [] then .error .version
      else .error .misuse
    | .named name value =>
      match t.switch? name, value with
      | some s, some text => do m.scan t (← orMisuse (g.addOption s text)) rest
      | some s, none =>
        if s.kind?.isNone then do m.scan t (← orMisuse (g.addFlag s)) rest
        else
          match rest with
          | [] => .error .misuse
          | text :: rest =>
            if Argument.ofText text.toList ≠ .word then .error .misuse
            else if m.leads t rest then m.scan t (g.hold s text) rest
            else do m.scan t (← orMisuse (g.addOption s text)) rest
      | none, none =>
        if name = "help" then .error (.help t)
        else if name = "version" ∧ t.path = [] then .error .version
        else .error .misuse
      | none, some _ => .error .misuse

def read (m : Menu) (arguments : List String) : Except Stop (Signature × Given) := do
  let (t, g) ← m.scan m.root {} arguments
  return (t, ← orMisuse g.settle)

end Menu

end RigControl.CommandLine
