/-
The program: reads the command line, does what it says, and reports. No port and no network is within
reach, so that only a link which answers nothing can be opened.
-/
import RigControl.CommandLine.Description
import RigControl.CommandLine.Failure
import RigControl.CommandLine.Invocation
import RigControl.CommandLine.Page
import RigControl.Link.Scripted
import RigControl.Radio.ClockText
import RigControl.Single.Reading

namespace RigControl.CommandLine

/-- What a run of the program leaves behind. -/
structure Report where
  exitCode : Nat := 0
  out : String := ""
  err : String := ""
deriving DecidableEq, Repr

def levelValue (l : Level) (text : String) : Except Failure LevelValue :=
  let got := Text.quoted text.toList
  if l.isFractional then
    match Single.ofText text.toList with
    | .ok x => .ok (.float x)
    | .error e => .error ⟨s!"{l.label} takes a decimal value, got {got}", [e.message]⟩
  else
    match Text.signed 0x7FFFFFFF text.toList with
    | .ok n => .ok (.int n)
    | .error e => .error ⟨s!"{l.label} takes an integer value, got {got}", [e.message]⟩

def clockTime (text : String) : Except Failure ClockTime :=
  match ClockTime.ofText text.toList with
  | .ok t => .ok t
  | .error e => .error ⟨e.message text.toList, []⟩

def withSign (n : Int) : String :=
  if n < 0 then toString n else s!"+{n}"

def onOff (on : Bool) : String := if on then "on" else "off"

/-- Carries out an operation and says what came of it. -/
def ask {σ α : Type} [Link σ] (r : Rig σ) (op : Operation α) (doing : String) (say : α → String) :
    Except Failure String :=
  match (Rig.perform op).run r with
  | (.ok a, _) => .ok (say a)
  | (.error e, _) => .error (.during doing e)

/-- Carries out a task and says what came of it. -/
def Task.carryOut {σ : Type} [Link σ] (r : Rig σ) : Task → Except Failure String
  | getFrequency v =>
    ask r (.getFrequency v) "reading frequency" fun hz => s!"{v.label}: {megahertz hz} ({hz} Hz)"
  | setFrequency hz v =>
    ask r (.setFrequency v hz) "setting frequency" fun _ => s!"{v.label}: set to {megahertz hz}"
  | getMode v =>
    ask r (.getMode v) "reading mode" fun (m, width) =>
      s!"{v.label}: {m.label}" ++ (width.map fun w => " " ++ w.label).getD ""
  | setMode m width v =>
    ask r (.setMode v m width) "setting mode" fun _ => s!"{v.label}: mode set to {m.label}"
  | getVfo => ask r .getVfo "reading VFO" Vfo.label
  | setVfo v => ask r (.setVfo v) "selecting VFO" fun _ => s!"selected {v.label}"
  | getPtt => ask r (.getPtt .current) "reading PTT" fun on => s!"PTT {onOff on}"
  | setPtt on => ask r (.setPtt .current on) "setting PTT" fun _ => s!"PTT {onOff on}"
  | getRit => ask r (.getRit .current) "reading RIT" fun n => s!"RIT {withSign n} Hz"
  | setRit n => ask r (.setRit .current n) "setting RIT" fun _ => s!"RIT set to {withSign n} Hz"
  | getLevel l =>
    ask r (.getLevel .current l) s!"reading {l.label}" fun value => s!"{l.label}: {value.label}"
  | setLevel l text => do
    let value ← levelValue l text
    ask r (.setLevel .current l value) s!"setting {l.label}" fun _ =>
      s!"{l.label} set to {value.label}"
  | getMemory => ask r (.getMemory .current) "reading memory" fun n => s!"memory channel {n}"
  | setMemory n =>
    ask r (.setMemory .current n) "selecting memory" fun _ => s!"memory channel {n} selected"
  | getClock => ask r .getClock "reading clock" fun t => String.ofList t.text
  | setClock text => do
    let time ← clockTime text
    ask r (.setClock time) "setting clock" fun _ => s!"clock set to {String.ofList time.text}"

/-- What the user chose for the session. -/
def Invocation.config (i : Invocation) : Config where
  region := i.region
  address := i.address
  restoreOnClose := i.restoreOnClose

/-- Takes a link to the rig with a number, if there is one within reach. -/
def Invocation.openRig (i : Invocation) (r : Registry) (e : Entry) :
    Except Failure (Rig ScriptedLink) :=
  if i.mock then (r.connect e.id i.config {}).1.mapError .ofError
  else if i.endpoint.serialPort = none ∧ i.endpoint.networkAddress = none then
    .error ⟨"one of --port, --host or --mock is required", []⟩
  else .error (.during "opening rig" (i.endpoint.failure e.descriptor.line))

/-- Does what a command line says; the answer is what to print. -/
def Invocation.carryOut (r : Registry) (i : Invocation) : Except Failure (List String) :=
  if i.command = .list then .ok (modelTable r)
  else
    match i.model with
    | none => .error ⟨"--model is required (see \x60catlink-test-app list\x60)", []⟩
    | some name => do
      let e ← ((r.idOf name).bind r.entry).mapError .ofError
      match i.command with
      | .perform task => return [← task.carryOut (← i.openRig r e)]
      | _ => return capabilities e.descriptor i.region

def run (arguments : List String) : Report :=
  match Invocation.ofArguments arguments with
  | .error .misuse => { exitCode := 2, err := unlines (standardMenu.page standardMenu.root) }
  | .error (.help t) => { out := unlines (standardMenu.page t) }
  | .error .version => { out := programName ++ " 0.1.0\n" }
  | .ok i =>
    match i.carryOut .standard with
    | .ok lines => { out := unlines lines }
    | .error f => { exitCode := 1, err := f.report }

end RigControl.CommandLine
