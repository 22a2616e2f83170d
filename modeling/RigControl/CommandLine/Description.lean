/-
The models and their capabilities, as tables for the user.
-/
import RigControl.CommandLine.Layout
import RigControl.Rig.Registry

namespace RigControl.CommandLine

def modelTable (r : Registry) : List String :=
  "    ID  MFR        MODEL     " :: r.entries.map fun e =>
    s!"{e.id}  {e.descriptor.maker.label} {padded 10 e.descriptor.name}"

def parityLetter : Parity → String
  | .none => "N"
  | .odd => "O"
  | .even => "E"

def lineText (t : LineSettings) : String :=
  s!"{t.baudMin}-{t.baudMax} baud, {t.dataBits}{parityLetter t.parity}{t.stopBits}, " ++
    s!"timeout {t.timeout} ms, {t.retry} attempt(s)"

/-- What a model can do in a region. -/
def capabilities (d : Descriptor) (region : Region) : List String :=
  [s!"Model:        {d.maker.label} {d.name} (id {d.id.raw})",
    "VFOs:         " ++ ", ".intercalate (d.vfos.toList.map Vfo.label)] ++
    headed "Receive:" ((d.rxRanges region).map FreqRange.label) ++
    headed "Transmit:" ((d.txRanges region).map FreqRange.label) ++
    (if d.readableLevels.isEmpty then []
      else ["Levels:       " ++ ", ".intercalate (d.readableLevels.toList.map Level.label)]) ++
    (d.memory.toList.map fun r => s!"Memories:     {r.first}..={r.last}") ++
    (if d.maxRit = 0 then [] else [s!"RIT:          ±{d.maxRit} Hz"]) ++
    ["Serial:       " ++ lineText d.line] ++
    d.address.toList.map fun a => "CI-V address: 0x" ++ Text.hexPairUpper a

end RigControl.CommandLine
