/-
The operations of the TM-D710. Frequencies are read and written band by band without moving the
controls; the band that has them is the selected VFO.
-/
import RigControl.Rig.Operation
import RigControl.Tmd710.Command

namespace RigControl.Tmd710

/-- Refuses an answer about another band. -/
def checkBand (asked reported : Vfo) : Outcome Unit :=
  if asked = reported then .ok ()
  else .error (.protocol s!"asked about {asked.label}, rig answered for {reported.label}")

/-- Runs a request about the frequency of a band. -/
def exchangeFrequency (v : Vfo) (r : Request) : Dialogue Nat := do
  let (reported, hz) ← parseFrequency (← .ask r)
  checkBand v reported
  return hz

def getFrequency (d : Descriptor) (v : Vfo) : Dialogue Nat := do
  d.checkVfo v
  let v := (← .known).resolve v
  exchangeFrequency v (← readFrequency v)

/-- Tunes a band. The rig answers with the frequency that it has chosen, which may be another one. -/
def setFrequencyOf (d : Descriptor) (region : Region) (v : Vfo) (hz : Nat) : Dialogue Unit := do
  d.checkVfo v
  let v := (← .known).resolve v
  d.checkRxFrequency region v hz
  discard (exchangeFrequency v (← setFrequency v hz))

def getVfo (d : Descriptor) : Dialogue Vfo := do
  let (control, _) ← parseBandControl (← .ask readBandControl)
  .selected d control
  return control

def setVfo (d : Descriptor) (v : Vfo) : Dialogue Unit := do
  d.checkVfo v
  let v := (← .known).resolve v
  let (control, _) ← parseBandControl (← .ask (← setBandControl v))
  checkBand v control
  .selected d control

def respond (d : Descriptor) (config : Config) {α : Type} : Operation α → Dialogue α
  | .getFrequency v => getFrequency d v
  | .setFrequency v hz => setFrequencyOf d config.region v hz
  | .getVfo => getVfo d
  | .setVfo v => setVfo d v
  | op => op.fallback d

end RigControl.Tmd710
