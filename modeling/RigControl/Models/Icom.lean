/-
The models of Icom: the IC-7800 and the IC-275, each with the address that it has from the factory.
-/
import RigControl.Models.Bands

namespace RigControl.Models

/-- A transceiver for short wave and 6 m with a main and a sub receiver. Its attenuator is set by
selector. -/
def ic7800 : Descriptor :=
  let vfos : Flags Vfo := .ofList [.main, .sub, .memory]
  let am : Flags Mode := .ofList [.am, .dataAm]
  let fm : Flags Mode := .ofList [.fm, .dataFm]
  let ssb := Mode.ssbSet ∪ .ofList [.dataLsb, .dataUsb]
  let narrow := Mode.cwSet ∪ Mode.rttySet
  let rx : List FreqRange := [{ min := 30000, max := 60000000, modes := .all, vfos }]
  let tx := (shortWave ++ [sixMetres]).flatMap fun band =>
    [transmit band (allBut am) 50 2000 vfos, transmit band am 50 500 vfos]
  { id := .of .icom 56
    maker := .icom
    name := "IC-7800"
    vfos
    rxOne := rx
    rxTwo := rx
    txOne := tx
    txTwo := tx ++ sixtyMetres.map fun band => transmit band (allBut am) 20 1000 vfos
    tuningSteps := [1, 100, 1000, 5000, 9000, 10000, 12500, 20000, 25000].map fun hz => ⟨.all, hz⟩
    filters := [⟨ssb, some ⟨2400⟩⟩, ⟨ssb, some ⟨1800⟩⟩, ⟨ssb, some ⟨3000⟩⟩, ⟨narrow, some ⟨400⟩⟩,
      ⟨narrow, some ⟨50⟩⟩, ⟨Mode.cwSet, some ⟨1000⟩⟩, ⟨Mode.rttySet, some ⟨2400⟩⟩,
      ⟨am, some ⟨6000⟩⟩, ⟨am, some ⟨3000⟩⟩, ⟨am, some ⟨9000⟩⟩, ⟨fm, some ⟨12000⟩⟩,
      ⟨fm, some ⟨8000⟩⟩, ⟨fm, some ⟨15000⟩⟩]
    meters := [
      (.strength, table [(0, -54), (120, 0), (241, 60)]),
      (.swr, ⟨[⟨0, tenths 10⟩, ⟨48, tenths 15⟩, ⟨80, tenths 20⟩, ⟨120, tenths 30⟩,
        ⟨240, tenths 60⟩]⟩),
      (.alc, table [(0, 0), (120, 1)]),
      (.rfPowerMeter, table [(0, 0), (21, 5), (43, 10), (65, 15), (83, 20), (95, 25), (105, 30),
        (114, 35), (124, 40), (143, 50), (183, 75), (213, 100), (255, 120)]),
      (.compression, table [(0, 0), (130, 15), (241, 30)]),
      (.drainVoltage, table [(0, 0), (151, 44), (180, 48), (211, 52)]),
      (.drainCurrent, table [(0, 0), (165, 10), (241, 15)])]
    readableLevels := .all
    writableLevels := .ofList [.preamp, .attenuator, .rfPower]
    readableParms := .ofList [.time]
    writableParms := .ofList [.time]
    vfoOps := .all
    scanOps := .all
    preamp := [10, 16]
    attenuator := [3, 6, 9, 12, 15, 18, 21]
    attenuatorCoding := .indexed
    maxRit := 9999
    maxXit := 9999
    memory := some ⟨1, 99⟩
    line := { baudMin := 300, baudMax := 19200 }
    address := some 0x6A }

/-- A transceiver for 2 m. -/
def ic275 : Descriptor :=
  let vfos : Flags Vfo := .ofList [.a, .b, .memory]
  let modes := Mode.ssbSet ∪ .ofList [.cw, .fm]
  let rx : List FreqRange := [{ min := 138000000, max := 174000000, modes, vfos }]
  { id := .of .icom 4
    maker := .icom
    name := "IC-275"
    vfos
    rxOne := rx
    rxTwo := rx
    txOne := [transmit (144000000, 146000000) modes 25 250 vfos]
    txTwo := [transmit (144000000, 148000000) modes 25 250 vfos]
    tuningSteps := [⟨modes, 10⟩]
    filters := [⟨Mode.ssbSet ∪ .ofList [.cw], some ⟨2200⟩⟩, ⟨.ofList [.fm], some ⟨15000⟩⟩]
    vfoOps := .ofList [.fromVfo, .toVfo]
    memory := some ⟨1, 99⟩
    line := { baudMin := 1200, baudMax := 9600, timeout := 200 }
    address := some 0x10 }

end RigControl.Models
