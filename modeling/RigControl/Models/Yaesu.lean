/-
The models of Yaesu: the FT-840 with its commands of five bytes, and the FT-DX101D with text commands.
-/
import RigControl.Models.Bands

namespace RigControl.Models

/-- A short-wave transceiver with two VFOs and 100 memories. -/
def ft840 : Descriptor :=
  let vfos : Flags Vfo := .ofList [.a, .b, .memory]
  let am : Flags Mode := .ofList [.am]
  let fm : Flags Mode := .ofList [.fm]
  let cw : Flags Mode := .ofList [.cw]
  let rx : List FreqRange :=
    [{ min := 100000, max := 30000000, modes := Mode.ssbSet ∪ cw ∪ am ∪ fm, vfos }]
  let tx := shortWave.flatMap fun band =>
    [transmit band (Mode.ssbSet ∪ cw ∪ fm) 50 1000 vfos, transmit band am 20 250 vfos]
  { id := .of .yaesu 11
    maker := .yaesu
    name := "FT-840"
    vfos
    rxOne := rx
    rxTwo := rx
    txOne := tx
    txTwo := tx
    tuningSteps := [⟨Mode.ssbSet ∪ cw, 10⟩, ⟨Mode.ssbSet ∪ cw, 100⟩, ⟨am ∪ fm, 100⟩, ⟨am ∪ fm, 1000⟩]
    filters := [⟨Mode.ssbSet, some ⟨2200⟩⟩, ⟨cw, some ⟨2200⟩⟩, ⟨cw, some ⟨500⟩⟩, ⟨am, some ⟨6000⟩⟩,
      ⟨am, some ⟨2200⟩⟩, ⟨fm, some ⟨12000⟩⟩]
    meters := [(.strength, table [(0, -54), (72, 0), (160, 60)])]
    readableLevels := .ofList [.strength]
    readableFuncs := .ofList [.tuner]
    writableFuncs := .ofList [.tuner]
    vfoOps := .ofList [.tune]
    maxRit := 9990
    memory := some ⟨1, 100⟩
    line := { baudMin := 4800, baudMax := 4800, stopBits := 2, writeDelay := 50, postWriteDelay := 5,
              timeout := 2000, retry := 1 } }

/-- A transceiver for short wave and 6 m with two receivers. -/
def ftDx101d : Descriptor :=
  let vfos : Flags Vfo := .ofList [.a, .b]
  let am : Flags Mode := .ofList [.am, .dataAm]
  let fm : Flags Mode := .ofList [.fm, .dataFm]
  let narrow := Mode.cwSet ∪ Mode.rttySet ∪ .ofList [.dataUsb, .dataLsb]
  let rx : List FreqRange := [{ min := 30000, max := 60000000, modes := .all, vfos }]
  let tx := (shortWave ++ [sixMetres]).flatMap fun band =>
    [transmit band (allBut am) 50 1000 vfos, transmit band am 20 250 vfos]
  { id := .of .yaesu 40
    maker := .yaesu
    name := "FT-DX101D"
    vfos
    rxOne := rx
    rxTwo := rx
    txOne := tx
    txTwo := tx
    tuningSteps := [⟨Mode.ssbSet ∪ narrow, 10⟩, ⟨am ∪ fm, 100⟩]
    filters := [⟨narrow, some ⟨600⟩⟩, ⟨narrow, some ⟨300⟩⟩, ⟨narrow, some ⟨2400⟩⟩,
      ⟨narrow, some ⟨1200⟩⟩, ⟨Mode.ssbSet, some ⟨2400⟩⟩, ⟨Mode.ssbSet, some ⟨1800⟩⟩,
      ⟨Mode.ssbSet, some ⟨3000⟩⟩, ⟨am, some ⟨9000⟩⟩, ⟨fm, some ⟨16000⟩⟩]
    meters := [(.strength, table [(0, -54), (12, -48), (27, -42), (40, -36), (55, -30), (65, -24),
      (80, -18), (95, -12), (112, -6), (130, 0), (150, 10), (172, 20), (190, 30), (220, 40),
      (240, 50), (255, 60)])]
    readableLevels := .ofList [.attenuator, .preamp, .rawStrength, .strength]
    writableLevels := .ofList [.attenuator, .preamp]
    preamp := [10, 20]
    attenuator := [6, 12, 18]
    attenuatorCoding := .indexed
    line := { baudMin := 4800, baudMax := 38400, handshake := .hardware, timeout := 2000 } }

end RigControl.Models
