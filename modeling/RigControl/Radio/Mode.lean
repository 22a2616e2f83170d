/-
Operating modes and the widths of receive filters.
-/
import RigControl.Radio.Vfo

namespace RigControl

/-- What the rig makes of the signal. -/
inductive Mode where
  /-- Upper sideband voice. -/
  | usb
  /-- Lower sideband voice. -/
  | lsb
  | cw
  /-- CW heard on the lower sideband. -/
  | cwr
  | am
  | fm
  /-- Radio teletype by frequency shift. -/
  | rtty
  /-- Radio teletype with the sidebands exchanged. -/
  | rttyr
  | dataUsb
  | dataLsb
  | dataFm
  | dataAm
deriving DecidableEq, Repr

namespace Mode

instance : Enumeration Mode where
  all := [usb, lsb, cw, cwr, am, fm, rtty, rttyr, dataUsb, dataLsb, dataFm, dataAm]
  index m := m.ctorIdx

def label : Mode → String
  | usb => "USB"
  | lsb => "LSB"
  | cw => "CW"
  | cwr => "CWR"
  | am => "AM"
  | fm => "FM"
  | rtty => "RTTY"
  | rttyr => "RTTYR"
  | dataUsb => "DATA-USB"
  | dataLsb => "DATA-LSB"
  | dataFm => "DATA-FM"
  | dataAm => "DATA-AM"

def parse (s : String) : Except UnknownName Mode :=
  named "mode" s <| Text.lookupCapital
    [("USB", usb), ("LSB", lsb), ("CW", cw), ("CWR", cwr), ("AM", am), ("FM", fm), ("RTTY", rtty),
      ("RTTYR", rttyr), ("DATA-USB", dataUsb), ("PKTUSB", dataUsb), ("DATA-LSB", dataLsb),
      ("PKTLSB", dataLsb), ("DATA-FM", dataFm), ("PKTFM", dataFm), ("DATA-AM", dataAm),
      ("PKTAM", dataAm)] s

/-- Voice on either sideband. -/
def ssbSet : Flags Mode := .ofList [usb, lsb]

/-- CW on either sideband. -/
def cwSet : Flags Mode := .ofList [cw, cwr]

/-- Radio teletype on either sideband. -/
def rttySet : Flags Mode := .ofList [rtty, rttyr]

end Mode

/-- The width of a receive filter. -/
structure Passband where
  hz : Nat
deriving DecidableEq, Repr

namespace Passband

instance : LT Passband := ⟨fun x y => x.hz < y.hz⟩

instance (x y : Passband) : Decidable (x < y) := inferInstanceAs (Decidable (x.hz < y.hz))

def label (w : Passband) : String := s!"{w.hz} Hz"

/-- The wider of two filters, the second of two equal ones. -/
def wider (x y : Passband) : Passband := if y < x then x else y

/-- The narrower of two filters, the first of two equal ones. -/
def narrower (x y : Passband) : Passband := if y < x then y else x

end Passband

end RigControl
