/-
Choice of receive filters. The first width that a mode declares is its normal one, whatever its size;
the narrow and the wide filter are its neighbours in size.
-/
import RigControl.Capability.Descriptor

namespace RigControl.Descriptor

variable (d : Descriptor)

/-- The filters of a mode, in the order of declaration. -/
def filtersFor (m : Mode) : List Filter :=
  d.filters.filter (·.modes.contains m)

/-- The widths that a mode declares, in the order of declaration. -/
def widthsFor (m : Mode) : List Passband :=
  (d.filtersFor m).filterMap Filter.width

/-- The normal width of a mode. -/
def defaultFilter (m : Mode) : Option Passband :=
  (d.widthsFor m).head?

/-- The widest of some widths. -/
def widest : List Passband → Option Passband
  | [] => none
  | w :: rest => some (rest.foldl Passband.wider w)

/-- The narrowest of some widths. -/
def narrowest : List Passband → Option Passband
  | [] => none
  | w :: rest => some (rest.foldl Passband.narrower w)

/-- The next narrower width than the normal one. -/
def narrowFilter (m : Mode) : Option Passband := do
  let normal ← d.defaultFilter m
  widest ((d.widthsFor m).filter (· < normal))

/-- The next wider width than the normal one. -/
def wideFilter (m : Mode) : Option Passband := do
  let normal ← d.defaultFilter m
  narrowest ((d.widthsFor m).filter (normal < ·))

/-- Whether a filter serves for a width. -/
def serves (w : Passband) (f : Filter) : Bool :=
  f.width.all (· == w)

/-- The width to use for a request; without one it is the normal width. -/
def filterFor (m : Mode) : Option Passband → Outcome (Option Passband)
  | none => .ok (d.defaultFilter m)
  | some w =>
    if (d.filtersFor m).any (serves w) then .ok (some w)
    else .error (.invalidParameter s!"{d.name} has no {w.label} filter for {m.label}")

end RigControl.Descriptor
