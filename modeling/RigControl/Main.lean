/-
The entry point of the program.
-/
import RigControl.CommandLine.Run

def main (arguments : List String) : IO UInt32 := do
  let report := RigControl.CommandLine.run arguments
  IO.print report.out
  IO.eprint report.err
  return report.exitCode.toUInt32
