/-
The commands of the program and what it says about each.
-/
import RigControl.CommandLine.Menu

namespace RigControl.CommandLine

/-- The name under which the program is called. -/
def programName : String := "catlink-test-app"

/-- What comes before the command. -/
def settings : List Switch := [
  ⟨"model", some .text, "Rig model name (e.g. FT-840, IC-7800, TM-D710). " ++
    "Required for every command except \x60list\x60"⟩,
  ⟨"port", some .text, "Serial port path (e.g. /dev/ttyUSB0, COM3)"⟩,
  ⟨"baud", some .count, "Override the model's baud rate"⟩,
  ⟨"host", some .text, "Serial bridge address as host:port"⟩,
  ⟨"mock", none, "Use a mock transport that answers nothing. " ++
    "Useful for checking argument parsing and capability checks without hardware"⟩,
  ⟨"region", some .region, "ITU region selecting the frequency range tables " ++
    "[default: 1] [possible values: 1, 2]"⟩,
  ⟨"civ-addr", some .address, "Override the CI-V address (hex, e.g. 0x6a). Icom only"⟩,
  ⟨"no-restore", none,
    "Leave the rig as the session left it instead of restoring its settings on close"⟩]

def vfoSwitch : Switch := ⟨"vfo", some .vfo, "[default: curr]"⟩

/-- The command that shows how the others are used. -/
def helpCommand : Signature where
  path := ["help"]
  about := "Print this message or the help of the given subcommand(s)"
  words := [⟨"[COMMAND]...", .text, "Print help for the subcommand(s)"⟩]

/-- A group and its commands. -/
def group (name about : String) (commands : List Signature) : List Signature :=
  { path := [name], about } :: (commands ++ [helpCommand]).map (Signature.within name)

/-- A command that takes nothing. -/
def plain (name : String) : Signature := { path := [name] }

/-- The command that reads what a group is about, and takes nothing. -/
def getCommand : Signature := plain "get"

/-- Everything the program can be asked for. -/
def standardMenu : Menu where
  root := {
    path := []
    about := "catlink test application -- drive a rig from the command line"
    switches := settings }
  commands := [
    { path := ["list"], about := "List all supported rig models" },
    { path := ["info"], about := "Print the model's capabilities" }] ++
    group "freq" "Frequency operations" [
      { getCommand with switches := [vfoSwitch] },
      { path := ["set"]
        about := "Set the frequency in hertz"
        switches := [vfoSwitch]
        words := [⟨"<FREQ_HZ>", .frequency, ""⟩] }] ++
    group "mode" "Mode operations" [
      { getCommand with switches := [vfoSwitch] },
      { path := ["set"]
        about := "Set the mode (USB, LSB, CW, CWR, AM, FM, RTTY, RTTYR, DATA-USB, ...)"
        switches := [
          ⟨"passband", some .count,
            "Filter width in hertz; the model's normal width when omitted"⟩,
          vfoSwitch]
        words := [⟨"<MODE>", .mode, ""⟩] }] ++
    group "vfo" "VFO selection" [
      getCommand,
      { path := ["set"]
        about := "Select a VFO (A, B, Main, Sub, Mem)"
        words := [⟨"<VFO>", .vfo, ""⟩] }] ++
    group "ptt" "PTT operations" [getCommand, plain "on", plain "off"] ++
    group "rit" "RIT offset" [
      getCommand,
      { path := ["set"]
        about := "Set the offset in hertz; 0 clears it"
        words := [⟨"<OFFSET_HZ>", .offset, ""⟩] }] ++
    group "level" "Levels and meters" [
      { path := ["get"]
        about := "Read a level (PREAMP, ATT, RFPOWER, RAWSTR, STRENGTH, SWR, ALC, ...)"
        words := [⟨"<LEVEL>", .level, ""⟩] },
      { path := ["set"]
        about := "Write a level. Decibel levels take integers, RFPOWER 0.0 to 1.0"
        words := [⟨"<LEVEL>", .level, ""⟩, ⟨"<VALUE>", .text, ""⟩] }] ++
    group "mem" "Memory channel" [
      getCommand,
      { plain "set" with words := [⟨"<CHANNEL>", .count, ""⟩] }] ++
    group "clock" "Rig clock" [
      getCommand,
      { path := ["set"]
        about := "Set from YYYY-MM-DDTHH:MM[:SS][+HHMM|-HHMM]"
        words := [⟨"<TIME>", .text, ""⟩] }] ++
    [helpCommand]

end RigControl.CommandLine
