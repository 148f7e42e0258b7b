import Beacon.FileTree
import Beacon.Launch
import Beacon.Settings.Writer

/-!
# The program

The program settles what the controller will run with: it reads the command line and the settings
file, and writes the document of the settings. What goes to the journal on the way is written to
the standard error.

The program ends with the code of the halt if the command line asks for nothing, and with one if
there are no settings to run with.
-/

namespace Beacon

/-- The number of a fault. Some parts of the system report it below zero. -/
def faultNumber (reported : UInt32) : Nat := min reported.toNat (-reported).toNat

/-- Why the system does not give a file. -/
def refusal (fault : IO.Error) : String :=
  let reported := match fault with
    | .noFileOrDirectory _ number _ | .inappropriateType _ number _
    | .permissionDenied _ number _ | .invalidArgument _ number _ =>
      SystemFault.ofNumber? (faultNumber number)
    | _ => none
  match reported with
  | some fault => fault.message
  | none => toString fault

/-- The bytes of the settings file, if the command line names one. -/
def CommandLine.fetch (line : CommandLine) : IO (Except String (List UInt8)) := do
  match line.config with
  | none => return .ok []
  | some path =>
    if path.toList.contains '\x00' then
      return .error FileTree.ReadFault.interiorNul.message
    try
      return .ok (← IO.FS.readBinFile path).toList
    catch fault =>
      return .error (refusal fault)

/-- The complaint about a malformed document. Where the reader stopped is not known, so it names the
last line. -/
def complaint (document : List UInt8) : Settings.Complaint :=
  { line := UInt64.ofNat (document.count 0x0A + 1), text := "no settings found" }

def CommandLine.report (line : CommandLine) : IO UInt32 := do
  let contents ← line.fetch
  let (outcome, notices) := line.load complaint fun _ => contents
  for notice in notices do
    IO.eprintln notice.line
  match outcome with
  | .error fault =>
    IO.eprintln fault.message
    return 1
  | .ok settings =>
    IO.println (Utf8.lossy settings.document)
    return 0

end Beacon

def main (args : List String) : IO UInt32 := do
  match Beacon.CommandLine.parse args with
  | .ok line => line.report
  | .error .help =>
    IO.print Beacon.CommandLine.help
    return 0
  | .error (.fault fault) =>
    IO.eprintln fault.message
    return (Beacon.CommandLine.Halt.fault fault).exitCode.toUInt32
