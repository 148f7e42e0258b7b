import Beacon.CommandLine
import Beacon.Settings.Reader

/-!
# Launching

The settings to run with come from three layers: the defaults, the file that the command line
names, and the command line itself. A file has to hold valid settings by itself; what is to be said
of a malformed one goes to the journal. What the command line changes is checked at the end; a duty
can only be cut to a hundred percent, which goes to the journal as well.
-/

namespace Beacon

/-- Why there are no settings to run with. -/
inductive LaunchFault where
  /-- The file cannot be read; the reason is the system's. -/
  | unreadable (path : String) (reason : String)
  /-- The file does not hold valid settings. -/
  | refused (path : String) (fault : SettingsFault)
  | spoilt (fault : SettingsFault)
deriving DecidableEq

/-- Why there are no settings, from the outside in. -/
def LaunchFault.message : LaunchFault → String
  | .unreadable path reason => "reading config " ++ path ++ ": " ++ reason
  | .refused path fault => "loading config " ++ path ++ ": " ++ fault.message
  | .spoilt fault => "invalid configuration: " ++ fault.message

namespace CommandLine

/-- The settings below the command line, those of its file or the defaults, and what goes to the
journal on the way. -/
def base (complain : List UInt8 → Settings.Complaint) (line : CommandLine)
    (read : String → Except String (List UInt8)) :
    Except LaunchFault Settings × List Journal.Entry :=
  match line.config with
  | none => (.ok {}, [])
  | some path =>
    match read path with
    | .error reason => (.error (.unreadable path reason), [])
    | .ok bytes =>
      let (result, notices) := Settings.readNoting complain bytes
      (result.mapError (.refused path), notices)

/-- The duty as settings hold it; what does not fit eight bits is as large as they allow. -/
def dutyPercent (duty : UInt32) : UInt8 := UInt8.ofNat (min duty.toNat 255)

def override (line : CommandLine) (settings : Settings) : Settings :=
  let settings := match line.periodMs with
    | none => settings
    | some periodMs => { settings with periodMs }
  match line.duty with
  | none => settings
  | some duty => settings.withDuty (dutyPercent duty)

def overrideNotices (line : CommandLine) : List Journal.Entry :=
  match line.duty with
  | none => []
  | some duty => Settings.dutyNotice (dutyPercent duty)

/-- The settings to run with, and what goes to the journal on the way. -/
def load (complain : List UInt8 → Settings.Complaint) (line : CommandLine)
    (read : String → Except String (List UInt8)) :
    Except LaunchFault Settings × List Journal.Entry :=
  match line.base complain read with
  | (.error fault, notices) => (.error fault, notices)
  | (.ok base, notices) =>
    let settings := line.override base
    match settings.check with
    | .error fault => (.error (.spoilt fault), notices ++ line.overrideNotices)
    | .ok () => (.ok settings, notices ++ line.overrideNotices)

end CommandLine

end Beacon
