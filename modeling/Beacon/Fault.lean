import Beacon.Source

/-!
# What can go wrong

Four families of faults, each a small type of causes: `LineFault` for the lines of the lamp and
the buttons, `TimerFault`, `QueueFault` for the readiness queue, and `SettingsFault`. `Fault`
joins them. The wording of a fault is its `message`; its `term` names the cause, as the journal does
for lines.
-/

namespace Beacon

/-! ## Lines -/

inductive LineFault.Cause where
  | exporting
  | direction
  | edge
  | opening
  | read
  | write
  /-- The line reads as something other than low or high. -/
  | level
deriving DecidableEq

/-- A line that could not be set up, read or written. -/
structure LineFault where
  cause : LineFault.Cause
  line : UInt32
deriving DecidableEq

namespace LineFault

/-- What is wrong, with the number of the line. -/
def message (fault : LineFault) : String :=
  let line := "gpio" ++ toString fault.line
  match fault.cause with
  | .exporting => line ++ " export failed"
  | .direction => line ++ " direction setup failed"
  | .edge => line ++ " edge setup failed"
  | .opening => line ++ " value open failed"
  | .read => line ++ " read failed"
  | .write => line ++ " write failed"
  | .level => line ++ " returned an invalid level"

/-- The fault as a term: the name of the cause, and the line in parentheses. -/
def term (fault : LineFault) : String :=
  let name := match fault.cause with
    | .exporting => "ExportFailed"
    | .direction => "DirectionFailed"
    | .edge => "EdgeFailed"
    | .opening => "OpenFailed"
    | .read => "ReadFailed"
    | .write => "WriteFailed"
    | .level => "InvalidLevel"
  name ++ "(" ++ toString fault.line ++ ")"

end LineFault

/-! ## Timers -/

inductive TimerFault where
  | create
  | arm
  | disarm
  | read
deriving DecidableEq

def TimerFault.message : TimerFault → String
  | .create => "create failed"
  | .arm => "arm failed"
  | .disarm => "disarm failed"
  | .read => "expiration read failed"

def TimerFault.term : TimerFault → String
  | .create => "CreateFailed"
  | .arm => "ArmFailed"
  | .disarm => "DisarmFailed"
  | .read => "ReadFailed"

/-! ## The readiness queue -/

inductive QueueFault where
  | create
  | register (source : Source)
  | wait
deriving DecidableEq

def QueueFault.message : QueueFault → String
  | .create => "create failed"
  | .register source => "registering " ++ source.label ++ " failed"
  | .wait => "wait failed"

def Source.term : Source → String
  | .timer .blink => "BlinkTimer"
  | .timer .repeating => "RepeatTimer"
  | .button b => "Button(" ++ b.label ++ ")"

def QueueFault.term : QueueFault → String
  | .create => "CreateFailed"
  | .register source => "RegisterFailed(" ++ source.term ++ ")"
  | .wait => "WaitFailed"

/-! ## Settings -/

/-- What is wrong with settings or with the document that holds them. -/
inductive SettingsFault where
  /-- The document is not one that holds settings. -/
  | malformed
  /-- The settings break a rule; the reason says which. -/
  | invalid (reason : String)
deriving DecidableEq

/-- What is wrong with the settings, in words. -/
def SettingsFault.message : SettingsFault → String
  | .malformed => "malformed configuration document"
  | .invalid reason => "validation failed: " ++ reason

/-! ## All together -/

inductive Fault where
  | line (fault : LineFault)
  | timer (fault : TimerFault)
  | queue (fault : QueueFault)
  | settings (fault : SettingsFault)
deriving DecidableEq

/-- The fault in words, with the part of the program that it comes from. -/
def Fault.message : Fault → String
  | .line fault => "gpio: " ++ fault.message
  | .timer fault => "timer: " ++ fault.message
  | .queue fault => "multiplexer: " ++ fault.message
  | .settings fault => "config: " ++ fault.message

end Beacon
