import Beacon.Host

/-!
# GPIO lines in a directory of files

A line is exported by writing its number to the file `export`, for the system to make a directory
for it; the files of that directory set the line up, and `value` is its level. Opening a line
exports it anew: an export that is left over is undone first. Closing it undoes the export.

The file of the level stays open and is read and written at its beginning, so that it can be read
again after every edge.

The tree does not play the system's part. In it `export` and `unexport` are files like any other,
and a line's directory is there or not whatever was written to them; what came of every request is
kept in `Host.attempts`. Nor is there a file that can be watched and reads as a level: one that can
be watched reads as a dash, so that a line is opened and registered but has no level.
-/

namespace Beacon

namespace Gpio

def classDirectory : String := "/sys/class/gpio"

/-- Which edges of a line make a notification. -/
inductive Trigger where
  | none
  | rising
  | falling
  | both
deriving DecidableEq

/-- The word for a trigger in the file `edge`. -/
def Trigger.word : Trigger → String
  | .none => "none"
  | .rising => "rising"
  | .falling => "falling"
  | .both => "both"

structure Line where
  number : UInt32
  value : FileTree.Handle
deriving DecidableEq

def attributePath (root : Path) (line : UInt32) (name : String) : Path :=
  root ++ [s!"gpio{line}", name]

end Gpio

namespace Host

open Gpio (Line Trigger attributePath)

/-- Undoes the export of a line. -/
def unexportLine (line : UInt32) (host : Host) : Except LineFault Unit × Host :=
  match host.writeFile (host.root ++ ["unexport"]) (toString line) with
  | (.ok (), host) => (.ok (), host)
  | (.error _, host) => (.error ⟨.exporting, line⟩, host)

/-- Undoes an export of a line that may be left over. -/
def clearExport (line : UInt32) (host : Host) : Host :=
  match host.unexportLine line with
  | (.ok (), host) => host.record .debug s!"gpio{line}: cleared previous export"
  | (.error _, host) => host

/-- Exports a line, after undoing an export that is left over. -/
def exportLine (line : UInt32) (host : Host) : Except LineFault Unit × Host :=
  let host := host.clearExport line
  match host.writeFile (host.root ++ ["export"]) (toString line) with
  | (.ok (), host) => (.ok (), host)
  | (.error fault, host) =>
    (.error ⟨.exporting, line⟩,
      host.record .warning s!"gpio{line}: export failed: {fault.message}")

def writeAttribute (line : UInt32) (name text : String) (cause : LineFault.Cause)
    (host : Host) : Except LineFault Unit × Host :=
  match host.writeFile (attributePath host.root line name) text with
  | (.ok (), host) => (.ok (), host)
  | (.error fault, host) =>
    (.error ⟨cause, line⟩,
      host.record .warning
        s!"gpio{line}: writing \"{text}\" to {name} failed: {fault.message}")

def openValue (line : UInt32) (writable : Bool) (host : Host) : Except LineFault Line × Host :=
  match host.openFile (attributePath host.root line "value") writable with
  | (.ok value, host) => (.ok { number := line, value }, host)
  | (.error fault, host) =>
    (.error ⟨.opening, line⟩,
      host.record .warning s!"gpio{line}: opening value failed: {fault.message}")

def openOutput (line : UInt32) (host : Host) : Except LineFault Line × Host :=
  match host.exportLine line with
  | (.error fault, host) => (.error fault, host)
  | (.ok (), host) =>
    match host.writeAttribute line "direction" "out" .direction with
    | (.error fault, host) => (.error fault, host)
    | (.ok (), host) => host.openValue line true

def openInput (line : UInt32) (trigger : Trigger) (host : Host) : Except LineFault Line × Host :=
  match host.exportLine line with
  | (.error fault, host) => (.error fault, host)
  | (.ok (), host) =>
    match host.writeAttribute line "direction" "in" .direction with
    | (.error fault, host) => (.error fault, host)
    | (.ok (), host) =>
      match host.writeAttribute line "edge" trigger.word .edge with
      | (.error fault, host) => (.error fault, host)
      | (.ok (), host) => host.openValue line false

def readLine (line : Line) (host : Host) : Except LineFault Bool × Host :=
  match host.readFirst line.value with
  | (.error fault, host) =>
    (.error ⟨.read, line.number⟩,
      host.record .warning s!"gpio{line.number}: read failed: {fault.message}")
  | (.ok none, host) => (.error ⟨.read, line.number⟩, host)
  | (.ok (some byte), host) =>
    if byte = 0x30 then (.ok false, host)
    else if byte = 0x31 then (.ok true, host)
    else (.error ⟨.level, line.number⟩, host)

def writeLine (line : Line) (high : Bool) (host : Host) : Except LineFault Unit × Host :=
  match host.writeFirst line.value (if high then 0x31 else 0x30) with
  | (.ok (), host) => (.ok (), host)
  | (.error fault, host) =>
    (.error ⟨.write, line.number⟩,
      host.record .warning s!"gpio{line.number}: write failed: {fault.message}")

/-- Closes a line, which undoes its export. -/
def close (line : Line) (host : Host) : Host :=
  match host.unexportLine line.number with
  | (.ok (), host) => host
  | (.error _, host) => host.record .debug s!"gpio{line.number}: unexport on drop failed"

/-- Closes lines, one after the other. -/
def closeAll (lines : List Line) (host : Host) : Host :=
  lines.foldl (fun host line => host.close line) host

end Host

end Beacon
