import Beacon.Host.Gpio

/-!
# Open lines by name

A line table keeps open lines under names of the caller's choice. A name that is given again takes
the new line, and the old one is closed once the new one is open. At the end the lines are closed
in the order of their names.
-/

namespace Beacon

/-- A host and some open lines, each under a name. -/
structure LineTable where
  host : Host
  lines : List (String × Gpio.Line) := []
deriving DecidableEq

namespace LineTable

def find? (table : LineTable) (name : String) : Option Gpio.Line := table.lines.lookup name

/-- The table without a name. -/
def forget (table : LineTable) (name : String) : LineTable :=
  { table with lines := table.lines.filter (·.1 != name) }

def onHost {α : Type} (table : LineTable) (act : Host → α × Host) : α × LineTable :=
  let (result, host) := act table.host
  (result, { table with host })

/-- Closes the line under a name, if there is one. -/
def close (table : LineTable) (name : String) : LineTable :=
  match table.find? name with
  | none => table
  | some line => { table.forget name with host := table.host.close line }

/-- Opens a line and keeps it under a name. Answers the number of the line. -/
def openAs (table : LineTable) (name : String)
    (act : Host → Except LineFault Gpio.Line × Host) : Except LineFault UInt32 × LineTable :=
  match act table.host with
  | (.error fault, host) => (.error fault, { table with host })
  | (.ok line, host) =>
    let table := { table with host }.close name
    (.ok line.number, { table with lines := (name, line) :: table.lines })

/-- Closes every line, in the order of the names. -/
def closeAll (table : LineTable) : Host :=
  let sorted := table.lines.mergeSort fun a b => decide (a.1 ≤ b.1)
  table.host.closeAll (sorted.map (·.2))

end LineTable

end Beacon
