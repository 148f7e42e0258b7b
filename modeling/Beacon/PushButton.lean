import Beacon.Fault

/-!
# Push-buttons and the lamp

A push-button hangs on a line whose level is only known when it is read. A notification says that
something changed, but the button may have moved on since; so every notification is compared with
the level that is read, and only a real change becomes an `Edge`. A line that cannot be read
changes nothing.

The lamp remembers what it was last told, whether or not the line took it.
-/

namespace Beacon

/-- The level of a line, or why it could not be read. -/
abbrev Reading := Except LineFault Bool

structure PushButton where
  id : Button
  /-- Whether the line is high while the button is pressed. -/
  activeHigh : Bool
  /-- The last confirmed state. -/
  pressed : Bool := false
deriving DecidableEq

namespace PushButton

/-- Whether a level means that the button is pressed. -/
def meansPressed (button : PushButton) (level : Bool) : Bool := level == button.activeHigh

/-- Takes over the state that a reading shows, and makes no edge of it. -/
def sync (button : PushButton) : Reading → Except LineFault Bool × PushButton
  | .ok level =>
    let pressed := button.meansPressed level
    (.ok pressed, { button with pressed })
  | .error fault => (.error fault, button)

/-- The edge of a button that has moved to the given state. -/
def edgeTo (button : PushButton) (pressed : Bool) : Edge :=
  ⟨button.id, if pressed then .pressed else .released⟩

/-- Compares a reading with the last confirmed state; a difference is an edge. -/
def reconcile (button : PushButton) : Reading → Except LineFault (Option Edge) × PushButton
  | .ok level =>
    let pressed := button.meansPressed level
    if pressed = button.pressed then (.ok none, button)
    else (.ok (some (button.edgeTo pressed)), { button with pressed })
  | .error fault => (.error fault, button)

end PushButton

/-- The lamp, as far as it was told what to do. -/
structure Lamp where
  on : Bool := false
deriving DecidableEq

/-- The lamp after a command. -/
def Lamp.command (_lamp : Lamp) (on : Bool) : Lamp := ⟨on⟩

end Beacon
