import Beacon.Settings
import Beacon.Event

/-!
# The ramp

A ramp is the period as the buttons see it, with the range and the step that adjustments use, and
the direction that held buttons currently push it in.
-/

namespace Beacon

structure Ramp where
  period : Duration
  range : PeriodRange
  step : PeriodStep
  heading : Option Heading
deriving DecidableEq

namespace Ramp

/-- The ramp before any button is touched. -/
def ofSettings (settings : Settings) : Ramp :=
  { period := settings.home, range := settings.range, step := settings.step, heading := none }

/-- The period one step further, kept within the range. Without a direction the step goes
nowhere. -/
def next (ramp : Ramp) (heading : Option Heading) : Duration :=
  ramp.range.clamp <|
    match heading with
    | none => ramp.period
    | some .faster => ramp.step.shorten ramp.period
    | some .slower => ramp.step.lengthen ramp.period

/-- The ramp after one step. -/
def advance (ramp : Ramp) (heading : Option Heading) : Ramp :=
  { ramp with period := ramp.next heading }

end Ramp

end Beacon
