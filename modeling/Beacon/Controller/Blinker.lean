import Beacon.Controller.Action
import Beacon.Settings

/-!
# The blinker

The blinker keeps the lamp blinking. At the end of a phase it enters the next one and arms the
blink timer for it, with the period and the duty that hold at that moment; so a new period starts
to show with the next phase, and a running timer is never touched.

A notification of a timer that did not expire is stale and does nothing. One that cannot be read
counts as an expiry, and so does one of several expiries.
-/

namespace Beacon

structure Blinker where
  period : Duration
  range : PeriodRange
  duty : Duty
  /-- Whether the present phase is the on-phase. -/
  lit : Bool := false
  lamp : Lamp := {}
  /-- How many phases were entered after the first. The count wraps around. -/
  toggles : UInt64 := 0
deriving DecidableEq

namespace Blinker

/-- The blinker before it starts: the lamp is dark. -/
def ofSettings (settings : Settings) : Blinker :=
  { period := settings.home, range := settings.range, duty := settings.duty }

def phase (blinker : Blinker) : Phase := .ofLit blinker.lit

/-- The blinker with another period, kept within its range. -/
def withPeriod (blinker : Blinker) (period : Duration) : Blinker :=
  { blinker with period := blinker.range.clamp period }

/-- The blinker in the given phase, with the lamp told so. -/
def enter (blinker : Blinker) (phase : Phase) : Blinker :=
  { blinker with lit := phase.lit, lamp := blinker.lamp.command phase.lit }

def begin (blinker : Blinker) : Blinker × List Action :=
  let (phase, delay) := Phase.first blinker.period blinker.duty
  (blinker.enter phase,
    [.light phase.lit .start,
      .armBlink (.once delay) .start,
      .note (.blinking blinker.period blinker.duty phase delay),
      .emit (.started blinker.period blinker.duty)])

/-- Ends the present phase and enters the next one. -/
def toggle (blinker : Blinker) : Blinker × List Action :=
  let (phase, delay) := blinker.phase.following blinker.period blinker.duty
  ({ blinker.enter phase with toggles := blinker.toggles + 1 },
    [.light phase.lit .running, .armBlink (.once delay) .running])

/-- What is said about the number of expiries. -/
def remarks : Count → List Action
  | .ok count =>
    if count ≤ 1 then []
    else [.note (.blinkOverran count), .emit (.overran (.timer .blink) count)]
  | .error fault => [.note (.blinkUnreadable fault)]

def expired (blinker : Blinker) (count : Count) : Blinker × List Action :=
  match count with
  | .ok 0 => (blinker, [])
  | count =>
    let (blinker, actions) := blinker.toggle
    (blinker, remarks count ++ actions)

end Blinker

end Beacon
