import Beacon.Controller.Blinker
import Beacon.Ramp

/-!
# The pacer

The pacer turns button presses into steps of the period. The button that makes the blinking
faster and the one that makes it slower are each idle or held:

- the first of the two to be held drives: one step at once, and one at each expiry of the repeat
  timer, until it is released;
- a button that is pressed while the other is held stays passive, and its release does nothing;
- the reset button goes back to the initial period and lets go of both.

The period is in the hands of the blinker. A step asks it for a period, and what it answers is
the period of the ramp from then on. So the functions here work on both, as a `Controller`.
-/

namespace Beacon

/-- The state of the buttons and of what they adjust. -/
structure Pacer where
  ramp : Ramp
  /-- The period that a reset goes back to. -/
  home : Duration
  /-- The time between two steps. -/
  interval : Duration
  k1 : PushButton
  k2 : PushButton
  k3 : PushButton
  fasterHeld : Bool := false
  slowerHeld : Bool := false
deriving DecidableEq

namespace Pacer

/-- The pacer before any button is touched. -/
def ofSettings (settings : Settings) : Pacer :=
  let activeHigh := settings.wiring.buttonsActiveHigh
  { ramp := .ofSettings settings
    home := settings.home
    interval := settings.repeatInterval
    k1 := { id := .k1, activeHigh }
    k2 := { id := .k2, activeHigh }
    k3 := { id := .k3, activeHigh } }

def button (pacer : Pacer) : Button → PushButton
  | .k1 => pacer.k1
  | .k2 => pacer.k2
  | .k3 => pacer.k3

/-- The pacer with other knowledge of a push-button. -/
def setButton (pacer : Pacer) (id : Button) (button : PushButton) : Pacer :=
  match id with
  | .k1 => { pacer with k1 := button }
  | .k2 => { pacer with k2 := button }
  | .k3 => { pacer with k3 := button }

def held (pacer : Pacer) : Heading → Bool
  | .faster => pacer.fasterHeld
  | .slower => pacer.slowerHeld

/-- The pacer with the button of a direction held or idle. -/
def setHeld (pacer : Pacer) (heading : Heading) (held : Bool) : Pacer :=
  match heading with
  | .faster => { pacer with fasterHeld := held }
  | .slower => { pacer with slowerHeld := held }

/-- The direction that a button drives in; the reset button drives in none. -/
def headingOf : Button → Option Heading
  | .k1 => some .faster
  | .k2 => none
  | .k3 => some .slower

/-- Whether a button counts as held. The reset button never does. -/
def isHeld (pacer : Pacer) (button : Button) : Bool :=
  (headingOf button).any pacer.held

end Pacer

structure Controller where
  blinker : Blinker
  pacer : Pacer
deriving DecidableEq

namespace Controller

def mapPacer (c : Controller) (f : Pacer → Pacer) : Controller := { c with pacer := f c.pacer }

/-- The direction that a held button drives in. -/
def heading (c : Controller) : Option Heading := c.pacer.ramp.heading

/-! ## Direction and period -/

/-- Changes the direction, and says so if it is another one. -/
def turn (c : Controller) (target : Option Heading) : Controller × List Action :=
  if c.heading = target then (c, [])
  else
    (c.mapPacer fun p => { p with ramp := { p.ramp with heading := target } },
      [.emit (.headingChanged c.heading target)])

/-- Asks the blinker for a period; the ramp takes what it answers. -/
def adjust (c : Controller) (wanted : Duration) : Controller :=
  let blinker := c.blinker.withPeriod wanted
  { blinker, pacer := { c.pacer with ramp := { c.pacer.ramp with period := blinker.period } } }

def step (c : Controller) (cause : Cause) : Controller × List Action :=
  let before := c.pacer.ramp.period
  let stepped := c.adjust (c.pacer.ramp.next c.heading)
  let after := stepped.pacer.ramp.period
  (stepped,
    if before = after then [.note (.pinned after)]
    else [.note (.stepped before after cause), .emit (.periodChanged before after cause)])

/-! ## Buttons -/

/-- The button of a direction went down. -/
def press (c : Controller) (heading : Heading) : Controller × List Action :=
  if c.pacer.held heading then (c, [])
  else
    let c := c.mapPacer (·.setHeld heading true)
    if c.pacer.held heading.opposite then (c, [.note (.passive heading)])
    else
      let (c, turned) := c.turn (some heading)
      let (c, stepped) := c.step .press
      (c, turned ++ stepped ++ [.armRepeat (.once c.pacer.interval)])

/-- The button of a direction went up. -/
def release (c : Controller) (heading : Heading) : Controller × List Action :=
  if c.pacer.held heading then
    let c := c.mapPacer (·.setHeld heading false)
    if c.heading = some heading then
      let (c, turned) := c.turn none
      (c, .disarmRepeat .running :: turned)
    else (c, [])
  else (c, [])

/-- Goes back to the initial period and lets go of both buttons. -/
def reset (c : Controller) : Controller × List Action :=
  let (c, turned) := (c.mapPacer fun p => (p.setHeld .faster false).setHeld .slower false).turn none
  let before := c.pacer.ramp.period
  let c := c.adjust c.pacer.home
  let after := c.pacer.ramp.period
  (c,
    .disarmRepeat .running :: turned ++
      (if before = after then [] else [.emit (.periodChanged before after .reset)]) ++
      [.note (.restored after)])

def edge (c : Controller) (edge : Edge) : Controller × List Action :=
  match Pacer.headingOf edge.button, edge.transition with
  | none, .pressed => c.reset
  | none, .released => (c, [])
  | some heading, .pressed => c.press heading
  | some heading, .released => c.release heading

/-- Takes over the first reading of a button's line. -/
def seed (c : Controller) (id : Button) (reading : Reading) : Controller × List Action :=
  let (result, button) := (c.pacer.button id).sync reading
  let c := c.mapPacer (·.setButton id button)
  match result with
  | .ok pressed => (c, [.note (.seeded id pressed)])
  | .error fault => (c, [.note (.unreadable .start id fault)])

def woke (c : Controller) (id : Button) (reading : Reading) : Controller × List Action :=
  let (result, button) := (c.pacer.button id).reconcile reading
  let c := c.mapPacer (·.setButton id button)
  match result with
  | .ok (some edge) => c.edge edge
  | .ok none => (c, [.note (.stale id)])
  | .error fault => (c, [.note (.unreadable .running id fault)])

/-! ## Repetition -/

/-- What is said about the number of expiries of the repeat timer. -/
def repeatRemarks : Count → List Action
  | .ok count =>
    if count ≤ 1 then []
    else [.note (.repeatOverran count), .emit (.overran (.timer .repeating) count)]
  | .error fault => [.note (.repeatUnreadable fault)]

def again (c : Controller) : Controller × List Action :=
  if c.heading = none then (c, [.note .repeatIdle])
  else
    let (c, stepped) := c.step .repetition
    (c, stepped ++ [.armRepeat (.once c.pacer.interval)])

def repeatExpired (c : Controller) (count : Count) : Controller × List Action :=
  match count with
  | .ok 0 => (c, [])
  | count =>
    let (c, actions) := c.again
    (c, repeatRemarks count ++ actions)

end Controller

end Beacon
