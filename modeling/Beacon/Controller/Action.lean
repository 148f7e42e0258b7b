import Beacon.Duration.Text
import Beacon.Event
import Beacon.Phase
import Beacon.PushButton

/-!
# What the controller is told and what it does

The controller is a machine that takes a `Stimulus` and answers with a list of `Action`s. What
was read from a line or a timer is part of the stimulus, failures included. What becomes of an
action is not told back: the controller goes on as if it had worked.

A `Notice` is what the controller has to tell an operator.
-/

namespace Beacon

/-- How often a timer expired since it was last asked, or why it could not say. -/
abbrev Count := Except TimerFault UInt64

inductive Stimulus where
  | seed (button : Button) (reading : Reading)
  /-- Starting up: no repetition may be under way. -/
  | settle
  /-- Starting up: enter the first phase. -/
  | begin
  /-- A notification from a button's line, and what the line reads. -/
  | woke (button : Button) (reading : Reading)
  | edge (edge : Edge)
  | blinkExpired (count : Count)
  | repeatExpired (count : Count)
  | reset

inductive Occasion where
  | start
  | running
deriving DecidableEq

inductive Notice where
  /-- The lamp did not take a command. -/
  | lampRefused (occasion : Occasion) (fault : LineFault)
  /-- The blink timer could not be armed. -/
  | blinkLost (occasion : Occasion) (delay : Duration) (fault : TimerFault)
  | blinking (period : Duration) (duty : Duty) (phase : Phase) (delay : Duration)
  | blinkOverran (count : UInt64)
  /-- The blink timer did not say how often it expired. -/
  | blinkUnreadable (fault : TimerFault)
  | seeded (button : Button) (pressed : Bool)
  /-- A button's line could not be read. -/
  | unreadable (occasion : Occasion) (button : Button) (fault : LineFault)
  /-- A notification of a button that had not moved. -/
  | stale (button : Button)
  /-- A press that does not count while the opposite button is held. -/
  | passive (heading : Heading)
  /-- A step that led nowhere. -/
  | pinned (period : Duration)
  | stepped (before after : Duration) (cause : Cause)
  | restored (period : Duration)
  | repeatOverran (count : UInt64)
  /-- The repeat timer did not say how often it expired. -/
  | repeatUnreadable (fault : TimerFault)
  /-- The repeat timer expired while no button drives. -/
  | repeatIdle
  /-- The repeat timer could not be armed. -/
  | repeatLost (fault : TimerFault)
  /-- The repeat timer could not be disarmed. -/
  | repeatStuck (fault : TimerFault)
  | watching (sources : Nat)
  | waitFailed (fault : QueueFault)
deriving DecidableEq

def pressedWord (pressed : Bool) : String := if pressed then "pressed" else "released"

def Notice.entry : Notice → Journal.Entry
  | .lampRefused .start fault =>
    ⟨.warning, s!"blink: initial LED write failed: {fault.term}"⟩
  | .lampRefused .running fault => ⟨.warning, s!"blink: LED write failed: {fault.term}"⟩
  | .blinkLost .start delay fault =>
    ⟨.error, s!"blink: initial arm for {delay.text} failed: {fault.message}"⟩
  | .blinkLost .running delay fault =>
    ⟨.error, s!"blink: re-arm for {delay.text} failed: {fault.message}, blink timing lost"⟩
  | .blinking period duty phase delay =>
    ⟨.info, s!"blink: started, period={period.text} duty={duty.percent}% " ++
      s!"first phase={phase.name} for {delay.text}"⟩
  | .blinkOverran count => ⟨.warning, s!"blink: timer expired {count} times"⟩
  | .blinkUnreadable fault =>
    ⟨.warning, s!"blink: clearing expiry failed ({fault.message}), toggling anyway"⟩
  | .seeded button pressed =>
    ⟨.debug, s!"hold: {button.label} initially {pressedWord pressed}"⟩
  | .unreadable .start button fault =>
    ⟨.warning, s!"hold: initial read of {button.label} failed: {fault.term}"⟩
  | .unreadable .running button fault =>
    ⟨.warning, s!"hold: reading {button.label} failed: {fault.term}"⟩
  | .stale button => ⟨.debug, s!"hold: stale wake on {button.label}"⟩
  | .passive heading =>
    ⟨.info, s!"hold: {heading.name} press ignored, opposite button is held"⟩
  | .pinned period => ⟨.debug, s!"hold: period pinned at {period.text}"⟩
  | .stepped before after cause =>
    ⟨.debug, s!"hold: period {before.text} -> {after.text} ({cause.name})"⟩
  | .restored period => ⟨.info, s!"hold: reset to {period.text}"⟩
  | .repeatOverran count => ⟨.warning, s!"hold: repeat timer expired {count} times"⟩
  | .repeatUnreadable fault =>
    ⟨.warning, s!"hold: clearing repeat expiry failed: {fault.message}"⟩
  | .repeatIdle => ⟨.debug, "hold: repeat expiry with no button driving, ignored"⟩
  | .repeatLost fault =>
    ⟨.warning, s!"hold: arming repeat timer failed ({fault.message}), auto-repeat paused"⟩
  | .repeatStuck fault =>
    ⟨.warning, s!"hold: disarming repeat timer failed: {fault.message}"⟩
  | .watching sources =>
    ⟨.info, s!"dispatcher: {sources} sources registered, entering loop"⟩
  | .waitFailed fault => ⟨.error, s!"dispatcher: wait failed: {fault.message}"⟩

/-- What the controller does. -/
inductive Action where
  | light (on : Bool) (occasion : Occasion)
  | armBlink (schedule : Schedule) (occasion : Occasion)
  | armRepeat (schedule : Schedule)
  | disarmRepeat (occasion : Occasion)
  | note (notice : Notice)
  | emit (event : Event)
deriving DecidableEq

end Beacon
