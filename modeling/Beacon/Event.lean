import Beacon.Period
import Beacon.Source
import Beacon.Journal

/-!
# What the controller reports

An `Event` is a fact about the blinking that other programs may act on: it started, its period
or the direction of adjustment changed, or a timer ran over. `Event.entry` is how the journal
records it.
-/

namespace Beacon

inductive Heading where
  | faster
  | slower
deriving DecidableEq

namespace Heading

def opposite : Heading → Heading
  | faster => slower
  | slower => faster

def name : Heading → String
  | faster => "Accelerating"
  | slower => "Decelerating"

/-- What a direction is called where there may be none. -/
def nameOf : Option Heading → String
  | none => "None"
  | some heading => heading.name

@[simp] theorem opposite_opposite (heading : Heading) : heading.opposite.opposite = heading := by
  cases heading <;> rfl

theorem opposite_ne (heading : Heading) : heading.opposite ≠ heading := by
  cases heading <;> simp [opposite]

end Heading

inductive Cause where
  /-- The first step of a button that starts to drive. -/
  | press
  /-- A further step while that button is held. -/
  | repetition
  | reset
deriving DecidableEq

def Cause.name : Cause → String
  | .press => "Press"
  | .repetition => "Repeat"
  | .reset => "Reset"

inductive Event where
  | started (period : Duration) (duty : Duty)
  /-- The period changed; the next phase is the first to follow it. -/
  | periodChanged (before after : Duration) (cause : Cause)
  | headingChanged (before after : Option Heading)
  /-- A timer expired more than once before anybody looked. -/
  | overran (source : Source) (expirations : UInt64)
deriving DecidableEq

def Event.entry : Event → Journal.Entry
  | .started period duty =>
    ⟨.info, s!"START | period={period.millis}ms duty={duty.percent}%"⟩
  | .periodChanged before after cause =>
    ⟨.info, s!"PERIOD | {before.millis}ms -> {after.millis}ms ({cause.name})"⟩
  | .headingChanged before after =>
    ⟨.info, s!"ACCEL | {Heading.nameOf before} -> {Heading.nameOf after}"⟩
  | .overran source expirations =>
    ⟨.warning, s!"OVERRUN | {source.label} expired {expirations} times"⟩

end Beacon
