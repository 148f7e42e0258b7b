import Beacon.Duration

/-!
# Timers of the system

A timer is armed with a schedule. It counts its expiries until somebody asks. Arming and stopping
it forget the count.

A timer that is armed for no time at all expires after a nanosecond. Times whose seconds do not
fit a signed number of sixty-four bits are refused, and the timer goes on as it was.
-/

namespace Beacon

/-- A timer of the system. Times are in nanoseconds. -/
structure KernelTimer where
  /-- The time to the next expiry, while the timer is armed. -/
  remaining : Option Nat := none
  /-- The time between two expiries; zero for a timer that expires once. -/
  interval : Nat := 0
  /-- The expiries that nobody has asked for yet. -/
  unread : Nat := 0
deriving DecidableEq

namespace KernelTimer

/-- The most seconds that a time may have: the largest signed number of sixty-four bits. -/
def mostSeconds : Nat := 9223372036854775807

/-- Whether the seconds of a time fit a signed number of sixty-four bits. -/
def fits (time : Duration) : Bool := time.seconds ≤ mostSeconds

/-- Arms the timer, unless one of the times does not fit. -/
def arm? (schedule : Schedule) : Option KernelTimer :=
  if fits schedule.first && schedule.again.all fits then
    some
      { remaining := some (max schedule.first.nanos 1)
        interval := (schedule.again.map Duration.nanos).getD 0
        unread := 0 }
  else none

/-- The timer after some time. -/
def pass (timer : KernelTimer) (nanos : Nat) : KernelTimer :=
  match timer.remaining with
  | none => timer
  | some remaining =>
    if nanos < remaining then { timer with remaining := some (remaining - nanos) }
    else if timer.interval = 0 then
      { timer with remaining := none, unread := timer.unread + 1 }
    else
      let late := nanos - remaining
      { timer with
        remaining := some (timer.interval - late % timer.interval)
        unread := timer.unread + 1 + late / timer.interval }

/-- The timer after somebody asked for its expiries. -/
def read (timer : KernelTimer) : KernelTimer := { timer with unread := 0 }

end KernelTimer

end Beacon
