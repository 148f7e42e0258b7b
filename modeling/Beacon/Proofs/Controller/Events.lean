import Beacon.Proofs.Controller.Period
import Beacon.Proofs.Controller.RepeatCalls

/-!
# What an answer reports

Every handler reports what it changes, and nothing else.  This module says
for each of them which events it reports, in terms of what it was given and
what it makes of it: a change of direction or period is reported if there is
one, and stays unsaid if there is none.

* `eventsOf` are the events among the actions of an answer.
* `Event.IsAside` are the events that tell nothing of period and direction.
  Counting expiries reports no others.
* `press_of_idle` takes a press that counts apart into the turn and the step,
  with the controller `driving` in between.
-/

namespace Beacon

/-- An event that tells nothing of period and direction. -/
def Event.IsAside : Event → Prop
  | .started _ _ | .overran _ _ => True
  | .periodChanged _ _ _ | .headingChanged _ _ => False

/-- The event that an action reports. -/
def Action.event? : Action → Option Event
  | .emit event => some event
  | _ => none

/-- The events that actions report, in order. -/
def eventsOf (actions : List Action) : List Event := actions.filterMap Action.event?

@[simp] theorem eventsOf_append (first second : List Action) :
    eventsOf (first ++ second) = eventsOf first ++ eventsOf second :=
  List.filterMap_append

namespace Controller

variable (c : Controller) (heading : Heading)

theorem events_turn (target : Option Heading) :
    eventsOf (c.turn target).2 =
      if c.heading = target then [] else [.headingChanged c.heading target] := by
  unfold turn
  split <;> rfl

theorem events_step (cause : Cause) :
    eventsOf (c.step cause).2 =
      if c.pacer.ramp.period = (c.step cause).1.pacer.ramp.period then []
      else [.periodChanged c.pacer.ramp.period (c.step cause).1.pacer.ramp.period cause] := by
  have hstep : (c.step cause).2 =
      if c.pacer.ramp.period = (c.step cause).1.pacer.ramp.period then
        [.note (.pinned (c.step cause).1.pacer.ramp.period)]
      else
        [.note (.stepped c.pacer.ramp.period (c.step cause).1.pacer.ramp.period cause),
          .emit (.periodChanged c.pacer.ramp.period (c.step cause).1.pacer.ramp.period cause)] :=
    rfl
  rw [hstep]
  split <;> rfl

/-- A press beside a held button is not reported. -/
theorem events_press_of_held {other : Heading} (hheld : c.pacer.held other = true) :
    eventsOf (c.press heading).2 = [] := by
  unfold press
  split
  · rfl
  · next hown =>
    have hopposite : c.pacer.held heading.opposite = true := by
      rcases other.eq_or_eq_opposite heading with rfl | rfl
      · exact absurd hheld hown
      · exact hheld
    rw [if_pos (by simp [hopposite, Heading.opposite_ne])]
    rfl

/-- The controller that a press makes drive, before its first step. -/
def driving (c : Controller) (heading : Heading) : Controller :=
  ((c.mapPacer (·.setHeld heading true)).turn (some heading)).1

theorem press_of_idle (hidle : ∀ other, c.pacer.held other = false) :
    c.press heading = (((c.driving heading).step .press).1,
      ((c.mapPacer (·.setHeld heading true)).turn (some heading)).2 ++
        ((c.driving heading).step .press).2 ++
        [.armRepeat (.once ((c.driving heading).step .press).1.pacer.interval)]) := by
  unfold press
  rw [if_neg (by simp [hidle heading]), if_neg (by simp [hidle, Heading.opposite_ne])]
  rfl

/-- A press beside no held button reports the direction, and then the step. -/
theorem events_press_of_idle (hidle : ∀ other, c.pacer.held other = false)
    (hheading : c.heading = none) :
    eventsOf (c.press heading).2 =
      .headingChanged none (some heading) :: eventsOf ((c.driving heading).step .press).2 := by
  rw [c.press_of_idle heading hidle, eventsOf_append, eventsOf_append, events_turn,
    heading_setHeld, hheading, if_neg (by simp)]
  simp [eventsOf, Action.event?]

theorem events_release :
    eventsOf (c.release heading).2 =
      if c.pacer.held heading = true ∧ c.heading = some heading then
        [.headingChanged (some heading) none]
      else [] := by
  unfold release
  split
  · next hheld =>
    simp only [heading_setHeld]
    split
    · next hdrives =>
      rw [if_pos ⟨hheld, hdrives⟩]
      show eventsOf (Controller.turn _ none).2 = _
      rw [events_turn, heading_setHeld, hdrives, if_neg (by simp)]
    · next hdrives =>
      rw [if_neg (fun h => hdrives h.2)]
      rfl
  · next hheld =>
    rw [if_neg (fun h => hheld h.1)]
    rfl

theorem events_reset :
    eventsOf c.reset.2 =
      (if c.heading = none then [] else [.headingChanged c.heading none]) ++
        if c.pacer.ramp.period = c.reset.1.pacer.ramp.period then []
        else [.periodChanged c.pacer.ramp.period c.reset.1.pacer.ramp.period .reset] := by
  let loose := c.mapPacer fun p => (p.setHeld .faster false).setHeld .slower false
  have hheading : loose.heading = c.heading := rfl
  have hperiod : loose.pacer.ramp.period = c.pacer.ramp.period := rfl
  have hreset : c.reset.2 =
      .disarmRepeat .running :: (loose.turn none).2 ++
        (if (loose.turn none).1.pacer.ramp.period = c.reset.1.pacer.ramp.period then []
        else [.emit (.periodChanged (loose.turn none).1.pacer.ramp.period
          c.reset.1.pacer.ramp.period .reset)]) ++
        [.note (.restored c.reset.1.pacer.ramp.period)] := rfl
  rw [hreset, rampPeriod_turn, hperiod, eventsOf_append, eventsOf_append, ← hheading,
    ← loose.events_turn none]
  split
  · exact List.append_nil _
  · exact List.append_nil _

theorem aside_remarks (count : Count) :
    ∀ event ∈ eventsOf (Blinker.remarks count), event.IsAside := by
  unfold Blinker.remarks
  split
  · split
    · simp [eventsOf]
    · simp [eventsOf, Action.event?, Event.IsAside]
  · simp [eventsOf, Action.event?]

theorem aside_repeatRemarks (count : Count) :
    ∀ event ∈ eventsOf (repeatRemarks count), event.IsAside := by
  unfold repeatRemarks
  split
  · split
    · simp [eventsOf]
    · simp [eventsOf, Action.event?, Event.IsAside]
  · simp [eventsOf, Action.event?]

/-- An expiry is reported if it is one of several, and then comes the step, if a
button drives. -/
theorem events_repeatExpired {count : Count} (hcount : count ≠ .ok 0) :
    eventsOf (c.repeatExpired count).2 =
      eventsOf (repeatRemarks count) ++
        if c.heading = none then [] else eventsOf (c.step .repetition).2 := by
  have hexpired : (c.repeatExpired count).2 = repeatRemarks count ++ c.again.2 := by
    unfold repeatExpired
    split
    · exact absurd rfl hcount
    · rfl
  rw [hexpired, eventsOf_append]
  split
  · next hidle =>
    unfold again
    rw [if_pos hidle]
    rfl
  · next hdrives =>
    rw [c.again_of_driving hdrives, eventsOf_append]
    exact congrArg _ (List.append_nil _)

theorem aside_expired (blinker : Blinker) (count : Count) :
    ∀ event ∈ eventsOf (blinker.expired count).2, event.IsAside := by
  by_cases hcount : count = .ok 0
  · subst hcount
    simp [Blinker.expired, eventsOf]
  · rw [expired_of_ne_zero blinker hcount, eventsOf_append]
    have htoggle : eventsOf blinker.toggle.2 = [] := rfl
    rw [htoggle, List.append_nil]
    exact aside_remarks count

end Controller

end Beacon
