import Beacon.Proofs.Station.Dealings
import Beacon.Proofs.Station.Script
import Beacon.Proofs.Station.TimerContract

/-!
# Spurious and coalesced wake-ups

A notification may come for nothing, and one notification may stand for
several expiries.  Neither matters: a stale one leaves no trace but a notice,
and a count above one is reported and otherwise counts as one.

* `Controller.Stale` says when a notification comes for nothing, in terms of
  what the timer counted or what the line reads.
* `Station.Padded` is a script with stale notifications put in anywhere, each
  of them stale at the moment at which it comes.
* `Controller.once` is what one expiry makes of the controller.  Whatever the
  count, a notification makes exactly that: `react_expired`.
* `Controller.Expires` says what that is: one toggle with one command to the
  lamp and one arming, or one step with one arming, or nothing.
-/

namespace Beacon

/-- The notification of a timer. -/
def Stimulus.expired : Clock → Count → Stimulus
  | .blink, count => .blinkExpired count
  | .repeating, count => .repeatExpired count

/-! ## Stale notifications -/

theorem PushButton.sync_of_stale {button : PushButton} {reading : Reading}
    (h : ∀ level, reading = .ok level → button.meansPressed level = button.pressed) :
    (button.sync reading).2 = button := by
  cases reading with
  | error fault => rfl
  | ok level => simp [sync, h level rfl]

theorem Pacer.setButton_button (p : Pacer) (id : Button) : p.setButton id (p.button id) = p := by
  cases id <;> rfl

namespace Controller

/-- A notification for nothing: the timer has not expired, or the line reads
the state that the button was last known in or cannot be read. -/
def Stale (c : Controller) : Stimulus → Prop
  | .blinkExpired count | .repeatExpired count => count = .ok 0
  | .woke id reading => ∀ level, reading = .ok level →
      (c.pacer.button id).meansPressed level = (c.pacer.button id).pressed
  | .seed _ _ | .settle | .begin | .edge _ | .reset => False

variable {c : Controller} {stimulus : Stimulus}

theorem heard_of_stale (h : c.Stale stimulus) : c.heard stimulus = c := by
  cases stimulus with
  | woke id reading =>
    show c.mapPacer (·.setButton id ((c.pacer.button id).sync reading).2) = c
    rw [PushButton.sync_of_stale h, mapPacer, Pacer.setButton_button]
  | blinkExpired | repeatExpired => rfl
  | seed | settle | begin | edge | reset => cases h

/-- A stale notification changes nothing and does nothing but make a notice. -/
theorem react_of_stale (h : c.Stale stimulus) :
    (c.react stimulus).1 = c ∧ (c.react stimulus).2.filter Action.isDeed = [] := by
  have hheard := heard_of_stale h
  cases stimulus with
  | woke id reading =>
    cases c.answers (.woke id reading) with
    | edge hconfirmed =>
      obtain ⟨hmoved, -⟩ := confirmed?_woke_eq_some_iff.mp hconfirmed
      rw [hheard] at hmoved
      exact absurd rfl hmoved
    | stale _ hreact =>
      rw [hreact, hheard]
      exact ⟨rfl, rfl⟩
  | blinkExpired count =>
    obtain rfl : count = .ok 0 := h
    exact ⟨rfl, rfl⟩
  | repeatExpired count =>
    obtain rfl : count = .ok 0 := h
    exact ⟨rfl, rfl⟩
  | seed | settle | begin | edge | reset => cases h

/-! ## Counts above one -/

/-- What one expiry of a timer makes of the controller, and what it does. -/
def once (c : Controller) : Clock → Controller × List Action
  | .blink => c.blink c.blinker.toggle
  | .repeating => c.again

/-- What is said about a count that can be read. -/
def countRemarks : Clock → UInt64 → List Action
  | .blink, count => Blinker.remarks (.ok count)
  | .repeating, count => repeatRemarks (.ok count)

/-- Any count but zero stands for one expiry. -/
theorem react_expired (c : Controller) (clock : Clock) {count : UInt64} (h : count ≠ 0) :
    c.react (.expired clock (.ok count)) =
      ((c.once clock).1, countRemarks clock count ++ (c.once clock).2) := by
  have hcount : (.ok count : Count) ≠ .ok 0 := by simpa using h
  cases clock with
  | blink =>
    show c.blink (c.blinker.expired (.ok count)) = _
    rw [expired_of_ne_zero c.blinker hcount]
    rfl
  | repeating =>
    show c.repeatExpired (.ok count) = _
    unfold repeatExpired
    split
    · next hzero => exact absurd hzero hcount
    · rfl

theorem talk_countRemarks (clock : Clock) (count : UInt64) :
    ∀ action ∈ countRemarks clock count, action.IsTalk := by
  cases clock with
  | blink => exact talk_remarks (.ok count)
  | repeating => exact talk_repeatRemarks (.ok count)

end Controller

/-- What a count adds to the record: a report, if it is above one. -/
def Dealing.overran (clock : Clock) (count : UInt64) : List Dealing :=
  if count ≤ 1 then [] else [.emitted (.overran (.timer clock) count)]

namespace Controller

/-- What one expiry of a timer leaves behind: the controller, and what has been
dealt.  The blink timer makes one more toggle, with one command to the lamp and
one arming for the phase that is entered.  The repeat timer makes one step and
is armed again if a button drives, and nothing otherwise. -/
inductive Expires (c : Controller) : Clock → Controller → List Dealing → Prop where
  | toggle {phase : Phase} {delay : Duration} (lamp : Except LineFault Unit)
    (armed : Except TimerFault Unit) :
    c.blinker.phase.following c.blinker.period c.blinker.duty = (phase, delay) →
      Expires c .blink
        { c with
          blinker :=
            { c.blinker with
              lit := phase.lit
              lamp := c.blinker.lamp.command phase.lit
              toggles := c.blinker.toggles + 1 } }
        [.lit phase.lit lamp, .armed .blink (.once delay) armed]
  | idle : c.heading = none → Expires c .repeating c []
  | step {stepped : Controller} {before after : Duration} (armed : Except TimerFault Unit) :
    c.heading ≠ none → stepped = c.adjust (c.pacer.ramp.next c.heading) →
      before = c.pacer.ramp.period → after = stepped.pacer.ramp.period →
      Expires c .repeating stepped
        ((if before = after then [] else [.emitted (.periodChanged before after .repetition)]) ++
          [.armed .repeating (.once c.pacer.interval) armed])

theorem expires_once {δ : Type} [Devices δ] (c : Controller) (clock : Clock) (world : δ) :
    c.Expires clock (c.once clock).1
      (Devices.perform (c.once clock).2 (Observed.mk world [])).2.dealings := by
  cases clock with
  | blink =>
    rcases hnext : c.blinker.phase.following c.blinker.period c.blinker.duty with ⟨phase, delay⟩
    have htoggle : c.blinker.toggle =
        ({ c.blinker.enter phase with toggles := c.blinker.toggles + 1 },
          [.light phase.lit .running, .armBlink (.once delay) .running]) := by
      unfold Blinker.toggle
      rw [hnext]
    show c.Expires .blink (c.blink c.blinker.toggle).1
      (Devices.perform c.blinker.toggle.2 (Observed.mk world [])).2.dealings
    rw [htoggle, Devices.perform_cons_of_not_mayStop id, Devices.perform_singleton,
      Observed.dealings_execute, Observed.dealings_execute]
    exact .toggle _ _ hnext
  | repeating =>
    show c.Expires .repeating c.again.1
      (Devices.perform c.again.2 (Observed.mk world [])).2.dealings
    by_cases hidle : c.heading = none
    · rw [again, if_pos hidle]
      exact .idle hidle
    · rw [c.again_of_driving hidle, Devices.perform_append_of_talk (c.talk_step .repetition),
        Devices.perform_singleton, Observed.dealings_execute]
      have hsaid : (Devices.perform (c.step .repetition).2 (Observed.mk world [])).2.dealings =
          if c.pacer.ramp.period = (c.step .repetition).1.pacer.ramp.period then []
          else [.emitted (.periodChanged c.pacer.ramp.period
            (c.step .repetition).1.pacer.ramp.period .repetition)] := by
        unfold Controller.step
        dsimp only
        split <;> rfl
      rw [hsaid]
      exact .step _ hidle rfl rfl rfl

end Controller

namespace Station

variable {δ : Type} [Devices δ]

/-! ## Scripts with stale notifications -/

/-- A script, and the same script with stale notifications put in. -/
inductive Padded : Station (Observed (Hardware δ)) → List (Cue (Hardware δ)) →
    List (Cue (Hardware δ)) → Prop where
  | nil (s : Station (Observed (Hardware δ))) : Padded s [] []
  | keep {s : Station (Observed (Hardware δ))} {cue : Cue (Hardware δ)}
      {script padded : List (Cue (Hardware δ))} (hrest : Padded (s.follow cue) script padded) :
      Padded s (cue :: script) (cue :: padded)
  | stale {s : Station (Observed (Hardware δ))} {stimulus : Stimulus}
      {script padded : List (Cue (Hardware δ))} (hstale : s.controller.Stale stimulus)
      (hrest : Padded (s.follow (.tell stimulus)) script padded) :
      Padded s script (.tell stimulus :: padded)

theorem follow_of_stale {s : Station (Observed (Hardware δ))} {stimulus : Stimulus}
    (h : s.controller.Stale stimulus) : s.follow (.tell stimulus) = s := by
  obtain ⟨hsame, hdeeds⟩ := Controller.react_of_stale h
  have hdevices : (s.feed stimulus).2.devices = s.devices := by
    show (Devices.perform (s.controller.react stimulus).2 s.devices).2 = s.devices
    rw [← perform_deeds, hdeeds]
    rfl
  show Station.mk (s.controller.react stimulus).1 (s.feed stimulus).2.devices = s
  rw [hsame, hdevices]

/-- Padding makes no difference, to the station or to its record. -/
theorem Padded.followAll_eq {s : Station (Observed (Hardware δ))}
    {script padded : List (Cue (Hardware δ))} (h : s.Padded script padded) :
    s.followAll padded = s.followAll script := by
  induction h with
  | nil s => rfl
  | keep _ ih => exact ih
  | stale hstale _ ih =>
    rw [follow_of_stale hstale] at ih
    rw [followAll_cons, follow_of_stale hstale]
    exact ih

/-! ## Scripts with other counts -/

/-- What is said about a count only adds to the record. -/
theorem perform_countRemarks (clock : Clock) (count : UInt64) (o : Observed (Hardware δ)) :
    (Devices.perform (Controller.countRemarks clock count) o).2 =
      ⟨o.world, o.dealings ++ Dealing.overran clock count⟩ := by
  cases clock with
  | blink =>
    simp only [Controller.countRemarks, Blinker.remarks, Dealing.overran]
    split
    · simp [Devices.perform]
    · rfl
  | repeating =>
    simp only [Controller.countRemarks, Controller.repeatRemarks, Dealing.overran]
    split
    · simp [Devices.perform]
    · rfl

/-- A count makes no difference to anything but the record, where a report of
it stands in front of what any other count leads to. -/
theorem follow_expired (s : Station (Observed (Hardware δ))) (clock : Clock) {count : UInt64}
    (h : count ≠ 0) :
    s.follow (.tell (.expired clock (.ok count))) =
      after (s.devices.dealings ++ Dealing.overran clock count)
        ⟨(s.controller.once clock).1,
          (Devices.perform (s.controller.once clock).2 ⟨s.devices.world, []⟩).2⟩ := by
  have hempty : (⟨s.devices.world, s.devices.dealings ++ Dealing.overran clock count⟩ :
      Observed (Hardware δ)) =
        Observed.after (s.devices.dealings ++ Dealing.overran clock count)
          ⟨s.devices.world, []⟩ := by
    simp [Observed.after]
  show Station.mk (s.controller.react (.expired clock (.ok count))).1
    (Devices.perform (s.controller.react (.expired clock (.ok count))).2 s.devices).2 = _
  rw [Controller.react_expired _ _ h,
    Devices.perform_append_of_talk (Controller.talk_countRemarks clock count),
    perform_countRemarks, hempty, Observed.perform_after]
  rfl

/-- Stale notifications, put into any script at any points, leave the station
and its record as they are.  A count above one is reported, and otherwise any
count but zero, of either timer and at any point of a script, makes the one
toggle or the one repetition that any other makes: the record gets what
`Controller.Expires` says, once. -/
theorem spurious_wakes_harmless (s : Station (Observed (Hardware δ))) :
    (∀ script padded, s.Padded script padded → s.followAll padded = s.followAll script) ∧
      ∀ (clock : Clock) (before rest : List (Cue (Hardware δ))),
        let mid := s.followAll before
        ∃ (controller : Controller) (world : Hardware δ) (dealt later : List Dealing),
          ∀ count : UInt64, count ≠ 0 →
            let told := mid.follow (.tell (.expired clock (.ok count)))
            s.followAll (before ++ .tell (.expired clock (.ok count)) :: rest) =
                ⟨controller,
                  ⟨world, mid.devices.dealings ++ Dealing.overran clock count ++ later⟩⟩ ∧
              told.devices.dealings =
                mid.devices.dealings ++ Dealing.overran clock count ++ dealt ∧
              mid.controller.Expires clock told.controller dealt ∧
              told.controller =
                match clock with
                | .blink => { mid.controller with blinker := mid.controller.blinker.toggle.1 }
                | .repeating =>
                  if mid.controller.heading = none then mid.controller
                  else (mid.controller.step .repetition).1 := by
  refine ⟨fun script padded h => h.followAll_eq, ?_⟩
  intro clock before rest mid
  let one : Station (Observed (Hardware δ)) :=
    ⟨(mid.controller.once clock).1,
      (Devices.perform (mid.controller.once clock).2 ⟨mid.devices.world, []⟩).2⟩
  let last := one.followAll rest
  refine ⟨last.controller, last.devices.world, one.devices.dealings, last.devices.dealings, ?_⟩
  intro count hcount told
  have hfollow : told = after _ one := mid.follow_expired clock hcount
  refine ⟨?_, ?_, ?_, ?_⟩
  · rw [followAll_append, followAll_cons]
    show told.followAll rest = _
    rw [hfollow, followAll_after]
    rfl
  · rw [hfollow]
    rfl
  · rw [hfollow]
    exact mid.controller.expires_once clock mid.devices.world
  · rw [hfollow]
    show (mid.controller.once clock).1 = _
    cases clock with
    | blink => rfl
    | repeating =>
      show mid.controller.again.1 = _
      unfold Controller.again
      split
      · rfl
      · rfl

/-- A button goes down and its hold is repeated once.  Before that the blink
timer wakes for nothing; in between the line is read again, and another one
cannot be read.  And if the repeat timer has expired five times, that counts
as once. -/
theorem spurious_wakes_harmless_hold :
    let s : Station (Observed (Hardware Bench)) :=
      ⟨.ofTwo {} {}, ⟨⟨{ wiring := {} }⟩, []⟩⟩
    let press : Cue (Hardware Bench) := .tell (.woke .k1 (.ok true))
    let expiry : UInt64 → Cue (Hardware Bench) :=
      fun count => .tell (.expired .repeating (.ok count))
    let padded : List (Cue (Hardware Bench)) :=
      [.tell (.blinkExpired (.ok 0)), press, press, .tell (.woke .k2 (.error ⟨.read, 2⟩)), expiry 1]
    s.Padded [press, expiry 1] padded ∧
      s.followAll padded = s.followAll [press, expiry 1] ∧
      (s.followAll [press, expiry 5]).controller = (s.followAll [press, expiry 1]).controller := by
  intro s press expiry padded
  have hidle : s.controller.Stale (.blinkExpired (.ok 0)) := rfl
  have hpadded : s.Padded [press, expiry 1] padded := by
    refine .stale hidle (.keep (.stale ?_ (.stale ?_ (.keep (.nil _)))))
    · intro level h
      cases h
      decide +kernel
    · intro level h
      cases h
  obtain ⟨hpadding, hcounts⟩ := spurious_wakes_harmless s
  obtain ⟨controller, world, _, later, hcount⟩ := hcounts .repeating [press] []
  obtain ⟨hfive, -⟩ := hcount 5 (by decide)
  obtain ⟨hone, -⟩ := hcount 1 (by decide)
  refine ⟨hpadded, hpadding _ _ hpadded, ?_⟩
  exact (congrArg Station.controller hfive).trans (congrArg Station.controller hone).symm

end Station

end Beacon
