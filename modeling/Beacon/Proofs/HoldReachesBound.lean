import Beacon.Proofs.EventJournal
import Beacon.Proofs.StepLengths

/-!
# A hold reaches its bound

As long as a button drives, every repetition moves the period towards the
bound of its direction, until the period is there; and there it stays.

* `Settings.leads_stepped`: a step from any other period of the range goes on,
  and by a nanosecond at least.  So `Settings.leftTo`, the distance that is
  left, falls with every step, and `Settings.repeat_stepped` is what comes of
  as many steps as there are nanoseconds left.
* `Controller.told_repeatExpired`: a repetition tells of one change of the
  period if there is one, and of none if there is not.
* `Station.hold_reaches_bound` says both of a button that drives in any
  reachable state.
-/

namespace Beacon

/-- One period lies further in a direction than another. -/
def Heading.Leads (heading : Heading) (before after : Duration) : Prop :=
  match heading with
  | .faster => after < before
  | .slower => before < after

theorem Heading.Leads.ne {heading : Heading} {before after : Duration}
    (h : heading.Leads before after) : before ≠ after := by
  rintro rfl
  cases heading <;> exact Nat.lt_irrefl _ h

/-- Whether an event tells of a change of the period. -/
def Event.isPeriodChange : Event → Bool
  | .periodChanged _ _ _ => true
  | .started _ _ | .headingChanged _ _ | .overran _ _ => false

theorem Event.IsAside.isPeriodChange {event : Event} (h : event.IsAside) :
    event.isPeriodChange = false := by
  cases event with
  | started | overran => rfl
  | periodChanged | headingChanged => cases h

/-! ## Steps towards the bound -/

namespace Settings

variable {settings : Settings} {period : Duration} {heading : Heading}

/-- The bound of the range that a direction leads to. -/
def bound (settings : Settings) : Heading → Duration
  | .faster => settings.range.shortest
  | .slower => settings.range.longest

/-- How many nanoseconds are left between a period and the bound. -/
def leftTo (settings : Settings) (heading : Heading) (period : Duration) : Nat :=
  match heading with
  | .faster => period.nanos - settings.range.shortest.nanos
  | .slower => settings.range.longest.nanos - period.nanos

/-- At the bound a step leads nowhere. -/
theorem stepped_bound (hvalid : settings.Valid) (heading : Heading) :
    settings.stepped heading (settings.bound heading) = settings.bound heading := by
  have horder := Duration.le_def.mp hvalid.shortest_le_longest
  apply Duration.ext
  cases heading with
  | faster =>
    have hstep := Duration.le_def.mp (PeriodStep.shorten_le hvalid.widens settings.range.shortest)
    simp only [bound, nanos_stepped_faster]
    omega
  | slower =>
    have hstep := Duration.le_def.mp (PeriodStep.le_lengthen hvalid.widens settings.range.longest)
    simp only [bound, nanos_stepped_slower]
    omega

/-- From any other period of the range a step goes on. -/
theorem leads_stepped (hvalid : settings.Valid) (hallows : settings.Allows period)
    (hne : period ≠ settings.bound heading) :
    heading.Leads period (settings.stepped heading period) := by
  obtain ⟨hshortest, hlongest⟩ := hallows
  have hdivides := hvalid.divides hshortest hlongest
  have hsettable := isSettable_of_le_longest hlongest
  have hlong := hdivides.hundred_le
  rw [Duration.le_def] at hshortest hlongest
  cases heading with
  | faster =>
    have hstep := PeriodStep.shorten_lt hvalid.moves hsettable (by omega)
    have hapart : period.nanos ≠ settings.range.shortest.nanos := fun h => hne (Duration.ext h)
    show (settings.stepped .faster period).nanos < period.nanos
    rw [Duration.lt_def] at hstep
    rw [nanos_stepped_faster]
    omega
  | slower =>
    have hstep := PeriodStep.lt_lengthen hvalid.moves hsettable hlong
    have hapart : period.nanos ≠ settings.range.longest.nanos := fun h => hne (Duration.ext h)
    show period.nanos < (settings.stepped .slower period).nanos
    rw [Duration.lt_def] at hstep
    rw [nanos_stepped_slower]
    omega

theorem eq_bound_of_leftTo (hallows : settings.Allows period)
    (h : settings.leftTo heading period = 0) : period = settings.bound heading := by
  obtain ⟨hshortest, hlongest⟩ := hallows
  rw [Duration.le_def] at hshortest hlongest
  apply Duration.ext
  cases heading with
  | faster =>
    simp only [leftTo] at h
    simp only [bound]
    omega
  | slower =>
    simp only [leftTo] at h
    simp only [bound]
    omega

/-- A step takes a nanosecond at least off what is left. -/
theorem leftTo_stepped (hvalid : settings.Valid) (hallows : settings.Allows period)
    (heading : Heading) :
    settings.leftTo heading (settings.stepped heading period) ≤
      settings.leftTo heading period - 1 := by
  by_cases hbound : period = settings.bound heading
  · rw [hbound, stepped_bound hvalid]
    cases heading with
    | faster => simp [leftTo, bound]
    | slower => simp [leftTo, bound]
  · have hleads := leads_stepped hvalid hallows hbound
    obtain ⟨hshortest, hlongest⟩ := allows_stepped hvalid heading period
    rw [Duration.le_def] at hshortest hlongest
    cases heading with
    | faster =>
      have hless := Duration.lt_def.mp hleads
      simp only [leftTo]
      omega
    | slower =>
      have hless := Duration.lt_def.mp hleads
      simp only [leftTo]
      omega

theorem leftTo_repeat (hvalid : settings.Valid) (hallows : settings.Allows period)
    (heading : Heading) (steps : Nat) :
    settings.Allows (Nat.repeat (settings.stepped heading) steps period) ∧
      settings.leftTo heading (Nat.repeat (settings.stepped heading) steps period) ≤
        settings.leftTo heading period - steps := by
  induction steps with
  | zero => exact ⟨hallows, Nat.le_refl _⟩
  | succ steps ih =>
    obtain ⟨hbefore, hleft⟩ := ih
    have hone := leftTo_stepped hvalid hbefore heading
    refine ⟨allows_stepped hvalid heading _, ?_⟩
    simp only [Nat.repeat]
    omega

/-- As many steps as there are nanoseconds left end at the bound, and so do
more. -/
theorem repeat_stepped (hvalid : settings.Valid) (hallows : settings.Allows period) {steps : Nat}
    (h : settings.leftTo heading period ≤ steps) :
    Nat.repeat (settings.stepped heading) steps period = settings.bound heading := by
  obtain ⟨hafter, hleft⟩ := leftTo_repeat hvalid hallows heading steps
  exact eq_bound_of_leftTo hafter (by omega)

end Settings

/-! ## What a repetition tells -/

namespace Controller

variable {c : Controller} {heading : Heading} {count : Count}

theorem filter_asides {events : List Event} (h : ∀ event ∈ events, event.IsAside) :
    events.filter Event.isPeriodChange = [] := by
  rw [List.filter_eq_nil_iff]
  intro event hmem
  rw [(h event hmem).isPeriodChange]
  exact Bool.false_ne_true

/-- While a button drives, a repetition tells of the period that it leads to,
unless it is the one that was. -/
theorem told_repeatExpired (hdrives : c.heading ≠ none) (hcount : count ≠ .ok 0) :
    (eventsOf (c.react (.repeatExpired count)).2).filter Event.isPeriodChange =
      if c.pacer.ramp.period = (c.react (.repeatExpired count)).1.pacer.ramp.period then []
      else
        [.periodChanged c.pacer.ramp.period
          (c.react (.repeatExpired count)).1.pacer.ramp.period .repetition] := by
  have hreact : c.react (.repeatExpired count) = c.repeatExpired count := rfl
  have hafter : (c.repeatExpired count).1 = (c.step .repetition).1 := by
    rw [c.repeatExpired_of_driving hcount hdrives]
  rw [hreact, c.events_repeatExpired hcount, if_neg hdrives, List.filter_append,
    filter_asides (aside_repeatRemarks count), events_step, hafter, List.nil_append]
  split <;> rfl

end Controller

namespace Station

variable {δ : Type} [Devices δ]

/-- An expiry of the repeat timer spares the button that drives, however often
it is told. -/
theorem spared_replicate (s : Station (Observed δ)) (heading : Heading) (count : Count)
    (times : Nat) : s.Spared heading (List.replicate times (.tell (.repeatExpired count))) := by
  induction times generalizing s with
  | zero => trivial
  | succ times ih =>
    refine ⟨?_, ih _⟩
    rintro stimulus h
    cases h
    exact ⟨Option.some_ne_none _ ∘ Eq.symm, Option.some_ne_none _ ∘ Eq.symm⟩

/-- A button drives.  Every expiry of the repeat timer that does not read as
zero moves both copies of the period towards the bound of its direction and
tells of that once, until they are at the bound: from then on it leaves them
there and tells of nothing.  And after so many repetitions they are at the
bound, whatever else happens and whatever fails, as long as the button is
neither released nor reset. -/
theorem hold_reaches_bound (settings : Settings) (hvalid : settings.check = .ok ()) (world : δ)
    (history : List (Happening δ)) (heading : Heading) :
    let s := (Station.mk (.ofSettings settings) (Observed.mk world [])).undergoAll
      (history.map Happening.observed)
    s.controller.heading = some heading →
      let before := s.controller.blinker.period
      (∀ count, count ≠ .ok 0 →
        let told := s.follow (.tell (.repeatExpired count))
        let after := told.controller.blinker.period
        let changes := told.devices.events.filter Event.isPeriodChange
        let changesBefore := s.devices.events.filter Event.isPeriodChange
        told.controller.pacer.ramp.period = after ∧ settings.Allows after ∧
          (before = settings.bound heading → after = before ∧ changes = changesBefore) ∧
          (before ≠ settings.bound heading →
            heading.Leads before after ∧
              changes = changesBefore ++ [.periodChanged before after .repetition])) ∧
      ∃ steps, ∀ script : List (Cue δ), s.Spared heading script →
        steps ≤ script.countP Cue.isRepetition →
        (s.followAll script).controller.blinker.period = settings.bound heading ∧
          (s.followAll script).controller.pacer.ramp.period = settings.bound heading := by
  intro s hdrives before
  have hrules : settings.Valid := Settings.check_eq_ok_iff.mp hvalid
  have hsound : s.controller.Sound settings :=
    sound_undergoAll (Controller.sound_ofSettings settings) _
  have hallows : settings.Allows before :=
    Controller.Ticks.bounds ⟨hsound.made, hsound.inRange⟩ hrules
  have hhold : Controller.OnHold settings heading before 0 s.controller :=
    ⟨hsound.made, ⟨hdrives, hsound.drives heading hdrives, hsound.made.id⟩, hsound.together, rfl⟩
  refine ⟨?_, settings.leftTo heading before, ?_⟩
  · intro count hcount told after changes changesBefore
    have hspares : s.controller.Spares heading (.repeatExpired count) :=
      ⟨Option.some_ne_none _ ∘ Eq.symm, Option.some_ne_none _ ∘ Eq.symm⟩
    have hnext := hhold.react hspares
    rw [Stimulus.isRepetition_of_ne_zero hcount] at hnext
    have hafter : after = settings.stepped heading before := hnext.period
    have hevents : told.devices.events = s.devices.events ++
        eventsOf (s.controller.react (.repeatExpired count)).2 := s.events_feed (by simp)
    have hchanges : changes = changesBefore ++
        if before = after then [] else [.periodChanged before after .repetition] := by
      have htold := Controller.told_repeatExpired (by rw [hdrives]; simp) hcount
      rw [hsound.together, show _ = after from hnext.together] at htold
      rw [← htold, ← List.filter_append, ← hevents]
    refine ⟨hnext.together, hafter ▸ Settings.allows_stepped hrules heading before, ?_, ?_⟩
    · intro hbound
      have hstays : after = before := by
        rw [hafter, hbound, Settings.stepped_bound hrules]
      rw [hchanges, if_pos hstays.symm, List.append_nil]
      exact ⟨hstays, rfl⟩
    · intro hbound
      have hleads : heading.Leads before after :=
        hafter ▸ Settings.leads_stepped hrules hallows hbound
      rw [hchanges, if_neg hleads.ne]
      exact ⟨hleads, rfl⟩
  · intro script hspared hsteps
    have hend := onHold_followAll hhold hspared
    rw [Nat.zero_add] at hend
    have hperiod := hend.period.trans (Settings.repeat_stepped hrules hallows hsteps)
    exact ⟨hperiod, hend.together.trans hperiod⟩

/-- The repeat timer breaks and its count cannot be read: the period grows by
seven percent nevertheless, and sooner or later it is the longest one. -/
theorem hold_reaches_bound_scaled :
    let settings : Settings := { step := .scale 107, longestMs := 700 }
    let history : List (Happening Bench) :=
      [.startPacer, .startBlinker, .change fun bench => bench.setFailing .repeatArm true,
        .edge Heading.slower.press]
    let world : Bench := { wiring := {} }
    let s := (Station.mk (.ofSettings settings) (Observed.mk world [])).undergoAll
      (history.map Happening.observed)
    let expiry : Cue Bench := .tell (.repeatExpired (.error .read))
    settings.check = .ok () ∧ s.controller.heading = some .slower ∧
      (s.follow expiry).devices.events.filter Event.isPeriodChange =
        s.devices.events.filter Event.isPeriodChange ++
          [.periodChanged s.controller.blinker.period (s.follow expiry).controller.blinker.period
            .repetition] ∧
      (s.follow expiry).controller.blinker.period.nanos = 572450000 ∧
      ∃ steps, (s.followAll (List.replicate steps expiry)).controller.blinker.period =
        settings.range.longest := by
  intro settings history world s expiry
  have hvalid : settings.check = .ok () :=
    Settings.check_eq_ok_iff.mpr fun rule => by cases rule <;> decide +kernel
  have hdrives : s.controller.heading = some .slower := by decide +kernel
  have hshort : s.controller.blinker.period ≠ settings.bound .slower := by decide +kernel
  obtain ⟨hone, steps, hall⟩ :=
    hold_reaches_bound settings hvalid world history .slower hdrives
  obtain ⟨-, -, -, hleads⟩ := hone (.error .read) (by simp)
  rw [show Station.undergoAll _ (history.map Happening.observed) = s from rfl,
    show Cue.tell (Stimulus.repeatExpired (.error .read)) = expiry from rfl] at hleads
  have hmany : steps ≤ (List.replicate steps expiry).countP Cue.isRepetition := by
    rw [List.countP_replicate]
    exact Nat.le_refl steps
  obtain ⟨hlongest, -⟩ := hall _ (s.spared_replicate _ _ steps) hmany
  exact ⟨hvalid, hdrives, (hleads hshort).2, by decide +kernel, steps, hlongest⟩

end Station

end Beacon
