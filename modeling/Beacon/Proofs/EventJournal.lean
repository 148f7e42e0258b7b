import Beacon.Proofs.Controller.Events
import Beacon.Proofs.Controller.Home
import Beacon.Proofs.NoRunaway
import Beacon.Proofs.StepBounds
import Beacon.Proofs.Station.Dealings

/-!
# The events are a journal

From the events that have been reported, and from nothing else, anybody can
tell the period and the direction that hold now.  Every entry follows from the
ones before it, so none is missing, and none is made up.

* `Ledger` is what a reader of the events keeps, and `Ledger.replay` how.
* `Ledger.Fits` is what one more event has to be like, and `Lawful` says it of
  a whole list of events, together with where they lead.
* `Controller.Sound` is what a session keeps true of a controller, and
  `Lawful.react` the one step: whatever an answer reports goes on with the
  journal and leads to what the answer makes of the controller.
* `Station.Reports` is what one happening adds to the events, and `Journalled`
  the invariant of a session.
-/

namespace Beacon

/-! ## Reading a journal -/

/-- What a reader of the events knows. -/
structure Ledger where
  period : Duration
  heading : Option Heading

namespace Ledger

/-- What a reader knows after one more event. -/
def after (l : Ledger) : Event → Ledger
  | .periodChanged _ after _ => { l with period := after }
  | .headingChanged _ after => { l with heading := after }
  | .started _ _ | .overran _ _ => l

/-- What a reader knows after a list of events. -/
def replay (l : Ledger) (events : List Event) : Ledger := events.foldl after l

/-- A period that has gone where the direction points. -/
def Toward (l : Ledger) (before after : Duration) : Prop :=
  match l.heading with
  | some .faster => after < before
  | some .slower => before < after
  | none => False

/-- What an event has to be like, by what a reader knows so far and by the event
just before it.  A change starts from what is known and leads elsewhere.
Only the start of a hold brings the first step of one, every step goes where
the direction points, and a reset leads to the initial period.  A direction is
taken or given up, never exchanged for the other. -/
def Fits (l : Ledger) (home : Duration) (previous : Option Event) : Event → Prop
  | .periodChanged before after cause =>
    before = l.period ∧ before ≠ after ∧
      match cause with
      | .press =>
        (∃ heading, previous = some (.headingChanged none (some heading))) ∧ l.Toward before after
      | .repetition => l.Toward before after
      | .reset => after = home
  | .headingChanged before after => before = l.heading ∧ (before = none ↔ after ≠ none)
  | .started _ _ | .overran _ _ => True

end Ledger

/-- A list of events that fit, one after the other, and what they lead to. -/
inductive Lawful (home : Duration) (start : Ledger) : List Event → Ledger → Prop where
  | nil : Lawful home start [] start
  | concat {events : List Event} {l : Ledger} {event : Event} (h : Lawful home start events l)
      (hfits : l.Fits home events.getLast? event) :
      Lawful home start (events ++ [event]) (l.after event)

namespace Lawful

variable {home : Duration} {start l : Ledger} {events : List Event}

theorem replay_eq (h : Lawful home start events l) : start.replay events = l := by
  induction h with
  | nil => rfl
  | concat _ _ ih => simp [Ledger.replay, List.foldl_append, ← ih]

/-- Every entry of a journal fits what stands before it. -/
theorem fits (h : Lawful home start events l) {before after : List Event} {event : Event}
    (hevents : events = before ++ event :: after) :
    (start.replay before).Fits home before.getLast? event := by
  induction h generalizing after with
  | nil => simp at hevents
  | @concat events l last h hfits ih =>
    rcases after.eq_nil_or_concat with rfl | ⟨after, other, rfl⟩
    · obtain ⟨rfl, hlast⟩ := List.append_inj' hevents rfl
      obtain rfl := List.singleton_inj.mp hlast
      rw [h.replay_eq]
      exact hfits
    · rw [List.concat_eq_append, ← List.cons_append, ← List.append_assoc] at hevents
      exact ih (List.append_inj' hevents rfl).1

/-- What tells nothing of period and direction goes on with any journal. -/
theorem asides (h : Lawful home start events l) {more : List Event}
    (hmore : ∀ event ∈ more, event.IsAside) : Lawful home start (events ++ more) l := by
  induction more generalizing events with
  | nil =>
    rw [List.append_nil]
    exact h
  | cons event rest ih =>
    obtain ⟨haside, hrest⟩ := List.forall_mem_cons.mp hmore
    rw [List.append_cons]
    refine ih ?_ hrest
    cases event with
    | started period duty => exact h.concat trivial
    | overran source count => exact h.concat trivial
    | periodChanged => cases haside
    | headingChanged => cases haside

end Lawful

/-! ## What a session keeps -/

namespace Controller

/-- What a reader of the events is to know of a controller. -/
def ledger (c : Controller) : Ledger := ⟨c.blinker.period, c.heading⟩

/-- Both periods are one and the same, in range, and everything else that
settings fix is theirs. -/
structure Steady (settings : Settings) (c : Controller) : Prop where
  made : c.MadeFrom settings settings
  inRange : c.InRange
  together : c.Together

/-- A steady controller that has the button held that drives. -/
structure Sound (settings : Settings) (c : Controller) : Prop extends c.Steady settings where
  drives : ∀ heading, c.heading = some heading → c.pacer.held heading = true

theorem sound_ofSettings (settings : Settings) : (ofSettings settings).Sound settings where
  made := madeFrom_ofTwo settings settings
  inRange := PeriodRange.clamp_clamp _ _
  together := rfl
  drives := by
    intro heading hdrives
    cases hdrives

variable {c : Controller} {settings : Settings}

theorem ledger_driving (c : Controller) (heading : Heading) :
    (c.driving heading).ledger = ⟨c.blinker.period, some heading⟩ := by
  simp [ledger, driving]

/-- A press beside a held button changes neither period nor direction. -/
theorem ledger_press_of_held {heading other : Heading} (hheld : c.pacer.held other = true) :
    (c.press heading).1.ledger = c.ledger := by
  have hbusy : (c.pacer.held heading || c.pacer.held heading.opposite) = true := by
    rcases other.eq_or_eq_opposite heading with rfl | rfl <;> simp [hheld]
  have hperiod := (adjusted_edge c heading.press).period
  rw [askedBy_press, if_pos hbusy, edge_press] at hperiod
  unfold ledger
  rw [hperiod, heading_press, if_pos hbusy]
  rfl

theorem Sound.react (h : c.Sound settings) (stimulus : Stimulus) :
    (c.react stimulus).1.Sound settings := by
  have hmade := h.made.react stimulus
  have hadjusted := c.adjusted_react stimulus
  exact
    { made := hmade
      inRange := hadjusted.inRange (hmade.range.trans h.made.range.symm) h.inRange
      together := hadjusted.together (.inl h.together)
      drives := Grounded.drives_react h.drives stimulus }

theorem Sound.heard (h : c.Sound settings) (stimulus : Stimulus) :
    (c.heard stimulus).Sound settings where
  made := h.made.heard stimulus
  inRange := by
    have hin := h.inRange
    unfold InRange at hin ⊢
    rw [blinker_heard]
    exact hin
  together := by
    have htogether := h.together
    unfold Together at htogether ⊢
    rw [ramp_heard, blinker_heard]
    exact htogether
  drives := by
    intro heading hdrives
    rw [heading_heard] at hdrives
    rw [held_heard]
    exact h.drives heading hdrives

theorem Steady.driving (h : c.Steady settings) (heading : Heading) :
    (c.driving heading).Steady settings where
  made := (h.made.setHeld heading true).turn _
  inRange := by
    have hin := h.inRange
    unfold Controller.driving InRange at *
    rw [blinker_turn]
    exact hin
  together := by
    have htogether := h.together
    unfold Together Controller.driving at *
    rw [rampPeriod_turn, blinker_turn]
    simpa using htogether

theorem Sound.heading_of_idle (h : c.Sound settings) (hidle : ∀ other, c.pacer.held other = false) :
    c.heading = none := by
  rw [Option.eq_none_iff_forall_ne_some]
  intro heading hdrives
  have hheld := h.drives heading hdrives
  rw [hidle] at hheld
  cases hheld

/-- A step that leads anywhere goes where the direction points. -/
theorem Steady.toward_step (h : c.Steady settings) (hvalid : settings.Valid)
    (hdrives : c.heading ≠ none) {cause : Cause}
    (hmoved : c.pacer.ramp.period ≠ (c.step cause).1.pacer.ramp.period) :
    c.ledger.Toward c.pacer.ramp.period (c.step cause).1.pacer.ramp.period := by
  have hwidens : c.pacer.ramp.step.Widens := by
    rw [h.made.rampStep]
    exact hvalid.widens
  have hin : c.pacer.ramp.range.clamp c.pacer.ramp.period = c.pacer.ramp.period := by
    have hperiod : c.pacer.ramp.period = c.blinker.period := h.together
    rw [h.made.rampRange, hperiod, ← h.made.range]
    exact h.inRange
  have hafter : (c.step cause).1.pacer.ramp.period = c.pacer.ramp.next c.heading := by
    rw [step_fst]
    show c.blinker.range.clamp _ = _
    rw [h.made.range]
    exact h.made.clamp_next _
  rw [hafter] at hmoved ⊢
  unfold Ledger.Toward
  show match c.heading with
    | some .faster => c.pacer.ramp.next c.heading < c.pacer.ramp.period
    | some .slower => c.pacer.ramp.period < c.pacer.ramp.next c.heading
    | none => False
  rcases hheading : c.heading with _ | _ | _
  · exact hdrives hheading
  · rw [hheading] at hmoved
    exact (Duration.eq_or_lt_of_le (Ramp.next_faster_le hwidens hin)).resolve_left hmoved.symm
  · rw [hheading] at hmoved
    exact (Duration.eq_or_lt_of_le (Ramp.le_next_slower hwidens hin)).resolve_left hmoved

/-! ## The first step of a hold -/

theorem Sound.events_press_of_first_step (h : c.Sound settings) {heading : Heading}
    {before after : Duration}
    (hmem : .periodChanged before after .press ∈ eventsOf (c.press heading).2) :
    eventsOf (c.press heading).2 =
      [.headingChanged none (some heading), .periodChanged before after .press] := by
  by_cases hheld : ∃ other, c.pacer.held other = true
  · obtain ⟨other, hother⟩ := hheld
    rw [c.events_press_of_held heading hother] at hmem
    cases hmem
  · have hidle : ∀ other, c.pacer.held other = false := by simpa using hheld
    rw [c.events_press_of_idle heading hidle (h.heading_of_idle hidle), events_step] at hmem ⊢
    split at hmem
    · simp at hmem
    · next hmoved =>
      obtain ⟨rfl, rfl⟩ : before = (c.driving heading).pacer.ramp.period ∧
          after = ((c.driving heading).step .press).1.pacer.ramp.period := by
        simpa using hmem
      rw [if_neg hmoved]

/-- An expiry reports no first step of a hold. -/
theorem no_first_step_repeatExpired (c : Controller) (count : Count) (before after : Duration) :
    .periodChanged before after .press ∉ eventsOf (c.repeatExpired count).2 := by
  intro hmem
  by_cases hcount : count = .ok 0
  · subst hcount
    cases hmem
  · rw [c.events_repeatExpired hcount, events_step] at hmem
    rcases List.mem_append.mp hmem with hremark | hstepped
    · cases aside_repeatRemarks count _ hremark
    · split at hstepped
      · simp at hstepped
      · split at hstepped <;> simp at hstepped

/-- The first step of a hold is reported together with the start of the hold, and
nothing else is. -/
theorem Sound.events_of_first_step (h : c.Sound settings) {stimulus : Stimulus}
    {before after : Duration}
    (hmem : .periodChanged before after .press ∈ eventsOf (c.react stimulus).2) :
    ∃ heading : Heading, c.confirmed? stimulus = some heading.press ∧
      eventsOf (c.react stimulus).2 =
        [.headingChanged none (some heading), .periodChanged before after .press] := by
  cases c.answers stimulus with
  | @edge _ edge hconfirmed hreact =>
    rw [hreact] at hmem ⊢
    rcases edge.cases with ⟨heading, rfl⟩ | ⟨heading, rfl⟩ | rfl | rfl
    · rw [edge_press] at hmem ⊢
      exact ⟨heading, hconfirmed, (h.heard stimulus).events_press_of_first_step hmem⟩
    · rw [edge_release, events_release] at hmem
      split at hmem <;> simp at hmem
    · rw [edge_reset, events_reset] at hmem
      rcases List.mem_append.mp hmem with hturned | hchanged
      · split at hturned <;> simp at hturned
      · split at hchanged <;> simp at hchanged
    · cases hmem
  | seed hreact =>
    rw [hreact] at hmem
    cases hmem
  | stale _ hreact =>
    rw [hreact] at hmem
    cases hmem
  | settle => cases hmem
  | begin => simp [Controller.react, blink, Blinker.begin, eventsOf, Action.event?] at hmem
  | blinkExpired count => cases aside_expired c.blinker count _ hmem
  | repeatExpired count => exact absurd hmem (c.no_first_step_repeatExpired count before after)

end Controller

/-! ## What an answer adds to a journal -/

namespace Lawful

variable {c : Controller} {settings : Settings} {start : Ledger} {events : List Event}

/-- A direction that is taken or given up goes on with the journal. -/
theorem turn {home : Duration} (h : Lawful home start events c.ledger)
    {before after : Option Heading} (hbefore : c.heading = before)
    (hone : before = none ↔ after ≠ none) :
    Lawful home start (events ++ [.headingChanged before after]) ⟨c.blinker.period, after⟩ :=
  h.concat ⟨hbefore.symm, hone⟩

/-- A step goes on with the journal.  If it is the first of a hold, the start of
the hold has to be the last entry. -/
theorem step {home : Duration} (h : Lawful home start events c.ledger)
    (hsteady : c.Steady settings) (hvalid : settings.Valid) (hdrives : c.heading ≠ none)
    {cause : Cause} (hreset : cause ≠ .reset)
    (hpress : cause = .press → ∃ heading, events.getLast? = some (.headingChanged none (some heading))) :
    Lawful home start (events ++ eventsOf (c.step cause).2) (c.step cause).1.ledger := by
  have htogether : c.pacer.ramp.period = c.blinker.period := hsteady.together
  rw [Controller.events_step]
  split
  · next hpinned =>
    have hledger : (c.step cause).1.ledger = c.ledger :=
      congrArg (Ledger.mk · c.heading) (hpinned.symm.trans htogether)
    rw [List.append_nil, hledger]
    exact h
  · next hmoved =>
    have htoward := hsteady.toward_step hvalid hdrives hmoved
    refine h.concat ⟨htogether, hmoved, ?_⟩
    cases cause with
    | press => exact ⟨hpress rfl, htoward⟩
    | repetition => exact htoward
    | reset => exact absurd rfl hreset

theorem press {home : Duration} (h : Lawful home start events c.ledger) (hsound : c.Sound settings)
    (hvalid : settings.Valid) (heading : Heading) :
    Lawful home start (events ++ eventsOf (c.press heading).2) (c.press heading).1.ledger := by
  by_cases hheld : ∃ other, c.pacer.held other = true
  · obtain ⟨other, hother⟩ := hheld
    rw [c.events_press_of_held heading hother, Controller.ledger_press_of_held hother,
      List.append_nil]
    exact h
  · have hidle : ∀ other, c.pacer.held other = false := by simpa using hheld
    have hheading : c.heading = none := hsound.heading_of_idle hidle
    have hdriving : Lawful home start (events ++ [.headingChanged none (some heading)])
        (c.driving heading).ledger := by
      rw [c.ledger_driving heading]
      exact h.turn hheading (by simp)
    rw [c.events_press_of_idle heading hidle hheading, c.press_of_idle heading hidle,
      List.append_cons]
    exact hdriving.step (hsound.driving heading) hvalid (by simp [Controller.driving]) (by simp)
      fun _ => ⟨heading, by simp⟩

theorem release {home : Duration} (h : Lawful home start events c.ledger) (heading : Heading) :
    Lawful home start (events ++ eventsOf (c.release heading).2) (c.release heading).1.ledger := by
  have hledger : (c.release heading).1.ledger =
      ⟨c.blinker.period, (c.release heading).1.heading⟩ := by
    rw [Controller.release_fst]
    split
    · split <;> simp [Controller.ledger]
    · rfl
  rw [hledger, Controller.heading_release, Controller.events_release]
  split
  · next hdrives => exact h.turn hdrives.2 (by simp)
  · rw [List.append_nil]
    exact h

theorem reset (h : Lawful settings.period start events c.ledger) (hsound : c.Sound settings)
    (hvalid : settings.Valid) :
    Lawful settings.period start (events ++ eventsOf c.reset.2) c.reset.1.ledger := by
  have hhome := Controller.atHome_reset hsound.made
  have htogether : c.pacer.ramp.period = c.blinker.period := hsound.together
  have hloose : Lawful settings.period start
      (events ++ if c.heading = none then [] else [.headingChanged c.heading none])
      ⟨c.blinker.period, none⟩ := by
    split
    · next hidle =>
      rw [List.append_nil, ← hidle]
      exact h
    · next hdrives => exact h.turn rfl (by simpa using hdrives)
  have hledger : c.reset.1.ledger = ⟨c.reset.1.pacer.ramp.period, none⟩ := by
    unfold Controller.ledger
    rw [hhome.idle, hhome.period, hhome.rampPeriod]
  rw [Controller.events_reset, hledger, ← List.append_assoc]
  by_cases hsame : c.pacer.ramp.period = c.reset.1.pacer.ramp.period
  · rw [if_pos hsame, List.append_nil, ← hsame, htogether]
    exact hloose
  · have hfits : (Ledger.mk c.blinker.period none).Fits settings.period
        (events ++ if c.heading = none then [] else [Event.headingChanged c.heading none]).getLast?
        (.periodChanged c.pacer.ramp.period c.reset.1.pacer.ramp.period .reset) :=
      ⟨htogether, hsame, hhome.rampPeriod.trans hvalid.home_eq⟩
    rw [if_neg hsame]
    exact hloose.concat hfits

theorem edge (h : Lawful settings.period start events c.ledger) (hsound : c.Sound settings)
    (hvalid : settings.Valid) (edge : Edge) :
    Lawful settings.period start (events ++ eventsOf (c.edge edge).2) (c.edge edge).1.ledger := by
  rcases edge.cases with ⟨heading, rfl⟩ | ⟨heading, rfl⟩ | rfl | rfl
  · rw [Controller.edge_press]
    exact h.press hsound hvalid heading
  · rw [Controller.edge_release]
    exact h.release heading
  · exact h.reset hsound hvalid
  · exact h.asides (by simp [eventsOf])

theorem repeatExpired {home : Duration} (h : Lawful home start events c.ledger)
    (hsound : c.Sound settings) (hvalid : settings.Valid) (count : Count) :
    Lawful home start (events ++ eventsOf (c.repeatExpired count).2)
      (c.repeatExpired count).1.ledger := by
  by_cases hcount : count = .ok 0
  · subst hcount
    exact h.asides (by simp [Controller.repeatExpired, eventsOf])
  · have hremarks := h.asides (Controller.aside_repeatRemarks count)
    rw [c.events_repeatExpired hcount, ← List.append_assoc]
    by_cases hdrives : c.heading = none
    · rw [if_pos hdrives, List.append_nil, (c.repeatExpired_of_idle count hdrives).1]
      exact hremarks
    · rw [if_neg hdrives, c.repeatExpired_of_driving hcount hdrives]
      exact hremarks.step hsound.toSteady hvalid hdrives (by simp) (by simp)

/-- What an answer reports goes on with the journal, and leads to what the answer
makes of the controller. -/
theorem react (h : Lawful settings.period start events c.ledger) (hsound : c.Sound settings)
    (hvalid : settings.Valid) (stimulus : Stimulus) :
    Lawful settings.period start (events ++ eventsOf (c.react stimulus).2)
      (c.react stimulus).1.ledger := by
  have hheard : (c.heard stimulus).ledger = c.ledger := by simp [Controller.ledger]
  cases c.answers stimulus with
  | edge _ hreact =>
    rw [hreact]
    rw [← hheard] at h
    exact h.edge (hsound.heard stimulus) hvalid _
  | seed hreact =>
    rw [hreact, hheard]
    exact h.asides (by simp [eventsOf, Action.event?])
  | stale _ hreact =>
    rw [hreact, hheard]
    exact h.asides (by simp [eventsOf, Action.event?])
  | settle => exact h.asides (by simp [Controller.react, eventsOf, Action.event?])
  | begin =>
    have hledger : (c.react .begin).1.ledger = c.ledger := rfl
    rw [hledger]
    refine h.asides ?_
    simp [Controller.react, Controller.blink, Blinker.begin, eventsOf, Action.event?, Event.IsAside]
  | blinkExpired count =>
    have hperiod := (c.adjusted_react (.blinkExpired count)).period
    have hledger : (c.react (.blinkExpired count)).1.ledger = c.ledger :=
      congrArg (Ledger.mk · c.heading) hperiod
    rw [hledger]
    exact h.asides (Controller.aside_expired c.blinker count)
  | repeatExpired count => exact h.repeatExpired hsound hvalid count

end Lawful

/-! ## What a session reports -/

/-- The event that a dealing reported. -/
def Dealing.event? : Dealing → Option Event
  | .emitted event => some event
  | _ => none

theorem Devices.event?_dealing {δ : Type} [Devices δ] (world : δ) (action : Action) :
    (dealing? world action).bind Dealing.event? = action.event? := by
  cases action <;> rfl

/-- The events that have been reported, in order. -/
def Observed.events {δ : Type} (o : Observed δ) : List Event :=
  o.dealings.filterMap Dealing.event?

namespace Station

variable {δ : Type}

/-- A station whose events are a journal from the initial period on, and lead to
what its controller is. -/
structure Journalled (settings : Settings) (s : Station (Observed δ)) : Prop where
  sound : s.controller.Sound settings
  lawful : Lawful settings.period ⟨settings.period, none⟩ s.devices.events s.controller.ledger

theorem journalled_ofSettings {settings : Settings} (hvalid : settings.Valid) (world : δ) :
    Journalled settings (Station.mk (.ofSettings settings) (Observed.mk world [])) := by
  have hledger : (Controller.ofSettings settings).ledger = ⟨settings.period, none⟩ :=
    congrArg (Ledger.mk · none) hvalid.home_eq
  refine ⟨Controller.sound_ofSettings settings, ?_⟩
  rw [hledger]
  exact .nil

variable [Devices δ]

theorem sound_undergoAll {settings : Settings} {s : Station δ} (h : s.controller.Sound settings)
    (happenings : List (Happening δ)) : (s.undergoAll happenings).controller.Sound settings :=
  keeps_undergoAll (fun _ stimulus hsound => hsound.react stimulus) h happenings

theorem events_feed (s : Station (Observed δ)) {stimulus : Stimulus} (h : stimulus ≠ .begin) :
    (s.feed stimulus).2.devices.events =
      s.devices.events ++ eventsOf (s.controller.react stimulus).2 :=
  Observed.filterMap_perform Devices.event?_dealing (s.controller.carried_react h) s.devices

/-- Entering the first phase may be stopped, and then reports less. -/
theorem events_feed_begin (s : Station (Observed δ)) :
    ∃ new, (s.feed .begin).2.devices.events = s.devices.events ++ new ∧
      ∀ event ∈ new, event.IsAside := by
  obtain ⟨done, hpart, hdone⟩ := Observed.filterMap_perform_part Devices.event?_dealing
    (s.controller.react .begin).2 s.devices
  refine ⟨eventsOf done, hdone, ?_⟩
  intro event hmem
  have hwhole : event ∈ eventsOf (s.controller.react .begin).2 :=
    (hpart.filterMap Action.event?).subset hmem
  obtain rfl : event = .started s.controller.blinker.period s.controller.blinker.duty :=
    List.mem_singleton.mp hwhole
  trivial

/-- Starting up reports nothing. -/
theorem events_startPacer (s : Station (Observed δ)) :
    s.startPacer.2.devices.events = s.devices.events := by
  have hstart : s.startPacer.2.devices.events = s.devices.events ++ [] :=
    filterMap_startPacer Devices.event?_dealing (fun _ _ => rfl) s
  exact hstart.trans (List.append_nil _)

theorem ledger_startPacer (s : Station δ) :
    s.startPacer.2.controller.ledger = s.controller.ledger := by
  rw [controller_startPacer]
  simp [Controller.ledger, controller_seeded]

/-- What a happening adds to the events of a station: they go on with the journal,
and the first step of a hold comes right behind the start of that hold. -/
structure Reports (settings : Settings) (s : Station (Observed δ)) (happening : Happening δ)
    (new : List Event) : Prop where
  events : (s.undergo happening.observed).devices.events = s.devices.events ++ new
  lawful : ∀ start, Lawful settings.period start s.devices.events s.controller.ledger →
    Lawful settings.period start (s.devices.events ++ new)
      (s.undergo happening.observed).controller.ledger
  firstStep : ∀ before after, .periodChanged before after .press ∈ new →
    ∃ heading : Heading, s.confirmed? happening.observed = some heading.press ∧
      new = [.headingChanged none (some heading), .periodChanged before after .press]

variable {settings : Settings} {s : Station (Observed δ)} {happening : Happening δ}

theorem Reports.of_asides {new : List Event}
    (hevents : (s.undergo happening.observed).devices.events = s.devices.events ++ new)
    (hledger : (s.undergo happening.observed).controller.ledger = s.controller.ledger)
    (hasides : ∀ event ∈ new, event.IsAside) : s.Reports settings happening new where
  events := hevents
  lawful := by
    intro start h
    rw [hledger]
    exact h.asides hasides
  firstStep := by
    intro before after hmem
    cases hasides _ hmem

/-- What the controller is told goes on with the journal. -/
theorem reports_of_told (hvalid : settings.Valid) (hsound : s.controller.Sound settings)
    {stimulus : Stimulus} (htold : s.told? happening.observed = some stimulus) :
    ∃ new, s.Reports settings happening new := by
  have hevents : (Observed.dealings (s.consulted happening.observed)).filterMap Dealing.event? =
      s.devices.events :=
    filterMap_consulted (fun _ _ => rfl) (fun _ _ => rfl) s happening.observed
  have hledger : (s.undergo happening.observed).controller.ledger =
      (s.controller.react stimulus).1.ledger :=
    congrArg Controller.ledger (controller_undergo_of_told htold)
  have hundergo := undergo_of_told htold
  by_cases hbegin : stimulus = .begin
  · subst hbegin
    obtain ⟨new, hnew, hasides⟩ :=
      events_feed_begin { s with devices := s.consulted happening.observed }
    refine ⟨new, .of_asides ?_ hledger hasides⟩
    rw [hundergo, hnew]
    exact congrArg (· ++ new) hevents
  · refine ⟨eventsOf (s.controller.react stimulus).2, ?_, ?_, ?_⟩
    · rw [hundergo, events_feed _ hbegin]
      exact congrArg (· ++ _) hevents
    · intro start h
      rw [hledger]
      exact h.react hsound hvalid stimulus
    · intro before after hmem
      obtain ⟨heading, hconfirmed, hpair⟩ := hsound.events_of_first_step hmem
      refine ⟨heading, ?_, hpair⟩
      unfold confirmed?
      rw [htold]
      exact hconfirmed

theorem reports_undergo (hvalid : settings.Valid) (hsound : s.controller.Sound settings)
    (happening : Happening δ) : ∃ new, s.Reports settings happening new := by
  rcases htold : s.told? happening.observed with _ | stimulus
  · rcases happening with f | _ | _ | ⟨⟨_ | _⟩ | button⟩ | edge | _
    · exact ⟨[], .of_asides (List.append_nil _).symm rfl (by simp)⟩
    · exact ⟨[], .of_asides (s.events_startPacer.trans (List.append_nil _).symm)
        s.ledger_startPacer (by simp)⟩
    all_goals cases htold
  · exact reports_of_told hvalid hsound htold

theorem Journalled.undergo (hvalid : settings.Valid) (h : s.Journalled settings)
    (happening : Happening δ) : (s.undergo happening.observed).Journalled settings := by
  obtain ⟨new, hnew⟩ := reports_undergo hvalid h.sound happening
  refine ⟨keeps_undergo (fun c stimulus hc => hc.react stimulus) h.sound _, ?_⟩
  rw [hnew.events]
  exact hnew.lawful _ h.lawful

/-- The events of every session of a station with one valid choice of settings
are a journal without a gap.  Read from the initial period on, they lead to the
period and the direction that hold, and each of them fits what stands before
it.  What a happening adds has the first step of a hold only if the happening
is the press that starts the hold, and then right behind that start. -/
theorem event_journal_complete (settings : Settings) (hvalid : settings.check = .ok ())
    (world : δ) (happenings : List (Happening δ)) :
    let s := (Station.mk (.ofSettings settings) (Observed.mk world [])).undergoAll
      (happenings.map Happening.observed)
    let start : Ledger := ⟨settings.period, none⟩
    start.replay s.devices.events = ⟨s.controller.blinker.period, s.controller.heading⟩ ∧
      (∀ before event after, s.devices.events = before ++ event :: after →
        (start.replay before).Fits settings.period before.getLast? event) ∧
      ∀ happening : Happening δ, ∃ new,
        (s.undergo happening.observed).devices.events = s.devices.events ++ new ∧
          ∀ before after, .periodChanged before after .press ∈ new →
            ∃ heading : Heading, s.confirmed? happening.observed = some heading.press ∧
              new = [.headingChanged none (some heading), .periodChanged before after .press] := by
  intro s start
  have hrules : settings.Valid := Settings.check_eq_ok_iff.mp hvalid
  have h : s.Journalled settings :=
    keeps_observed (fun s happening _ hs => hs.undergo hrules happening)
      (journalled_ofSettings hrules world)
  refine ⟨h.lawful.replay_eq, fun before event after hevents => h.lawful.fits hevents, ?_⟩
  intro happening
  obtain ⟨new, hnew⟩ := reports_undergo hrules h.sound happening
  exact ⟨new, hnew.events, hnew.firstStep⟩

/-- A hold with one repetition, which finds that the timer has expired twice and
cannot arm it again. -/
theorem event_journal_complete_hold :
    let hold : List (Happening Bench) :=
      [.edge Heading.slower.press, .change (·.setFailing .repeatArm true),
        .change (·.expire .repeating 2), .notify (.timer .repeating)]
    let s := (Station.mk (.ofSettings {}) (Observed.mk ({ wiring := {} } : Bench) [])).undergoAll
      (hold.map Happening.observed)
    let start : Ledger := ⟨({} : Settings).period, none⟩
    ({} : Settings).check = .ok () ∧
      s.devices.events =
        [.headingChanged none (some .slower),
          .periodChanged (.ofMillis 500) (.ofMillis 550) .press,
          .overran (.timer .repeating) 2,
          .periodChanged (.ofMillis 550) (.ofMillis 600) .repetition] ∧
      start.replay s.devices.events = ⟨.ofMillis 600, some .slower⟩ := by
  intro hold s start
  have hvalid : ({} : Settings).check = .ok () := rfl
  have hperiod : s.controller.blinker.period = .ofMillis 600 := by decide +kernel
  have hheading : s.controller.heading = some .slower := by decide +kernel
  obtain ⟨hreplay, -⟩ := event_journal_complete {} hvalid { wiring := {} } hold
  refine ⟨hvalid, by decide +kernel, hreplay.trans ?_⟩
  rw [← hperiod, ← hheading]

end Station

end Beacon
