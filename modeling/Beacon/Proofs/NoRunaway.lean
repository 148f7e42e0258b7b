import Beacon.Proofs.PeriodCopies

/-!
# No runaway

A station that is only told news (what its lines and its timers have to
say) never steps without a button that was last seen pressed.  Three layers
have to fit for that: a button that drives is held, a button that is held is
known to be pressed, and what is known of a button is what its line last
read.

* `Dealing.level?` and `Observed.lastLevel` say what a line last read,
  without the controller.
* `Controller.Grounded` ties the direction to the holds and the holds to the
  buttons.  `Grounded.woke` carries it over a notification of a line, which
  is the only news that touches any of them.
* `Seen` ties the buttons to the readings.
* `periods_undergoAll`: where nothing drives and nothing is confirmed, no
  period changes.
-/

namespace Beacon

/-- What a dealing tells of the level of a button's line. -/
def Dealing.level? (id : Button) : Dealing → Option Bool
  | .read other (.ok level) => if other = id then some level else none
  | _ => none

/-- The level at the last reading of a button's line that worked. -/
def Observed.lastLevel {δ : Type} (o : Observed δ) (id : Button) : Option Bool :=
  (o.dealings.filterMap (Dealing.level? id)).getLast?

/-- One dealing more has the last word if it tells anything. -/
theorem Observed.lastLevel_dealt {δ : Type} (o : Observed δ) (world : δ) (dealing : Dealing)
    (id : Button) :
    (o.dealt world dealing).lastLevel id = (dealing.level? id).or (o.lastLevel id) := by
  simp only [lastLevel, dealt, List.filterMap_append, List.getLast?_append]
  cases hlevel : dealing.level? id with
  | none => simp [hlevel]
  | some level => simp [hlevel]

@[simp] theorem Dealing.level?_read_error (id other : Button) (fault : LineFault) :
    (Dealing.read other (.error fault)).level? id = none := rfl

@[simp] theorem Dealing.level?_read_ok (id other : Button) (level : Bool) :
    (Dealing.read other (.ok level)).level? id = if other = id then some level else none := rfl

/-- A happening that only the world and its notifications have a part in. -/
def Happening.IsNews {δ : Type} : Happening δ → Prop
  | .change _ | .notify _ => True
  | .startPacer | .startBlinker | .edge _ | .reset => False

/-! ## Direction, holds and buttons -/

/-- What drives is held, and what is held is known to be pressed. -/
structure Controller.Grounded (c : Controller) : Prop where
  drives : ∀ heading, c.heading = some heading → c.pacer.held heading = true
  pressed : ∀ heading, c.pacer.held heading = true →
    (c.pacer.button heading.button).pressed = true

namespace Controller.Grounded

variable {c : Controller} {stimulus : Stimulus}

/-- A stimulus that confirms nothing keeps holds and direction, so the buttons
that are held only have to stay pressed. -/
theorem unconfirmed (h : c.Grounded) (hconfirmed : c.confirmed? stimulus = none)
    (hbutton : ∀ id, ((c.heard stimulus).pacer.button id).pressed = (c.pacer.button id).pressed) :
    (c.react stimulus).1.Grounded := by
  obtain ⟨hheading, hheld⟩ := react_of_unconfirmed hconfirmed
  constructor
  · intro heading hdrives
    rw [hheld]
    exact h.drives heading (hheading ▸ hdrives)
  · intro heading hhold
    rw [button_react, hbutton]
    exact h.pressed heading (hheld heading ▸ hhold)

/-- Where what drives is held, it is held after an edge as well. -/
theorem drives_edge (h : ∀ heading, c.heading = some heading → c.pacer.held heading = true)
    (edge : Edge) (heading : Heading) (hdrives : (c.edge edge).1.heading = some heading) :
    (c.edge edge).1.pacer.held heading = true := by
  rcases edge.cases with ⟨other, rfl⟩ | ⟨other, rfl⟩ | rfl | rfl
  · rw [edge_press, heading_press] at hdrives
    rw [edge_press, held_press]
    split at hdrives
    · simp [h heading hdrives]
    · simp [Option.some.inj hdrives]
  · rw [edge_release, heading_release] at hdrives
    rw [edge_release, held_release]
    split at hdrives
    · cases hdrives
    · next hkept =>
      have hheld := h heading hdrives
      have hother : heading ≠ other := by
        rintro rfl
        exact hkept ⟨hheld, hdrives⟩
      rw [if_neg hother]
      exact hheld
  · rw [edge_reset, heading_reset] at hdrives
    cases hdrives
  · exact h heading hdrives

/-- Where what drives is held, it is held after any answer as well. -/
theorem drives_react (h : ∀ heading, c.heading = some heading → c.pacer.held heading = true)
    (stimulus : Stimulus) (heading : Heading)
    (hdrives : (c.react stimulus).1.heading = some heading) :
    (c.react stimulus).1.pacer.held heading = true := by
  rcases hconfirmed : c.confirmed? stimulus with _ | edge
  · obtain ⟨hheading, hheld⟩ := react_of_unconfirmed hconfirmed
    rw [hheading] at hdrives
    rw [hheld]
    exact h heading hdrives
  · rw [react_of_confirmed hconfirmed] at hdrives ⊢
    refine drives_edge ?_ edge heading hdrives
    intro other hother
    rw [heading_heard] at hother
    rw [held_heard]
    exact h other hother

/-- What an edge leaves held was held, or the edge is its press. -/
theorem held_edge {edge : Edge} {heading : Heading}
    (hheld : (c.edge edge).1.pacer.held heading = true) :
    edge = heading.press ∨ c.pacer.held heading = true ∧ edge.button ≠ heading.button := by
  rcases edge.cases with ⟨other, rfl⟩ | ⟨other, rfl⟩ | rfl | rfl
  · rw [edge_press, held_press] at hheld
    split at hheld
    · next hother => exact .inl (by rw [hother])
    · next hother =>
      exact .inr ⟨hheld, fun hbutton => hother (Heading.button_injective hbutton.symm)⟩
  · rw [edge_release, held_release] at hheld
    split at hheld
    · cases hheld
    · next hother =>
      exact .inr ⟨hheld, fun hbutton => hother (Heading.button_injective hbutton.symm)⟩
  · rw [edge_reset, held_reset] at hheld
    cases hheld
  · exact .inr ⟨hheld, heading.button_ne_k2.symm⟩

/-- A notification of a line keeps the controller grounded: what it confirms
is what the button is known to be from then on. -/
theorem woke (h : c.Grounded) {id : Button} (hid : (c.pacer.button id).id = id)
    (reading : Reading) : (c.react (.woke id reading)).1.Grounded := by
  have hothers : ∀ other, other ≠ id →
      (c.heard (.woke id reading)).pacer.button other = c.pacer.button other := by
    intro other hother
    simp [heard, hother]
  rcases hconfirmed : c.confirmed? (.woke id reading) with _ | edge
  · refine h.unconfirmed hconfirmed ?_
    intro other
    by_cases hother : other = id
    · rw [hother]
      refine Decidable.byContradiction fun hmoved => ?_
      rw [confirmed?_woke_eq_some_iff.mpr ⟨hmoved, rfl⟩] at hconfirmed
      cases hconfirmed
    · rw [hothers other hother]
  · obtain ⟨-, hedge⟩ := confirmed?_woke_eq_some_iff.mp hconfirmed
    have hbutton : edge.button = id := by
      rw [hedge]
      exact hid
    have hkept : ∀ heading, (c.heard (.woke id reading)).pacer.held heading =
        c.pacer.held heading := fun heading => c.held_heard heading _
    rw [react_of_confirmed hconfirmed]
    constructor
    · refine drives_edge ?_ edge
      intro heading hdrives
      rw [heading_heard] at hdrives
      rw [hkept]
      exact h.drives heading hdrives
    · intro heading hheld
      rw [button_edge]
      rcases held_edge hheld with rfl | ⟨hheld, hother⟩
      · -- The edge is a press only if the reading shows the button pressed.
        have htransition := congrArg Edge.transition hedge
        rw [show heading.button = id from hbutton]
        rcases hpressed : ((c.heard (.woke id reading)).pacer.button id).pressed with _ | _
        · rw [hpressed] at htransition
          cases htransition
        · rfl
      · rw [hothers _ (hbutton ▸ hother.symm)]
        exact h.pressed heading (hkept heading ▸ hheld)

end Controller.Grounded

/-! ## Buttons and readings -/

/-- What is known of every button is what its line last read. -/
def Seen {δ : Type} (c : Controller) (o : Observed δ) : Prop :=
  ∀ id, (c.pacer.button id).pressed =
    decide (o.lastLevel id = some (c.pacer.button id).activeHigh)

namespace Seen

variable {δ : Type} {c : Controller} {o : Observed δ}

theorem congr (h : Seen c o) {c' : Controller} {o' : Observed δ}
    (hbutton : ∀ id, c'.pacer.button id = c.pacer.button id)
    (hlevel : ∀ id, o'.dealings.filterMap (Dealing.level? id) =
      o.dealings.filterMap (Dealing.level? id)) : Seen c' o' := by
  intro id
  rw [hbutton, Observed.lastLevel, hlevel]
  exact h id

/-- A reading teaches what it shows, and one that fails teaches nothing. -/
theorem read (h : Seen c o) (id : Button) (reading : Reading) (world : δ) :
    Seen (c.heard (.woke id reading)) (o.dealt world (.read id reading)) := by
  intro other
  have hknown := h other
  rw [Observed.lastLevel_dealt]
  by_cases hother : other = id
  · subst hother
    cases reading with
    | error fault => simpa [Controller.heard, PushButton.sync] using hknown
    | ok level => cases level <;> simp [Controller.heard, PushButton.sync, PushButton.meansPressed]
  · have htells : (Dealing.read id reading).level? other = none := by
      cases reading with
      | error fault => rfl
      | ok level => simp [Ne.symm hother]
    simpa [Controller.heard, hother, htells] using hknown

end Seen

namespace Station

variable {δ : Type} [Devices δ]

/-! ## The invariant of a session of news -/

/-- A controller that knows its buttons by their lines, and whose holds and
direction rest on what it knows. -/
structure Watchful (blinker pacer : Settings) (s : Station (Observed δ)) : Prop where
  made : s.controller.MadeFrom blinker pacer
  grounded : s.controller.Grounded
  seen : Seen s.controller s.devices

/-- No action reads a line. -/
theorem levels_feed (s : Station (Observed δ)) (stimulus : Stimulus) (id : Button) :
    (s.feed stimulus).2.devices.dealings.filterMap (Dealing.level? id) =
      s.devices.dealings.filterMap (Dealing.level? id) := by
  refine Observed.filterMap_dealings_perform (Dealing.level? id) ?_ s.devices
  intro action _ world
  cases action <;> rfl

theorem seen_feed {s : Station (Observed δ)} {stimulus : Stimulus}
    (h : Seen (s.controller.heard stimulus) s.devices) :
    Seen (s.feed stimulus).2.controller (s.feed stimulus).2.devices :=
  h.congr (fun id => s.controller.button_react id stimulus) (s.levels_feed stimulus)

theorem seen_seeded {s : Station (Observed δ)} (h : Seen s.controller s.devices) (id : Button) :
    Seen (s.seeded id).controller (s.seeded id).devices := by
  obtain ⟨notice, hfeed⟩ := s.feedReading_seed id
  unfold seeded
  rw [hfeed]
  exact (h.read id (Devices.readLine id s.devices.world).1 _).congr (fun _ => rfl) fun _ => rfl

/-- Starting up takes the first readings over and holds nothing. -/
theorem watchful_started (blinker pacer : Settings) (world : δ) :
    Watchful blinker pacer (started blinker pacer world) := by
  have hseen : Seen (Controller.ofTwo blinker pacer) (Observed.mk world []) := by
    intro id
    cases id <;> rfl
  refine ⟨madeFrom_started blinker pacer world, ⟨?_, ?_⟩, ?_⟩
  · intro heading hdrives
    rw [controller_started, heading_seededAll] at hdrives
    cases hdrives
  · intro heading hheld
    rw [controller_started, held_seededAll] at hheld
    cases hheld
  · rw [started_eq]
    exact seen_feed (seen_seeded (seen_seeded (seen_seeded hseen .k1) .k2) .k3)

/-- News keeps the invariant. -/
theorem Watchful.undergo {blinker pacer : Settings} {s : Station (Observed δ)}
    (h : Watchful blinker pacer s) {happening : Happening δ} (hnews : happening.IsNews) :
    Watchful blinker pacer (s.undergo happening.observed) := by
  have hmade := madeFrom_undergo h.made happening.observed
  rcases happening with f | _ | _ | ⟨clock | id⟩ | edge | _
  · exact ⟨h.made, h.grounded, h.seen.congr (fun _ => rfl) fun _ => rfl⟩
  · cases hnews
  · cases hnews
  · have hseen : ∀ count, Seen s.controller
        (s.devices.dealt (Devices.expirations clock s.devices.world).2 (.counted clock count)) :=
      fun count => h.seen.congr (fun _ => rfl) fun id => by simp [Observed.dealt, Dealing.level?]
    cases clock with
    | blink =>
      refine ⟨hmade, ?_, seen_feed (hseen _)⟩
      show (s.controller.react (.blinkExpired _)).1.Grounded
      exact h.grounded.unconfirmed rfl fun _ => rfl
    | repeating =>
      refine ⟨hmade, ?_, seen_feed (hseen _)⟩
      show (s.controller.react (.repeatExpired _)).1.Grounded
      exact h.grounded.unconfirmed rfl fun _ => rfl
  · refine ⟨hmade, h.grounded.woke (h.made.id id) _, ?_⟩
    exact seen_feed (h.seen.read id (Devices.readLine id s.devices.world).1 _)
  · cases hnews
  · cases hnews

/-! ## Sessions that confirm nothing -/

/-- The edge that a happening confirms. -/
def confirmed? (s : Station δ) (happening : Happening δ) : Option Edge :=
  (s.told? happening).bind s.controller.confirmed?

/-- Nothing in a session confirms an edge. -/
def Quiet (s : Station δ) : List (Happening δ) → Prop
  | [] => True
  | happening :: rest => s.confirmed? happening = none ∧ (s.undergo happening).Quiet rest

theorem heading_undergo {s : Station δ} {happening : Happening δ}
    (h : s.confirmed? happening = none) :
    (s.undergo happening).controller.heading = s.controller.heading := by
  rcases htold : s.told? happening with _ | stimulus
  · rcases told?_eq_none htold with ⟨f, rfl⟩ | rfl
    · rfl
    · exact s.heading_startPacer
  · have hconfirmed : s.controller.confirmed? stimulus = none := by
      rw [confirmed?, htold] at h
      exact h
    rw [controller_undergo_of_told htold]
    exact (Controller.react_of_unconfirmed hconfirmed).1

theorem asked?_of_unconfirmed {s : Station δ} {happening : Happening δ}
    (hheading : s.controller.heading = none) (h : s.confirmed? happening = none) :
    s.asked? happening = none := by
  unfold asked?
  rcases htold : s.told? happening with _ | stimulus
  · rfl
  · rw [confirmed?, htold] at h
    exact Controller.asked?_eq_none hheading h

/-- Where nothing drives, a session that confirms nothing changes no period. -/
theorem periods_undergoAll {s : Station δ} (hheading : s.controller.heading = none)
    {happenings : List (Happening δ)} (hquiet : s.Quiet happenings) :
    (s.undergoAll happenings).controller.pacer.ramp.period = s.controller.pacer.ramp.period ∧
      (s.undergoAll happenings).controller.blinker.period = s.controller.blinker.period := by
  induction happenings generalizing s with
  | nil => exact ⟨rfl, rfl⟩
  | cons happening rest ih =>
    obtain ⟨hfirst, hrest⟩ := hquiet
    have hadjusted := s.adjusted_undergo happening
    rw [asked?_of_unconfirmed hheading hfirst] at hadjusted
    obtain ⟨hramp, hblinker⟩ := ih ((heading_undergo hfirst).trans hheading) hrest
    exact ⟨hramp.trans hadjusted.rampPeriod, hblinker.trans hadjusted.period⟩

/-- In every session of news, whatever breaks and whenever: what drives is
held, and what is held is known to be pressed.  Where neither line was last
seen pressed, nothing drives and nothing is held, and the periods stay until
an edge is confirmed. -/
theorem no_runaway (blinker pacer : Settings) (world : δ) (happenings : List (Happening δ))
    (hnews : ∀ happening ∈ happenings, happening.IsNews) :
    let s := (started blinker pacer world).undergoAll (happenings.map Happening.observed)
    (∀ heading, s.controller.heading = some heading →
        s.controller.pacer.isHeld heading.button = true) ∧
      (∀ heading : Heading, s.controller.pacer.isHeld heading.button = true →
        (s.controller.pacer.button heading.button).pressed = true) ∧
      ((∀ heading : Heading, s.devices.lastLevel heading.button ≠
          some pacer.wiring.buttonsActiveHigh) →
        s.controller.heading = none ∧
          (∀ heading : Heading, s.controller.pacer.isHeld heading.button = false) ∧
          ∀ more, s.Quiet more →
            (s.undergoAll more).controller.pacer.ramp.period = s.controller.pacer.ramp.period ∧
              (s.undergoAll more).controller.blinker.period = s.controller.blinker.period) := by
  intro s
  have hstep : ∀ s, ∀ happening ∈ happenings, Watchful blinker pacer s →
      Watchful blinker pacer (s.undergo happening.observed) :=
    fun s happening hmem h => h.undergo (hnews happening hmem)
  have h : Watchful blinker pacer s := keeps_observed hstep (watchful_started blinker pacer world)
  simp only [Pacer.isHeld_button]
  refine ⟨h.grounded.drives, h.grounded.pressed, ?_⟩
  intro hreleased
  have hidle : ∀ heading : Heading, s.controller.pacer.held heading = false := by
    intro heading
    have hknown := h.seen heading.button
    rw [h.made.activeHigh, decide_eq_false (hreleased heading)] at hknown
    refine Bool.eq_false_iff.mpr fun hheld => ?_
    have hpressed := h.grounded.pressed heading hheld
    rw [hknown] at hpressed
    cases hpressed
  have hheading : s.controller.heading = none := by
    rw [Option.eq_none_iff_forall_ne_some]
    intro heading hdrives
    have hheld := h.grounded.drives heading hdrives
    rw [hidle] at hheld
    cases hheld
  exact ⟨hheading, hidle, fun more hquiet => periods_undergoAll hheading hquiet⟩

/-- The faster button goes down and up again while the repeat timer cannot be
stopped, and then that timer expires: nothing is driven any more. -/
theorem no_runaway_released :
    let session : List (Happening Bench) :=
      [.change (·.setFailing .repeatDisarm true), .change (·.setLevel .k1 (.level true)),
        .notify (.button .k1), .change (·.setLevel .k1 (.level false)), .notify (.button .k1)]
    let s := (started {} {} ({ wiring := {} } : Bench)).undergoAll
      (session.map Happening.observed)
    let expiry : Happening (Observed Bench) := .notify (.timer .repeating)
    (∀ happening ∈ session, happening.IsNews) ∧
      (∀ heading : Heading, s.devices.lastLevel heading.button ≠ some true) ∧
      s.Quiet [expiry] ∧ s.controller.heading = none ∧
      (s.undergoAll [expiry]).controller.blinker.period = s.controller.blinker.period := by
  intro session
  have hnews : ∀ happening ∈ session, happening.IsNews := by
    simp [session, Happening.IsNews]
  let s := (started {} {} ({ wiring := {} } : Bench)).undergoAll (session.map Happening.observed)
  have hlevel : ∀ heading : Heading, s.devices.lastLevel heading.button ≠ some true := by
    intro heading
    cases heading <;> decide
  have hquiet : s.Quiet [.notify (.timer .repeating)] := ⟨rfl, trivial⟩
  obtain ⟨-, -, hreleased⟩ := no_runaway {} {} { wiring := {} } session hnews
  obtain ⟨hheading, -, hperiods⟩ := hreleased hlevel
  exact ⟨hnews, hlevel, hquiet, hheading, (hperiods _ hquiet).2⟩

end Station

end Beacon
