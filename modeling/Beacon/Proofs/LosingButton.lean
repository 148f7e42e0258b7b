import Beacon.Proofs.NoRunaway
import Beacon.Proofs.Station.Dealings
import Beacon.Proofs.Station.Script

/-!
# The losing button

While one button drives, the opposite one makes no difference: a script does
the same with all that concerns it left out.

* `LineCue` is a script whose lines have levels of their own.  Leaving a button
  out of it leaves out the cues that concern the button: `cues_filter`.
* `Controller.without` is a controller that knows nothing of the button of a
  direction.  It is what two runs have in common that differ in that button
  only.
* `react_of_losing`: what concerns the losing button is lost on the rest of
  the controller and does nothing but make a notice.
* `react_without`: nothing else can tell the controller from the one without
  the losing button, as long as the driving one stays held.
* `Alongside` ties the two runs, and `Alongside.kept` and `Alongside.dropped`
  are its two steps.
-/

namespace Beacon

/-! ## What concerns a button -/

/-- Whether a stimulus is news of a button, or an edge of it. -/
def Stimulus.isOn (id : Button) : Stimulus → Bool
  | .seed other _ | .woke other _ => other = id
  | .edge confirmed => confirmed.button = id
  | .settle | .begin | .blinkExpired _ | .repeatExpired _ | .reset => false

/-- Whether a cue is news of a button, or an edge of it. -/
def Cue.isOn {δ : Type} (id : Button) : Cue δ → Bool
  | .change _ => false
  | .tell stimulus => stimulus.isOn id

/-- A cue of a script in which the levels of the lines have a part of their own. -/
inductive LineCue (δ : Type) where
  /-- From now on a button's line reads so, or cannot be read. -/
  | level (id : Button) (reading : Reading)
  /-- A button's line has news, and is read. -/
  | notify (id : Button)
  /-- Anything that needs no line. -/
  | plain (cue : Cue δ)

namespace LineCue

variable {δ : Type}

/-- Whether a cue concerns a button or its line. -/
def isOn (id : Button) : LineCue δ → Bool
  | .level other _ | .notify other => other = id
  | .plain cue => cue.isOn id

/-- The cues of a script that begins with the lines at some level. -/
def cues (lines : Button → Reading) : List (LineCue δ) → List (Cue δ)
  | [] => []
  | .level id reading :: rest =>
    cues (fun other => if other = id then reading else lines other) rest
  | .notify id :: rest => .tell (.woke id (lines id)) :: cues lines rest
  | .plain cue :: rest => cue :: cues lines rest

/-- To leave out a button is to leave out the cues that concern it: what its line
reads matters to no other. -/
theorem cues_filter {id : Button} {lines lines' : Button → Reading}
    (h : ∀ other, other ≠ id → lines' other = lines other) (script : List (LineCue δ)) :
    cues lines' (script.filter (!·.isOn id)) = (cues lines script).filter (!·.isOn id) := by
  induction script generalizing lines lines' with
  | nil => rfl
  | cons first rest ih =>
    cases first with
    | level other reading =>
      by_cases hother : other = id
      · subst hother
        rw [List.filter_cons_of_neg (by simp [isOn])]
        refine ih fun another hanother => ?_
        rw [if_neg hanother]
        exact h another hanother
      · rw [List.filter_cons_of_pos (by simp [isOn, hother])]
        refine ih fun another hanother => ?_
        rw [h another hanother]
    | notify other =>
      by_cases hother : other = id
      · subst hother
        rw [List.filter_cons_of_neg (by simp [isOn]), cues,
          List.filter_cons_of_neg (by simp [Cue.isOn, Stimulus.isOn])]
        exact ih h
      · rw [List.filter_cons_of_pos (by simp [isOn, hother]), cues, cues,
          List.filter_cons_of_pos (by simp [Cue.isOn, Stimulus.isOn, hother]), h other hother, ih h]
    | plain cue =>
      cases hon : cue.isOn id with
      | true =>
        rw [List.filter_cons_of_neg (by simp [isOn, hon]), cues,
          List.filter_cons_of_neg (by simp [hon])]
        exact ih h
      | false =>
        rw [List.filter_cons_of_pos (by simp [isOn, hon]), cues, cues,
          List.filter_cons_of_pos (by simp [hon]), ih h]

end LineCue

/-- A reading teaches nothing but whether the button is pressed. -/
theorem PushButton.released_sync (button : PushButton) (reading : Reading) :
    ({ (button.sync reading).2 with pressed := false } : PushButton) =
      { button with pressed := false } := by
  cases reading <;> rfl

namespace Controller

/-! ## A controller without one of its buttons -/

/-- The controller as if the button of a direction were idle and released. -/
def without (c : Controller) (heading : Heading) : Controller :=
  c.mapPacer fun p =>
    (p.setHeld heading false).setButton heading.button
      { p.button heading.button with pressed := false }

variable {c : Controller} {heading : Heading} {stimulus : Stimulus}

@[simp] theorem blinker_without : (c.without heading).blinker = c.blinker := rfl

@[simp] theorem ramp_without : (c.without heading).pacer.ramp = c.pacer.ramp := by
  simp [without]

@[simp] theorem heading_without (other : Heading) : (c.without other).heading = c.heading := by
  simp [Controller.heading]

@[simp] theorem held_without_opposite :
    (c.without heading.opposite).pacer.held heading = c.pacer.held heading := by
  cases heading <;> rfl

theorem confirmed?_without (hoff : stimulus.isOn heading.button = false) :
    (c.without heading).confirmed? stimulus = c.confirmed? stimulus := by
  cases stimulus with
  | woke id reading =>
    have hother : id ≠ heading.button := by simpa [Stimulus.isOn] using hoff
    simp [confirmed?, without, hother]
  | seed | settle | begin | edge | blinkExpired | repeatExpired | reset => rfl

theorem heard_without (hoff : stimulus.isOn heading.button = false) :
    (c.without heading).heard stimulus = (c.heard stimulus).without heading := by
  have hlearn : ∀ id reading, id ≠ heading.button →
      (c.without heading).heard (.woke id reading) =
        (c.heard (.woke id reading)).without heading := by
    intro id reading hother
    cases heading <;> cases id <;> first | rfl | exact absurd rfl hother
  cases stimulus with
  | woke id reading => exact hlearn id reading (by simpa [Stimulus.isOn] using hoff)
  | seed id reading => exact hlearn id reading (by simpa [Stimulus.isOn] using hoff)
  | settle | begin | edge | blinkExpired | repeatExpired | reset => rfl

/-- What is heard of the button is lost on the controller without it. -/
theorem without_heard (hon : stimulus.isOn heading.button = true) :
    (c.heard stimulus).without heading = c.without heading := by
  have hlearn : ∀ id reading, id = heading.button →
      (c.heard (.woke id reading)).without heading = c.without heading := by
    rintro id reading rfl
    have hlost := (c.pacer.button heading.button).released_sync reading
    cases heading with
    | faster =>
      exact congrArg (fun button => ({ c with
        pacer := { c.pacer with fasterHeld := false, k1 := button } } : Controller)) hlost
    | slower =>
      exact congrArg (fun button => ({ c with
        pacer := { c.pacer with slowerHeld := false, k3 := button } } : Controller)) hlost
  cases stimulus with
  | woke id reading => exact hlearn id reading (by simpa [Stimulus.isOn] using hon)
  | seed id reading => exact hlearn id reading (by simpa [Stimulus.isOn] using hon)
  | edge edge => rfl
  | settle | begin | blinkExpired | repeatExpired | reset => cases hon

/-! ## While a button drives -/

/-- The button of a direction drives and is held, and every button goes by its
own name. -/
structure LedBy (c : Controller) (heading : Heading) : Prop where
  drives : c.heading = some heading
  held : c.pacer.held heading = true
  id : ∀ id, (c.pacer.button id).id = id

/-- A stimulus that neither releases the button of a direction nor resets. -/
def Spares (c : Controller) (heading : Heading) (stimulus : Stimulus) : Prop :=
  c.confirmed? stimulus ≠ some heading.release ∧ c.confirmed? stimulus ≠ some .reset

/-- A confirmed edge is of the button that the news is of. -/
theorem isOn_of_confirmed (h : c.LedBy heading) {edge : Edge}
    (hconfirmed : c.confirmed? stimulus = some edge) (other : Heading) :
    stimulus.isOn other.button = decide (edge.button = other.button) := by
  cases stimulus with
  | woke id reading =>
    obtain ⟨-, rfl⟩ := confirmed?_woke_eq_some_iff.mp hconfirmed
    show decide (id = other.button) = decide ((c.pacer.button id).id = other.button)
    rw [h.id]
  | edge confirmed =>
    obtain rfl := Option.some.inj hconfirmed
    rfl
  | reset =>
    obtain rfl := Option.some.inj hconfirmed
    cases other <;> rfl
  | seed | settle | begin | blinkExpired | repeatExpired => cases hconfirmed

/-- While a button is held, an edge that is neither of the opposite button nor
its release nor a reset does nothing. -/
theorem edge_of_spared (hheld : c.pacer.held heading = true) {edge : Edge}
    (hbutton : edge.button ≠ heading.opposite.button) (hrelease : edge ≠ heading.release)
    (hreset : edge ≠ .reset) : c.edge edge = (c, []) := by
  rcases edge.cases with ⟨other, rfl⟩ | ⟨other, rfl⟩ | rfl | rfl
  · rcases other.eq_or_eq_opposite heading with rfl | rfl
    · rw [edge_press, press, if_pos hheld]
    · exact absurd rfl hbutton
  · rcases other.eq_or_eq_opposite heading with rfl | rfl
    · exact absurd rfl hrelease
    · exact absurd rfl hbutton
  · exact absurd rfl hreset
  · rfl

/-- The opposite button gets no further than its own hold. -/
theorem edge_of_losing (h : c.LedBy heading) {edge : Edge}
    (hbutton : edge.button = heading.opposite.button) :
    (c.edge edge).1.without heading.opposite = c.without heading.opposite ∧
      (c.edge edge).2.filter Action.isDeed = [] := by
  have hhold : ∀ held, (c.mapPacer (·.setHeld heading.opposite held)).without heading.opposite =
      c.without heading.opposite := by
    intro held
    cases heading <;> rfl
  rcases edge.cases with ⟨other, rfl⟩ | ⟨other, rfl⟩ | rfl | rfl
  · obtain rfl : other = heading.opposite := Heading.button_injective hbutton
    rw [edge_press]
    unfold press
    split
    · exact ⟨rfl, rfl⟩
    · rw [if_pos (by simp [h.held, (Heading.opposite_ne heading).symm])]
      exact ⟨hhold true, rfl⟩
  · obtain rfl : other = heading.opposite := Heading.button_injective hbutton
    have hpassive : c.heading ≠ some heading.opposite := by
      rw [h.drives]
      simp [(Heading.opposite_ne heading).symm]
    rw [edge_release]
    unfold release
    split
    · rw [if_neg (by simpa using hpassive)]
      exact ⟨hhold false, rfl⟩
    · exact ⟨rfl, rfl⟩
  · exact absurd hbutton (Heading.button_ne_k2 _).symm
  · exact absurd hbutton (Heading.button_ne_k2 _).symm

theorem LedBy.heard (h : c.LedBy heading) (stimulus : Stimulus) :
    (c.heard stimulus).LedBy heading where
  drives := by rw [heading_heard]; exact h.drives
  held := by rw [held_heard]; exact h.held
  id := by
    have hlearn : ∀ id reading other,
        ((c.heard (.woke id reading)).pacer.button other).id = other := by
      intro id reading other
      by_cases hother : other = id
      · simp [Controller.heard, hother, h.id]
      · simp [Controller.heard, hother, h.id]
    cases stimulus with
    | woke id reading => exact hlearn id reading
    | seed id reading => exact hlearn id reading
    | settle | begin | edge | blinkExpired | repeatExpired | reset => exact h.id

/-- Two controllers that differ in the losing button only are led by the same
button, if either is. -/
theorem LedBy.congr (h : c.LedBy heading) {other : Controller}
    (hsame : c.without heading.opposite = other.without heading.opposite) :
    other.LedBy heading where
  drives := by
    have hheading := congrArg Controller.heading hsame
    rw [heading_without, heading_without] at hheading
    rw [← hheading]
    exact h.drives
  held := by
    have hheld := congrArg (fun c => c.pacer.held heading) hsame
    simp only [held_without_opposite] at hheld
    rw [← hheld]
    exact h.held
  id := by
    have hname : ∀ (c : Controller) id,
        ((c.without heading.opposite).pacer.button id).id = (c.pacer.button id).id := by
      intro c id
      cases heading <;> cases id <;> rfl
    intro id
    rw [← hname, ← hsame, hname]
    exact h.id id

/-- What concerns the losing button is lost on the rest of the controller. -/
theorem react_of_losing (h : c.LedBy heading)
    (hon : stimulus.isOn heading.opposite.button = true) :
    (c.react stimulus).1.without heading.opposite = c.without heading.opposite ∧
      (c.react stimulus).2.filter Action.isDeed = [] := by
  have hheard := without_heard (c := c) hon
  cases c.answers stimulus with
  | edge hconfirmed hreact =>
    rw [isOn_of_confirmed h hconfirmed, decide_eq_true_eq] at hon
    obtain ⟨hsame, hdeeds⟩ := edge_of_losing (h.heard stimulus) hon
    rw [hreact]
    exact ⟨hsame.trans hheard, hdeeds⟩
  | seed hreact =>
    rw [hreact]
    exact ⟨hheard, rfl⟩
  | stale _ hreact =>
    rw [hreact]
    exact ⟨hheard, rfl⟩
  | settle | begin | blinkExpired | repeatExpired => cases hon

/-! ## What does not concern the losing button -/

/-- News that confirms nothing is only noted. -/
theorem woke_of_unconfirmed {id : Button} {reading : Reading}
    (h : c.confirmed? (.woke id reading) = none) :
    ∃ notice, c.react (.woke id reading) = (c.heard (.woke id reading), [.note notice]) := by
  cases c.answers (.woke id reading) with
  | edge hconfirmed =>
    rw [h] at hconfirmed
    cases hconfirmed
  | stale _ hreact => exact ⟨_, hreact⟩

theorem repeatExpired_without (c : Controller) (other : Heading) (count : Count) :
    (c.without other).repeatExpired count =
      ((c.repeatExpired count).1.without other, (c.repeatExpired count).2) := by
  by_cases hcount : count = .ok 0
  · subst hcount
    rfl
  · by_cases hdrives : c.heading = none
    · have hnone : (c.without other).heading = none := by rw [heading_without, hdrives]
      unfold repeatExpired again
      rw [if_pos hdrives, if_pos hnone]
      split <;> rfl
    · have hsome : (c.without other).heading ≠ none := by rwa [heading_without]
      rw [repeatExpired_of_driving c hcount hdrives,
        repeatExpired_of_driving (c.without other) hcount hsome]
      cases other <;> rfl

/-- Nothing else can tell a controller from the one without the losing button. -/
theorem react_without (h : c.LedBy heading) (hspares : c.Spares heading stimulus)
    (hoff : stimulus.isOn heading.opposite.button = false) :
    ((c.without heading.opposite).react stimulus).1 =
        (c.react stimulus).1.without heading.opposite ∧
      ((c.without heading.opposite).react stimulus).2.filter Action.isDeed =
        (c.react stimulus).2.filter Action.isDeed := by
  have hheard := heard_without (c := c) hoff
  have hconfirm := confirmed?_without (c := c) hoff
  cases c.answers stimulus with
  | @edge _ edge hconfirmed hreact =>
    have hbutton : edge.button ≠ heading.opposite.button := by
      rw [isOn_of_confirmed h hconfirmed] at hoff
      exact of_decide_eq_false hoff
    have hrelease : edge ≠ heading.release := by
      rintro rfl
      exact hspares.1 hconfirmed
    have hreset : edge ≠ .reset := by
      rintro rfl
      exact hspares.2 hconfirmed
    have hled := h.heard stimulus
    have hheld : ((c.without heading.opposite).heard stimulus).pacer.held heading = true := by
      rw [hheard, held_without_opposite]
      exact hled.held
    rw [hreact, react_of_confirmed (hconfirm.trans hconfirmed),
      edge_of_spared hled.held hbutton hrelease hreset,
      edge_of_spared hheld hbutton hrelease hreset]
    exact ⟨hheard, rfl⟩
  | @seed id reading _ hreact =>
    obtain ⟨notice, hother⟩ := (c.without heading.opposite).seed_eq id reading
    rw [hreact, hother]
    exact ⟨hheard, rfl⟩
  | stale hconfirmed hreact =>
    obtain ⟨notice, hother⟩ := woke_of_unconfirmed (hconfirm.trans hconfirmed)
    rw [hreact, hother]
    exact ⟨hheard, rfl⟩
  | settle | begin | blinkExpired => exact ⟨rfl, rfl⟩
  | repeatExpired count =>
    show ((c.without heading.opposite).repeatExpired count).1 =
        (c.repeatExpired count).1.without heading.opposite ∧
      List.filter _ ((c.without heading.opposite).repeatExpired count).2 =
        List.filter _ (c.repeatExpired count).2
    rw [repeatExpired_without]
    exact ⟨rfl, rfl⟩

/-- The button that drives goes on driving as long as it is spared. -/
theorem LedBy.react (h : c.LedBy heading) (hspares : c.Spares heading stimulus) :
    (c.react stimulus).1.LedBy heading := by
  by_cases hon : stimulus.isOn heading.opposite.button = true
  · exact h.congr (react_of_losing h hon).1.symm
  · cases c.answers stimulus with
    | @edge _ edge hconfirmed hreact =>
      have hbutton : edge.button ≠ heading.opposite.button := by
        rwa [isOn_of_confirmed h hconfirmed, decide_eq_true_eq] at hon
      have hrelease : edge ≠ heading.release := by
        rintro rfl
        exact hspares.1 hconfirmed
      have hreset : edge ≠ .reset := by
        rintro rfl
        exact hspares.2 hconfirmed
      rw [hreact, edge_of_spared (h.heard stimulus).held hbutton hrelease hreset]
      exact h.heard stimulus
    | seed hreact =>
      rw [hreact]
      exact h.heard (.seed _ _)
    | stale _ hreact =>
      rw [hreact]
      exact h.heard (.woke _ _)
    | settle | begin | blinkExpired => exact ⟨h.drives, h.held, h.id⟩
    | repeatExpired count =>
      show (c.repeatExpired count).1.LedBy heading
      rw [repeatExpired_fst]
      split
      · exact h
      · exact ⟨h.drives, by rw [held_adjust]; exact h.held,
          fun id => by rw [button_adjust]; exact h.id id⟩

end Controller

namespace Station

variable {δ : Type} [Devices δ]

/-! ## Two runs side by side -/

/-- No cue of a script releases the button of a direction or resets. -/
def Spared (s : Station (Observed δ)) (heading : Heading) : List (Cue δ) → Prop
  | [] => True
  | cue :: rest =>
    (∀ stimulus, cue = .tell stimulus → s.controller.Spares heading stimulus) ∧
      (s.follow cue).Spared heading rest

/-- Two stations that differ in the losing button only. -/
structure Alongside (heading : Heading) (long short : Station (Observed (Hardware δ))) :
    Prop where
  led : long.controller.LedBy heading
  same : long.controller.without heading.opposite = short.controller.without heading.opposite
  devices : long.devices = short.devices

namespace Alongside

variable {heading : Heading} {long short : Station (Observed (Hardware δ))}

/-- What both are told keeps them alongside. -/
theorem kept (h : Alongside heading long short) {cue : Cue (Hardware δ)}
    (hspares : ∀ stimulus, cue = .tell stimulus → long.controller.Spares heading stimulus)
    (hoff : cue.isOn heading.opposite.button = false) :
    Alongside heading (long.follow cue) (short.follow cue) := by
  cases cue with
  | change f => exact ⟨h.led, h.same, by simp only [follow, h.devices]⟩
  | tell stimulus =>
    have hlong := hspares stimulus rfl
    have hconfirm : short.controller.confirmed? stimulus = long.controller.confirmed? stimulus := by
      rw [← Controller.confirmed?_without hoff, ← h.same, Controller.confirmed?_without hoff]
    have hshort : short.controller.Spares heading stimulus := by
      unfold Controller.Spares
      rw [hconfirm]
      exact hlong
    obtain ⟨hlongSame, hlongDeeds⟩ := Controller.react_without h.led hlong hoff
    obtain ⟨hshortSame, hshortDeeds⟩ :=
      Controller.react_without (h.led.congr h.same) hshort hoff
    refine ⟨h.led.react hlong, ?_, ?_⟩
    · show (long.controller.react stimulus).1.without heading.opposite =
        (short.controller.react stimulus).1.without heading.opposite
      rw [← hlongSame, h.same, hshortSame]
    · exact feed_congr h.devices (by rw [← hlongDeeds, h.same, hshortDeeds])

/-- What only the long run is told about the losing button keeps them alongside. -/
theorem dropped (h : Alongside heading long short) {cue : Cue (Hardware δ)}
    (hspares : ∀ stimulus, cue = .tell stimulus → long.controller.Spares heading stimulus)
    (hon : cue.isOn heading.opposite.button = true) :
    Alongside heading (long.follow cue) short := by
  cases cue with
  | change f => cases hon
  | tell stimulus =>
    obtain ⟨hsame, hdeeds⟩ := Controller.react_of_losing h.led hon
    refine ⟨h.led.react (hspares stimulus rfl), hsame.trans h.same, ?_⟩
    show (Devices.perform (long.controller.react stimulus).2 long.devices).2 = short.devices
    rw [← perform_deeds, hdeeds]
    exact h.devices

theorem followAll (h : Alongside heading long short) {cues : List (Cue (Hardware δ))}
    (hspared : long.Spared heading cues) :
    Alongside heading (long.followAll cues)
      (short.followAll (cues.filter (!·.isOn heading.opposite.button))) := by
  induction cues generalizing long short with
  | nil => exact h
  | cons cue rest ih =>
    obtain ⟨hspares, hrest⟩ := hspared
    cases hon : cue.isOn heading.opposite.button with
    | true =>
      rw [List.filter_cons_of_neg (by simp [hon])]
      exact ih (h.dropped hspares hon) hrest
    | false =>
      rw [List.filter_cons_of_pos (by simp [hon])]
      exact ih (h.kept hspares hon) hrest

end Alongside

/-- Whatever has happened before: while a button drives and neither its release
nor a reset is confirmed, a script does the same without everything that it
says of the opposite button.  The devices and all dealings with them are the
same, and so is the controller, but for that button's hold and its state. -/
theorem losing_button_has_no_effect (blinker pacer : Settings) (world : Hardware δ)
    (history : List (Happening (Hardware δ))) (heading : Heading) (lines : Button → Reading)
    (script : List (LineCue (Hardware δ))) :
    let s := (Station.mk (.ofTwo blinker pacer) (Observed.mk world [])).undergoAll
      (history.map Happening.observed)
    s.controller.heading = some heading → s.Spared heading (LineCue.cues lines script) →
      let long := s.followAll (LineCue.cues lines script)
      let short := s.followAll
        (LineCue.cues lines (script.filter (!·.isOn heading.opposite.button)))
      long.devices.dealings = short.devices.dealings ∧
        long.devices.world = short.devices.world ∧
        long.controller.blinker = short.controller.blinker ∧
        long.controller.pacer.ramp = short.controller.pacer.ramp ∧
        long.controller.heading = some heading ∧
        (long.controller.pacer.isHeld heading.button = true ∧
          short.controller.pacer.isHeld heading.button = true) ∧
        long.controller.without heading.opposite = short.controller.without heading.opposite := by
  intro s hdrives hspared long short
  have hmade : s.controller.MadeFrom blinker pacer :=
    madeFrom_undergoAll (Controller.madeFrom_ofTwo blinker pacer) _
  have hheld : ∀ heading, s.controller.heading = some heading →
      s.controller.pacer.held heading = true := by
    refine keeps_undergoAll (P := fun c => ∀ heading, c.heading = some heading →
      c.pacer.held heading = true) (fun c stimulus h => Controller.Grounded.drives_react h stimulus)
      ?_ _
    intro other hnone
    cases hnone
  have hstart : Alongside heading s s := ⟨⟨hdrives, hheld heading hdrives, hmade.id⟩, rfl, rfl⟩
  have hend : Alongside heading long short := by
    have hfollowed := hstart.followAll hspared
    rw [← LineCue.cues_filter fun _ _ => rfl] at hfollowed
    exact hfollowed
  have hshort := hend.led.congr hend.same
  have hblinker : long.controller.blinker = short.controller.blinker :=
    congrArg (fun c => c.blinker) hend.same
  have hramp := congrArg (fun c => c.pacer.ramp) hend.same
  simp only [Controller.ramp_without] at hramp
  simp only [Pacer.isHeld_button]
  exact ⟨congrArg Observed.dealings hend.devices, congrArg Observed.world hend.devices,
    hblinker, hramp, hend.led.drives, ⟨hend.led.held, hshort.held⟩, hend.same⟩

/-- The faster button drives.  While the repeat timer breaks, expires and the
lamp goes on blinking, the slower one is pressed, cannot be read, and is
released: it might as well not be there. -/
theorem losing_button_has_no_effect_pressed :
    let breaks : Hardware Bench → Hardware Bench :=
      fun hardware => ⟨hardware.world.setFailing .repeatArm true⟩
    let rest : List (LineCue (Hardware Bench)) :=
      [.plain (.change breaks), .plain (.tell (.repeatExpired (.ok 2))),
        .plain (.tell (.blinkExpired (.ok 1)))]
    let script : List (LineCue (Hardware Bench)) :=
      [.level .k3 (.ok true), .notify .k3, .level .k3 (.error ⟨.read, 3⟩), .notify .k3] ++ rest ++
        [.plain (.tell (.edge Heading.slower.release))]
    let lines : Button → Reading := fun _ => .ok false
    let history : List (Happening (Hardware Bench)) := [.edge Heading.faster.press]
    let world : Hardware Bench := ⟨{ wiring := {} }⟩
    let s := (Station.mk (.ofTwo {} {}) (Observed.mk world [])).undergoAll
      (history.map Happening.observed)
    s.controller.heading = some .faster ∧ s.Spared .faster (LineCue.cues lines script) ∧
      (s.followAll (LineCue.cues lines script)).devices.dealings =
        (s.followAll (LineCue.cues lines rest)).devices.dealings := by
  intro breaks rest script lines history world s
  have hdrives : s.controller.heading = some .faster := by decide +kernel
  have hspared : s.Spared .faster (LineCue.cues lines script) := by
    refine ⟨?_, ?_, ?_, ?_, ?_, ?_, trivial⟩
    all_goals
      rintro stimulus h
      cases h
    all_goals exact ⟨by decide +kernel, by decide +kernel⟩
  obtain ⟨hdealings, -⟩ := losing_button_has_no_effect {} {} world history .faster lines script
    hdrives hspared
  have hrest : script.filter (!·.isOn Heading.faster.opposite.button) = rest := rfl
  rw [show Station.undergoAll _ (history.map Happening.observed) = s from rfl, hrest] at hdealings
  exact ⟨hdrives, hspared, hdealings⟩

end Station

end Beacon
