import Beacon.Proofs.Controller.Parts

/-!
# The two copies of the period

The blinker and the ramp of the pacer each hold the period.  Only an
adjustment writes to either, and it writes to both: the pacer asks for a
period, the blinker keeps it within its own range, and the ramp takes what
the blinker answers.

* `MadeFrom` names the parts that settings fix, and `MadeFrom.react` says
  that no answer of the controller changes them.
* `asked?` is the period that an answer asks for, if it asks for one, and
  `asked?_ne_none_iff` says when it does.
* `Adjusted` says what becomes of both copies, and `adjusted_react` that
  every answer does so.
-/

namespace Beacon.Controller

/-! ## What never changes -/

/-- The parts of a controller that settings fix are those of the given
settings. -/
structure MadeFrom (blinker pacer : Settings) (c : Controller) : Prop where
  range : c.blinker.range = blinker.range
  duty : c.blinker.duty = blinker.duty
  rampRange : c.pacer.ramp.range = pacer.range
  rampStep : c.pacer.ramp.step = pacer.step
  home : c.pacer.home = pacer.home
  interval : c.pacer.interval = pacer.repeatInterval
  id : ∀ id, (c.pacer.button id).id = id
  activeHigh : ∀ id, (c.pacer.button id).activeHigh = pacer.wiring.buttonsActiveHigh

theorem madeFrom_ofTwo (blinker pacer : Settings) :
    MadeFrom blinker pacer (ofTwo blinker pacer) where
  range := rfl
  duty := rfl
  rampRange := rfl
  rampStep := rfl
  home := rfl
  interval := rfl
  id := by intro id; cases id <;> rfl
  activeHigh := by intro id; cases id <;> rfl

namespace MadeFrom

variable {blinker pacer : Settings} {c : Controller}

theorem setHeld (h : MadeFrom blinker pacer c) (heading : Heading) (held : Bool) :
    MadeFrom blinker pacer (c.mapPacer (·.setHeld heading held)) where
  range := h.range
  duty := h.duty
  rampRange := by simpa using h.rampRange
  rampStep := by simpa using h.rampStep
  home := by simpa using h.home
  interval := by simpa using h.interval
  id := by simpa using h.id
  activeHigh := by simpa using h.activeHigh

theorem turn (h : MadeFrom blinker pacer c) (target : Option Heading) :
    MadeFrom blinker pacer (c.turn target).1 := by
  have hid := fun id => (c.button_turn id target).symm ▸ h.id id
  have hhigh := fun id => (c.button_turn id target).symm ▸ h.activeHigh id
  unfold Controller.turn at hid hhigh ⊢
  split
  · exact h
  · next hother =>
    rw [if_neg hother] at hid hhigh
    exact ⟨h.range, h.duty, h.rampRange, h.rampStep, h.home, h.interval, hid, hhigh⟩

theorem adjust (h : MadeFrom blinker pacer c) (wanted : Duration) :
    MadeFrom blinker pacer (c.adjust wanted) where
  range := h.range
  duty := h.duty
  rampRange := h.rampRange
  rampStep := h.rampStep
  home := h.home
  interval := h.interval
  id := by intro id; rw [button_adjust]; exact h.id id
  activeHigh := by intro id; rw [button_adjust]; exact h.activeHigh id

/-- Blinking changes neither the range nor the duty. -/
theorem blink (h : MadeFrom blinker pacer c) {next : Blinker}
    (hrange : next.range = c.blinker.range) (hduty : next.duty = c.blinker.duty) :
    MadeFrom blinker pacer { c with blinker := next } :=
  { h with range := hrange.trans h.range, duty := hduty.trans h.duty }

/-- A reading teaches neither another name nor another polarity. -/
theorem heard (h : MadeFrom blinker pacer c) (stimulus : Stimulus) :
    MadeFrom blinker pacer (c.heard stimulus) := by
  have hlearn : ∀ id reading, MadeFrom blinker pacer
      (c.mapPacer (·.setButton id ((c.pacer.button id).sync reading).2)) := by
    intro id reading
    refine ⟨h.range, h.duty, by simpa using h.rampRange, by simpa using h.rampStep,
      by simpa using h.home, by simpa using h.interval, ?_, ?_⟩
    · intro other
      by_cases hother : other = id
      · simp [hother, h.id]
      · simp [hother, h.id]
    · intro other
      by_cases hother : other = id
      · simp [hother, h.activeHigh]
      · simp [hother, h.activeHigh]
  cases stimulus with
  | seed id reading => exact hlearn id reading
  | woke id reading => exact hlearn id reading
  | settle | begin | edge | blinkExpired | repeatExpired | reset => exact h

theorem edge (h : MadeFrom blinker pacer c) (edge : Edge) :
    MadeFrom blinker pacer (c.edge edge).1 := by
  rcases edge.cases with ⟨heading, rfl⟩ | ⟨heading, rfl⟩ | rfl | rfl
  · rw [edge_press, press_fst]
    split
    · exact h
    · split
      · exact h.setHeld heading true
      · exact ((h.setHeld heading true).turn _).adjust _
  · rw [edge_release, release_fst]
    split
    · split
      · exact (h.setHeld heading false).turn none
      · exact h.setHeld heading false
    · exact h
  · rw [edge_reset, reset_fst]
    exact ((((h.setHeld .faster false).setHeld .slower false).turn none).adjust _)
  · exact h

/-- No answer of the controller changes what settings fix. -/
theorem react (h : MadeFrom blinker pacer c) (stimulus : Stimulus) :
    MadeFrom blinker pacer (c.react stimulus).1 := by
  cases c.answers stimulus with
  | edge _ hreact =>
    rw [hreact]
    exact (h.heard stimulus).edge _
  | seed hreact =>
    rw [hreact]
    exact h.heard (.seed _ _)
  | stale _ hreact =>
    rw [hreact]
    exact h.heard (.woke _ _)
  | settle => exact h
  | begin => exact h.blink rfl rfl
  | blinkExpired count =>
    show MadeFrom blinker pacer { c with blinker := (c.blinker.expired count).1 }
    unfold Blinker.expired
    split
    · exact h
    · exact h.blink rfl rfl
  | repeatExpired count =>
    show MadeFrom blinker pacer (c.repeatExpired count).1
    rw [repeatExpired_fst]
    split
    · exact h
    · exact h.adjust _

end MadeFrom

/-! ## The period that is asked for -/

/-- The period that an edge makes the pacer ask for.  Only a press that counts
and the press of the reset button ask for one. -/
def askedBy (c : Controller) (edge : Edge) : Option Duration :=
  match Pacer.headingOf edge.button, edge.transition with
  | none, .pressed => some c.pacer.home
  | some heading, .pressed =>
    if c.pacer.held heading || c.pacer.held heading.opposite then none
    else some (c.pacer.ramp.next (some heading))
  | _, .released => none

/-- The period that a stimulus makes the pacer ask the blinker for, if it
makes it ask for one: the next one of the ramp for a press that counts and
for a repetition while a button drives, and the initial one for a reset. -/
def asked? (c : Controller) : Stimulus → Option Duration
  | .repeatExpired count => c.repeated? count
  | stimulus => (c.confirmed? stimulus).bind c.askedBy

@[simp] theorem askedBy_press (c : Controller) (heading : Heading) :
    c.askedBy heading.press =
      if c.pacer.held heading || c.pacer.held heading.opposite then none
      else some (c.pacer.ramp.next (some heading)) := by
  cases heading <;> rfl

@[simp] theorem askedBy_release (c : Controller) (heading : Heading) :
    c.askedBy heading.release = none := by
  cases heading <;> rfl

/-- What an adjustment makes of the two periods of a controller.  Without one
both are as they were; with one both are what the blinker makes of the period
that it is asked for. -/
structure Adjusted (c : Controller) (asked : Option Duration) (after : Controller) : Prop where
  period :
    after.blinker.period = (asked.map c.blinker.range.clamp).getD c.blinker.period
  rampPeriod :
    after.pacer.ramp.period = (asked.map c.blinker.range.clamp).getD c.pacer.ramp.period

@[simp] theorem rampPeriod_turn (c : Controller) (target : Option Heading) :
    (c.turn target).1.pacer.ramp.period = c.pacer.ramp.period := by
  unfold turn
  split <;> rfl

theorem adjusted_edge (c : Controller) (edge : Edge) :
    Adjusted c (c.askedBy edge) (c.edge edge).1 := by
  rcases edge.cases with ⟨heading, rfl⟩ | ⟨heading, rfl⟩ | rfl | rfl
  · rw [edge_press, press_fst, askedBy_press]
    by_cases hown : c.pacer.held heading = true
    · rw [if_pos hown, hown]
      exact ⟨rfl, rfl⟩
    · by_cases hother : c.pacer.held heading.opposite = true
      · rw [if_neg hown, if_pos hother, hother, Bool.or_true]
        exact ⟨rfl, by simp⟩
      · rw [if_neg hown, if_neg hother, if_neg (by simp [hown, hother])]
        constructor
        · simp [adjust, Blinker.withPeriod]
        · simp [adjust, Blinker.withPeriod]
  · rw [edge_release, release_fst, askedBy_release]
    split
    · split
      · exact ⟨by simp, by simp⟩
      · exact ⟨rfl, by simp⟩
    · exact ⟨rfl, rfl⟩
  · rw [edge_reset, reset_fst]
    constructor
    · simp [adjust, Blinker.withPeriod, askedBy, Edge.reset, Pacer.headingOf]
    · simp [adjust, Blinker.withPeriod, askedBy, Edge.reset, Pacer.headingOf]
  · exact ⟨rfl, rfl⟩

@[simp] theorem askedBy_heard (c : Controller) (stimulus : Stimulus) (edge : Edge) :
    (c.heard stimulus).askedBy edge = c.askedBy edge := by
  simp [askedBy]

theorem asked?_of_confirmed {c : Controller} {stimulus : Stimulus} {edge : Edge}
    (h : c.confirmed? stimulus = some edge) : c.asked? stimulus = c.askedBy edge := by
  cases stimulus with
  | repeatExpired count => cases h
  | seed | settle | begin | woke | edge | blinkExpired | reset => simp [asked?, h]

/-- What every answer makes of the two periods. -/
theorem adjusted_react (c : Controller) (stimulus : Stimulus) :
    Adjusted c (c.asked? stimulus) (c.react stimulus).1 := by
  cases c.answers stimulus with
  | @edge _ edge hconfirmed hreact =>
    have hedge := adjusted_edge (c.heard stimulus) edge
    rw [asked?_of_confirmed hconfirmed, hreact]
    exact ⟨by simpa using hedge.period, by simpa using hedge.rampPeriod⟩
  | seed hreact =>
    rw [hreact]
    exact ⟨by simp [asked?, confirmed?], by simp [asked?, confirmed?]⟩
  | stale hconfirmed hreact =>
    rw [hreact]
    exact ⟨by simp [asked?, hconfirmed], by simp [asked?, hconfirmed]⟩
  | settle | begin => exact ⟨rfl, rfl⟩
  | blinkExpired count =>
    refine ⟨?_, rfl⟩
    show (c.blinker.expired count).1.period = c.blinker.period
    unfold Blinker.expired
    split
    · rfl
    · rfl
  | repeatExpired count =>
    show Adjusted c (c.repeated? count) (c.repeatExpired count).1
    rw [repeatExpired_fst]
    rcases c.repeated? count with _ | wanted
    · exact ⟨rfl, rfl⟩
    · exact ⟨rfl, rfl⟩

/-- The blinker is asked for a period by a press of a button while neither is
held, by a press of the reset button, and by an expiry that does not read as
zero while a button drives; by nothing else. -/
theorem asked?_ne_none_iff {c : Controller} {stimulus : Stimulus} :
    c.asked? stimulus ≠ none ↔
      (∃ heading : Heading, c.confirmed? stimulus = some heading.press ∧
          ∀ other, c.pacer.held other = false) ∨
        c.confirmed? stimulus = some .reset ∨
        ∃ count, stimulus = .repeatExpired count ∧ count ≠ .ok 0 ∧ c.heading ≠ none := by
  cases c.answers stimulus with
  | @edge _ edge hconfirmed =>
    have hrepeat : ∀ count, stimulus ≠ .repeatExpired count := by
      rintro count rfl
      cases hconfirmed
    rw [asked?_of_confirmed hconfirmed]
    rcases edge.cases with ⟨heading, rfl⟩ | ⟨heading, rfl⟩ | rfl | rfl
    · rw [askedBy_press, ← c.pacer.idle_iff heading]
      simp [hconfirmed, hrepeat]
    · simp [hconfirmed, hrepeat]
    · simp [hconfirmed, hrepeat, askedBy, Edge.reset, Pacer.headingOf]
    · simp [hconfirmed, hrepeat, askedBy, Edge.reset, Pacer.headingOf, Heading.press]
  | seed hreact => simp [asked?, confirmed?]
  | stale hconfirmed hreact => simp [asked?, hconfirmed]
  | settle | begin | blinkExpired => simp [asked?, confirmed?]
  | repeatExpired count =>
    show c.repeated? count ≠ none ↔ _
    simp [repeated?_eq_none_iff, confirmed?]

theorem asked?_eq_none {c : Controller} {stimulus : Stimulus} (hheading : c.heading = none)
    (hconfirmed : c.confirmed? stimulus = none) : c.asked? stimulus = none := by
  refine Decidable.byContradiction fun hasked => ?_
  have hcases := asked?_ne_none_iff.mp hasked
  simp [hconfirmed, hheading] at hcases

end Beacon.Controller
