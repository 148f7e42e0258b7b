import Beacon.Proofs.Controller.Home
import Beacon.Proofs.Controller.Phases
import Beacon.Proofs.Controller.Unseen
import Beacon.Proofs.Station.Dealings

/-!
# The two sides of the controller

The blinker and the pacer have the period in common, and nothing else.  What
the blinker knows of the lamp is its `light`, and a controller of which that is
forgotten is in the `dark`.

* `react_dark` and `light_react`: the pacer answers the same in the dark, and
  leaves the light as it is.
* `Stimulus.isBeat` tells the stimuli that enter a phase, and `begin_eq` and
  `toggle_eq` say what they do to a blinker whose period divides.
-/

namespace Beacon

/-- What the blinker knows of the lamp. -/
structure Light where
  lit : Bool
  lamp : Lamp
  toggles : UInt64
deriving DecidableEq

/-- Whether a stimulus makes the blinker enter a phase. -/
def Stimulus.isBeat : Stimulus → Bool
  | .begin => true
  | .blinkExpired (.ok 0) => false
  | .blinkExpired _ => true
  | .seed _ _ | .settle | .woke _ _ | .edge _ | .repeatExpired _ | .reset => false

theorem Stimulus.isBeat_blinkExpired {count : Count} :
    (Stimulus.blinkExpired count).isBeat = true ↔ count ≠ .ok 0 := by
  constructor
  · rintro hbeat rfl
    cases hbeat
  · intro hcount
    unfold isBeat
    split
    · rfl
    · next heq => exact absurd (Stimulus.blinkExpired.inj heq) hcount
    · rfl
    all_goals
      next heq => cases heq

/-- A phase is entered at the start, and whenever the blink timer has expired or does
not say so. -/
theorem Stimulus.isBeat_cases {stimulus : Stimulus} (h : stimulus.isBeat = true) :
    stimulus = .begin ∨ ∃ count, stimulus = .blinkExpired count ∧ count ≠ .ok 0 := by
  cases stimulus with
  | begin => exact .inl rfl
  | blinkExpired count => exact .inr ⟨count, rfl, isBeat_blinkExpired.mp h⟩
  | seed | settle | woke | edge | repeatExpired | reset => cases h

namespace Controller

variable {c : Controller}

/-! ## Controllers in the dark -/

/-- The controller as if its lamp had never been switched. -/
def dark (c : Controller) : Controller :=
  { c with blinker := { c.blinker with lit := false, lamp := {}, toggles := 0 } }

@[simp] theorem pacer_dark : c.dark.pacer = c.pacer := rfl

theorem unseen_dark : Unseen dark where
  ramp _ := rfl
  home _ := rfl
  interval _ := rfl
  held _ _ := rfl
  setHeld _ _ _ := rfl
  steer _ _ := rfl
  adjust _ _ := rfl

/-- The pacer answers the same in the dark. -/
theorem react_dark {stimulus : Stimulus} (h : stimulus.IsPacing) :
    c.dark.react stimulus = ((c.react stimulus).1.dark, (c.react stimulus).2) := by
  cases stimulus with
  | woke id reading =>
    show c.dark.woke id reading = ((c.woke id reading).1.dark, (c.woke id reading).2)
    unfold woke
    rw [pacer_dark]
    rcases (c.pacer.button id).reconcile reading with ⟨fault | _ | edge, button⟩
    · rfl
    · rfl
    · exact unseen_dark.edge (c.mapPacer (·.setButton id button)) edge
  | edge edge => exact unseen_dark.edge c edge
  | repeatExpired count => exact unseen_dark.repeatExpired c count
  | reset => exact unseen_dark.reset c
  | seed | settle | begin | blinkExpired => cases h

theorem run_dark {stimuli : List Stimulus} (h : ∀ stimulus ∈ stimuli, stimulus.IsPacing) :
    c.dark.run stimuli = ((c.run stimuli).1.dark, (c.run stimuli).2) := by
  induction stimuli generalizing c with
  | nil => rfl
  | cons stimulus rest ih =>
    have hrest := fun later hmem => h later (List.mem_cons_of_mem stimulus hmem)
    rw [run_cons, run_cons, react_dark (h stimulus List.mem_cons_self), ih hrest]

/-! ## The light -/

/-- What the blinker of a controller knows of the lamp. -/
def light (c : Controller) : Light := ⟨c.blinker.lit, c.blinker.lamp, c.blinker.toggles⟩

/-- A controller is its light and the rest. -/
theorem eq_of_dark_of_light {c c' : Controller} (hdark : c.dark = c'.dark)
    (hlight : c.light = c'.light) : c = c' := by
  have hpart {α : Type} (part : Controller → α) : part c.dark = part c'.dark :=
    congrArg part hdark
  refine Controller.ext (Blinker.ext ?_ ?_ ?_ ?_ ?_ ?_) (hpart Controller.pacer)
  · exact hpart (·.blinker.period)
  · exact hpart (·.blinker.range)
  · exact hpart (·.blinker.duty)
  · exact congrArg Light.lit hlight
  · exact congrArg Light.lamp hlight
  · exact congrArg Light.toggles hlight

theorem light_turn (target : Option Heading) : (c.turn target).1.light = c.light := by
  unfold light
  rw [blinker_turn]

theorem light_edge (edge : Edge) : (c.edge edge).1.light = c.light := by
  rcases edge.cases with ⟨heading, rfl⟩ | ⟨heading, rfl⟩ | rfl | rfl
  · rw [edge_press, press_fst]
    split
    · rfl
    · split
      · rfl
      · exact light_turn _
  · rw [edge_release, release_fst]
    split
    · split
      · exact light_turn _
      · rfl
    · rfl
  · rw [edge_reset, reset_fst]
    exact light_turn _
  · rfl

theorem light_heard (stimulus : Stimulus) : (c.heard stimulus).light = c.light := by
  unfold light
  rw [blinker_heard]

/-- What enters no phase leaves the light as it is. -/
theorem light_react {stimulus : Stimulus} (h : stimulus.isBeat = false) :
    (c.react stimulus).1.light = c.light := by
  cases c.answers stimulus with
  | edge _ hreact => rw [hreact, light_edge, light_heard]
  | seed hreact => rw [hreact, light_heard]
  | stale _ hreact => rw [hreact, light_heard]
  | settle => rfl
  | begin => cases h
  | blinkExpired count =>
    by_cases hcount : count = .ok 0
    · subst hcount
      rfl
    · rw [Stimulus.isBeat_blinkExpired.mpr hcount] at h
      cases h
  | repeatExpired count =>
    show (c.repeatExpired count).1.light = _
    rw [repeatExpired_fst]
    split <;> rfl

end Controller

/-! ## Entering a phase -/

namespace Blinker

variable {blinker : Blinker}

theorem phase_enter (phase : Phase) : (blinker.enter phase).phase = phase :=
  Phase.ofLit_lit phase

theorem begin_eq (h : Phase.Divides blinker.period) :
    let phase := blinker.duty.next .off
    let delay := Duration.ofNanos (phase.exactNanos blinker.period blinker.duty)
    blinker.begin = (blinker.enter phase,
      [.light phase.lit .start, .armBlink (.once delay) .start,
        .note (.blinking blinker.period blinker.duty phase delay),
        .emit (.started blinker.period blinker.duty)]) := by
  unfold begin Phase.first
  rw [Phase.following_eq h]

theorem toggle_eq (h : Phase.Divides blinker.period) :
    let phase := blinker.duty.next blinker.phase
    let delay := Duration.ofNanos (phase.exactNanos blinker.period blinker.duty)
    blinker.toggle = ({ blinker.enter phase with toggles := blinker.toggles + 1 },
      [.light phase.lit .running, .armBlink (.once delay) .running]) := by
  unfold toggle
  rw [Phase.following_eq h]

end Blinker

end Beacon
