import Beacon.Proofs.Controller.Period

/-!
# A controller at home

A reset leaves a controller at home: the period is the initial one, no button
is held, and none drives.  So does a start.  What a home leaves open is which
buttons are known to be pressed, and how the lamp is.
-/

namespace Beacon

attribute [ext] PushButton Ramp Pacer Blinker Controller

namespace Controller

/-- The period is the initial one, and no button drives or is held. -/
structure AtHome (settings : Settings) (c : Controller) : Prop where
  made : c.MadeFrom settings settings
  period : c.blinker.period = settings.home
  rampPeriod : c.pacer.ramp.period = settings.home
  idle : c.heading = none
  held : ∀ heading, c.pacer.held heading = false

variable {settings : Settings} {c c' : Controller}

/-- The blinker takes the period that a reset asks for. -/
theorem MadeFrom.clamp_home (h : c.MadeFrom settings settings) :
    c.blinker.range.clamp c.pacer.home = settings.home := by
  rw [h.range, h.home]
  exact PeriodRange.clamp_clamp _ _

/-- A reset leads home, wherever it finds the controller. -/
theorem atHome_reset (h : c.MadeFrom settings settings) : c.reset.1.AtHome settings := by
  have hadjusted := adjusted_edge c .reset
  exact ⟨h.edge .reset, hadjusted.period.trans h.clamp_home,
    hadjusted.rampPeriod.trans h.clamp_home, c.heading_reset, fun heading => held_reset c heading⟩

/-- What a home leaves open is which buttons are pressed. -/
theorem AtHome.pacer_eq (h : c.AtHome settings) (h' : c'.AtHome settings)
    (hpressed : ∀ id, (c.pacer.button id).pressed = (c'.pacer.button id).pressed) :
    c.pacer = c'.pacer := by
  have hbutton : ∀ id, c.pacer.button id = c'.pacer.button id := by
    intro id
    have hid := (h.made.id id).trans (h'.made.id id).symm
    have hhigh := (h.made.activeHigh id).trans (h'.made.activeHigh id).symm
    exact PushButton.ext hid hhigh (hpressed id)
  have hramp : c.pacer.ramp = c'.pacer.ramp :=
    Ramp.ext (h.rampPeriod.trans h'.rampPeriod.symm)
      (h.made.rampRange.trans h'.made.rampRange.symm)
      (h.made.rampStep.trans h'.made.rampStep.symm) (h.idle.trans h'.idle.symm)
  exact Pacer.ext hramp (h.made.home.trans h'.made.home.symm)
    (h.made.interval.trans h'.made.interval.symm) (hbutton .k1) (hbutton .k2) (hbutton .k3)
    ((h.held .faster).trans (h'.held .faster).symm)
    ((h.held .slower).trans (h'.held .slower).symm)

/-- At home there is nothing to go back to: a reset only stops the repeat timer. -/
theorem AtHome.reset_eq (h : c.AtHome settings) :
    c.reset = (c, [.disarmRepeat .running, .note (.restored settings.home)]) := by
  have hloose : (c.mapPacer fun p => (p.setHeld .faster false).setHeld .slower false) = c :=
    Controller.ext rfl <|
      Pacer.ext rfl rfl rfl rfl rfl rfl (h.held .faster).symm (h.held .slower).symm
  have hturn : c.turn none = (c, []) := by
    unfold turn
    rw [if_pos h.idle]
  have hadjust : c.adjust c.pacer.home = c := by
    refine Controller.ext (Blinker.ext ?_ rfl rfl rfl rfl rfl)
      (Pacer.ext (Ramp.ext ?_ rfl rfl rfl) rfl rfl rfl rfl rfl rfl rfl)
    · exact h.made.clamp_home.trans h.period.symm
    · exact h.made.clamp_home.trans h.rampPeriod.symm
  unfold reset
  rw [hloose, hturn]
  simp only
  rw [hadjust, h.rampPeriod]
  simp

end Controller

end Beacon
