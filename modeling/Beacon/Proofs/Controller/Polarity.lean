import Beacon.Proofs.Controller.Unseen

/-!
# Polarity

Whether the line of a pressed button is high or low is a matter of wiring.  A
button of the other polarity whose line reads the other level is in the same
state, so the controller goes the same way: `react_flipped`.

`flipped` is a button, and a pacer or a controller with all its buttons, of
the other polarity.  `inverted` is a reading, and a stimulus with the reading
it holds, of the other level.  A reading that failed has no level.
-/

namespace Beacon

/-- The reading of the other level. -/
def Reading.inverted (reading : Reading) : Reading := reading.map (!·)

/-- The stimulus with the other level read. -/
def Stimulus.inverted : Stimulus → Stimulus
  | .seed button reading => .seed button (Reading.inverted reading)
  | .woke button reading => .woke button (Reading.inverted reading)
  | .settle => .settle
  | .begin => .begin
  | .edge confirmed => .edge confirmed
  | .blinkExpired count => .blinkExpired count
  | .repeatExpired count => .repeatExpired count
  | .reset => .reset

/-! ## Buttons -/

namespace PushButton

variable (button : PushButton)

/-- The button of the other polarity, in the same state. -/
def flipped : PushButton := { button with activeHigh := !button.activeHigh }

theorem meansPressed_flipped (level : Bool) :
    button.flipped.meansPressed (!level) = button.meansPressed level := by
  show ((!level) == !button.activeHigh) = (level == button.activeHigh)
  cases level <;> cases button.activeHigh <;> rfl

theorem sync_flipped (reading : Reading) :
    button.flipped.sync (Reading.inverted reading) =
      ((button.sync reading).1, (button.sync reading).2.flipped) := by
  cases reading with
  | error fault => rfl
  | ok level =>
    show (Except.ok (button.flipped.meansPressed (!level)), _) = _
    rw [meansPressed_flipped]
    rfl

theorem reconcile_flipped (reading : Reading) :
    button.flipped.reconcile (Reading.inverted reading) =
      ((button.reconcile reading).1, (button.reconcile reading).2.flipped) := by
  cases reading with
  | error fault => rfl
  | ok level =>
    show (if button.flipped.meansPressed (!level) = button.pressed then _ else _) = _
    unfold reconcile
    simp only [meansPressed_flipped]
    split <;> rfl

end PushButton

/-- The pacer with all buttons of the other polarity. -/
def Pacer.flipped (pacer : Pacer) : Pacer :=
  { pacer with k1 := pacer.k1.flipped, k2 := pacer.k2.flipped, k3 := pacer.k3.flipped }

theorem Pacer.button_flipped (pacer : Pacer) (id : Button) :
    pacer.flipped.button id = (pacer.button id).flipped := by
  cases id <;> rfl

/-- The settings of the same controller, its buttons wired the other way. -/
def Settings.flipped (settings : Settings) : Settings :=
  { settings with
    wiring := { settings.wiring with buttonsActiveHigh := !settings.wiring.buttonsActiveHigh } }

namespace Controller

/-- The controller with all buttons of the other polarity. -/
def flipped (c : Controller) : Controller := c.mapPacer Pacer.flipped

theorem ofTwo_flipped (blinker pacer : Settings) :
    ofTwo blinker.flipped pacer.flipped = (ofTwo blinker pacer).flipped := rfl

theorem unseen_flipped : Unseen flipped where
  ramp _ := rfl
  home _ := rfl
  interval _ := rfl
  held _ heading := by cases heading <;> rfl
  setHeld _ heading _ := by cases heading <;> rfl
  steer _ _ := rfl
  adjust _ _ := rfl

variable (c : Controller)

theorem setButton_flipped (id : Button) (button : PushButton) :
    c.flipped.mapPacer (·.setButton id button.flipped) =
      (c.mapPacer (·.setButton id button)).flipped := by
  cases id <;> rfl

theorem seed_flipped (id : Button) (reading : Reading) :
    c.flipped.seed id (Reading.inverted reading) =
      ((c.seed id reading).1.flipped, (c.seed id reading).2) := by
  have hbutton : c.flipped.pacer.button id = (c.pacer.button id).flipped :=
    c.pacer.button_flipped id
  unfold seed
  rw [hbutton, PushButton.sync_flipped]
  simp only [setButton_flipped]
  split <;> rfl

theorem woke_flipped (id : Button) (reading : Reading) :
    c.flipped.woke id (Reading.inverted reading) =
      ((c.woke id reading).1.flipped, (c.woke id reading).2) := by
  have hbutton : c.flipped.pacer.button id = (c.pacer.button id).flipped :=
    c.pacer.button_flipped id
  unfold woke
  rw [hbutton, PushButton.reconcile_flipped]
  simp only [setButton_flipped]
  split
  · exact unseen_flipped.edge _ _
  · rfl
  · rfl

/-- The controller with its buttons wired the other way answers the same if its
lines read the other way. -/
theorem react_flipped (stimulus : Stimulus) :
    c.flipped.react stimulus.inverted =
      ((c.react stimulus).1.flipped, (c.react stimulus).2) := by
  cases stimulus with
  | seed id reading => exact c.seed_flipped id reading
  | woke id reading => exact c.woke_flipped id reading
  | edge edge => exact unseen_flipped.edge c edge
  | repeatExpired count => exact unseen_flipped.repeatExpired c count
  | reset => exact unseen_flipped.reset c
  | settle => rfl
  | begin => rfl
  | blinkExpired count => rfl

end Controller

end Beacon
