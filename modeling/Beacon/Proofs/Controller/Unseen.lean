import Beacon.Proofs.Controller.Parts

/-!
# Changes that the pacer does not see

The handlers of edges and of repetitions read the ramp, the holds, the
initial period and the interval.  They write to the ramp, to the holds and to
the period of the blinker.  A change of the controller that leaves alone what
they read, and that can be made after their writing as well as before, is
`Unseen` by them.  They give the same answer with the change as without it,
and leave the changed controller behind.

`Unseen.edge` and `Unseen.repeatExpired` say so of whole answers.  What the
lamp is known to be, and what the levels of the buttons' lines mean, are
changes of this kind.
-/

namespace Beacon.Controller

/-- A change that no handler of an edge or of a repetition sees. -/
structure Unseen (f : Controller → Controller) : Prop where
  ramp : ∀ c, (f c).pacer.ramp = c.pacer.ramp
  home : ∀ c, (f c).pacer.home = c.pacer.home
  interval : ∀ c, (f c).pacer.interval = c.pacer.interval
  held : ∀ c heading, (f c).pacer.held heading = c.pacer.held heading
  setHeld : ∀ c heading held,
    (f c).mapPacer (·.setHeld heading held) = f (c.mapPacer (·.setHeld heading held))
  steer : ∀ c target,
    (f c).mapPacer (fun p => { p with ramp := { p.ramp with heading := target } }) =
      f (c.mapPacer fun p => { p with ramp := { p.ramp with heading := target } })
  adjust : ∀ c wanted, (f c).adjust wanted = f (c.adjust wanted)

namespace Unseen

variable {f : Controller → Controller} (h : Unseen f) (c : Controller)

include h

theorem heading : (f c).heading = c.heading :=
  congrArg Ramp.heading (h.ramp c)

theorem turn (target : Option Heading) :
    (f c).turn target = (f (c.turn target).1, (c.turn target).2) := by
  unfold Controller.turn
  rw [h.heading, h.steer]
  split <;> rfl

theorem step (cause : Cause) : (f c).step cause = (f (c.step cause).1, (c.step cause).2) := by
  unfold Controller.step
  simp only [h.ramp, h.heading, h.adjust]

theorem press (heading : Heading) :
    (f c).press heading = (f (c.press heading).1, (c.press heading).2) := by
  unfold Controller.press
  simp only [h.held, h.setHeld, h.turn, h.step, h.interval]
  split
  · rfl
  · split <;> rfl

theorem release (heading : Heading) :
    (f c).release heading = (f (c.release heading).1, (c.release heading).2) := by
  unfold Controller.release
  simp only [h.held, h.setHeld, h.heading, h.turn]
  split
  · split <;> rfl
  · rfl

theorem reset : (f c).reset = (f c.reset.1, c.reset.2) := by
  have hloose : (f c).mapPacer (fun p => (p.setHeld .faster false).setHeld .slower false) =
      f (c.mapPacer fun p => (p.setHeld .faster false).setHeld .slower false) := by
    show ((f c).mapPacer (·.setHeld .faster false)).mapPacer (·.setHeld .slower false) = _
    rw [h.setHeld, h.setHeld]
    rfl
  unfold Controller.reset
  simp only [hloose, h.turn, h.ramp, h.home, h.adjust]

theorem edge (edge : Edge) : (f c).edge edge = (f (c.edge edge).1, (c.edge edge).2) := by
  rcases edge.cases with ⟨heading, rfl⟩ | ⟨heading, rfl⟩ | rfl | rfl
  · rw [edge_press, edge_press, h.press]
  · rw [edge_release, edge_release, h.release]
  · exact h.reset c
  · rfl

theorem again : (f c).again = (f c.again.1, c.again.2) := by
  unfold Controller.again
  simp only [h.heading, h.step, h.interval]
  split <;> rfl

theorem repeatExpired (count : Count) :
    (f c).repeatExpired count = (f (c.repeatExpired count).1, (c.repeatExpired count).2) := by
  unfold Controller.repeatExpired
  rw [h.again]
  split <;> rfl

end Unseen

end Beacon.Controller
