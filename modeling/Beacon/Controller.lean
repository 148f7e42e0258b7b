import Beacon.Controller.Pacer

/-!
# The controller

`Controller.react` is the whole behaviour of the controller: what it becomes and what it does, for
every stimulus. `Controller.run` does so for one stimulus after the other.
-/

namespace Beacon.Controller

/-- A controller whose blinker and whose pacer each have settings of their own. -/
def ofTwo (blinker pacer : Settings) : Controller :=
  { blinker := .ofSettings blinker, pacer := .ofSettings pacer }

/-- The controller before it starts. -/
def ofSettings (settings : Settings) : Controller := ofTwo settings settings

def blink (c : Controller) (answer : Blinker × List Action) : Controller × List Action :=
  ({ c with blinker := answer.1 }, answer.2)

/-- What the controller becomes and does. -/
def react (c : Controller) : Stimulus → Controller × List Action
  | .seed button reading => c.seed button reading
  | .settle => (c, [.disarmRepeat .start])
  | .begin => c.blink c.blinker.begin
  | .woke button reading => c.woke button reading
  | .edge edge => c.edge edge
  | .blinkExpired count => c.blink (c.blinker.expired count)
  | .repeatExpired count => c.repeatExpired count
  | .reset => c.reset

/-- What the controller becomes and does, one stimulus after the other. -/
def run (c : Controller) : List Stimulus → Controller × List Action
  | [] => (c, [])
  | stimulus :: rest =>
    let (c, now) := c.react stimulus
    let (c, later) := c.run rest
    (c, now ++ later)

@[simp] theorem run_nil (c : Controller) : c.run [] = (c, []) := rfl

theorem run_cons (c : Controller) (stimulus : Stimulus) (rest : List Stimulus) :
    c.run (stimulus :: rest) =
      (((c.react stimulus).1.run rest).1,
        (c.react stimulus).2 ++ ((c.react stimulus).1.run rest).2) := rfl

end Beacon.Controller
