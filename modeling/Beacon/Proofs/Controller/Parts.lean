import Beacon.Controller

/-!
# What an answer does to the parts of the controller

Every property of a run needs to know the same few things about one answer
of the controller: who is held, who drives, and what the buttons are known
to be.  This module says each of them once, so that no later proof opens the
handlers again.

* `press_fst`, `release_fst` and `reset_fst` give the controller that each
  handler leaves behind; the lemmas after them project it on the holds, the
  direction and the buttons.
* `confirmed?` is the edge that a stimulus amounts to, and `heard` the
  controller that has taken note of a reading and done nothing yet.
* `Answers` lists the forms that an answer takes.  Case analysis on
  `Controller.answers` is how a later proof goes through all stimuli.
* `react_of_confirmed`, `react_of_unconfirmed` and `button_react` say what
  every answer makes of the direction, the holds and the buttons.
-/

namespace Beacon

/-! ## Directions and their buttons -/

namespace Heading

/-- The button that drives in a direction. -/
def button : Heading → Button
  | faster => .k1
  | slower => .k3

theorem eq_or_eq_opposite (a b : Heading) : a = b ∨ a = b.opposite := by
  cases a <;> cases b <;> simp [opposite]

theorem button_injective {a b : Heading} (h : a.button = b.button) : a = b := by
  cases a <;> cases b <;> simp [button] at h ⊢

theorem button_ne_k2 (a : Heading) : a.button ≠ .k2 := by
  cases a <;> simp [button]

/-- The press of the button of a direction. -/
def press (a : Heading) : Edge := ⟨a.button, .pressed⟩

/-- The release of the button of a direction. -/
def release (a : Heading) : Edge := ⟨a.button, .released⟩

end Heading

/-- The press of the reset button. -/
def Edge.reset : Edge := ⟨.k2, .pressed⟩

namespace Heading

@[simp] theorem press_inj {a b : Heading} : a.press = b.press ↔ a = b := by
  cases a <;> cases b <;> simp [press, button]

@[simp] theorem release_inj {a b : Heading} : a.release = b.release ↔ a = b := by
  cases a <;> cases b <;> simp [release, button]

@[simp] theorem press_ne_release (a b : Heading) : a.press ≠ b.release := by
  simp [press, release]

@[simp] theorem release_ne_press (a b : Heading) : a.release ≠ b.press :=
  (press_ne_release b a).symm

@[simp] theorem press_ne_reset (a : Heading) : a.press ≠ .reset := by
  simp [press, Edge.reset, button_ne_k2]

@[simp] theorem release_ne_reset (a : Heading) : a.release ≠ .reset := by
  simp [release, Edge.reset]

end Heading

theorem Edge.cases (edge : Edge) :
    (∃ heading : Heading, edge = heading.press) ∨
      (∃ heading : Heading, edge = heading.release) ∨
      edge = .reset ∨ edge = ⟨.k2, .released⟩ := by
  rcases edge with ⟨button, transition⟩
  cases button <;> cases transition
  · exact .inl ⟨.faster, rfl⟩
  · exact .inr (.inl ⟨.faster, rfl⟩)
  · exact .inr (.inr (.inl rfl))
  · exact .inr (.inr (.inr rfl))
  · exact .inl ⟨.slower, rfl⟩
  · exact .inr (.inl ⟨.slower, rfl⟩)

namespace Pacer

variable (p : Pacer) (heading : Heading) (id : Button)

@[simp] theorem isHeld_button : p.isHeld heading.button = p.held heading := by
  cases heading <;> rfl

@[simp] theorem held_setHeld (other : Heading) (held : Bool) :
    (p.setHeld heading held).held other = if other = heading then held else p.held other := by
  cases heading <;> cases other <;> rfl

/-- A button and the opposite one are idle if every button is. -/
theorem idle_iff :
    (p.held heading || p.held heading.opposite) = false ↔ ∀ other, p.held other = false := by
  rw [Bool.or_eq_false_iff]
  constructor
  · rintro ⟨hown, hopposite⟩ other
    rcases other.eq_or_eq_opposite heading with rfl | rfl
    · exact hown
    · exact hopposite
  · intro hidle
    exact ⟨hidle heading, hidle heading.opposite⟩

@[simp] theorem ramp_setHeld (held : Bool) : (p.setHeld heading held).ramp = p.ramp := by
  cases heading <;> rfl

@[simp] theorem button_setHeld (held : Bool) :
    (p.setHeld heading held).button id = p.button id := by
  cases heading <;> cases id <;> rfl

@[simp] theorem home_setHeld (held : Bool) : (p.setHeld heading held).home = p.home := by
  cases heading <;> rfl

@[simp] theorem interval_setHeld (held : Bool) :
    (p.setHeld heading held).interval = p.interval := by
  cases heading <;> rfl

@[simp] theorem button_setButton (b : PushButton) (other : Button) :
    (p.setButton id b).button other = if other = id then b else p.button other := by
  cases id <;> cases other <;> rfl

@[simp] theorem held_setButton (b : PushButton) :
    (p.setButton id b).held heading = p.held heading := by
  cases id <;> cases heading <;> rfl

@[simp] theorem ramp_setButton (b : PushButton) : (p.setButton id b).ramp = p.ramp := by
  cases id <;> rfl

@[simp] theorem home_setButton (b : PushButton) : (p.setButton id b).home = p.home := by
  cases id <;> rfl

@[simp] theorem interval_setButton (b : PushButton) :
    (p.setButton id b).interval = p.interval := by
  cases id <;> rfl

end Pacer

namespace Controller

variable (c : Controller) (heading : Heading) (id : Button)

/-! ## Turning and adjusting -/

@[simp] theorem heading_setHeld (held : Bool) :
    (c.mapPacer (·.setHeld heading held)).heading = c.heading := by
  cases heading <;> rfl

@[simp] theorem pacer_mapPacer (f : Pacer → Pacer) : (c.mapPacer f).pacer = f c.pacer := rfl

@[simp] theorem blinker_mapPacer (f : Pacer → Pacer) : (c.mapPacer f).blinker = c.blinker := rfl

@[simp] theorem heading_turn (target : Option Heading) :
    (c.turn target).1.heading = target := by
  unfold turn
  split
  · assumption
  · rfl

@[simp] theorem held_turn (target : Option Heading) :
    (c.turn target).1.pacer.held heading = c.pacer.held heading := by
  unfold turn
  split
  · rfl
  · cases heading <;> rfl

@[simp] theorem button_turn (target : Option Heading) :
    (c.turn target).1.pacer.button id = c.pacer.button id := by
  unfold turn
  split
  · rfl
  · cases id <;> rfl

@[simp] theorem home_turn (target : Option Heading) :
    (c.turn target).1.pacer.home = c.pacer.home := by
  unfold turn
  split <;> rfl

@[simp] theorem next_turn (target heading : Option Heading) :
    (c.turn target).1.pacer.ramp.next heading = c.pacer.ramp.next heading := by
  unfold turn
  split <;> rfl

@[simp] theorem blinker_turn (target : Option Heading) :
    (c.turn target).1.blinker = c.blinker := by
  unfold turn
  split <;> rfl

@[simp] theorem heading_adjust (wanted : Duration) : (c.adjust wanted).heading = c.heading := rfl

@[simp] theorem held_adjust (wanted : Duration) :
    (c.adjust wanted).pacer.held heading = c.pacer.held heading := by
  cases heading <;> rfl

@[simp] theorem button_adjust (wanted : Duration) :
    (c.adjust wanted).pacer.button id = c.pacer.button id := by
  cases id <;> rfl

/-- A step asks the blinker for the next period of the ramp, whatever its
cause. -/
theorem step_fst (cause : Cause) :
    (c.step cause).1 = c.adjust (c.pacer.ramp.next c.heading) := rfl

/-! ## What a press, a release and a reset leave behind -/

/-- The controller that a press leaves behind.  A press of a held button
does nothing, and a press beside a held one only makes it held.  Any other
press drives, and makes one step at once. -/
theorem press_fst :
    (c.press heading).1 =
      if c.pacer.held heading then c
      else if c.pacer.held heading.opposite then c.mapPacer (·.setHeld heading true)
      else ((c.mapPacer (·.setHeld heading true)).turn (some heading)).1.adjust
        (c.pacer.ramp.next (some heading)) := by
  have hne := Heading.opposite_ne heading
  unfold press
  split
  · rfl
  · simp only [pacer_mapPacer, Pacer.held_setHeld, hne, if_false]
    split
    · rfl
    · show ((((c.mapPacer _).turn _).1).step .press).1 = _
      rw [step_fst]
      simp

/-- The controller that a release leaves behind.  Only the release of the
button that drives changes the direction. -/
theorem release_fst :
    (c.release heading).1 =
      if c.pacer.held heading then
        if c.heading = some heading then
          ((c.mapPacer (·.setHeld heading false)).turn none).1
        else c.mapPacer (·.setHeld heading false)
      else c := by
  unfold release
  split
  · simp only [heading_setHeld]
    split <;> rfl
  · rfl

/-- The controller that a reset leaves behind. -/
theorem reset_fst :
    c.reset.1 =
      ((c.mapPacer fun p => (p.setHeld .faster false).setHeld .slower false).turn none).1.adjust
        c.pacer.home := by
  show (((c.mapPacer _).turn none).1).adjust ((c.mapPacer _).turn none).1.pacer.home = _
  rw [home_turn]
  simp

@[simp] theorem held_press (other : Heading) :
    (c.press heading).1.pacer.held other =
      if other = heading then true else c.pacer.held other := by
  rw [press_fst]
  split
  · next hown =>
    by_cases hne : other = heading
    · simp [hne, hown]
    · simp [hne]
  · split <;> simp

theorem heading_press :
    (c.press heading).1.heading =
      if c.pacer.held heading || c.pacer.held heading.opposite then c.heading
      else some heading := by
  rw [press_fst]
  split
  · next hown => simp [hown]
  · next hown =>
    split
    · next hother => simp [hother]
    · next hother => simp [hown, hother]

@[simp] theorem button_press : (c.press heading).1.pacer.button id = c.pacer.button id := by
  rw [press_fst]
  split
  · rfl
  · split <;> simp

@[simp] theorem held_release (other : Heading) :
    (c.release heading).1.pacer.held other =
      if other = heading then false else c.pacer.held other := by
  rw [release_fst]
  split
  · split <;> simp
  · next hown =>
    by_cases hne : other = heading
    · simp [hne, hown]
    · simp [hne]

theorem heading_release :
    (c.release heading).1.heading =
      if c.pacer.held heading = true ∧ c.heading = some heading then none else c.heading := by
  rw [release_fst]
  split
  · next hown =>
    split
    · next hdrive => simp [hown, hdrive]
    · next hdrive => simp [hdrive]
  · next hown => simp [hown]

@[simp] theorem button_release : (c.release heading).1.pacer.button id = c.pacer.button id := by
  rw [release_fst]
  split
  · split <;> simp
  · rfl

@[simp] theorem held_reset : c.reset.1.pacer.held heading = false := by
  rw [reset_fst]
  cases heading <;> simp

@[simp] theorem heading_reset : c.reset.1.heading = none := by
  rw [reset_fst]
  simp

@[simp] theorem button_reset : c.reset.1.pacer.button id = c.pacer.button id := by
  rw [reset_fst]
  simp

/-! ## Edges -/

@[simp] theorem edge_press : c.edge heading.press = c.press heading := by
  cases heading <;> rfl

@[simp] theorem edge_release : c.edge heading.release = c.release heading := by
  cases heading <;> rfl

@[simp] theorem edge_reset : c.edge .reset = c.reset := rfl

@[simp] theorem edge_resetReleased : c.edge ⟨.k2, .released⟩ = (c, []) := rfl

@[simp] theorem button_edge (edge : Edge) :
    (c.edge edge).1.pacer.button id = c.pacer.button id := by
  rcases edge.cases with ⟨heading, rfl⟩ | ⟨heading, rfl⟩ | rfl | rfl <;> simp

end Controller

/-! ## What a reading tells -/

namespace PushButton

variable (b : PushButton) (reading : Reading)

@[simp] theorem id_sync : (b.sync reading).2.id = b.id := by
  cases reading <;> rfl

@[simp] theorem activeHigh_sync : (b.sync reading).2.activeHigh = b.activeHigh := by
  cases reading <;> rfl

/-- A notification teaches the same as a first reading. -/
theorem reconcile_snd : (b.reconcile reading).2 = (b.sync reading).2 := by
  cases reading with
  | error fault => rfl
  | ok level =>
    unfold reconcile
    simp only
    split
    · next hsame =>
      rw [sync]
      simp only [hsame]
    · rfl

/-- A reading confirms an edge exactly when it shows another state than the
last one, and the edge names the button and the state that is shown. -/
theorem reconcile_fst_eq_some_iff {edge : Edge} :
    (b.reconcile reading).1 = .ok (some edge) ↔
      (b.sync reading).2.pressed ≠ b.pressed ∧
        edge = b.edgeTo (b.sync reading).2.pressed := by
  cases reading with
  | error fault => simp [reconcile, sync]
  | ok level =>
    unfold reconcile
    simp only [sync]
    split
    · next hsame => simp [hsame]
    · next hother => simp [hother, eq_comm]

end PushButton

namespace Controller

variable (c : Controller) (heading : Heading) (id : Button)

/-! ## Every stimulus by its edge -/

/-- The controller that has taken note of a reading, and done nothing yet. -/
def heard (c : Controller) : Stimulus → Controller
  | .seed id reading | .woke id reading =>
    c.mapPacer (·.setButton id ((c.pacer.button id).sync reading).2)
  | _ => c

/-- The edge that a stimulus amounts to: the one that is handed over, the
one that a notification confirms, or the press of the reset button. -/
def confirmed? (c : Controller) : Stimulus → Option Edge
  | .edge edge => some edge
  | .woke id reading =>
    match (c.pacer.button id).reconcile reading with
    | (.ok edge?, _) => edge?
    | (.error _, _) => none
  | .reset => some .reset
  | _ => none

@[simp] theorem heading_heard (stimulus : Stimulus) :
    (c.heard stimulus).heading = c.heading := by
  cases stimulus <;> simp [heard, Controller.heading]

@[simp] theorem held_heard (stimulus : Stimulus) :
    (c.heard stimulus).pacer.held heading = c.pacer.held heading := by
  cases stimulus <;> simp [heard]

@[simp] theorem blinker_heard (stimulus : Stimulus) :
    (c.heard stimulus).blinker = c.blinker := by
  cases stimulus <;> rfl

@[simp] theorem ramp_heard (stimulus : Stimulus) :
    (c.heard stimulus).pacer.ramp = c.pacer.ramp := by
  cases stimulus <;> simp [heard]

@[simp] theorem home_heard (stimulus : Stimulus) :
    (c.heard stimulus).pacer.home = c.pacer.home := by
  cases stimulus <;> simp [heard]

/-- The forms that an answer takes.  A stimulus that confirms an edge is that
edge; any other reading only makes a notice; the rest are handlers of their
own. -/
inductive Answers (c : Controller) : Stimulus → Prop where
  | edge {stimulus : Stimulus} {edge : Edge} (hconfirmed : c.confirmed? stimulus = some edge)
      (hreact : c.react stimulus = (c.heard stimulus).edge edge) : Answers c stimulus
  | seed {id : Button} {reading : Reading} {notice : Notice}
      (hreact : c.react (.seed id reading) = (c.heard (.seed id reading), [.note notice])) :
      Answers c (.seed id reading)
  | stale {id : Button} {reading : Reading} {notice : Notice}
      (hconfirmed : c.confirmed? (.woke id reading) = none)
      (hreact : c.react (.woke id reading) = (c.heard (.woke id reading), [.note notice])) :
      Answers c (.woke id reading)
  | settle : Answers c .settle
  | begin : Answers c .begin
  | blinkExpired (count : Count) : Answers c (.blinkExpired count)
  | repeatExpired (count : Count) : Answers c (.repeatExpired count)

theorem seed_eq (reading : Reading) :
    ∃ notice, c.react (.seed id reading) = (c.heard (.seed id reading), [.note notice]) := by
  cases reading with
  | error fault => exact ⟨.unreadable .start id fault, rfl⟩
  | ok level => exact ⟨.seeded id ((c.pacer.button id).meansPressed level), rfl⟩

theorem answers_woke (reading : Reading) : c.Answers (.woke id reading) := by
  have hlearnt := (c.pacer.button id).reconcile_snd reading
  have hconfirmed : c.confirmed? (.woke id reading) =
      match (c.pacer.button id).reconcile reading with
      | (.ok edge?, _) => edge?
      | (.error _, _) => none := rfl
  have hreact : c.react (.woke id reading) = c.woke id reading := rfl
  have hheard : c.heard (.woke id reading) =
      c.mapPacer (·.setButton id ((c.pacer.button id).sync reading).2) := rfl
  unfold woke at hreact
  rw [← hlearnt] at hheard
  generalize (c.pacer.button id).reconcile reading = answer at hconfirmed hreact hheard
  obtain ⟨fault | _ | edge, button⟩ := answer
  · exact .stale hconfirmed (hreact.trans (by rw [hheard]))
  · exact .stale hconfirmed (hreact.trans (by rw [hheard]))
  · exact .edge hconfirmed (hreact.trans (by rw [hheard]))

theorem answers (stimulus : Stimulus) : c.Answers stimulus := by
  cases stimulus with
  | seed id reading =>
    obtain ⟨notice, hseed⟩ := c.seed_eq id reading
    exact .seed hseed
  | woke id reading => exact c.answers_woke id reading
  | edge edge => exact .edge rfl rfl
  | reset => exact .edge rfl rfl
  | settle => exact .settle
  | begin => exact .begin
  | blinkExpired count => exact .blinkExpired count
  | repeatExpired count => exact .repeatExpired count

/-- A notification confirms an edge exactly when its reading shows another state
of the button than was known, and the edge leads to that state. -/
theorem confirmed?_woke_eq_some_iff {c : Controller} {id : Button} {reading : Reading}
    {edge : Edge} :
    c.confirmed? (.woke id reading) = some edge ↔
      ((c.heard (.woke id reading)).pacer.button id).pressed ≠ (c.pacer.button id).pressed ∧
        edge = (c.pacer.button id).edgeTo
          ((c.heard (.woke id reading)).pacer.button id).pressed := by
  have hlearnt : (c.heard (.woke id reading)).pacer.button id =
      ((c.pacer.button id).sync reading).2 := by
    simp [heard]
  rw [hlearnt, ← PushButton.reconcile_fst_eq_some_iff, confirmed?]
  generalize (c.pacer.button id).reconcile reading = answer
  obtain ⟨fault | edge?, button⟩ := answer
  · simp
  · simp

/-- What is confirmed is applied as an edge, wherever it comes from. -/
theorem react_of_confirmed {c : Controller} {stimulus : Stimulus} {edge : Edge}
    (h : c.confirmed? stimulus = some edge) :
    c.react stimulus = (c.heard stimulus).edge edge := by
  cases c.answers stimulus with
  | edge hconfirmed hreact =>
    rw [h] at hconfirmed
    cases hconfirmed
    exact hreact
  | stale hconfirmed =>
    rw [h] at hconfirmed
    cases hconfirmed
  | seed | settle | begin | blinkExpired | repeatExpired => cases h

/-- The period that a repetition asks for: none if nothing has expired or if
no button drives. -/
def repeated? (c : Controller) : Count → Option Duration
  | .ok 0 => none
  | _ => c.heading.map fun heading => c.pacer.ramp.next (some heading)

theorem repeated?_eq_none_iff {c : Controller} {count : Count} :
    c.repeated? count = none ↔ count = .ok 0 ∨ c.heading = none := by
  unfold repeated?
  split
  · simp
  · next hcount => simpa [Option.map_eq_none_iff] using fun hzero => absurd hzero hcount

/-- A repetition is a step, or nothing. -/
theorem repeatExpired_fst (count : Count) :
    (c.repeatExpired count).1 =
      match c.repeated? count with
      | none => c
      | some wanted => c.adjust wanted := by
  have hagain : c.again.1 =
      match c.heading.map fun heading => c.pacer.ramp.next (some heading) with
      | none => c
      | some wanted => c.adjust wanted := by
    unfold again
    rcases hheading : c.heading with _ | heading
    · rfl
    · rw [if_neg (by simp)]
      show c.adjust (c.pacer.ramp.next c.heading) = _
      rw [hheading]
      rfl
  unfold repeatExpired
  split
  · rfl
  · next hcount =>
    rw [repeated?]
    · exact hagain
    · exact hcount

/-- A stimulus that is no edge leaves direction and holds as they are. -/
theorem react_of_unconfirmed {c : Controller} {stimulus : Stimulus}
    (h : c.confirmed? stimulus = none) :
    (c.react stimulus).1.heading = c.heading ∧
      ∀ heading, (c.react stimulus).1.pacer.held heading = c.pacer.held heading := by
  cases c.answers stimulus with
  | edge hconfirmed =>
    rw [h] at hconfirmed
    cases hconfirmed
  | seed hreact =>
    rw [hreact]
    simp
  | stale _ hreact =>
    rw [hreact]
    simp
  | settle | begin | blinkExpired => exact ⟨rfl, fun _ => rfl⟩
  | repeatExpired count =>
    show (c.repeatExpired count).1.heading = _ ∧
      ∀ heading, (c.repeatExpired count).1.pacer.held heading = _
    rw [repeatExpired_fst]
    split
    · simp
    · simp

/-- Only a reading teaches anything about a button. -/
theorem button_react (stimulus : Stimulus) :
    (c.react stimulus).1.pacer.button id = (c.heard stimulus).pacer.button id := by
  cases c.answers stimulus with
  | edge _ hreact => rw [hreact, button_edge]
  | seed hreact => rw [hreact]
  | stale _ hreact => rw [hreact]
  | settle | begin | blinkExpired => rfl
  | repeatExpired count =>
    show (c.repeatExpired count).1.pacer.button id = _
    rw [repeatExpired_fst]
    split
    · rfl
    · exact button_adjust c id _

end Controller

end Beacon
