import Beacon.Bench
import Beacon.Proofs.Controller.Parts

/-!
# What an answer asks of the repeat timer

The handlers of the controller touch the repeat timer in five places and
leave it alone in as many.  One statement covers them all: an answer either
keeps the direction and asks nothing of the timer, or it asks the one thing
that the direction which it leads to calls for.

* `due`: what the timer has last to be told while the direction is as it is.
* `Leaves` and `Sets`: the two sides of the statement.  `paces_react` proves
  it for every stimulus; the stop at the start fits only where nothing
  drives.
* `Leaves.idle_or_zero`: while a button drives, an expiry that does not read
  as zero is on the second side.
-/

namespace Beacon

/-- What an action asks of the repeat timer. -/
def Action.repeatCall? : Action → Option Bench.Call
  | .armRepeat schedule => some (.arm schedule)
  | .disarmRepeat _ => some .disarm
  | _ => none

/-- An action that only tells something, and so cannot fail. -/
def Action.IsTalk : Action → Prop
  | .note _ | .emit _ => True
  | _ => False

theorem Action.IsTalk.no_call {action : Action} (h : action.IsTalk) :
    action.repeatCall? = none := by
  cases action with
  | note | emit => rfl
  | light | armBlink | armRepeat | disarmRepeat => cases h

namespace Controller

/-- What the repeat timer has to be told last: to run while a button drives,
and to stop otherwise. -/
def due (c : Controller) : Bench.Call :=
  if c.heading = none then .disarm else .arm (.once c.pacer.interval)

theorem due_congr {c c' : Controller} (hheading : c'.heading = c.heading)
    (hinterval : c'.pacer.interval = c.pacer.interval) : c'.due = c.due := by
  simp only [due, hheading, hinterval]

theorem due_of_idle {c : Controller} (h : c.heading = none) : c.due = .disarm := by
  simp [due, h]

/-- An answer that keeps the direction and asks nothing of the repeat timer. -/
structure Leaves (c : Controller) (answer : Controller × List Action) : Prop where
  calls : ∀ action ∈ answer.2, action.repeatCall? = none
  heading : answer.1.heading = c.heading

/-- An answer that asks one thing of the repeat timer, the one that is due from
then on, and otherwise only tells something. -/
def Sets (answer : Controller × List Action) : Prop :=
  ∃ first action rest, answer.2 = first ++ action :: rest ∧
    (∀ other ∈ first, other.IsTalk) ∧ (∀ other ∈ rest, other.IsTalk) ∧
    action.repeatCall? = some answer.1.due

/-- What an answer may do to the repeat timer. -/
def Paces (c : Controller) (answer : Controller × List Action) : Prop :=
  c.Leaves answer ∨ Sets answer

variable (c : Controller)

/-! ## What only tells -/

theorem talk_turn (target : Option Heading) : ∀ action ∈ (c.turn target).2, action.IsTalk := by
  unfold turn
  split
  · simp
  · simp [Action.IsTalk]

theorem talk_step (cause : Cause) : ∀ action ∈ (c.step cause).2, action.IsTalk := by
  unfold step
  simp only
  split
  · simp [Action.IsTalk]
  · simp [Action.IsTalk]

theorem talk_repeatRemarks (count : Count) : ∀ action ∈ repeatRemarks count, action.IsTalk := by
  unfold repeatRemarks
  split
  · split
    · simp
    · simp [Action.IsTalk]
  · simp [Action.IsTalk]

theorem talk_remarks (count : Count) : ∀ action ∈ Blinker.remarks count, action.IsTalk := by
  unfold Blinker.remarks
  split
  · split
    · simp
    · simp [Action.IsTalk]
  · simp [Action.IsTalk]

/-! ## Every handler -/

/-- A step that ends with the timer armed, whatever is said before it. -/
theorem sets_step {c : Controller} {cause : Cause} {said : List Action}
    (hsaid : ∀ action ∈ said, action.IsTalk) (hdrives : c.heading ≠ none) :
    Sets ((c.step cause).1,
      said ++ (c.step cause).2 ++ [.armRepeat (.once (c.step cause).1.pacer.interval)]) := by
  refine ⟨said ++ (c.step cause).2, .armRepeat _, [], rfl, ?_, by simp, ?_⟩
  · intro action hmem
    rcases List.mem_append.mp hmem with hmem | hmem
    · exact hsaid action hmem
    · exact c.talk_step cause action hmem
  · have hheading : (c.step cause).1.heading ≠ none := hdrives
    simp only [Action.repeatCall?, due, if_neg hheading]

theorem paces_press (heading : Heading) : c.Paces (c.press heading) := by
  unfold press
  split
  · exact .inl ⟨by simp, rfl⟩
  · by_cases hother : c.pacer.held heading.opposite = true
    · rw [if_pos (by simp [hother])]
      exact .inl ⟨by simp [Action.repeatCall?], c.heading_setHeld heading true⟩
    · rw [if_neg (by simp [hother, Heading.opposite_ne])]
      have hdrives : ((c.mapPacer (·.setHeld heading true)).turn (some heading)).1.heading ≠
          none := by
        simp
      exact .inr (sets_step (talk_turn _ _) hdrives)

theorem paces_release (heading : Heading) : c.Paces (c.release heading) := by
  unfold release
  split
  · simp only [heading_setHeld]
    split
    · -- The stop is the first action, and what follows only tells of the turn.
      refine .inr ⟨[], _, _, rfl, by simp, talk_turn _ none, ?_⟩
      rw [due_of_idle (heading_turn _ none)]
      rfl
    · exact .inl ⟨by simp, c.heading_setHeld heading false⟩
  · exact .inl ⟨by simp, rfl⟩

theorem paces_reset : c.Paces c.reset := by
  refine .inr ⟨[], _, _, rfl, by simp, ?_, ?_⟩
  · intro action hmem
    rcases List.mem_append.mp hmem with hmem | hmem
    · rcases List.mem_append.mp hmem with hturned | hchanged
      · exact talk_turn _ none action hturned
      · split at hchanged
        · simp at hchanged
        · obtain rfl := List.mem_singleton.mp hchanged
          trivial
    · obtain rfl := List.mem_singleton.mp hmem
      trivial
  · rw [due_of_idle c.heading_reset]
    rfl

theorem paces_edge (edge : Edge) : c.Paces (c.edge edge) := by
  rcases edge.cases with ⟨heading, rfl⟩ | ⟨heading, rfl⟩ | rfl | rfl
  · rw [edge_press]
    exact c.paces_press heading
  · rw [edge_release]
    exact c.paces_release heading
  · rw [edge_reset]
    exact c.paces_reset
  · exact .inl ⟨by simp, rfl⟩

theorem again_of_driving (h : c.heading ≠ none) :
    c.again = ((c.step .repetition).1,
      (c.step .repetition).2 ++ [.armRepeat (.once (c.step .repetition).1.pacer.interval)]) := by
  unfold again
  rw [if_neg h]

/-- While a button drives, an expiry that does not read as zero makes a step
and arms the timer again. -/
theorem repeatExpired_of_driving {count : Count} (hcount : count ≠ .ok 0)
    (h : c.heading ≠ none) :
    c.repeatExpired count = ((c.step .repetition).1,
      repeatRemarks count ++ (c.step .repetition).2 ++
        [.armRepeat (.once (c.step .repetition).1.pacer.interval)]) := by
  unfold repeatExpired
  split
  · exact absurd rfl hcount
  · rw [c.again_of_driving h, List.append_assoc]

theorem repeatExpired_of_idle (count : Count) (h : c.heading = none) :
    (c.repeatExpired count).1 = c ∧
      ∀ action ∈ (c.repeatExpired count).2, action.IsTalk := by
  unfold repeatExpired again
  split
  · exact ⟨rfl, by simp⟩
  · rw [if_pos h]
    refine ⟨rfl, ?_⟩
    intro action hmem
    rcases List.mem_append.mp hmem with hmem | hmem
    · exact talk_repeatRemarks count action hmem
    · obtain rfl := List.mem_singleton.mp hmem
      trivial

theorem paces_repeatExpired (count : Count) : c.Paces (c.repeatExpired count) := by
  by_cases hcount : count = .ok 0
  · subst hcount
    exact .inl ⟨by simp [repeatExpired], rfl⟩
  · by_cases hdrives : c.heading = none
    · obtain ⟨hsame, htalk⟩ := c.repeatExpired_of_idle count hdrives
      exact .inl ⟨fun action hmem => (htalk action hmem).no_call, by rw [hsame]⟩
    · rw [c.repeatExpired_of_driving hcount hdrives]
      exact .inr (sets_step (talk_repeatRemarks count) hdrives)

/-- An expiry that asks nothing of the timer came while nothing drives, or reads
as zero. -/
theorem Leaves.idle_or_zero {c : Controller} {count : Count}
    (h : c.Leaves (c.repeatExpired count)) : c.heading = none ∨ count = .ok 0 := by
  by_cases hcount : count = .ok 0
  · exact .inr hcount
  · refine .inl (Decidable.byContradiction fun hdrives => ?_)
    have hmem : Action.armRepeat (.once (c.step .repetition).1.pacer.interval) ∈
        (c.repeatExpired count).2 := by
      rw [c.repeatExpired_of_driving hcount hdrives]
      simp
    cases h.calls _ hmem

/-- Blinking asks nothing of the repeat timer. -/
theorem paces_blink {answer : Blinker × List Action}
    (h : ∀ action ∈ answer.2, action.repeatCall? = none) : c.Paces (c.blink answer) :=
  .inl ⟨h, rfl⟩

/-- Whatever the timer counted, unless it did not expire, there is one toggle. -/
theorem expired_of_ne_zero (blinker : Blinker) {count : Count} (h : count ≠ .ok 0) :
    blinker.expired count = (blinker.toggle.1, Blinker.remarks count ++ blinker.toggle.2) := by
  unfold Blinker.expired
  split
  · exact absurd rfl h
  · rfl

theorem no_call_expired (blinker : Blinker) (count : Count) :
    ∀ action ∈ (blinker.expired count).2, action.repeatCall? = none := by
  unfold Blinker.expired
  split
  · simp
  · intro action hmem
    rcases List.mem_append.mp hmem with hremark | htoggle
    · exact (talk_remarks count action hremark).no_call
    · rcases List.mem_cons.mp htoggle with rfl | hlast
      · rfl
      · obtain rfl := List.mem_singleton.mp hlast
        rfl

theorem sets_settle {c : Controller} (h : c.heading = none) : Sets (c.react .settle) := by
  refine ⟨[], .disarmRepeat .start, [], rfl, by simp, by simp, ?_⟩
  rw [show (c.react .settle).1.due = .disarm from due_of_idle h]
  rfl

/-- Every answer paces the repeat timer, as long as the stop at the start comes
while nothing drives. -/
theorem paces_react {c : Controller} {stimulus : Stimulus}
    (h : stimulus = .settle → c.heading = none) : c.Paces (c.react stimulus) := by
  cases c.answers stimulus with
  | edge _ hreact =>
    rw [hreact]
    rcases (c.heard stimulus).paces_edge _ with hleaves | hsets
    · exact .inl ⟨hleaves.calls, hleaves.heading.trans (c.heading_heard stimulus)⟩
    · exact .inr hsets
  | seed hreact =>
    rw [hreact]
    exact .inl ⟨by simp [Action.repeatCall?], c.heading_heard _⟩
  | stale _ hreact =>
    rw [hreact]
    exact .inl ⟨by simp [Action.repeatCall?], c.heading_heard _⟩
  | settle => exact .inr (sets_settle (h rfl))
  | begin => exact c.paces_blink (by simp [Blinker.begin, Action.repeatCall?])
  | blinkExpired count => exact c.paces_blink (no_call_expired c.blinker count)
  | repeatExpired count => exact c.paces_repeatExpired count

end Controller

end Beacon
