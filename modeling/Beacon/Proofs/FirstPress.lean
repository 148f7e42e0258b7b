import Mathlib.Data.List.Induction
import Beacon.Proofs.Station.Session

/-!
# The first press governs

What the controller makes of the two driving buttons is a law of the whole
history of edges, and this module states the law without the controller.

* `HeldAfter`: a button is held after a history if the last edge that bears
  on it is its press.  Its press, its release and the press of the reset
  button bear on it.
* `DrivesAfter`: a button drives after a history if at some moment it was
  pressed while neither button was held, and has neither been released nor
  reset since.

Both are read off the end of the history: `heldAfter_concat` and
`drivesAfter_concat` say what one more edge does to them.  `Agrees` is the
invariant that ties the controller to its history, and `Agrees.edge` is the
one step that carries it.
-/

namespace Beacon

/-! ## The law of the history -/

/-- Whether an edge bears on the button of a direction. -/
def Edge.concerns (edge : Edge) (heading : Heading) : Bool :=
  edge.button = heading.button || edge = .reset

/-- The last edge that bears on the button of a direction is its press. -/
def HeldAfter (edges : List Edge) (heading : Heading) : Prop :=
  (edges.filter (·.concerns heading)).getLast? = some heading.press

/-- The button of a direction was pressed while neither button was held, and
was neither released nor reset after that. -/
def DrivesAfter (edges : List Edge) (heading : Heading) : Prop :=
  ∃ before after, edges = before ++ heading.press :: after ∧
    (∀ other, ¬HeldAfter before other) ∧
    heading.release ∉ after ∧ Edge.reset ∉ after

theorem heldAfter_nil (heading : Heading) : ¬HeldAfter [] heading := by
  simp [HeldAfter]

theorem heldAfter_concat {edges : List Edge} {edge : Edge} {heading : Heading} :
    HeldAfter (edges ++ [edge]) heading ↔
      if edge.concerns heading then edge = heading.press else HeldAfter edges heading := by
  unfold HeldAfter
  by_cases hconcerns : edge.concerns heading = true
  · simp [List.filter_append, hconcerns]
  · simp [List.filter_append, hconcerns]

theorem drivesAfter_nil (heading : Heading) : ¬DrivesAfter [] heading := by
  rintro ⟨before, after, hedges, -⟩
  simp at hedges

theorem drivesAfter_concat {edges : List Edge} {edge : Edge} {heading : Heading} :
    DrivesAfter (edges ++ [edge]) heading ↔
      (edge = heading.press ∧ ∀ other, ¬HeldAfter edges other) ∨
        (DrivesAfter edges heading ∧ edge ≠ heading.release ∧ edge ≠ .reset) := by
  constructor
  · rintro ⟨before, after, hedges, hfree, hreleased, hreset⟩
    rcases List.eq_nil_or_concat after with rfl | ⟨rest, last, rfl⟩
    · obtain ⟨rfl, hlast⟩ := List.append_inj' hedges rfl
      exact .inl ⟨List.head_eq_of_cons_eq hlast, hfree⟩
    · have hedges' : edges ++ [edge] = (before ++ heading.press :: rest) ++ [last] := by
        simpa using hedges
      obtain ⟨rfl, hlast⟩ := List.append_inj' hedges' rfl
      obtain rfl := List.head_eq_of_cons_eq hlast
      rw [List.concat_eq_append, List.mem_append, List.mem_singleton, not_or] at hreleased hreset
      exact .inr ⟨⟨before, rest, rfl, hfree, hreleased.1, hreset.1⟩,
        Ne.symm hreleased.2, Ne.symm hreset.2⟩
  · rintro (⟨rfl, hfree⟩ | ⟨⟨before, after, rfl, hfree, hreleased, hreset⟩, hrelease, hk2⟩)
    · exact ⟨edges, [], rfl, hfree, by simp, by simp⟩
    · refine ⟨before, after ++ [edge], by simp, hfree, ?_, ?_⟩
      · simp [hreleased, hrelease.symm]
      · simp [hreset, hk2.symm]

/-! ### Which edges bear on which button -/

@[simp] theorem Edge.concerns_press (heading other : Heading) :
    heading.press.concerns other = decide (heading = other) := by
  cases heading <;> cases other <;> rfl

@[simp] theorem Edge.concerns_release (heading other : Heading) :
    heading.release.concerns other = decide (heading = other) := by
  cases heading <;> cases other <;> rfl

@[simp] theorem Edge.concerns_reset (heading : Heading) :
    Edge.reset.concerns heading = true := by
  cases heading <;> rfl

@[simp] theorem Edge.concerns_resetReleased (heading : Heading) :
    Edge.concerns ⟨.k2, .released⟩ heading = false := by
  cases heading <;> rfl

/-- What drives is held: the press that it drives by is the last edge that
bears on it. -/
theorem heldAfter_of_drivesAfter {edges : List Edge} {heading : Heading}
    (h : DrivesAfter edges heading) : HeldAfter edges heading := by
  induction edges using List.reverseRecOn with
  | nil => exact absurd h (drivesAfter_nil heading)
  | append_singleton edges edge ih =>
    rw [heldAfter_concat]
    rcases drivesAfter_concat.mp h with ⟨rfl, -⟩ | ⟨hdrives, hrelease, hreset⟩
    · simp
    · have hheld := ih hdrives
      rcases edge.cases with ⟨other, rfl⟩ | ⟨other, rfl⟩ | rfl | rfl
      · by_cases hother : other = heading
        · simp [hother]
        · simpa [hother] using hheld
      · by_cases hother : other = heading
        · exact absurd (by rw [hother]) hrelease
        · simpa [hother] using hheld
      · exact absurd rfl hreset
      · simpa using hheld

/-- No history makes both buttons drive. -/
theorem drivesAfter_unique {edges : List Edge} {a b : Heading}
    (ha : DrivesAfter edges a) (hb : DrivesAfter edges b) : a = b := by
  induction edges using List.reverseRecOn with
  | nil => exact absurd ha (drivesAfter_nil a)
  | append_singleton edges edge ih =>
    rcases drivesAfter_concat.mp ha with ⟨hpress, hfree⟩ | ⟨hdrives, -, -⟩
    · rcases drivesAfter_concat.mp hb with ⟨hpress', -⟩ | ⟨hdrives', -, -⟩
      · exact Heading.press_inj.mp (hpress.symm.trans hpress')
      · exact absurd (heldAfter_of_drivesAfter hdrives') (hfree b)
    · rcases drivesAfter_concat.mp hb with ⟨-, hfree⟩ | ⟨hdrives', -, -⟩
      · exact absurd (heldAfter_of_drivesAfter hdrives) (hfree a)
      · exact ih hdrives hdrives'

/-! ## The controller keeps the law -/

/-- The holds and the direction of a controller are those of a history. -/
structure Agrees (c : Controller) (edges : List Edge) : Prop where
  held : ∀ heading, c.pacer.held heading = true ↔ HeldAfter edges heading
  drives : ∀ heading, c.heading = some heading ↔ DrivesAfter edges heading

theorem agrees_ofTwo (blinker pacer : Settings) :
    Agrees (Controller.ofTwo blinker pacer) [] where
  held := by
    intro heading
    have hidle : (Controller.ofTwo blinker pacer).pacer.held heading = false := by
      cases heading <;> rfl
    simp [hidle, heldAfter_nil]
  drives := by
    intro heading
    have hnone : (Controller.ofTwo blinker pacer).heading = none := rfl
    simp [hnone, drivesAfter_nil]

namespace Agrees

variable {c : Controller} {edges : List Edge}

/-- A controller that agrees on holds and direction agrees with the history. -/
theorem congr (h : Agrees c edges) {other : Controller} (hheading : other.heading = c.heading)
    (hheld : ∀ heading, other.pacer.held heading = c.pacer.held heading) :
    Agrees other edges where
  held := by intro heading; rw [hheld]; exact h.held heading
  drives := by intro heading; rw [hheading]; exact h.drives heading

theorem free_iff (h : Agrees c edges) (heading : Heading) :
    (c.pacer.held heading || c.pacer.held heading.opposite) = false ↔
      ∀ other, ¬HeldAfter edges other := by
  rw [Pacer.idle_iff]
  refine forall_congr' fun other => ?_
  rw [← h.held other, Bool.not_eq_true]

/-- A press that counts finds nothing driving, so it is the first press of its history; any
other leaves the direction to the press before it. -/
theorem press (h : Agrees c edges) (heading : Heading) :
    Agrees (c.press heading).1 (edges ++ [heading.press]) where
  held := by
    intro other
    rw [Controller.held_press, heldAfter_concat, Edge.concerns_press]
    by_cases hother : other = heading
    · simp [hother]
    · simp [hother, Ne.symm hother, h.held other]
  drives := by
    intro other
    rw [Controller.heading_press, drivesAfter_concat, ← h.free_iff heading, ← h.drives]
    by_cases hfree : (c.pacer.held heading || c.pacer.held heading.opposite) = false
    · have hidle : c.heading ≠ some other := fun hdrives =>
        (h.free_iff heading).mp hfree other (heldAfter_of_drivesAfter ((h.drives other).mp hdrives))
      simp [hfree, hidle]
    · simp [hfree]

theorem release (h : Agrees c edges) (heading : Heading) :
    Agrees (c.release heading).1 (edges ++ [heading.release]) where
  held := by
    intro other
    rw [Controller.held_release, heldAfter_concat, Edge.concerns_release]
    by_cases hother : other = heading
    · simp [hother, (Heading.press_ne_release heading heading).symm]
    · simp [hother, Ne.symm hother, h.held other]
  drives := by
    intro other
    rw [Controller.heading_release, drivesAfter_concat, ← h.drives]
    have hheld : c.heading = some heading → c.pacer.held heading = true := fun hdrives =>
      (h.held heading).mpr (heldAfter_of_drivesAfter ((h.drives heading).mp hdrives))
    by_cases hdrives : c.heading = some heading
    · simp [hdrives, hheld hdrives, (Heading.press_ne_release _ _).symm]
    · rw [if_neg fun hboth => hdrives hboth.2]
      by_cases hother : other = heading
      · simp [hother, hdrives, (Heading.press_ne_release _ _).symm]
      · simp [Ne.symm hother, (Heading.press_ne_release _ _).symm]

/-- A reset agrees with any history that ends with it. -/
theorem reset (c : Controller) (edges : List Edge) : Agrees c.reset.1 (edges ++ [.reset]) where
  held := by
    intro heading
    simp [heldAfter_concat, (Heading.press_ne_reset heading).symm]
  drives := by
    intro heading
    simp [drivesAfter_concat, (Heading.press_ne_reset heading).symm]

theorem resetReleased (h : Agrees c edges) : Agrees c (edges ++ [⟨.k2, .released⟩]) where
  held := by
    intro heading
    simpa [heldAfter_concat] using h.held heading
  drives := by
    intro heading
    have hne : (⟨.k2, .released⟩ : Edge) ≠ heading.release := by
      simp [Heading.release, (Heading.button_ne_k2 heading).symm]
    simpa [drivesAfter_concat, hne, Heading.press, Edge.reset] using h.drives heading

/-- One edge carries the invariant. -/
theorem edge (h : Agrees c edges) (edge : Edge) : Agrees (c.edge edge).1 (edges ++ [edge]) := by
  rcases edge.cases with ⟨heading, rfl⟩ | ⟨heading, rfl⟩ | rfl | rfl
  · rw [Controller.edge_press]
    exact h.press heading
  · rw [Controller.edge_release]
    exact h.release heading
  · rw [Controller.edge_reset]
    exact .reset c edges
  · rw [Controller.edge_resetReleased]
    exact h.resetReleased

/-- An answer of the controller adds the edge that it confirms, if any, to
the history. -/
theorem react (h : Agrees c edges) (stimulus : Stimulus) :
    Agrees (c.react stimulus).1 (edges ++ (c.confirmed? stimulus).toList) := by
  rcases hconfirmed : c.confirmed? stimulus with _ | edge
  · obtain ⟨hheading, hheld⟩ := Controller.react_of_unconfirmed hconfirmed
    simpa using h.congr hheading hheld
  · rw [Controller.react_of_confirmed hconfirmed]
    have hheard := h.congr (c.heading_heard stimulus) fun heading => c.held_heard heading stimulus
    exact hheard.edge edge

end Agrees

/-! ## Sessions of edges -/

/-- The edge that a happening hands to the controller, if it hands over one. -/
def Happening.edge? {δ : Type} : Happening δ → Option Edge
  | .edge confirmed => some confirmed
  | _ => none

namespace Station

variable {δ : Type} [Devices δ]

theorem agrees_startPacer {s : Station δ} {edges : List Edge} (h : Agrees s.controller edges) :
    Agrees s.startPacer.2.controller edges := by
  have hseed : ∀ {s : Station δ} (button), Agrees s.controller edges →
      Agrees (s.seeded button).controller edges := by
    intro s button hs
    rw [controller_seeded]
    exact hs.congr (Controller.heading_heard _ _) fun heading => Controller.held_heard _ heading _
  rw [controller_startPacer]
  exact hseed .k3 (hseed .k2 (hseed .k1 h))

theorem agrees_undergo {s : Station δ} {edges : List Edge} (h : Agrees s.controller edges)
    {happening : Happening δ} (hline : ∀ id, happening ≠ .notify (.button id))
    (hreset : happening ≠ .reset) :
    Agrees (s.undergo happening).controller (edges ++ happening.edge?.toList) := by
  cases happening with
  | change f =>
    show Agrees s.controller (edges ++ [])
    rw [List.append_nil]
    exact h
  | startPacer =>
    show Agrees s.startPacer.2.controller (edges ++ [])
    rw [List.append_nil]
    exact agrees_startPacer h
  | startBlinker => exact h.react .begin
  | notify source =>
    cases source with
    | timer clock =>
      cases clock with
      | blink => exact h.react (.blinkExpired _)
      | repeating => exact h.react (.repeatExpired _)
    | button id => exact absurd rfl (hline id)
  | edge confirmed => exact h.react (.edge confirmed)
  | reset => exact absurd rfl hreset

theorem agrees_undergoAll {s : Station δ} {edges : List Edge} (h : Agrees s.controller edges)
    {happenings : List (Happening δ)} (hlines : ∀ id, .notify (.button id) ∉ happenings)
    (hreset : .reset ∉ happenings) :
    Agrees (s.undergoAll happenings).controller
      (edges ++ happenings.filterMap Happening.edge?) := by
  induction happenings generalizing s edges with
  | nil => simpa using h
  | cons happening rest ih =>
    have hline : ∀ id, happening ≠ .notify (.button id) := by
      rintro id rfl
      exact hlines id (by simp)
    have hreset' : happening ≠ .reset := by
      rintro rfl
      exact hreset (by simp)
    have hnext := ih (agrees_undergo h hline hreset')
      (fun id hmem => hlines id (List.mem_cons_of_mem _ hmem))
      (fun hmem => hreset (List.mem_cons_of_mem _ hmem))
    have hedges : edges ++ (happening :: rest).filterMap Happening.edge? =
        edges ++ happening.edge?.toList ++ rest.filterMap Happening.edge? := by
      cases hedge : happening.edge? with
      | none => simp [hedge]
      | some edge => simp [hedge]
    rw [hedges]
    exact hnext

/-- After any session of edges, at whatever points the timers expire and the
devices fail, the holds and the direction are those of the history of edges. -/
theorem first_press_governs (blinker pacer : Settings) (world : δ)
    (happenings : List (Happening δ)) (hlines : ∀ id, .notify (.button id) ∉ happenings)
    (hreset : .reset ∉ happenings) :
    let s := (Station.mk (.ofTwo blinker pacer) world).undergoAll happenings
    let edges := happenings.filterMap Happening.edge?
    (∀ heading, s.controller.pacer.isHeld heading.button = true ↔ HeldAfter edges heading) ∧
      (∀ heading, s.controller.heading = some heading ↔ DrivesAfter edges heading) ∧
      (s.controller.heading = none ↔ ∀ heading, ¬DrivesAfter edges heading) ∧
      ¬(DrivesAfter edges .faster ∧ DrivesAfter edges .slower) ∧
      ∀ heading, s.controller.heading = some heading →
        (s.undergo (.edge heading.release)).controller.heading = none := by
  intro s edges
  have h : Agrees s.controller edges :=
    agrees_undergoAll (s := ⟨.ofTwo blinker pacer, world⟩) (agrees_ofTwo blinker pacer)
      hlines hreset
  refine ⟨?_, h.drives, ?_, ?_, ?_⟩
  · intro heading
    rw [Pacer.isHeld_button]
    exact h.held heading
  · rw [Option.eq_none_iff_forall_ne_some]
    exact forall_congr' fun heading => not_congr (h.drives heading)
  · rintro ⟨hfaster, hslower⟩
    cases drivesAfter_unique hfaster hslower
  · intro heading hdrives
    have hheld : s.controller.pacer.held heading = true :=
      (h.held heading).mpr (heldAfter_of_drivesAfter ((h.drives heading).mp hdrives))
    show (s.controller.edge heading.release).1.heading = none
    rw [Controller.edge_release, Controller.heading_release, if_pos ⟨hheld, hdrives⟩]

/-- A button is pressed beside the one that drives, the repeat timer expires
and then breaks, and the driver is released: the other one stays held, and
does not take over. -/
theorem first_press_governs_passive :
    let session : List (Happening Bench) :=
      [.edge Heading.faster.press, .edge Heading.slower.press,
        .change (·.expire .repeating 2), .notify (.timer .repeating),
        .change (·.setFailing .repeatDisarm true)]
    let s := (Station.mk (.ofTwo {} {}) { wiring := {} }).undergoAll session
    (∀ id, .notify (.button id) ∉ session) ∧ .reset ∉ session ∧
      s.controller.pacer.isHeld .k3 = true ∧ s.controller.heading = some .faster ∧
      (s.undergo (.edge Heading.faster.release)).controller.heading = none := by
  intro session s
  have hlines : ∀ id, .notify (.button id) ∉ session := by simp [session]
  have hreset : .reset ∉ session := by simp [session]
  have hedges : session.filterMap Happening.edge? = [Heading.faster.press, Heading.slower.press] :=
    rfl
  obtain ⟨hheld, hdrives, -, -, htaken⟩ :=
    first_press_governs {} {} { wiring := {} } session hlines hreset
  rw [hedges] at hheld hdrives
  have hfaster : s.controller.heading = some .faster :=
    (hdrives .faster).mpr ⟨[], [Heading.slower.press], rfl, heldAfter_nil, by decide, by decide⟩
  exact ⟨hlines, hreset, (hheld .slower).mpr rfl, hfaster, htaken .faster hfaster⟩

end Station

end Beacon
