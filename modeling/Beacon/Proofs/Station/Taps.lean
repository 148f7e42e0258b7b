import Beacon.Proofs.Controller.Hold
import Beacon.Proofs.RepeatTimer

/-!
# Taps

A tap is a press and a release with nothing to repeat in between.  Each one
makes a single step in its direction, and leaves nothing behind but that.

* `Station.edges` are the edges that a script confirms, in order, wherever they
  come from.  What else the script holds is as it may be, except that no
  repetition finds a button driving: `Station.Unrepeated`.
* `Poised`: the one button that drives is the only one that is held, and the
  period is a given one.  `Poised.quiet`, `Poised.press` and `Poised.release`
  say what becomes of it, and `Poised.next` takes a script to its next edge.
* `Station.tap` is what a script makes of one tap, and `Station.taps` what it
  makes of many.
-/

namespace Beacon

/-- A press of the button of a direction, and its release. -/
def Heading.tap (heading : Heading) : List Edge := [heading.press, heading.release]

/-- The period after one step for each tap. -/
def Settings.tapped (settings : Settings) (headings : List Heading)
    (period : Duration) : Duration :=
  headings.foldl (fun period heading => settings.stepped heading period) period

namespace Controller

variable {settings : Settings} {target : Option Heading} {heading : Heading} {period : Duration}
  {c : Controller} {stimulus : Stimulus}

/-- The button that drives, if one does, is the only one that is held, and the
period is a given one. -/
structure Poised (settings : Settings) (target : Option Heading) (period : Duration)
    (c : Controller) : Prop where
  made : c.MadeFrom settings settings
  together : c.Together
  period : c.blinker.period = period
  heading : c.heading = target
  held : ∀ other, c.pacer.held other = decide (target = some other)

theorem Poised.idle (h : Poised settings none period c) (other : Heading) :
    c.pacer.held other = false := by
  simp [h.held]

/-- Without an edge and without a repetition nothing changes. -/
theorem Poised.quiet (h : Poised settings target period c)
    (hconfirmed : c.confirmed? stimulus = none)
    (hrepeat : stimulus.isRepetition = true → c.heading = none) :
    Poised settings target period (c.react stimulus).1 := by
  obtain ⟨hheading, hheld⟩ := react_of_unconfirmed hconfirmed
  have hasked : c.asked? stimulus = none := by
    refine Decidable.byContradiction fun hasked => ?_
    rcases asked?_ne_none_iff.mp hasked with
      ⟨other, hpress, -⟩ | hreset | ⟨count, rfl, hcount, hdrives⟩
    · cases hconfirmed.symm.trans hpress
    · cases hconfirmed.symm.trans hreset
    · exact hdrives (hrepeat (Stimulus.isRepetition_of_ne_zero hcount))
  have hadjusted := c.adjusted_react stimulus
  rw [hasked] at hadjusted
  exact ⟨h.made.react stimulus, hadjusted.together (.inl h.together),
    hadjusted.period.trans h.period, hheading.trans h.heading,
    fun other => (hheld other).trans (h.held other)⟩

/-- A press beside no other one makes a step. -/
theorem Poised.press (h : Poised settings none period c)
    (hpress : c.confirmed? stimulus = some heading.press) :
    Poised settings (some heading) (settings.stepped heading period) (c.react stimulus).1 := by
  have hhold := OnHold.begins h.made h.together h.idle hpress
  refine ⟨hhold.made, hhold.together, ?_, hhold.led.drives, ?_⟩
  · rw [hhold.period, h.period]
    rfl
  · intro other
    rw [react_of_confirmed hpress, edge_press, held_press, held_heard, h.idle]
    simp [eq_comm]

/-- A release makes none. -/
theorem Poised.release (h : Poised settings (some heading) period c)
    (hrelease : c.confirmed? stimulus = some heading.release) :
    Poised settings none period (c.react stimulus).1 := by
  have hadjusted := c.adjusted_react stimulus
  rw [asked?_of_confirmed hrelease, askedBy_release] at hadjusted
  have hreact : (c.react stimulus).1 = ((c.heard stimulus).release heading).1 := by
    rw [react_of_confirmed hrelease, edge_release]
  refine ⟨h.made.react stimulus, hadjusted.together (.inl h.together),
    hadjusted.period.trans h.period, ?_, ?_⟩
  · rw [hreact, heading_release]
    simp [h.heading, h.held]
  · intro other
    rw [hreact, held_release, held_heard, h.held]
    by_cases hother : other = heading
    · simp [hother]
    · simp [hother, Ne.symm hother]

end Controller

namespace Station

variable {δ : Type} [Devices δ]

/-! ## The edges of a script -/

/-- The edges that a script confirms. -/
def edges (s : Station (Observed δ)) : List (Cue δ) → List Edge
  | [] => []
  | cue :: rest => (cue.told?.bind s.controller.confirmed?).toList ++ (s.follow cue).edges rest

/-- No repetition of a script finds a button driving. -/
def Unrepeated (s : Station (Observed δ)) : List (Cue δ) → Prop
  | [] => True
  | cue :: rest =>
    (cue.isRepetition = true → s.controller.heading = none) ∧ (s.follow cue).Unrepeated rest

variable {settings : Settings} {target : Option Heading} {heading : Heading} {period : Duration}
  {s : Station (Observed δ)} {cues : List (Cue δ)} {edge : Edge} {rest : List Edge}

/-! ## The last call -/

/-- A turn makes a call, and it is the one that is due. -/
theorem lastCall_feed_of_turned {stimulus : Stimulus}
    (h : (s.feed stimulus).2.controller.heading ≠ s.controller.heading) :
    (s.feed stimulus).2.devices.lastCall = some (s.feed stimulus).2.controller.due := by
  have hsettle : stimulus ≠ .settle := by
    rintro rfl
    exact h rfl
  rcases Controller.paces_react fun hsame => absurd hsame hsettle with hleaves | hsets
  · exact absurd hleaves.heading h
  · exact lastCall_feed_of_sets hsets

/-- Where no button drives before or after, a stop stays the last call. -/
theorem lastCall_feed_of_idle {stimulus : Stimulus} (hbefore : s.controller.heading = none)
    (hafter : (s.feed stimulus).2.controller.heading = none)
    (h : s.devices.lastCall = some .disarm) :
    (s.feed stimulus).2.devices.lastCall = some .disarm := by
  rcases Controller.paces_react fun _ => hbefore with hleaves | hsets
  · exact (lastCall_feed_of_leaves hleaves).trans h
  · rw [lastCall_feed_of_sets hsets, Controller.due_of_idle hafter]

/-! ## Taps -/

/-- A cue without an edge and without a repetition changes nothing. -/
theorem poised_follow (h : Controller.Poised settings target period s.controller) {cue : Cue δ}
    (hquiet : cue.told?.bind s.controller.confirmed? = none)
    (hrepeat : cue.isRepetition = true → s.controller.heading = none) :
    Controller.Poised settings target period (s.follow cue).controller := by
  cases cue with
  | change f => exact h
  | tell stimulus => exact h.quiet hquiet hrepeat

/-- A script without edges and without repetitions changes nothing, the last
call of an idle station included. -/
theorem poised_followAll (h : Controller.Poised settings target period s.controller)
    (hedges : s.edges cues = []) (hquiet : s.Unrepeated cues) :
    Controller.Poised settings target period (s.followAll cues).controller ∧
      (target = none → s.devices.lastCall = some .disarm →
        (s.followAll cues).devices.lastCall = some .disarm) := by
  induction cues generalizing s with
  | nil => exact ⟨h, fun _ hcall => hcall⟩
  | cons cue rest ih =>
    obtain ⟨hrepeat, hquiet⟩ := hquiet
    obtain ⟨hnone, hedges⟩ := List.append_eq_nil_iff.mp hedges
    have hnext := poised_follow h (Option.toList_eq_nil_iff.mp hnone) hrepeat
    obtain ⟨hend, hlast⟩ := ih hnext hedges hquiet
    refine ⟨hend, ?_⟩
    rintro rfl hcall
    refine hlast rfl ?_
    cases cue with
    | change f => exact hcall
    | tell stimulus => exact lastCall_feed_of_idle h.heading hnext.heading hcall

/-- A script whose first edge is given comes to it with nothing changed. -/
theorem poised_upTo (h : Controller.Poised settings target period s.controller)
    (hedges : s.edges cues = edge :: rest) (hquiet : s.Unrepeated cues) :
    ∃ before stimulus after, cues = before ++ .tell stimulus :: after ∧
      Controller.Poised settings target period (s.followAll before).controller ∧
      (s.followAll before).controller.confirmed? stimulus = some edge ∧
      ((s.followAll before).follow (.tell stimulus)).edges after = rest ∧
      ((s.followAll before).follow (.tell stimulus)).Unrepeated after := by
  induction cues generalizing s with
  | nil => cases hedges
  | cons cue later ih =>
    obtain ⟨hrepeat, hquiet⟩ := hquiet
    rcases hconfirmed : cue.told?.bind s.controller.confirmed? with _ | first
    · have hlater : (s.follow cue).edges later = edge :: rest := by
        rw [edges, hconfirmed] at hedges
        exact hedges
      obtain ⟨before, stimulus, after, rfl, hreached⟩ :=
        ih (poised_follow h hconfirmed hrepeat) hlater hquiet
      exact ⟨cue :: before, stimulus, after, rfl, hreached⟩
    · rw [edges, hconfirmed] at hedges
      obtain ⟨rfl, hrest⟩ := List.cons.inj hedges
      obtain ⟨stimulus, htold, hedge⟩ := Option.bind_eq_some_iff.mp hconfirmed
      cases cue with
      | change f => cases htold
      | tell other =>
        obtain rfl := Option.some.inj htold
        exact ⟨[], other, later, rfl, h, hedge, hrest, hquiet⟩

/-- A script that begins with a tap makes one step, after which no button
drives and the timer has been told to stop. -/
theorem poised_tap (h : Controller.Poised settings none period s.controller)
    (hedges : s.edges cues = heading.tap ++ rest) (hquiet : s.Unrepeated cues) :
    ∃ before after, cues = before ++ after ∧
      Controller.Poised settings none (settings.stepped heading period)
        (s.followAll before).controller ∧
      (s.followAll before).devices.lastCall = some .disarm ∧
      (s.followAll before).edges after = rest ∧ (s.followAll before).Unrepeated after := by
  obtain ⟨first, press, second, rfl, hidle, hpress, hreleases, hquiet⟩ :=
    poised_upTo h hedges hquiet
  have hpressed := hidle.press hpress
  obtain ⟨hold, release, after, rfl, hdriving, hrelease, hrest, hquiet⟩ :=
    poised_upTo (s := (s.followAll first).follow (.tell press)) hpressed hreleases hquiet
  have hreleased := hdriving.release hrelease
  let driving := ((s.followAll first).follow (.tell press)).followAll hold
  have hturned : (driving.feed release).2.controller.heading ≠ driving.controller.heading := by
    rw [show (driving.feed release).2.controller.heading = none from hreleased.heading,
      show driving.controller.heading = some heading from hdriving.heading]
    exact Option.some_ne_none _ ∘ Eq.symm
  have hstopped := lastCall_feed_of_turned hturned
  rw [show (driving.feed release).2.controller.due = .disarm from
    Controller.due_of_idle hreleased.heading] at hstopped
  refine ⟨first ++ .tell press :: (hold ++ [.tell release]), after, by simp, ?_⟩
  rw [followAll_append, followAll_cons, followAll_append, followAll_cons, followAll_nil]
  exact ⟨hreleased, hstopped, hrest, hquiet⟩

/-- A script of taps makes one step for each. -/
theorem poised_taps (h : Controller.Poised settings none period s.controller)
    {headings : List Heading} (hedges : s.edges cues = headings.flatMap Heading.tap)
    (hquiet : s.Unrepeated cues)
    (hcall : headings ≠ [] ∨ s.devices.lastCall = some .disarm) :
    Controller.Poised settings none (settings.tapped headings period)
        (s.followAll cues).controller ∧
      (s.followAll cues).devices.lastCall = some .disarm := by
  induction headings generalizing s cues period with
  | nil =>
    obtain ⟨hend, hlast⟩ := poised_followAll h hedges hquiet
    exact ⟨hend, hlast rfl (hcall.resolve_left fun hne => hne rfl)⟩
  | cons heading others ih =>
    rw [List.flatMap_cons] at hedges
    obtain ⟨before, after, rfl, hmid, hstopped, hrest, hquiet⟩ := poised_tap h hedges hquiet
    rw [followAll_append]
    exact ih hmid hrest hquiet (.inr hstopped)

end Station

end Beacon
