import Beacon.Proofs.LosingButton

/-!
# Holding a button

From the press that makes a button drive until its release or a reset, the
period is moved by that button alone: one step at once, and one for each
notification of the repeat timer that is not stale.  What else happens in the
meantime makes no difference to it.

* `Settings.stepped` is one step in a direction, kept within the range.
* `asked?_of_led`: while a button drives, only a repetition asks for a period.
* `OnHold` is the invariant.  `OnHold.begins` says that an accepted press
  establishes it with one step made, `OnHold.react` what an answer adds, and
  `onHold_followAll` what a script adds.
-/

namespace Beacon

/-- The period one step further in a direction, kept within the range. -/
def Settings.stepped (settings : Settings) (heading : Heading) (period : Duration) : Duration :=
  settings.range.clamp <|
    match heading with
    | .faster => settings.step.shorten period
    | .slower => settings.step.lengthen period

/-- Whether a stimulus is an expiry of the repeat timer that is not stale. A
count that cannot be read is none that is stale. -/
def Stimulus.isRepetition : Stimulus → Bool
  | .repeatExpired (.ok 0) => false
  | .repeatExpired _ => true
  | _ => false

theorem Stimulus.isRepetition_of_ne_zero {count : Count} (h : count ≠ .ok 0) :
    (repeatExpired count).isRepetition = true := by
  unfold isRepetition
  split
  · next hzero =>
    cases hzero
    exact absurd rfl h
  · rfl
  · next hother => exact absurd rfl (hother count)

/-- Whether a cue tells of an expiry of the repeat timer that is not stale. -/
def Cue.isRepetition {δ : Type} : Cue δ → Bool
  | .change _ => false
  | .tell stimulus => stimulus.isRepetition

namespace Controller

variable {settings : Settings} {c : Controller} {heading : Heading} {stimulus : Stimulus}

theorem MadeFrom.next_eq (h : MadeFrom settings settings c) (heading : Heading) :
    c.pacer.ramp.next (some heading) = settings.stepped heading c.pacer.ramp.period := by
  unfold Ramp.next Settings.stepped
  rw [h.rampRange, h.rampStep]
  cases heading <;> rfl

theorem repeated?_eq_of_drives (hdrives : c.heading = some heading) (count : Count) :
    c.repeated? count =
      if (Stimulus.repeatExpired count).isRepetition then some (c.pacer.ramp.next (some heading))
      else none := by
  unfold repeated? Stimulus.isRepetition
  rw [hdrives]
  split
  · rfl
  · next hcount =>
    split
    · next hzero =>
      cases hzero
      exact absurd rfl hcount
    · rfl
    · next hother => exact absurd rfl (hother count)

/-- While a button drives, only a repetition asks for a period. -/
theorem asked?_of_led (h : c.LedBy heading) (hspares : c.Spares heading stimulus) :
    c.asked? stimulus =
      if stimulus.isRepetition then some (c.pacer.ramp.next (some heading)) else none := by
  by_cases hrepeat : ∃ count, stimulus = .repeatExpired count
  · obtain ⟨count, rfl⟩ := hrepeat
    exact repeated?_eq_of_drives h.drives count
  · have hnone : stimulus.isRepetition = false := by
      cases stimulus with
      | repeatExpired count => exact absurd ⟨count, rfl⟩ hrepeat
      | seed | settle | begin | woke | edge | blinkExpired | reset => rfl
    rw [hnone, if_neg Bool.false_ne_true]
    refine Decidable.byContradiction fun hasked => ?_
    rcases asked?_ne_none_iff.mp hasked with ⟨-, -, hidle⟩ | hreset | ⟨count, hcount, -⟩
    · exact Bool.false_ne_true ((hidle heading).symm.trans h.held)
    · exact hspares.2 hreset
    · exact hrepeat ⟨count, hcount⟩

/-! ## The invariant -/

/-- A button drives since a press at some period, and has made so many steps. -/
structure OnHold (settings : Settings) (heading : Heading) (start : Duration) (steps : Nat)
    (c : Controller) : Prop where
  made : c.MadeFrom settings settings
  led : c.LedBy heading
  together : c.Together
  period : c.blinker.period = Nat.repeat (settings.stepped heading) steps start

/-- Whoever asks for one step in a direction gets it: a step stays within the
range by itself, so that the blinker has nothing to cut off. -/
theorem Adjusted.stepped {after : Controller} (hmade : c.MadeFrom settings settings)
    (htogether : c.Together)
    (h : c.Adjusted (some (c.pacer.ramp.next (some heading))) after) :
    after.blinker.period = settings.stepped heading c.blinker.period := by
  have hperiod : c.pacer.ramp.period = c.blinker.period := htogether
  rw [h.period, Option.map_some, Option.getD_some, hmade.range, hmade.clamp_next, hmade.next_eq,
    hperiod]

/-- An accepted press begins a hold, with one step at once. -/
theorem OnHold.begins (hmade : c.MadeFrom settings settings) (htogether : c.Together)
    (hidle : ∀ other, c.pacer.held other = false)
    (hpress : c.confirmed? stimulus = some heading.press) :
    OnHold settings heading c.blinker.period 1 (c.react stimulus).1 := by
  have hasked : c.asked? stimulus = some (c.pacer.ramp.next (some heading)) := by
    rw [asked?_of_confirmed hpress, askedBy_press, (c.pacer.idle_iff heading).mpr hidle]
    rfl
  have hadjusted := c.adjusted_react stimulus
  have hnext := hmade.react stimulus
  have hreact : (c.react stimulus).1 = ((c.heard stimulus).press heading).1 := by
    rw [react_of_confirmed hpress, edge_press]
  refine ⟨hnext, ⟨?_, ?_, hnext.id⟩, hadjusted.together (.inl htogether), ?_⟩
  · rw [hreact, heading_press]
    simp [hidle]
  · rw [hreact, held_press, if_pos rfl]
  · rw [hasked] at hadjusted
    exact hadjusted.stepped hmade htogether

/-- As long as the button is neither released nor reset, an answer adds one
step if it is one to a repetition, and else none. -/
theorem OnHold.react {start : Duration} {steps : Nat}
    (h : OnHold settings heading start steps c) (hspares : c.Spares heading stimulus) :
    OnHold settings heading start (steps + stimulus.isRepetition.toNat) (c.react stimulus).1 := by
  have hadjusted := c.adjusted_react stimulus
  refine ⟨h.made.react stimulus, h.led.react hspares, hadjusted.together (.inl h.together), ?_⟩
  rw [asked?_of_led h.led hspares] at hadjusted
  cases hrepeat : stimulus.isRepetition with
  | false =>
    rw [hrepeat, if_neg Bool.false_ne_true] at hadjusted
    exact hadjusted.period.trans h.period
  | true =>
    rw [hrepeat, if_pos rfl] at hadjusted
    rw [hadjusted.stepped h.made h.together, h.period]
    rfl

end Controller

namespace Station

variable {δ : Type} [Devices δ] {settings : Settings} {heading : Heading} {start : Duration}

/-- A script in which the button is neither released nor reset adds one step for
each repetition, whatever else it holds and whatever fails. -/
theorem onHold_followAll {s : Station (Observed δ)} {steps : Nat}
    (h : Controller.OnHold settings heading start steps s.controller) {cues : List (Cue δ)}
    (hspared : s.Spared heading cues) :
    Controller.OnHold settings heading start (steps + cues.countP Cue.isRepetition)
      (s.followAll cues).controller := by
  induction cues generalizing s steps with
  | nil => exact h
  | cons cue rest ih =>
    obtain ⟨hspares, hrest⟩ := hspared
    have hnext : Controller.OnHold settings heading start (steps + cue.isRepetition.toNat)
        (s.follow cue).controller := by
      cases cue with
      | change f => exact h
      | tell stimulus => exact h.react (hspares stimulus rfl)
    have hcount : steps + (cue :: rest).countP Cue.isRepetition =
        steps + cue.isRepetition.toNat + rest.countP Cue.isRepetition := by
      rw [List.countP_cons]
      cases cue.isRepetition
      · simp
      · simp; omega
    rw [hcount]
    exact ih hnext hrest

end Station

end Beacon
