import Beacon.Proofs.Station.Session

/-!
# The two copies of the period in a session

The blinker and the pacer may be made from different settings, and nobody
need have checked either.  This module follows the two periods through a
whole session.

* `InRange`: the blinker's range leaves the blinker's period alone.  It
  holds from the start, since a period is only ever set to a clamped one.
* `Together`: both copies hold one period.  The first adjustment of a
  session brings it about, and nothing breaks it: `Adjusted.together`.
* When both are made from the same settings, the pacer asks only for
  periods that the blinker's range leaves alone: `MadeFrom.clamp_asked`.
-/

namespace Beacon

theorem PeriodRange.mem_of_clamp_eq {range : PeriodRange} {period : Duration}
    (h : range.clamp period = period) (horder : range.shortest ≤ range.longest) :
    range.shortest ≤ period ∧ period ≤ range.longest := by
  have hnanos := congrArg Duration.nanos h
  rw [nanos_clamp] at hnanos
  rw [Duration.le_def] at horder
  constructor
  · rw [Duration.le_def]
    omega
  · rw [Duration.le_def]
    omega

/-- An inverted range has one period only. -/
theorem PeriodRange.eq_longest_of_clamp_eq {range : PeriodRange} {period : Duration}
    (h : range.clamp period = period) (horder : ¬range.shortest ≤ range.longest) :
    period = range.longest := by
  have hnanos := congrArg Duration.nanos h
  rw [nanos_clamp] at hnanos
  rw [Duration.le_def] at horder
  apply Duration.ext
  omega

namespace Controller

variable {blinker pacer : Settings} {c after : Controller} {asked : Option Duration}

/-! ## What the pacer asks for -/

theorem MadeFrom.clamp_next (h : MadeFrom blinker pacer c) (heading : Option Heading) :
    pacer.range.clamp (c.pacer.ramp.next heading) = c.pacer.ramp.next heading := by
  rw [← h.rampRange]
  exact PeriodRange.clamp_clamp _ _

theorem MadeFrom.clamp_askedBy (h : MadeFrom blinker pacer c) {edge : Edge} {wanted : Duration}
    (hasked : c.askedBy edge = some wanted) : pacer.range.clamp wanted = wanted := by
  rcases edge.cases with ⟨heading, rfl⟩ | ⟨heading, rfl⟩ | rfl | rfl
  · rw [askedBy_press] at hasked
    split at hasked
    · cases hasked
    · cases hasked
      exact h.clamp_next _
  · rw [askedBy_release] at hasked
    cases hasked
  · have hhome : c.pacer.home = wanted := Option.some.inj hasked
    rw [← hhome, h.home]
    exact PeriodRange.clamp_clamp _ _
  · cases hasked

theorem MadeFrom.clamp_asked (h : MadeFrom blinker pacer c) {stimulus : Stimulus}
    {wanted : Duration} (hasked : c.asked? stimulus = some wanted) :
    pacer.range.clamp wanted = wanted := by
  rcases hconfirmed : c.confirmed? stimulus with _ | edge
  · cases stimulus with
    | repeatExpired count =>
      simp only [asked?, repeated?] at hasked
      split at hasked
      · cases hasked
      · rw [Option.map_eq_some_iff] at hasked
        obtain ⟨heading, -, rfl⟩ := hasked
        exact h.clamp_next _
    | seed | settle | begin | woke | edge | blinkExpired | reset =>
      simp [asked?, hconfirmed] at hasked
  · rw [asked?_of_confirmed hconfirmed] at hasked
    exact h.clamp_askedBy hasked

/-! ## The invariants -/

/-- The blinker's period is one that its range leaves alone. -/
def InRange (c : Controller) : Prop :=
  c.blinker.range.clamp c.blinker.period = c.blinker.period

/-- Both copies hold one period. -/
def Together (c : Controller) : Prop :=
  c.pacer.ramp.period = c.blinker.period

theorem Adjusted.inRange (h : Adjusted c asked after)
    (hrange : after.blinker.range = c.blinker.range) (hc : InRange c) : InRange after := by
  unfold InRange
  rw [hrange, h.period]
  cases asked with
  | none => exact hc
  | some wanted => exact PeriodRange.clamp_clamp _ wanted

theorem Adjusted.together (h : Adjusted c asked after) (hc : Together c ∨ asked ≠ none) :
    Together after := by
  unfold Together
  rw [h.period, h.rampPeriod]
  cases asked with
  | none =>
    rcases hc with htogether | hasked
    · exact htogether
    · exact absurd rfl hasked
  | some wanted => rfl

end Controller

namespace Station

variable {δ : Type} [Devices δ]

/-! ## Sessions -/

theorem together_undergoAll {s : Station δ} (h : s.controller.Together)
    (happenings : List (Happening δ)) : (s.undergoAll happenings).controller.Together := by
  induction happenings generalizing s with
  | nil => exact h
  | cons happening rest ih => exact ih ((s.adjusted_undergo happening).together (.inl h))

theorem inRange_undergoAll {blinker pacer : Settings} {s : Station δ}
    (hmade : s.controller.MadeFrom blinker pacer) (h : s.controller.InRange)
    (happenings : List (Happening δ)) : (s.undergoAll happenings).controller.InRange := by
  have hstep : ∀ c stimulus, (Controller.MadeFrom blinker pacer c ∧ c.InRange) →
      Controller.MadeFrom blinker pacer (c.react stimulus).1 ∧ (c.react stimulus).1.InRange := by
    rintro c stimulus ⟨hmade, hin⟩
    have hnext := hmade.react stimulus
    exact ⟨hnext, (c.adjusted_react stimulus).inRange (hnext.range.trans hmade.range.symm) hin⟩
  exact (keeps_undergoAll hstep ⟨hmade, h⟩ happenings).2

/-- In every session the blinker's period is in its range, the two copies are
one from the first adjustment on, and with the same settings on both sides
they always are, and the blinker takes what it is asked for. -/
theorem period_copies_agree (blinker pacer : Settings) (world : δ)
    (happenings : List (Happening δ)) :
    let start := Station.mk (.ofTwo blinker pacer) world
    let s := start.undergoAll happenings
    let period := s.controller.blinker.period
    blinker.range.clamp period = period ∧
      (blinker.range.shortest ≤ blinker.range.longest →
        blinker.range.shortest ≤ period ∧ period ≤ blinker.range.longest) ∧
      (¬blinker.range.shortest ≤ blinker.range.longest → period = blinker.range.longest) ∧
      (∀ before happening after, happenings = before ++ happening :: after →
        (start.undergoAll before).asked? happening ≠ none →
        s.controller.pacer.ramp.period = period) ∧
      (blinker = pacer → s.controller.pacer.ramp.period = period ∧
        ∀ happening wanted, s.asked? happening = some wanted →
          blinker.range.clamp wanted = wanted ∧
            (s.undergo happening).controller.blinker.period = wanted) := by
  intro start s period
  have hstart : start.controller.MadeFrom blinker pacer := Controller.madeFrom_ofTwo blinker pacer
  have hmade : s.controller.MadeFrom blinker pacer := madeFrom_undergoAll hstart happenings
  have hclamp : blinker.range.clamp period = period := by
    have hin := inRange_undergoAll hstart (PeriodRange.clamp_clamp _ _) happenings
    rw [Controller.InRange, hmade.range] at hin
    exact hin
  refine ⟨hclamp, PeriodRange.mem_of_clamp_eq hclamp, PeriodRange.eq_longest_of_clamp_eq hclamp,
    ?_, ?_⟩
  · rintro before happening after rfl hasked
    have hbrought := ((start.undergoAll before).adjusted_undergo happening).together (.inr hasked)
    have hend := together_undergoAll hbrought after
    rw [← undergoAll_cons, ← undergoAll_append] at hend
    exact hend
  · rintro rfl
    have hfirst : start.controller.Together := rfl
    refine ⟨together_undergoAll hfirst happenings, ?_⟩
    intro happening wanted hasked
    obtain ⟨stimulus, -, hstimulus⟩ := Option.bind_eq_some_iff.mp hasked
    have hwanted := hmade.clamp_asked hstimulus
    refine ⟨hwanted, ?_⟩
    rw [(s.adjusted_undergo happening).period, hasked, hmade.range]
    exact hwanted

/-- The blinker has an inverted range, the pacer another one in order, and the
lamp and the timers fail: a press makes the copies agree on the only period
that the blinker can have. -/
theorem period_copies_agree_inverted :
    let inverted : Settings := { shortestMs := 300, longestMs := 200 }
    let world : Bench :=
      { wiring := {}, lampFails := true, repeating := { armFails := true, disarmFails := true } }
    let start := Station.mk (.ofTwo inverted {}) world
    let s := start.undergoAll [.edge Heading.slower.press, .notify (.timer .blink)]
    start.controller.pacer.ramp.period ≠ start.controller.blinker.period ∧
      start.asked? (.edge Heading.slower.press) ≠ none ∧
      s.controller.pacer.ramp.period = s.controller.blinker.period ∧
      s.controller.blinker.period = inverted.range.longest := by
  intro inverted world
  have hasked : (Station.mk (.ofTwo inverted {}) world).asked? (.edge Heading.slower.press) ≠
      none := Option.some_ne_none _
  obtain ⟨-, -, hinverted, htogether, -⟩ :=
    period_copies_agree inverted {} world [.edge Heading.slower.press, .notify (.timer .blink)]
  exact ⟨by decide +kernel, hasked,
    htogether [] (.edge Heading.slower.press) [.notify (.timer .blink)] rfl hasked,
    hinverted (by decide +kernel)⟩

end Station

end Beacon
