import Beacon.Proofs.EventJournal
import Beacon.Proofs.StepLengths
import Beacon.Proofs.Station.Taps

/-!
# Opposite taps cancel

A tap and a tap of the other button lead back to the period that was, as far
as rounding lets them.  A fixed step adds what it takes away.  A factor is
rounded down on the way there and on the way back, and what both lose together
is bounded.

* `PeriodStep.scaled_back` and `PeriodStep.scaled_forth` are the two round trips
  of a factor, in nanoseconds.
* `Settings.HasRoom`: a step has room if nothing of it is clamped off.  Then the
  round trip of a period is that of its nanoseconds: `Settings.recovers_faster`
  and `Settings.recovers_slower`.
* `Station.opposite_taps_cancel` says so of two taps in any reachable state
  with both buttons idle.
-/

namespace Beacon

/-! ## Round trips -/

namespace PeriodStep

variable {percent : Nat}

/-- Multiplied and divided again, a period loses a nanosecond unless the
multiplication comes out even. -/
theorem scaled_back (nanos : Nat) (hpercent : 100 < percent) :
    100 * (percent * nanos / 100) / percent =
      if 100 ∣ percent * nanos then nanos else nanos - 1 := by
  split
  · next heven =>
    rw [Nat.mul_div_cancel' heven]
    exact Nat.mul_div_cancel_left nanos (by omega)
  · next hodd =>
    cases nanos with
    | zero => exact absurd (Nat.dvd_zero 100) hodd
    | succ nanos =>
      have hlost : 100 * (percent * (nanos + 1) / 100) < percent * (nanos + 1) := by omega
      have hmost : percent * (nanos + 1) < 100 * (percent * (nanos + 1) / 100) + percent := by
        omega
      rw [Nat.add_sub_cancel]
      apply Nat.div_eq_of_lt_le
      · rw [Nat.mul_succ, Nat.mul_comm percent nanos] at hmost hlost ⊢
        omega
      · rw [Nat.mul_comm (nanos + 1)]
        omega

/-- A hundredth part, rounded up. -/
def hundredth (n : Nat) : Nat := (n + 99) / 100

/-- Divided and multiplied again, a period loses a hundredth of what the division
left over. -/
theorem scaled_forth (nanos : Nat) (hpercent : 0 < percent) :
    percent * (100 * nanos / percent) / 100 ≤ nanos ∧
      nanos ≤ percent * (100 * nanos / percent) / 100 + hundredth (percent - 1) := by
  have hmost : percent * (100 * nanos / percent) ≤ 100 * nanos := Nat.mul_div_le _ _
  have hlost : 100 * nanos < percent * (100 * nanos / percent) + percent :=
    Nat.lt_mul_div_succ _ hpercent
  unfold hundredth
  omega

end PeriodStep

namespace Settings

variable {settings : Settings} {heading : Heading} {period : Duration}

/-- A step from a period stays within the range by itself. -/
def HasRoom (settings : Settings) (heading : Heading) (period : Duration) : Prop :=
  match heading with
  | .faster => settings.range.shortest ≤ settings.step.shorten period
  | .slower => settings.step.lengthen period ≤ settings.range.longest

/-- What a step in a direction and one in the other direction make of a period. -/
def Recovers (settings : Settings) (heading : Heading) (before after : Duration) : Prop :=
  match settings.step, heading with
  | .fixed _, _ => after = before
  | .scale percent, .slower =>
    (100 ∣ percent.toNat * before.nanos → after = before) ∧
      (¬100 ∣ percent.toNat * before.nanos →
        after.nanos = max settings.range.shortest.nanos (before.nanos - 1))
  | .scale percent, .faster =>
    after ≤ before ∧ before.nanos ≤ after.nanos + PeriodStep.hundredth (percent.toNat - 1)

theorem stepped_faster_of_room (hvalid : settings.Valid) (hallows : settings.Allows period)
    (hroom : settings.HasRoom .faster period) :
    (settings.stepped .faster period).nanos = (settings.step.shorten period).nanos := by
  have hstep := Duration.le_def.mp (PeriodStep.shorten_le hvalid.widens period)
  have hlongest := Duration.le_def.mp hallows.2
  rw [HasRoom, Duration.le_def] at hroom
  rw [nanos_stepped_faster]
  omega

theorem stepped_slower_of_room (hvalid : settings.Valid) (hallows : settings.Allows period)
    (hroom : settings.HasRoom .slower period) :
    (settings.stepped .slower period).nanos = (settings.step.lengthen period).nanos := by
  have hstep := Duration.le_def.mp (PeriodStep.le_lengthen hvalid.widens period)
  have hshortest := Duration.le_def.mp hallows.1
  rw [HasRoom, Duration.le_def] at hroom
  rw [nanos_stepped_slower]
  omega

theorem recovers_faster (hvalid : settings.Valid) (hallows : settings.Allows period)
    (hroom : settings.HasRoom .faster period) :
    settings.Recovers .faster period
      (settings.stepped .slower (settings.stepped .faster period)) := by
  have hthere := allows_stepped hvalid .faster period
  have hlong := (hvalid.divides hthere.1 hthere.2).hundred_le
  have hthere := isSettable_of_le_longest hthere.2
  have hsettable := isSettable_of_le_longest hallows.2
  have hmoves := hvalid.moves
  have hstep := stepped_faster_of_room hvalid hallows hroom
  have hback := nanos_stepped_slower settings (settings.stepped .faster period)
  obtain ⟨hshortest, hlongest⟩ := hallows
  rw [Duration.le_def] at hshortest hlongest
  unfold Recovers
  rcases hkind : settings.step with ms | percent
  · simp only [hkind] at hstep hback ⊢
    rw [PeriodStep.nanos_shorten_fixed] at hstep
    rw [PeriodStep.nanos_lengthen_fixed hthere] at hback
    apply Duration.ext
    omega
  · rw [hkind] at hstep hback hmoves
    have hpercent : 100 < percent.toNat := hmoves
    obtain ⟨hmost, hleast⟩ := PeriodStep.scaled_forth period.nanos (Nat.zero_lt_of_lt hpercent)
    rw [PeriodStep.nanos_shorten_scale hsettable (Nat.zero_lt_of_lt hpercent)] at hstep
    rw [PeriodStep.nanos_lengthen_scale hthere, hstep] at hback
    simp only [Duration.le_def]
    omega

theorem recovers_slower (hvalid : settings.Valid) (hallows : settings.Allows period)
    (hroom : settings.HasRoom .slower period) :
    settings.Recovers .slower period
      (settings.stepped .faster (settings.stepped .slower period)) := by
  have hthere := isSettable_of_le_longest (allows_stepped hvalid .slower period).2
  have hsettable := isSettable_of_le_longest hallows.2
  have hmoves := hvalid.moves
  have hstep := stepped_slower_of_room hvalid hallows hroom
  have hback := nanos_stepped_faster settings (settings.stepped .slower period)
  obtain ⟨hshortest, hlongest⟩ := hallows
  rw [Duration.le_def] at hshortest hlongest
  unfold Recovers
  rcases hkind : settings.step with ms | percent
  · simp only [hkind] at hstep hback ⊢
    rw [PeriodStep.nanos_lengthen_fixed hsettable] at hstep
    rw [PeriodStep.nanos_shorten_fixed] at hback
    apply Duration.ext
    omega
  · rw [hkind] at hstep hback hmoves
    have hpercent : 100 < percent.toNat := hmoves
    rw [PeriodStep.nanos_lengthen_scale hsettable] at hstep
    rw [PeriodStep.nanos_shorten_scale hthere (Nat.zero_lt_of_lt hpercent), hstep,
      PeriodStep.scaled_back period.nanos hpercent] at hback
    constructor
    · intro heven
      rw [if_pos heven] at hback
      apply Duration.ext
      omega
    · intro hodd
      rw [if_neg hodd] at hback
      omega

end Settings

namespace Station

variable {δ : Type} [Devices δ]

/-- Both buttons are idle, and a script taps one of them and then the other, with
nothing to repeat in between, whatever else it holds and whatever fails.  If
the first step has room, both copies of the period end where they began, up to
rounding.  In any case no button drives afterwards, and the repeat timer has
been told to stop. -/
theorem opposite_taps_cancel (settings : Settings) (hvalid : settings.check = .ok ()) (world : δ)
    (history : List (Happening δ)) (heading : Heading) (script : List (Cue δ)) :
    let s := (Station.mk (.ofSettings settings) (Observed.mk world [])).undergoAll
      (history.map Happening.observed)
    (∀ other : Heading, s.controller.pacer.isHeld other.button = false) →
      s.edges script = heading.tap ++ heading.opposite.tap → s.Unrepeated script →
      let before := s.controller.blinker.period
      let after := (s.followAll script).controller.blinker.period
      (settings.HasRoom heading before → settings.Recovers heading before after) ∧
        (s.followAll script).controller.pacer.ramp.period = after ∧
        (s.followAll script).controller.heading = none ∧
        (s.followAll script).devices.lastCall = some .disarm := by
  intro s hidle hedges hquiet before after
  have hrules : settings.Valid := Settings.check_eq_ok_iff.mp hvalid
  have hsound : s.controller.Sound settings :=
    sound_undergoAll (Controller.sound_ofSettings settings) _
  have hallows : settings.Allows before :=
    Controller.Ticks.bounds ⟨hsound.made, hsound.inRange⟩ hrules
  have hheld : ∀ other, s.controller.pacer.held other = false := by
    intro other
    rw [← Pacer.isHeld_button]
    exact hidle other
  have hpoised : s.controller.Poised settings none before :=
    ⟨hsound.made, hsound.together, rfl, hsound.heading_of_idle hheld, by simpa using hheld⟩
  have htaps : s.edges script = [heading, heading.opposite].flatMap Heading.tap := by
    simpa using hedges
  obtain ⟨hend, hstopped⟩ := poised_taps hpoised htaps hquiet (.inl (by simp))
  refine ⟨fun hroom => ?_, hend.together, hend.heading, hstopped⟩
  rw [show after = settings.stepped heading.opposite (settings.stepped heading before) from
    hend.period]
  cases heading with
  | faster => exact Settings.recovers_faster hrules hallows hroom
  | slower => exact Settings.recovers_slower hrules hallows hroom

/-- A first tap by one percent leaves a period that is no round number.  A slower tap and
a faster one cost it a nanosecond: the first of them is seen on the line, and
the lamp blinks and the timer breaks meanwhile. -/
theorem opposite_taps_cancel_odd :
    let settings : Settings := { step := .scale 101 }
    let history : List (Happening Bench) :=
      [.startPacer, .startBlinker, .edge Heading.faster.press, .edge Heading.faster.release]
    let script : List (Cue Bench) :=
      [.tell (.woke .k3 (.ok true)), .tell (.blinkExpired (.ok 1)), .tell (.repeatExpired (.ok 0)),
        .change fun bench => bench.setFailing .repeatArm true, .tell (.woke .k3 (.ok false)),
        .tell (.repeatExpired (.ok 1)), .tell (.edge Heading.faster.press),
        .tell (.edge Heading.faster.release)]
    let world : Bench := { wiring := {} }
    let s := (Station.mk (.ofSettings settings) (Observed.mk world [])).undergoAll
      (history.map Happening.observed)
    settings.check = .ok () ∧ (∀ other : Heading, s.controller.pacer.isHeld other.button = false) ∧
      s.edges script = Heading.slower.tap ++ Heading.faster.tap ∧ s.Unrepeated script ∧
      settings.HasRoom .slower s.controller.blinker.period ∧
      s.controller.blinker.period.nanos = 495049504 ∧
      (s.followAll script).controller.blinker.period.nanos = 495049503 := by
  intro settings history script world s
  have hvalid : settings.check = .ok () :=
    Settings.check_eq_ok_iff.mpr fun rule => by cases rule <;> decide +kernel
  have hidle : ∀ other : Heading, s.controller.pacer.isHeld other.button = false := by
    intro other
    cases other <;> decide +kernel
  have hedges : s.edges script = Heading.slower.tap ++ Heading.faster.tap := by decide +kernel
  have hquiet : s.Unrepeated script := by
    refine ⟨?_, ?_, ?_, ?_, ?_, ?_, ?_, ?_, trivial⟩
    all_goals decide +kernel
  have hroom : settings.HasRoom .slower s.controller.blinker.period := by
    show (_ : Duration) ≤ _
    decide +kernel
  have hbefore : s.controller.blinker.period.nanos = 495049504 := by decide +kernel
  have htaps := opposite_taps_cancel settings hvalid world history .slower script
  rw [show Station.undergoAll _ (history.map Happening.observed) = s from rfl] at htaps
  obtain ⟨hrecovers, -⟩ := htaps hidle hedges hquiet
  refine ⟨hvalid, hidle, hedges, hquiet, hroom, hbefore, ?_⟩
  obtain ⟨-, hodd⟩ := hrecovers hroom
  rw [hodd (by rw [hbefore]; decide), hbefore]
  decide +kernel

end Station

end Beacon
