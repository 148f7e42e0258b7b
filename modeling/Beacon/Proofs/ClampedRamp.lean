import Beacon.Proofs.Controller.Hold
import Beacon.Proofs.Controller.Phases

/-!
# The ramp of a hold

With steps of a fixed length the period of a hold is a straight line that ends
at the bound of the range.  Every step subtracts or adds the same amount and is
kept within the range by the pacer and once more by the blinker; as the period
was in the range before, the bounds might as well be applied once, at the end.

* `nanos_repeat_faster` and `nanos_repeat_slower` say so of the steps alone.
* `Station.clamped_ramp` says it of a button that is pressed in any reachable
  state in which no button is held.
-/

namespace Beacon.Settings

variable {settings : Settings} {start : Duration} {ms : UInt32}

theorem nanos_shortest (settings : Settings) :
    settings.range.shortest.nanos = settings.shortestMs.toNat * 1000000 := by
  simp [range]

theorem nanos_longest (settings : Settings) :
    settings.range.longest.nanos = settings.longestMs.toNat * 1000000 := by
  simp [range]

theorem nanos_repeat_faster (hstep : settings.step = .fixed ms)
    (hshortest : settings.range.shortest ≤ start) (hlongest : start ≤ settings.range.longest)
    (steps : Nat) :
    (Nat.repeat (settings.stepped .faster) steps start).nanos =
      max settings.range.shortest.nanos (start.nanos - steps * (ms.toNat * 1000000)) := by
  rw [Duration.le_def] at hshortest hlongest
  induction steps with
  | zero =>
    simp only [Nat.repeat, Nat.zero_mul, Nat.sub_zero]
    exact (Nat.max_eq_right hshortest).symm
  | succ steps ih =>
    have hone : (Nat.repeat (settings.stepped .faster) (steps + 1) start).nanos =
        min (max ((Nat.repeat (settings.stepped .faster) steps start).nanos -
          ms.toNat * 1000000) settings.range.shortest.nanos) settings.range.longest.nanos := by
      simp [Nat.repeat, stepped, hstep, PeriodStep.shorten]
    rw [hone, ih, Nat.succ_mul]
    clear hone ih
    generalize settings.range.shortest.nanos = shortest at hshortest ⊢
    generalize settings.range.longest.nanos = longest at hlongest ⊢
    generalize ms.toNat * 1000000 = step
    omega

theorem nanos_repeat_slower (hstep : settings.step = .fixed ms)
    (hshortest : settings.range.shortest ≤ start) (hlongest : start ≤ settings.range.longest)
    (steps : Nat) :
    (Nat.repeat (settings.stepped .slower) steps start).nanos =
      min settings.range.longest.nanos (start.nanos + steps * (ms.toNat * 1000000)) := by
  rw [Duration.le_def] at hshortest hlongest
  induction steps with
  | zero =>
    simp only [Nat.repeat, Nat.zero_mul, Nat.add_zero]
    exact (Nat.min_eq_right hlongest).symm
  | succ steps ih =>
    have hmost := settings.range.longest.nanos_le_longest
    have hone : (Nat.repeat (settings.stepped .slower) (steps + 1) start).nanos =
        min (max (min ((Nat.repeat (settings.stepped .slower) steps start).nanos +
          ms.toNat * 1000000) (Duration.limit - 1)) settings.range.shortest.nanos)
          settings.range.longest.nanos := by
      simp [Nat.repeat, stepped, hstep, PeriodStep.lengthen]
    rw [hone, ih, Nat.succ_mul]
    clear hone ih
    generalize settings.range.shortest.nanos = shortest at hshortest ⊢
    generalize settings.range.longest.nanos = longest at hlongest hmost ⊢
    generalize ms.toNat * 1000000 = step
    generalize Duration.limit - 1 = most at hmost ⊢
    omega

end Beacon.Settings

namespace Beacon.Station

variable {δ : Type} [Devices δ]

/-- Steps have a fixed length, nobody is held, and a press is accepted.  After
any script that neither releases the button nor resets, whatever else it holds
and whatever fails, the period is as many steps further as there were
repetitions, and one more, but not beyond the bound. -/
theorem clamped_ramp (settings : Settings) (hvalid : settings.check = .ok ()) {ms : UInt32}
    (hstep : settings.step = .fixed ms) (world : δ) (history : List (Happening δ))
    (heading : Heading) (press : Stimulus) (script : List (Cue δ)) :
    let s := (Station.mk (.ofSettings settings) (Observed.mk world [])).undergoAll
      (history.map Happening.observed)
    (∀ other : Heading, s.controller.pacer.isHeld other.button = false) →
      s.controller.confirmed? press = some heading.press →
      (s.follow (.tell press)).Spared heading script →
      let before := s.controller.blinker.period.nanos
      let after := ((s.follow (.tell press)).followAll script).controller
      let moved := (script.countP Cue.isRepetition + 1) * (ms.toNat * 1000000)
      after.blinker.period.nanos =
          (match heading with
          | .faster => max (settings.shortestMs.toNat * 1000000) (before - moved)
          | .slower => min (settings.longestMs.toNat * 1000000) (before + moved)) ∧
        after.pacer.ramp.period = after.blinker.period := by
  intro s hidle hpress hspared before after moved
  have hrules : settings.Valid := Settings.check_eq_ok_iff.mp hvalid
  have hticks : s.controller.Ticks settings settings :=
    keeps_undergoAll (fun _ stimulus h => h.react stimulus)
      (Controller.ticks_ofTwo settings settings) _
  have htogether : s.controller.Together :=
    together_undergoAll (s := ⟨.ofSettings settings, _⟩) rfl _
  obtain ⟨hshortest, hlongest⟩ := hticks.bounds hrules
  have hheld : ∀ other, s.controller.pacer.held other = false := by
    intro other
    rw [← Pacer.isHeld_button]
    exact hidle other
  have hhold := onHold_followAll (s := s.follow (.tell press))
    (Controller.OnHold.begins hticks.made htogether hheld hpress) hspared
  refine ⟨?_, hhold.together⟩
  rw [hhold.period, Nat.add_comm 1]
  cases heading with
  | faster =>
    rw [Settings.nanos_repeat_faster hstep hshortest hlongest, Settings.nanos_shortest]
  | slower =>
    rw [Settings.nanos_repeat_slower hstep hshortest hlongest, Settings.nanos_longest]

/-- Two steps of 180 ms would be possible before the shortest period of 50 ms; the
third one, to a count that cannot be read, ends at the bound.  Meanwhile the
repeat timer breaks, and the slower button is pressed beside. -/
theorem clamped_ramp_bottom :
    let settings : Settings := { step := .fixed 180 }
    let breaks : Bench → Bench := fun bench => bench.setFailing .repeatArm true
    let script : List (Cue Bench) :=
      [.change breaks, .tell (.repeatExpired (.ok 3)), .tell (.blinkExpired (.ok 1)),
        .tell (.edge Heading.slower.press), .tell (.repeatExpired (.ok 0)),
        .tell (.edge ⟨.k2, .released⟩), .tell (.repeatExpired (.error .read))]
    let history : List (Happening Bench) := [.startPacer, .startBlinker]
    let s := (Station.mk (.ofSettings settings) (Observed.mk ({ wiring := {} } : Bench) [])).undergoAll
      (history.map Happening.observed)
    let press : Stimulus := .woke .k1 (.ok true)
    settings.check = .ok () ∧ (∀ other : Heading, s.controller.pacer.isHeld other.button = false) ∧
      s.controller.confirmed? press = some Heading.faster.press ∧
      (s.follow (.tell press)).Spared .faster script ∧
      ((s.follow (.tell press)).followAll script).controller.blinker.period.nanos = 50000000 := by
  intro settings breaks script history s press
  have hvalid : settings.check = .ok () :=
    Settings.check_eq_ok_iff.mpr fun rule => by cases rule <;> decide +kernel
  have hidle : ∀ other : Heading, s.controller.pacer.isHeld other.button = false := by
    intro other
    cases other <;> decide +kernel
  have hpress : s.controller.confirmed? press = some Heading.faster.press := by decide +kernel
  have hspared : (s.follow (.tell press)).Spared .faster script := by
    refine ⟨?_, ?_, ?_, ?_, ?_, ?_, ?_, trivial⟩
    all_goals
      rintro stimulus h
      cases h
    all_goals exact ⟨by decide +kernel, by decide +kernel⟩
  obtain ⟨hperiod, -⟩ := clamped_ramp settings hvalid rfl ({ wiring := {} } : Bench) history
    .faster press script hidle hpress hspared
  refine ⟨hvalid, hidle, hpress, hspared, ?_⟩
  rw [hperiod]
  decide +kernel

end Beacon.Station
