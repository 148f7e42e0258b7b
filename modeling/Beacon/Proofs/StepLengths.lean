import Beacon.Proofs.Controller.Hold
import Beacon.Proofs.Controller.Phases
import Beacon.Proofs.StepBounds

/-!
# How far one step goes

A period that settings can hold is no longer than thirty-two bits of
milliseconds.  A product of such a period with any factor is still a duration,
so no step of it falls back on anything: a fixed step is a difference or a sum
of nanoseconds, and a factor is one product and one quotient, rounded down
once.

* The `nanos_…` lemmas say so of each kind of step.
* `shorten_lt` and `lt_lengthen`: a step that leads somewhere leads somewhere
  from every period of a hundred nanoseconds or more.  Below that, rounding
  might take back what the factor adds.
* `Settings.Allows` are the periods of the range, where every step ends:
  `allows_stepped`.  The `nanos_stepped_…` lemmas say where exactly.
-/

namespace Beacon

/-- A period that settings can hold: thirty-two bits of milliseconds at most. -/
def Duration.IsSettable (period : Duration) : Prop :=
  period.nanos ≤ (UInt32.size - 1) * 1000000

/-- A product with a factor of sixteen bits is a duration still. -/
theorem Duration.IsSettable.mul_lt_limit {period : Duration} (h : period.IsSettable) {factor : Nat}
    (hfactor : factor < UInt16.size) : period.nanos * factor < Duration.limit := by
  calc
    period.nanos * factor ≤ (UInt32.size - 1) * 1000000 * UInt16.size :=
      Nat.mul_le_mul h (Nat.le_of_lt hfactor)
    _ < Duration.limit := by decide

namespace PeriodStep

variable {period : Duration} {ms : UInt32} {percent : UInt16} {step : PeriodStep}

/-! ## Exact lengths -/

theorem nanos_shorten_fixed (ms : UInt32) (period : Duration) :
    ((fixed ms).shorten period).nanos = period.nanos - ms.toNat * 1000000 := by
  simp [shorten]

theorem nanos_lengthen_fixed (h : period.IsSettable) (ms : UInt32) :
    ((fixed ms).lengthen period).nanos = period.nanos + ms.toNat * 1000000 := by
  have hms := ms.toNat_lt
  have hsum : period.nanos + ms.toNat * 1000000 ≤ Duration.limit - 1 := by
    unfold Duration.IsSettable at h
    simp only [UInt32.size, Duration.limit, UInt64.size] at h ⊢
    omega
  simp only [lengthen, Duration.nanos_add, Duration.nanos_ofMillis, UInt32.toNat_toUInt64]
  exact Nat.min_eq_left hsum

theorem nanos_shorten_scale (h : period.IsSettable) (hpercent : 0 < percent.toNat) :
    ((scale percent).shorten period).nanos = 100 * period.nanos / percent.toNat := by
  rw [nanos_shorten_of_fits hpercent (h.mul_lt_limit (show 100 < UInt16.size by decide)),
    Nat.mul_comm]

theorem nanos_lengthen_scale (h : period.IsSettable) (percent : UInt16) :
    ((scale percent).lengthen period).nanos = percent.toNat * period.nanos / 100 := by
  rw [nanos_lengthen_of_fits (h.mul_lt_limit percent.toNat_lt), Nat.mul_comm]

/-! ## Steps that lead somewhere -/

theorem shorten_lt (h : step.Moves) (hsettable : period.IsSettable) (hpos : 0 < period.nanos) :
    step.shorten period < period := by
  rw [Duration.lt_def]
  cases step with
  | fixed ms =>
    have hms : 0 < ms.toNat := h
    rw [nanos_shorten_fixed]
    omega
  | scale percent =>
    have hpercent : 100 < percent.toNat := h
    rw [nanos_shorten_scale hsettable (by omega), Nat.div_lt_iff_lt_mul (by omega),
      Nat.mul_comm period.nanos]
    exact Nat.mul_lt_mul_of_pos_right hpercent hpos

theorem lt_lengthen (h : step.Moves) (hsettable : period.IsSettable)
    (hlong : 100 ≤ period.nanos) : period < step.lengthen period := by
  rw [Duration.lt_def]
  cases step with
  | fixed ms =>
    have hms : 0 < ms.toNat := h
    rw [nanos_lengthen_fixed hsettable]
    omega
  | scale percent =>
    have hpercent : 101 ≤ percent.toNat := h
    have hproduct := Nat.mul_le_mul_right period.nanos hpercent
    rw [nanos_lengthen_scale hsettable]
    omega

end PeriodStep

namespace Settings

variable {settings : Settings} {period : Duration}

/-- The longest period of any settings is one that settings can hold. -/
theorem isSettable_of_le_longest (h : period ≤ settings.range.longest) : period.IsSettable := by
  have hmost : settings.longestMs.toNat ≤ UInt32.size - 1 :=
    Nat.le_sub_one_of_lt settings.longestMs.toNat_lt
  have hnanos : period.nanos ≤ settings.longestMs.toNat * 1000000 := by
    simpa [Duration.le_def, range] using h
  exact Nat.le_trans hnanos (Nat.mul_le_mul_right _ hmost)

/-! ## Steps within the range -/

/-- A period within the range. -/
def Allows (settings : Settings) (period : Duration) : Prop :=
  settings.range.shortest ≤ period ∧ period ≤ settings.range.longest

theorem allows_stepped (hvalid : settings.Valid) (heading : Heading) (period : Duration) :
    settings.Allows (settings.stepped heading period) :=
  PeriodRange.mem_of_clamp_eq (PeriodRange.clamp_clamp _ _) hvalid.shortest_le_longest

theorem nanos_stepped_faster (settings : Settings) (period : Duration) :
    (settings.stepped .faster period).nanos =
      min (max (settings.step.shorten period).nanos settings.range.shortest.nanos)
        settings.range.longest.nanos :=
  PeriodRange.nanos_clamp _ _

theorem nanos_stepped_slower (settings : Settings) (period : Duration) :
    (settings.stepped .slower period).nanos =
      min (max (settings.step.lengthen period).nanos settings.range.shortest.nanos)
        settings.range.longest.nanos :=
  PeriodRange.nanos_clamp _ _

end Settings

end Beacon
