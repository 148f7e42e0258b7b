import Beacon.Ramp

/-!
# What one step of the period can do

A step towards faster blinking never makes the period longer, and one towards
slower blinking never makes it shorter.  Fixed steps need no condition for
that; a factor has to be a hundred percent at least.  The rules for settings
ask for more: a step has to lead somewhere, which is `Moves`.  Clamping keeps
the order of two periods, so the same holds of the steps of a ramp whose period
lies in its range.
-/

namespace Beacon

theorem Duration.eq_or_lt_of_le {a b : Duration} (h : a ≤ b) : a = b ∨ a < b := by
  rcases Nat.eq_or_lt_of_le (Duration.le_def.mp h) with heq | hlt
  · exact .inl (Duration.ext heq)
  · exact .inr hlt

theorem PeriodRange.clamp_le_clamp (range : PeriodRange) {a b : Duration} (h : a ≤ b) :
    range.clamp a ≤ range.clamp b := by
  rw [Duration.le_def] at h ⊢
  rw [nanos_clamp, nanos_clamp]
  omega

namespace PeriodStep

variable {percent : UInt16} {period : Duration}

/-! ## Factors

A factor is one product and one quotient, rounded down once, as long as the
product is a duration. -/

theorem nanos_shorten_of_fits (hpercent : 0 < percent.toNat)
    (hfits : period.nanos * 100 < Duration.limit) :
    ((scale percent).shorten period).nanos = period.nanos * 100 / percent.toNat := by
  have hne : percent.toNat ≠ 0 := Nat.ne_of_gt hpercent
  simp only [shorten, Duration.times?, Duration.ofNanos?_of_lt hfits, Option.bind_some,
    Duration.over?, if_neg hne, Option.getD_some]

theorem shorten_of_overflows (h : Duration.limit ≤ period.nanos * 100) :
    (scale percent).shorten period = period := by
  simp only [shorten, Duration.times?, Duration.ofNanos?_eq_none_iff.mpr h, Option.bind_none,
    Option.getD_none]

theorem nanos_lengthen_of_fits (hfits : period.nanos * percent.toNat < Duration.limit) :
    ((scale percent).lengthen period).nanos = period.nanos * percent.toNat / 100 := by
  have hne : ¬(100 = 0) := by decide
  simp only [lengthen, Duration.times?, Duration.ofNanos?_of_lt hfits, Option.bind_some,
    Duration.over?, if_neg hne, Option.getD_some]

theorem lengthen_of_overflows (h : Duration.limit ≤ period.nanos * percent.toNat) :
    (scale percent).lengthen period = .longest := by
  simp only [lengthen, Duration.times?, Duration.ofNanos?_eq_none_iff.mpr h, Option.bind_none,
    Option.getD_none]

/-! ## Bounds -/

/-- A factor is a hundred percent at least. -/
def Widens : PeriodStep → Prop
  | .fixed _ => True
  | .scale percent => 100 ≤ percent.toNat

/-- A positive length, or a factor above a hundred percent. -/
def Moves : PeriodStep → Prop
  | .fixed ms => 0 < ms.toNat
  | .scale percent => 100 < percent.toNat

theorem Moves.widens {step : PeriodStep} (h : step.Moves) : step.Widens := by
  cases step with
  | fixed ms => trivial
  | scale percent => exact Nat.le_of_lt h

theorem shorten_le {step : PeriodStep} (h : step.Widens) (period : Duration) :
    step.shorten period ≤ period := by
  cases step with
  | fixed ms => exact Nat.sub_le _ _
  | scale percent =>
    have hpercent : 100 ≤ percent.toNat := h
    by_cases hfits : period.nanos * 100 < Duration.limit
    · rw [Duration.le_def, nanos_shorten_of_fits (by omega) hfits]
      exact Nat.div_le_of_le_mul (by rw [Nat.mul_comm]; exact Nat.mul_le_mul_right _ hpercent)
    · rw [shorten_of_overflows (Nat.le_of_not_lt hfits)]
      exact Nat.le_refl _

theorem le_lengthen {step : PeriodStep} (h : step.Widens) (period : Duration) :
    period ≤ step.lengthen period := by
  cases step with
  | fixed ms =>
    have hmost := period.nanos_le_longest
    rw [Duration.le_def]
    show period.nanos ≤ (period + Duration.ofMillis ms.toUInt64).nanos
    rw [Duration.nanos_add]
    omega
  | scale percent =>
    have hpercent : 100 ≤ percent.toNat := h
    by_cases hfits : period.nanos * percent.toNat < Duration.limit
    · rw [Duration.le_def, nanos_lengthen_of_fits hfits, Nat.le_div_iff_mul_le (by decide)]
      exact Nat.mul_le_mul_left _ hpercent
    · rw [lengthen_of_overflows (Nat.le_of_not_lt hfits)]
      exact period.nanos_le_longest

end PeriodStep

namespace Ramp

variable {ramp : Ramp}

theorem next_faster_le (h : ramp.step.Widens) (hin : ramp.range.clamp ramp.period = ramp.period) :
    ramp.next (some .faster) ≤ ramp.period := by
  have hclamp := ramp.range.clamp_le_clamp (PeriodStep.shorten_le h ramp.period)
  rw [hin] at hclamp
  exact hclamp

theorem le_next_slower (h : ramp.step.Widens) (hin : ramp.range.clamp ramp.period = ramp.period) :
    ramp.period ≤ ramp.next (some .slower) := by
  have hclamp := ramp.range.clamp_le_clamp (PeriodStep.le_lengthen h ramp.period)
  rw [hin] at hclamp
  exact hclamp

end Ramp

/-! ## Settings that keep every rule -/

namespace Settings.Valid

variable {settings : Settings}

theorem moves (h : settings.Valid) : settings.step.Moves := by
  have hfixed := h .fixedStepPositive
  have hscale := h .scaleStepAboveHundred
  unfold Rule.holds at hfixed hscale
  cases hstep : settings.step with
  | fixed ms =>
    rw [hstep] at hfixed
    exact UInt32.lt_iff_toNat_lt.mp (of_decide_eq_true hfixed)
  | scale percent =>
    rw [hstep] at hscale
    exact UInt16.lt_iff_toNat_lt.mp (of_decide_eq_true hscale)

theorem widens (h : settings.Valid) : settings.step.Widens := h.moves.widens

/-- The initial period is in range, so that clamping it changes nothing. -/
theorem home_eq (h : settings.Valid) : settings.home = settings.period := by
  obtain ⟨hshortest, hlongest⟩ := PeriodRange.contains_iff.mp (h .periodInRange)
  rw [Duration.le_def] at hshortest hlongest
  apply Duration.ext
  show (settings.range.clamp settings.period).nanos = _
  rw [PeriodRange.nanos_clamp]
  omega

end Settings.Valid

end Beacon
