import Beacon.Proofs.Duration.Words
import Beacon.Proofs.StepLengths

/-!
# Steps of every duration

A step is taken from whatever period there is, also from one so long that
the product with a factor is no duration any more.  A step towards faster
blinking then leaves the period as it is, and one towards slower blinking
goes to the longest duration; so the order of two periods survives.

* `shorten_le_shorten` and `lengthen_le_lengthen`: a step keeps the order of
  two periods, on either side of that threshold and across it.
* `shortenInWords` and `lengthenInWords` take a step word by word.  They
  never panic, and lead where `shorten` and `lengthen` lead.
* `exists_valid_iff_moves`: the steps that settings may have are those of a
  positive length and the factors above a hundred percent.
* `exactShorten` and `exactLengthen` are what a step makes of a number.
  `nanos_shorten` and `nanos_lengthen`: it makes the same of every period that
  settings can hold.
-/

namespace Beacon

/-- The range of any settings ends at a period that settings can hold. -/
theorem Settings.isSettable_clamp (settings : Settings) (period : Duration) :
    (settings.range.clamp period).IsSettable := by
  apply isSettable_of_le_longest
  rw [Duration.le_def, PeriodRange.nanos_clamp]
  exact Nat.min_le_right _ _

namespace PeriodStep

variable {step : PeriodStep} {period longer : Duration}

/-! ## Order -/

theorem shorten_le_shorten (h : step.Widens) (hle : period ≤ longer) :
    step.shorten period ≤ step.shorten longer := by
  cases step with
  | fixed ms => exact Nat.sub_le_sub_right hle _
  | scale percent =>
    have hpercent : 100 ≤ percent.toNat := h
    have hpos : 0 < percent.toNat := by omega
    by_cases hlonger : longer.nanos * 100 < Duration.limit
    · have hproduct := Nat.mul_le_mul_right 100 (Duration.le_def.mp hle)
      have hperiod := Nat.lt_of_le_of_lt hproduct hlonger
      rw [Duration.le_def, nanos_shorten_of_fits hpos hperiod, nanos_shorten_of_fits hpos hlonger]
      exact Nat.div_le_div_right hproduct
    · -- The longer period stays as it is, and the other one gets no longer.
      rw [shorten_of_overflows (Nat.le_of_not_lt hlonger)]
      exact Nat.le_trans (shorten_le h period) hle

theorem lengthen_le_lengthen (step : PeriodStep) (hle : period ≤ longer) :
    step.lengthen period ≤ step.lengthen longer := by
  cases step with
  | fixed ms =>
    have hnanos := Duration.le_def.mp hle
    rw [Duration.le_def]
    simp only [lengthen, Duration.nanos_add]
    omega
  | scale percent =>
    by_cases hlonger : longer.nanos * percent.toNat < Duration.limit
    · have hproduct := Nat.mul_le_mul_right percent.toNat (Duration.le_def.mp hle)
      have hperiod := Nat.lt_of_le_of_lt hproduct hlonger
      rw [Duration.le_def, nanos_lengthen_of_fits hperiod, nanos_lengthen_of_fits hlonger]
      exact Nat.div_le_div_right hproduct
    · rw [lengthen_of_overflows (Nat.le_of_not_lt hlonger)]
      exact Duration.nanos_le_longest _

/-! ## Word by word -/

/-- One step toward faster blinking, in words. -/
def shortenInWords (step : PeriodStep) (period : Duration) : Except Panic Duration :=
  match step with
  | .fixed ms => do
    let length ← Duration.ofMillisInWords ms.toUInt64
    let difference? ← period.minusInWords? length
    return difference?.getD .zero
  | .scale percent => do
    match ← period.timesInWords? 100 with
    | none => return period
    | some product =>
      let quotient? ← product.overInWords? percent.toNat
      return quotient?.getD period

/-- One step toward slower blinking, in words.  Here a division by nothing is
a panic. -/
def lengthenInWords (step : PeriodStep) (period : Duration) : Except Panic Duration :=
  match step with
  | .fixed ms => do
    let length ← Duration.ofMillisInWords ms.toUInt64
    let sum? ← period.plusInWords? length
    return sum?.getD .longest
  | .scale percent => do
    match ← period.timesInWords? percent.toNat with
    | none => return .longest
    | some product =>
      match ← product.overInWords? 100 with
      | none => throw .divisionByZero
      | some quotient => return quotient

theorem shortenInWords_eq (step : PeriodStep) (period : Duration) :
    step.shortenInWords period = .ok (step.shorten period) := by
  cases step with
  | fixed ms =>
    unfold shortenInWords
    simp only [Duration.ofMillisInWords_eq, Duration.minusInWords?_eq, Panic.ok_bind]
    by_cases hle : Duration.ofMillis ms.toUInt64 ≤ period
    · rw [if_pos hle]
      rfl
    · rw [if_neg hle]
      refine congrArg Except.ok (Duration.ext ?_)
      rw [Duration.le_def] at hle
      simp only [Option.getD_none, shorten, Duration.nanos_zero, Duration.nanos_sub]
      omega
  | scale percent =>
    have hpercent : percent.toNat < UInt32.size := Nat.lt_trans percent.toNat_lt (by decide)
    unfold shortenInWords shorten
    simp only [Duration.timesInWords?_eq period (show 100 < UInt32.size by decide), Panic.ok_bind]
    cases period.times? 100 with
    | none => rfl
    | some product =>
      simp only [Duration.overInWords?_eq product hpercent, Panic.ok_bind, Option.bind_some]
      rfl

theorem lengthenInWords_eq (step : PeriodStep) (period : Duration) :
    step.lengthenInWords period = .ok (step.lengthen period) := by
  cases step with
  | fixed ms =>
    unfold lengthenInWords
    simp only [Duration.ofMillisInWords_eq, Duration.plusInWords?_eq, Panic.ok_bind]
    rfl
  | scale percent =>
    have hpercent : percent.toNat < UInt32.size := Nat.lt_trans percent.toNat_lt (by decide)
    unfold lengthenInWords lengthen
    simp only [Duration.timesInWords?_eq period hpercent, Panic.ok_bind]
    cases period.times? percent.toNat with
    | none => rfl
    | some product =>
      simp only [Duration.overInWords?_eq product (show 100 < UInt32.size by decide),
        Panic.ok_bind, Option.bind_some]
      rfl

/-! ## The steps that settings may have -/

theorem exists_valid_iff_moves :
    (∃ settings : Settings, settings.check = .ok () ∧ settings.step = step) ↔ step.Moves := by
  constructor
  · intro h
    obtain ⟨settings, hcheck, hstep⟩ := h
    rw [← hstep]
    exact (Settings.check_eq_ok_iff.mp hcheck).moves
  · intro h
    refine ⟨{ step }, Settings.check_eq_ok_iff.mpr ?_, rfl⟩
    intro rule
    cases rule with
    | fixedStepPositive =>
      cases step with
      | fixed ms => exact decide_eq_true (UInt32.lt_iff_toNat_lt.mpr h)
      | scale percent => rfl
    | scaleStepAboveHundred =>
      cases step with
      | fixed ms => rfl
      | scale percent => exact decide_eq_true (UInt16.lt_iff_toNat_lt.mpr h)
    | periodPositive => exact Settings.valid_default .periodPositive
    | dutyAtMostHundred => exact Settings.valid_default .dutyAtMostHundred
    | shortestPositive => exact Settings.valid_default .shortestPositive
    | rangeInOrder => exact Settings.valid_default .rangeInOrder
    | periodInRange => exact Settings.valid_default .periodInRange
    | repeatIntervalPositive => exact Settings.valid_default .repeatIntervalPositive

/-! ## Exact lengths -/

/-- What a step toward faster blinking makes of a number of nanoseconds. -/
def exactShorten : PeriodStep → Nat → Nat
  | .fixed ms, nanos => nanos - ms.toNat * 1000000
  | .scale percent, nanos => 100 * nanos / percent.toNat

/-- What a step toward slower blinking makes of a number of nanoseconds. -/
def exactLengthen : PeriodStep → Nat → Nat
  | .fixed ms, nanos => nanos + ms.toNat * 1000000
  | .scale percent, nanos => percent.toNat * nanos / 100

theorem nanos_shorten (h : step.Moves) (hsettable : period.IsSettable) :
    (step.shorten period).nanos = step.exactShorten period.nanos := by
  cases step with
  | fixed ms => exact nanos_shorten_fixed ms period
  | scale percent =>
    have hpercent : 100 < percent.toNat := h
    exact nanos_shorten_scale hsettable (by omega)

theorem nanos_lengthen (step : PeriodStep) (hsettable : period.IsSettable) :
    (step.lengthen period).nanos = step.exactLengthen period.nanos := by
  cases step with
  | fixed ms => exact nanos_lengthen_fixed hsettable ms
  | scale percent => exact nanos_lengthen_scale hsettable percent

/-- A step of valid settings brackets every period and keeps the order of any
two.  Taken word by word it never panics, from no period at all.  From a period
that settings can hold, as every period is that a blinker is given, it is exact
on the number of nanoseconds. -/
theorem steps_bracket_and_order
    (h : ∃ settings : Settings, settings.check = .ok () ∧ settings.step = step) :
    (∀ period, step.shorten period ≤ period ∧ period ≤ step.lengthen period) ∧
      (∀ period longer, period ≤ longer →
        step.shorten period ≤ step.shorten longer ∧
          step.lengthen period ≤ step.lengthen longer) ∧
      (∀ period, step.shortenInWords period = .ok (step.shorten period) ∧
        step.lengthenInWords period = .ok (step.lengthen period)) ∧
      (∀ period : Duration, period.nanos ≤ (2 ^ 32 - 1) * 1000000 →
        (step.shorten period).nanos = step.exactShorten period.nanos ∧
          (step.lengthen period).nanos = step.exactLengthen period.nanos) ∧
      ∀ (settings : Settings) (wanted : Duration),
        ((Blinker.ofSettings settings).withPeriod wanted).period.nanos ≤
          (2 ^ 32 - 1) * 1000000 := by
  have hmoves := exists_valid_iff_moves.mp h
  have hwidens := hmoves.widens
  refine ⟨?_, ?_, ?_, ?_, ?_⟩
  · intro period
    exact ⟨shorten_le hwidens period, le_lengthen hwidens period⟩
  · intro period longer hle
    exact ⟨shorten_le_shorten hwidens hle, lengthen_le_lengthen step hle⟩
  · intro period
    exact ⟨step.shortenInWords_eq period, step.lengthenInWords_eq period⟩
  · intro period hsettable
    exact ⟨nanos_shorten hmoves hsettable, nanos_lengthen step hsettable⟩
  · intro settings wanted
    exact Settings.isSettable_clamp settings wanted

/-- A factor of one and a half, on both sides of the longest period that it
can be applied to in full. -/
theorem steps_bracket_and_order_threshold :
    let step : PeriodStep := .scale 150
    let last : Duration := ⟨Duration.limit / 100 - 1, by decide⟩
    let first : Duration := ⟨Duration.limit / 100, by decide⟩
    (∃ settings : Settings, settings.check = .ok () ∧ settings.step = step) ∧ last ≤ first ∧
      step.shorten last ≤ step.shorten first ∧ step.lengthen last ≤ step.lengthen first ∧
      step.shortenInWords first = .ok first ∧ step.lengthenInWords .longest = .ok .longest := by
  intro step last first
  have h : ∃ settings : Settings, settings.check = .ok () ∧ settings.step = step :=
    exists_valid_iff_moves.mpr (show 100 < 150 by decide)
  have hle : last ≤ first := by decide
  obtain ⟨-, horder, hwords, -, -⟩ := steps_bracket_and_order h
  have hfirst : step.shorten first = first := by decide
  have hlongest : step.lengthen .longest = .longest := by decide
  refine ⟨h, hle, (horder last first hle).1, (horder last first hle).2, ?_, ?_⟩
  · rw [(hwords first).1, hfirst]
  · rw [(hwords .longest).2, hlongest]

end PeriodStep

end Beacon
