import Beacon.Duration

/-!
# The blink period and how it is adjusted

- `Duty` is the share of a period that the lamp is lit, at most a hundred percent.
- `PeriodRange` holds the shortest and the longest period that the buttons can reach.
- `PeriodStep` is one adjustment of the period: by a fixed number of milliseconds, or by a factor.

A range may be inverted: `clamp` then answers the upper end, whatever the period.
-/

namespace Beacon

/-! ## Duty -/

/-- The share of a period that the lamp is lit, in percent. -/
structure Duty where
  percent : UInt8
  le_hundred : percent ≤ 100
deriving DecidableEq

namespace Duty

/-- The greatest duty: lit all the time. -/
def full : Duty := ⟨100, by decide⟩

/-- A duty of so many percent; more than a hundred count as a hundred. -/
def clamp (percent : UInt8) : Duty :=
  if h : percent ≤ 100 then ⟨percent, h⟩ else full

theorem toNat_le_hundred (d : Duty) : d.percent.toNat ≤ 100 :=
  UInt8.le_iff_toNat_le.mp d.le_hundred

@[simp] theorem percent_clamp_toNat (p : UInt8) :
    (clamp p).percent.toNat = min p.toNat 100 := by
  unfold clamp
  split
  · next h =>
    have : p.toNat ≤ 100 := UInt8.le_iff_toNat_le.mp h
    simp only; omega
  · next h =>
    have : ¬ p.toNat ≤ 100 := fun hp => h (UInt8.le_iff_toNat_le.mpr hp)
    simp only [full, UInt8.toNat_ofNat]; omega

end Duty

/-! ## Range -/

/-- The shortest and the longest period that an adjustment may lead to. -/
structure PeriodRange where
  shortest : Duration
  longest : Duration
deriving DecidableEq

namespace PeriodRange

/-- The period of the range that is nearest to the given one. -/
def clamp (range : PeriodRange) (period : Duration) : Duration :=
  min (max period range.shortest) range.longest

/-- Whether the period lies in the range. -/
def contains (range : PeriodRange) (period : Duration) : Bool :=
  range.shortest ≤ period && period ≤ range.longest

@[simp] theorem nanos_clamp (range : PeriodRange) (period : Duration) :
    (range.clamp period).nanos =
      min (max period.nanos range.shortest.nanos) range.longest.nanos := by
  simp [clamp]

/-- Clamping is done once: a clamped period is left alone, in an inverted range too. -/
@[simp] theorem clamp_clamp (range : PeriodRange) (period : Duration) :
    range.clamp (range.clamp period) = range.clamp period := by
  apply Duration.ext
  simp only [nanos_clamp]
  omega

theorem contains_iff {range : PeriodRange} {period : Duration} :
    range.contains period = true ↔ range.shortest ≤ period ∧ period ≤ range.longest := by
  simp [contains]

end PeriodRange

/-! ## Step -/

inductive PeriodStep where
  | fixed (ms : UInt32)
  /-- A factor, in percent. -/
  | scale (percent : UInt16)
deriving DecidableEq

namespace PeriodStep

/-- One step toward faster blinking. A factor divides; a period that it cannot divide stays as
it is. -/
def shorten (step : PeriodStep) (period : Duration) : Duration :=
  match step with
  | .fixed ms => period - .ofMillis ms.toUInt64
  | .scale percent => ((period.times? 100).bind (·.over? percent.toNat)).getD period

/-- One step toward slower blinking. A factor multiplies; a product too long for a duration
becomes the longest one. -/
def lengthen (step : PeriodStep) (period : Duration) : Duration :=
  match step with
  | .fixed ms => period + .ofMillis ms.toUInt64
  | .scale percent => ((period.times? percent.toNat).bind (·.over? 100)).getD .longest

end PeriodStep

end Beacon
