import Beacon.Proofs.Duration.Words
import Beacon.Proofs.Controller.Phases

/-!
# Phases of every period

A period of settings fits sixty-four bits of nanoseconds; the longest
durations do not, and nor may one of their phases.  Such a phase is cut off
at as much as the bits allow, and the two phases of a period are then shorter
than the period.

* `nanos_on_add_off` is the split of a period, and `lengths_lt_period` what a
  cut-off phase makes of it.
* `length_on_le_length_on`: a longer period, or a greater share of it, never
  shortens the on-phase.
* `length_eq_zero_iff`: cutting off empties no phase, so a phase is skipped
  exactly if its share has no whole nanosecond.
* `lengthInWords` calculates a length in words of a hundred and twenty-eight
  bits, and never panics.
-/

namespace Beacon.Phase

variable {period longer : Duration} {duty higher : Duty} {phase : Phase}

/-! ## In words -/

/-- The nanoseconds of a phase, in words of a hundred and twenty-eight bits. -/
def exactNanosInWords (period : Duration) (duty : Duty) (phase : Phase) : Except Panic Nat := do
  let total ← period.nanosInWords
  let product ← Word.fit (UInt64.size * UInt64.size) (total * duty.percent.toNat)
  let lit ← Word.quotient product 100
  match phase with
  | on => return lit
  | off => Word.minus total lit

/-- The length of a phase, in words.  The last word has only sixty-four bits, and
a number that does not fit it is cut off. -/
def lengthInWords (period : Duration) (duty : Duty) (phase : Phase) : Except Panic Duration := do
  let nanos ← phase.exactNanosInWords period duty
  Duration.ofNanosInWords ((Word.fits? UInt64.size nanos).getD longestNanos)

/-- A hundredfold period is far below the largest number of the wide word. -/
theorem product_fits (period : Duration) (duty : Duty) :
    period.nanos * duty.percent.toNat < UInt64.size * UInt64.size := by
  calc
    period.nanos * duty.percent.toNat ≤ Duration.limit * 100 :=
      Nat.mul_le_mul (Nat.le_of_lt period.lt_limit) duty.toNat_le_hundred
    _ < UInt64.size * UInt64.size := by decide

theorem exactNanosInWords_eq (period : Duration) (duty : Duty) (phase : Phase) :
    phase.exactNanosInWords period duty = .ok (phase.exactNanos period duty) := by
  have hundred : 100 ≠ 0 := by decide
  unfold exactNanosInWords
  rw [Duration.nanosInWords_eq, Panic.ok_bind, Word.fit_of_lt (product_fits period duty),
    Panic.ok_bind, Word.quotient_of_ne_zero hundred, Panic.ok_bind]
  cases phase with
  | on => rfl
  | off => exact Word.minus_of_le (share_le period duty)

theorem lengthInWords_eq (period : Duration) (duty : Duty) (phase : Phase) :
    phase.lengthInWords period duty = .ok (phase.length period duty) := by
  have hcut : (Word.fits? UInt64.size (phase.exactNanos period duty)).getD longestNanos =
      min (phase.exactNanos period duty) longestNanos := by
    unfold Word.fits?
    split
    · simp only [Option.getD_some, longestNanos]
      omega
    · simp only [Option.getD_none, longestNanos]
      omega
  have hfits : min (phase.exactNanos period duty) longestNanos < UInt64.size :=
    Nat.lt_of_le_of_lt (Nat.min_le_right _ _) (by decide)
  unfold lengthInWords
  rw [exactNanosInWords_eq, Panic.ok_bind, hcut]
  exact Duration.ofNanosInWords_eq hfits

/-! ## The split -/

/-- Neither phase of a period is cut off. -/
def Fits (period : Duration) (duty : Duty) : Prop :=
  ∀ phase : Phase, phase.exactNanos period duty ≤ longestNanos

theorem nanos_on_add_off (h : Fits period duty) :
    (on.length period duty).nanos + (off.length period duty).nanos = period.nanos := by
  rw [nanos_length, nanos_length, Nat.min_eq_left (h on), Nat.min_eq_left (h off)]
  exact exactNanos_opposite period duty on

theorem lengths_lt_period (h : ¬Fits period duty) :
    (on.length period duty).nanos + (off.length period duty).nanos < period.nanos := by
  have hsum := exactNanos_opposite period duty on
  have hcut : ¬(on.exactNanos period duty ≤ longestNanos ∧
      off.exactNanos period duty ≤ longestNanos) := by
    intro hfits
    refine h fun phase => ?_
    cases phase with
    | on => exact hfits.1
    | off => exact hfits.2
  simp only [opposite] at hsum
  rw [nanos_length, nanos_length]
  omega

theorem nanos_on_add_off_iff :
    (on.length period duty).nanos + (off.length period duty).nanos = period.nanos ↔
      Fits period duty := by
  constructor
  · intro hsum
    by_contra hcut
    have hless := lengths_lt_period hcut
    omega
  · exact nanos_on_add_off

theorem fits_iff :
    Fits period duty ↔
      period.nanos * duty.percent.toNat / 100 ≤ 2 ^ 64 - 1 ∧
        period.nanos - period.nanos * duty.percent.toNat / 100 ≤ 2 ^ 64 - 1 := by
  constructor
  · intro h
    exact ⟨h on, h off⟩
  · intro h phase
    cases phase with
    | on => exact h.1
    | off => exact h.2

theorem length_on_le_length_on (hle : period ≤ longer) (hshare : duty.percent ≤ higher.percent) :
    on.length period duty ≤ on.length longer higher := by
  have hexact : on.exactNanos period duty ≤ on.exactNanos longer higher :=
    Nat.div_le_div_right (Nat.mul_le_mul hle (UInt8.le_iff_toNat_le.mp hshare))
  rw [Duration.le_def, nanos_length, nanos_length]
  omega

/-! ## What follows a phase -/

theorem length_eq_zero_iff :
    phase.length period duty = .zero ↔ phase.exactNanos period duty = 0 := by
  have hlongest : 0 < longestNanos := by decide
  constructor
  · intro hzero
    have hnanos := congrArg Duration.nanos hzero
    rw [nanos_length, Duration.nanos_zero] at hnanos
    omega
  · intro hzero
    apply Duration.ext
    rw [nanos_length, hzero, Nat.zero_min]
    rfl

theorem following_of_empty (h : phase.opposite.length period duty = .zero) :
    phase.following period duty = (phase, period) := if_pos h

theorem following_of_nonempty (h : phase.opposite.length period duty ≠ .zero) :
    phase.following period duty = (phase.opposite, phase.opposite.length period duty) := if_neg h

theorem opposite_ne (phase : Phase) : phase ≠ phase.opposite := by
  cases phase <;> decide

theorem following_fst_eq_opposite_iff :
    (phase.following period duty).1 = phase.opposite ↔
      phase.opposite.length period duty ≠ .zero := by
  constructor
  · intro hturns hempty
    rw [following_of_empty hempty] at hturns
    exact phase.opposite_ne hturns
  · intro hlength
    rw [following_of_nonempty hlength]

/-- Of no period, every phase is empty. -/
theorem length_zero (duty : Duty) (phase : Phase) : phase.length .zero duty = .zero := by
  rw [length_eq_zero_iff]
  exact Nat.le_zero.mp (exactNanos_le .zero duty phase)

/-- The timer is set to nothing only if there is no period. -/
theorem following_snd_eq_zero_iff :
    (phase.following period duty).2 = .zero ↔ period = .zero := by
  by_cases hempty : phase.opposite.length period duty = .zero
  · rw [following_of_empty hempty]
  · rw [following_of_nonempty hempty]
    constructor
    · intro hzero
      exact absurd hzero hempty
    · intro hzero
      subst hzero
      exact length_zero duty phase.opposite

/-- The lengths of the two phases are calculated without a panic.  They make up
the period exactly if neither is cut off, and less than it otherwise, and the
on-phase grows with the period and the share.  No phase is skipped that has a
whole nanosecond, and none is entered for no time. -/
theorem lengths_split_period (period : Duration) (duty : Duty) :
    let lit := period.nanos * duty.percent.toNat / 100
    let sum := (on.length period duty).nanos + (off.length period duty).nanos
    (∀ phase : Phase, phase.lengthInWords period duty = .ok (phase.length period duty)) ∧
      (sum = period.nanos ↔ lit ≤ 2 ^ 64 - 1 ∧ period.nanos - lit ≤ 2 ^ 64 - 1) ∧
      (¬(lit ≤ 2 ^ 64 - 1 ∧ period.nanos - lit ≤ 2 ^ 64 - 1) → sum < period.nanos) ∧
      (∀ (longer : Duration) (higher : Duty), period ≤ longer → duty.percent ≤ higher.percent →
        on.length period duty ≤ on.length longer higher) ∧
      ∀ phase : Phase,
        ((phase.following period duty).2 = .zero ↔ period = .zero) ∧
        ((phase.following period duty).1 = phase.opposite ↔
          phase.opposite.length period duty ≠ .zero) ∧
        (phase.opposite.length period duty ≠ .zero →
          phase.following period duty = (phase.opposite, phase.opposite.length period duty)) ∧
        (phase.opposite.length period duty = .zero →
          phase.following period duty = (phase, period)) ∧
        (phase.opposite.length period duty = .zero ↔
          phase.opposite.exactNanos period duty = 0) := by
  intro lit sum
  refine ⟨lengthInWords_eq period duty, ?_, ?_, ?_, ?_⟩
  · exact nanos_on_add_off_iff.trans fits_iff
  · intro hcut
    exact lengths_lt_period (mt fits_iff.mp hcut)
  · intro longer higher hle hshare
    exact length_on_le_length_on hle hshare
  · intro phase
    exact ⟨following_snd_eq_zero_iff, following_fst_eq_opposite_iff, following_of_nonempty,
      following_of_empty, length_eq_zero_iff⟩

/-- Of the longest period both phases are cut off, and one percent of less than a
hundred nanoseconds is nothing, so that the lamp stays dark. -/
theorem lengths_split_period_cut :
    let duty : Duty := ⟨1, by decide⟩
    let lit := Duration.longest.nanos / 100
    let short : Duration := .ofNanos 99
    ¬(lit ≤ 2 ^ 64 - 1 ∧ Duration.longest.nanos - lit ≤ 2 ^ 64 - 1) ∧
      (on.length .longest duty).nanos + (off.length .longest duty).nanos <
        Duration.longest.nanos ∧
      off.following short duty = (off, short) := by
  intro duty lit short
  have hcut : ¬(lit ≤ 2 ^ 64 - 1 ∧ Duration.longest.nanos - lit ≤ 2 ^ 64 - 1) := by decide
  have hempty : on.length short duty = .zero := by decide
  obtain ⟨-, -, hless, -, -⟩ := lengths_split_period .longest duty
  obtain ⟨-, -, -, -, hphases⟩ := lengths_split_period short duty
  obtain ⟨-, -, -, hskips, -⟩ := hphases off
  refine ⟨hcut, hless ?_, hskips hempty⟩
  exact hcut

end Beacon.Phase
