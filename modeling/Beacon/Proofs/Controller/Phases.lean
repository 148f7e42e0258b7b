import Beacon.Proofs.PeriodCopies

/-!
# How long a phase lasts

A period of settings that keep every rule is a millisecond at least and fits
sixty-four bits of nanoseconds.  For such a period no rounding empties a phase
and nothing is cut off, so `Phase.following` has a simple form: `Duty.next`
says which phase comes next, and it lasts as long as its exact share.

* `Phase.Divides` is what is needed of the period, and `following_eq` the
  simple form.
* `Duty.phaseAfter` is the phase after so many toggles.
* `Controller.Ticks` is kept by every answer, and `Ticks.divides` says that the
  period in force is always such a period.
-/

namespace Beacon

/-- The phase that comes after another: always the same one if the lamp is never
lit or never dark, and otherwise the opposite one. -/
def Duty.next (duty : Duty) (phase : Phase) : Phase :=
  if duty.percent = 0 then .off
  else if duty.percent = 100 then .on
  else phase.opposite

/-- The phase after so many toggles.  The first phase comes after none, and the lamp
is dark before it. -/
def Duty.phaseAfter (duty : Duty) : Nat → Phase
  | 0 => duty.next .off
  | toggles + 1 => duty.next (duty.phaseAfter toggles)

namespace Duty

variable {duty : Duty}

theorem phaseAfter_of_zero (h : duty.percent = 0) (toggles : Nat) :
    duty.phaseAfter toggles = .off := by
  cases toggles with
  | zero => exact if_pos h
  | succ toggles => exact if_pos h

theorem phaseAfter_of_hundred (h : duty.percent = 100) (toggles : Nat) :
    duty.phaseAfter toggles = .on := by
  have hnext : ∀ phase, duty.next phase = .on := by
    intro phase
    unfold next
    rw [if_neg (by simp [h]), if_pos h]
  cases toggles with
  | zero => exact hnext _
  | succ toggles => exact hnext _

theorem next_of_divided (hzero : duty.percent ≠ 0) (hfull : duty.percent ≠ 100)
    (phase : Phase) : duty.next phase = phase.opposite := by
  unfold next
  rw [if_neg hzero, if_neg hfull]

/-- A divided period begins with the on-phase, and the phases take turns. -/
theorem lit_phaseAfter (hzero : duty.percent ≠ 0) (hfull : duty.percent ≠ 100)
    (toggles : Nat) : (duty.phaseAfter toggles).lit = (toggles % 2 == 0) := by
  induction toggles with
  | zero =>
    rw [phaseAfter, next_of_divided hzero hfull]
    rfl
  | succ toggles ih =>
    rw [phaseAfter, next_of_divided hzero hfull, Phase.lit_opposite, ih]
    rcases Nat.mod_two_eq_zero_or_one toggles with heven | hodd
    · rw [heven, show (toggles + 1) % 2 = 1 by omega]
      rfl
    · rw [hodd, show (toggles + 1) % 2 = 0 by omega]
      rfl

end Duty

namespace Phase

variable {period : Duration} {duty : Duty} {phase : Phase}

/-- A period of which every share has a length, and none is cut off. -/
structure Divides (period : Duration) : Prop where
  hundred_le : 100 ≤ period.nanos
  le_longest : period.nanos ≤ longestNanos

theorem share_le (period : Duration) (duty : Duty) :
    period.nanos * duty.percent.toNat / 100 ≤ period.nanos := by
  apply Nat.div_le_of_le_mul
  rw [Nat.mul_comm 100]
  exact Nat.mul_le_mul_left _ duty.toNat_le_hundred

theorem exactNanos_le (period : Duration) (duty : Duty) (phase : Phase) :
    phase.exactNanos period duty ≤ period.nanos := by
  cases phase with
  | on => exact share_le period duty
  | off => exact Nat.sub_le _ _

theorem exactNanos_opposite (period : Duration) (duty : Duty) (phase : Phase) :
    phase.exactNanos period duty + phase.opposite.exactNanos period duty = period.nanos := by
  have hshare := share_le period duty
  cases phase with
  | on =>
    simp only [opposite, exactNanos]
    omega
  | off =>
    simp only [opposite, exactNanos]
    omega

theorem exactNanos_of_zero (h : duty.percent = 0) (period : Duration) :
    phase.exactNanos period duty = if phase = .off then period.nanos else 0 := by
  cases phase <;> simp [exactNanos, h]

theorem exactNanos_of_hundred (h : duty.percent = 100) (period : Duration) :
    phase.exactNanos period duty = if phase = .on then period.nanos else 0 := by
  cases phase <;> simp [exactNanos, h]

/-- A share between nothing and all of a period has a length. -/
theorem exactNanos_pos (h : Divides period) (hzero : duty.percent ≠ 0)
    (hfull : duty.percent ≠ 100) (phase : Phase) : 0 < phase.exactNanos period duty := by
  have hpos : 1 ≤ duty.percent.toNat :=
    Nat.pos_of_ne_zero fun heq => hzero (UInt8.toNat_inj.mp heq)
  have hless : duty.percent.toNat ≤ 99 := by
    have hne : duty.percent.toNat ≠ 100 := fun heq => hfull (UInt8.toNat_inj.mp heq)
    have hle := duty.toNat_le_hundred
    omega
  have hlow := Nat.mul_le_mul_left period.nanos hpos
  have hhigh := Nat.mul_le_mul_left period.nanos hless
  have hlong := h.hundred_le
  cases phase with
  | on =>
    simp only [exactNanos]
    omega
  | off =>
    simp only [exactNanos]
    omega

theorem exactNanos_next_pos (h : Divides period) (duty : Duty) (phase : Phase) :
    0 < (duty.next phase).exactNanos period duty := by
  have hlong := h.hundred_le
  unfold Duty.next
  split
  · next hzero =>
    rw [exactNanos_of_zero hzero, if_pos rfl]
    omega
  · next hzero =>
    split
    · next hfull =>
      rw [exactNanos_of_hundred hfull, if_pos rfl]
      omega
    · next hfull => exact exactNanos_pos h hzero hfull _

/-- Nothing is cut off. -/
theorem length_eq (h : Divides period) (duty : Duty) (phase : Phase) :
    phase.length period duty = .ofNanos (phase.exactNanos period duty) := by
  have hle := exactNanos_le period duty phase
  have hlongest := h.le_longest
  unfold length
  rw [Nat.min_eq_left (by omega)]

theorem ofNanos_nanos (period : Duration) : .ofNanos period.nanos = period := by
  have hle := period.nanos_le_longest
  apply Duration.ext
  rw [Duration.nanos_ofNanos]
  omega

theorem ofNanos_pos {nanos : Nat} (h : 0 < nanos) : Duration.ofNanos nanos ≠ .zero := by
  intro hzero
  have hnanos := congrArg Duration.nanos hzero
  rw [Duration.nanos_ofNanos, Duration.nanos_zero, Duration.limit] at hnanos
  have hsize : 0 < UInt64.size := by decide
  omega

theorem next_eq_or (duty : Duty) (phase : Phase) :
    duty.next phase = phase ∨ duty.next phase = phase.opposite := by
  cases duty.next phase <;> cases phase <;> simp [opposite]

/-- A duty that keeps a phase leaves nothing for the opposite one. -/
theorem exactNanos_opposite_of_next (h : duty.next phase = phase) (period : Duration) :
    phase.opposite.exactNanos period duty = 0 := by
  unfold Duty.next at h
  split at h
  · next hzero =>
    subst h
    exact exactNanos_of_zero hzero period
  · split at h
    · next hfull =>
      subst h
      exact exactNanos_of_hundred hfull period
    · cases phase <;> cases h

/-- What follows a phase, of a period that divides: the next phase of the duty,
for as long as its share. -/
theorem following_eq (h : Divides period) (duty : Duty) (phase : Phase) :
    phase.following period duty =
      (duty.next phase, .ofNanos ((duty.next phase).exactNanos period duty)) := by
  have hpos := exactNanos_next_pos h duty phase
  have hfollowing : phase.following period duty =
      if phase.opposite.length period duty = .zero then (phase, period)
      else (phase.opposite, phase.opposite.length period duty) := rfl
  rw [hfollowing, length_eq h]
  rcases next_eq_or duty phase with hstays | hturns
  · -- The opposite phase is empty, so that this one takes all of the period.
    have hempty := exactNanos_opposite_of_next hstays period
    have hwhole := exactNanos_opposite period duty phase
    rw [hempty, Nat.add_zero] at hwhole
    rw [hempty, if_pos (show Duration.ofNanos 0 = .zero from rfl), hstays, hwhole, ofNanos_nanos]
  · rw [hturns] at hpos ⊢
    rw [if_neg (ofNanos_pos hpos)]

end Phase

/-! ## The period in force -/

namespace Settings.Valid

variable {settings : Settings}

theorem shortest_le_longest (h : settings.Valid) :
    settings.range.shortest ≤ settings.range.longest := by
  have hrule := of_decide_eq_true (h .rangeInOrder)
  exact Nat.mul_le_mul_right _ (by simpa using UInt32.le_iff_toNat_le.mp hrule)

/-- A period in range is a millisecond at least, and fits sixty-four bits. -/
theorem divides (h : settings.Valid) {period : Duration}
    (hshortest : settings.range.shortest ≤ period) (hlongest : period ≤ settings.range.longest) :
    Phase.Divides period := by
  have hone : 1 ≤ settings.shortestMs.toNat :=
    UInt32.lt_iff_toNat_lt.mp (of_decide_eq_true (h .shortestPositive))
  have hmost := settings.longestMs.toNat_lt
  rw [Duration.le_def] at hshortest hlongest
  simp only [Settings.range, Duration.nanos_ofMillis, UInt32.toNat_toUInt64] at hshortest hlongest
  constructor
  · omega
  · simp only [Phase.longestNanos, UInt64.size]
    omega

/-- A duty that keeps its rule is not cut. -/
theorem percent_duty (h : settings.Valid) : settings.duty.percent = settings.dutyPercent := by
  have hrule : settings.dutyPercent ≤ 100 := of_decide_eq_true (h .dutyAtMostHundred)
  unfold Settings.duty Duty.clamp
  rw [dif_pos hrule]

end Settings.Valid

namespace Controller

variable {settings pacer : Settings} {c : Controller}

/-- The blinker is made from the settings, and its period is in its range. -/
structure Ticks (settings pacer : Settings) (c : Controller) : Prop where
  made : c.MadeFrom settings pacer
  inRange : c.InRange

theorem ticks_ofTwo (settings pacer : Settings) : Ticks settings pacer (ofTwo settings pacer) :=
  ⟨madeFrom_ofTwo settings pacer, PeriodRange.clamp_clamp _ _⟩

theorem Ticks.react (h : Ticks settings pacer c) (stimulus : Stimulus) :
    Ticks settings pacer (c.react stimulus).1 := by
  have hmade := h.made.react stimulus
  have hrange := hmade.range.trans h.made.range.symm
  exact ⟨hmade, (c.adjusted_react stimulus).inRange hrange h.inRange⟩

theorem Ticks.bounds (h : Ticks settings pacer c) (hvalid : settings.Valid) :
    settings.range.shortest ≤ c.blinker.period ∧ c.blinker.period ≤ settings.range.longest := by
  have hclamp := h.inRange
  rw [InRange, h.made.range] at hclamp
  exact PeriodRange.mem_of_clamp_eq hclamp hvalid.shortest_le_longest

theorem Ticks.divides (h : Ticks settings pacer c) (hvalid : settings.Valid) :
    Phase.Divides c.blinker.period :=
  hvalid.divides (h.bounds hvalid).1 (h.bounds hvalid).2

end Controller

end Beacon
