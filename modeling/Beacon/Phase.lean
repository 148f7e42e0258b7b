import Beacon.Period

/-!
# The two phases of a blink period

The lamp is lit for the on-phase and dark for the off-phase. The on-phase is the duty's share of
the period, a started nanosecond dropped, and the off-phase is the rest. A phase that would not
fit sixty-four bits of nanoseconds lasts as long as those bits allow.

`Phase.following` says what to do when a phase ends. A phase of no length is never entered: the
lamp stays as it is for a whole period.
-/

namespace Beacon

inductive Phase where
  | on
  | off
deriving DecidableEq

namespace Phase

def opposite : Phase → Phase
  | on => off
  | off => on

def lit : Phase → Bool
  | on => true
  | off => false

/-- The phase in which the lamp is lit, or the one in which it is dark. -/
def ofLit (lit : Bool) : Phase :=
  if lit then on else off

def name : Phase → String
  | on => "On"
  | off => "Off"

/-- The exact length of a phase in nanoseconds. -/
def exactNanos (period : Duration) (duty : Duty) : Phase → Nat
  | on => period.nanos * duty.percent.toNat / 100
  | off => period.nanos - period.nanos * duty.percent.toNat / 100

/-- The longest that a phase can last, in nanoseconds. -/
def longestNanos : Nat := UInt64.size - 1

def length (period : Duration) (duty : Duty) (phase : Phase) : Duration :=
  .ofNanos (min (phase.exactNanos period duty) longestNanos)

/-- What follows a phase: the phase to enter, and how long to stay in it. -/
def following (period : Duration) (duty : Duty) (phase : Phase) : Phase × Duration :=
  let next := phase.opposite
  let delay := next.length period duty
  if delay = .zero then (phase, period) else (next, delay)

/-- The phase to start in: on, unless the lamp is never lit. -/
def first (period : Duration) (duty : Duty) : Phase × Duration :=
  off.following period duty

@[simp] theorem ofLit_lit (phase : Phase) : ofLit phase.lit = phase := by
  cases phase <;> rfl

@[simp] theorem lit_ofLit (lit : Bool) : (ofLit lit).lit = lit := by
  cases lit <;> rfl

@[simp] theorem opposite_opposite (phase : Phase) : phase.opposite.opposite = phase := by
  cases phase <;> rfl

@[simp] theorem lit_opposite (phase : Phase) : phase.opposite.lit = !phase.lit := by
  cases phase <;> rfl

@[simp] theorem nanos_length (period : Duration) (duty : Duty) (phase : Phase) :
    (phase.length period duty).nanos = min (phase.exactNanos period duty) longestNanos := by
  simp only [length, Duration.nanos_ofNanos, longestNanos, Duration.limit, UInt64.size]
  omega

end Phase

end Beacon
