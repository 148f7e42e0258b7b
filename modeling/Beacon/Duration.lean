/-!
# Durations

A `Duration` is a whole number of nanoseconds that fits sixty-four bits of whole seconds. All
arithmetic is done on the number of nanoseconds:

- addition stops at `Duration.longest` and subtraction at zero, as on the natural numbers;
- `times?` and `over?` multiply and divide by a number, and are `none` where the result is no
  duration.

The two `nanos_…` families of lemmas say what each operation does to the number of nanoseconds;
nothing else about the operations is needed later.

A `Schedule` says when a timer is to expire.
-/

namespace Beacon

/-- The number of nanoseconds that no duration reaches. -/
def Duration.limit : Nat := UInt64.size * 1000000000

/-- A span of time in whole nanoseconds. -/
structure Duration where
  nanos : Nat
  lt_limit : nanos < Duration.limit
deriving DecidableEq

namespace Duration

@[ext] theorem ext {a b : Duration} (h : a.nanos = b.nanos) : a = b := by
  cases a; cases b; cases h; rfl

instance : LE Duration := ⟨fun a b => a.nanos ≤ b.nanos⟩

instance : LT Duration := ⟨fun a b => a.nanos < b.nanos⟩

instance (a b : Duration) : Decidable (a ≤ b) := inferInstanceAs (Decidable (a.nanos ≤ b.nanos))

instance (a b : Duration) : Decidable (a < b) := inferInstanceAs (Decidable (a.nanos < b.nanos))

instance : Max Duration := ⟨fun a b => if a ≤ b then b else a⟩

instance : Min Duration := ⟨fun a b => if a ≤ b then a else b⟩

theorem le_def {a b : Duration} : a ≤ b ↔ a.nanos ≤ b.nanos := Iff.rfl

theorem lt_def {a b : Duration} : a < b ↔ a.nanos < b.nanos := Iff.rfl

/-! ## Making durations -/

/-- The duration of no time at all. -/
def zero : Duration := ⟨0, by decide⟩

instance : Inhabited Duration := ⟨zero⟩

def longest : Duration := ⟨limit - 1, by decide⟩

/-- As many nanoseconds as asked for, where a duration can hold them. -/
def ofNanos? (n : Nat) : Option Duration :=
  if h : n < limit then some ⟨n, h⟩ else none

/-- As many nanoseconds as asked for, or the longest duration. -/
def ofNanos (n : Nat) : Duration := (ofNanos? n).getD longest

def ofMillis (ms : UInt64) : Duration :=
  ⟨ms.toNat * 1000000, by
    have := ms.toNat_lt
    simp only [limit, UInt64.size]
    omega⟩

/-! ## Parts -/

def seconds (d : Duration) : Nat := d.nanos / 1000000000

def subsecond (d : Duration) : Nat := d.nanos % 1000000000

/-- Whole milliseconds; a started millisecond does not count. -/
def millis (d : Duration) : Nat := d.nanos / 1000000

/-! ## Arithmetic -/

instance : Add Duration := ⟨fun a b => ofNanos (a.nanos + b.nanos)⟩

instance : Sub Duration :=
  ⟨fun a b => ⟨a.nanos - b.nanos, Nat.lt_of_le_of_lt (Nat.sub_le ..) a.lt_limit⟩⟩

/-- `k` times as long, where that is a duration. -/
def times? (d : Duration) (k : Nat) : Option Duration := ofNanos? (d.nanos * k)

/-- The `k`-th part of a duration, a started nanosecond dropped. Nothing has a zeroth part. -/
def over? (d : Duration) (k : Nat) : Option Duration :=
  if k = 0 then none else some ⟨d.nanos / k, Nat.lt_of_le_of_lt (Nat.div_le_self ..) d.lt_limit⟩

/-! ## What the operations do to the nanoseconds -/

@[simp] theorem nanos_zero : zero.nanos = 0 := rfl

@[simp] theorem nanos_longest : longest.nanos = limit - 1 := rfl

theorem nanos_le_longest (d : Duration) : d.nanos ≤ limit - 1 := by
  have := d.lt_limit
  omega

theorem ofNanos?_of_lt {n : Nat} (h : n < limit) : ofNanos? n = some ⟨n, h⟩ := by
  simp [ofNanos?, h]

theorem ofNanos?_eq_none_iff {n : Nat} : ofNanos? n = none ↔ limit ≤ n := by
  simp [ofNanos?]

@[simp] theorem nanos_ofNanos (n : Nat) : (ofNanos n).nanos = min n (limit - 1) := by
  unfold ofNanos ofNanos?
  split
  · simp only [Option.getD_some]; omega
  · simp only [Option.getD_none, nanos_longest]; omega

@[simp] theorem nanos_ofMillis (ms : UInt64) : (ofMillis ms).nanos = ms.toNat * 1000000 := rfl

@[simp] theorem nanos_add (a b : Duration) :
    (a + b).nanos = min (a.nanos + b.nanos) (limit - 1) :=
  nanos_ofNanos _

@[simp] theorem nanos_sub (a b : Duration) : (a - b).nanos = a.nanos - b.nanos := rfl

@[simp] theorem nanos_max (a b : Duration) : (max a b).nanos = max a.nanos b.nanos := by
  show (if a ≤ b then b else a).nanos = _
  split
  · next h => exact (Nat.max_eq_right h).symm
  · next h => exact (Nat.max_eq_left (Nat.le_of_not_le h)).symm

@[simp] theorem nanos_min (a b : Duration) : (min a b).nanos = min a.nanos b.nanos := by
  show (if a ≤ b then a else b).nanos = _
  split
  · next h => exact (Nat.min_eq_left h).symm
  · next h => exact (Nat.min_eq_right (Nat.le_of_not_le h)).symm

end Duration

/-! ## Schedules -/

/-- When a timer is to expire. -/
structure Schedule where
  /-- The time to the first expiry. -/
  first : Duration
  /-- The time between further expiries, if there are any. -/
  again : Option Duration
deriving DecidableEq

/-- To expire once. -/
def Schedule.once (delay : Duration) : Schedule := ⟨delay, none⟩

end Beacon
