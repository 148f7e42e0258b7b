import Mathlib.Tactic.Ring
import Beacon.Duration

/-!
# Durations in two words

A machine keeps a duration in two words: the whole seconds in one of
sixty-four bits, and the nanoseconds of the second that has begun in one of
thirty-two.  This module calculates with the two words, and with the words
in between, as a machine has to: carries and remainders go from one word to
the other, and a result that does not fit its word is an overflow.

* `Word.fit` is a result that has to fit; if it does not, the calculation
  stops in a `Panic`.  `Word.fits?` is one that may fail to, and says so.
* `ofWords` puts two words together, and `ofWords?_of_parts` says when the
  outcome is the duration of a number of nanoseconds.
* The `…InWords?` functions are sums, differences, products and quotients of
  durations.  Each comes with a lemma that it never panics and answers what
  the exact number of nanoseconds is worth.
-/

namespace Beacon

/-- What stops a calculation. -/
inductive Panic where
  /-- A number does not fit its word. -/
  | overflow
  | divisionByZero
deriving DecidableEq

/-! ## Words -/

namespace Word

/-- A number, if a word of so many values can hold it. -/
def fits? (size n : Nat) : Option Nat :=
  if n < size then some n else none

/-- A number that a word has to hold. -/
def fit (size n : Nat) : Except Panic Nat :=
  if n < size then .ok n else .error .overflow

/-- A difference that has to be one: no word holds less than nothing. -/
def minus (a b : Nat) : Except Panic Nat :=
  if b ≤ a then .ok (a - b) else .error .overflow

/-- A quotient of words, rounded down. -/
def quotient (a b : Nat) : Except Panic Nat :=
  if b = 0 then .error .divisionByZero else .ok (a / b)

/-- What is left over by a division of words. -/
def remainder (a b : Nat) : Except Panic Nat :=
  if b = 0 then .error .divisionByZero else .ok (a % b)

variable {size n a b : Nat}

theorem fit_of_lt (h : n < size) : fit size n = .ok n := if_pos h

theorem minus_of_le (h : b ≤ a) : minus a b = .ok (a - b) := if_pos h

theorem quotient_of_ne_zero (h : b ≠ 0) : quotient a b = .ok (a / b) := if_neg h

theorem remainder_of_ne_zero (h : b ≠ 0) : remainder a b = .ok (a % b) := if_neg h

/-- A sum fits if it does; that its first part does then goes without saying. -/
theorem fits?_bind_add :
    ((fits? size a).bind fun a => fits? size (a + b)) = fits? size (a + b) := by
  unfold fits?
  by_cases ha : a < size
  · rw [if_pos ha, Option.bind_some]
  · have hsum : ¬a + b < size := by omega
    rw [if_neg ha, if_neg hsum, Option.bind_none]

end Word

/-- A calculation goes on with what it has got. -/
theorem Panic.ok_bind {α β : Type} (a : α) (f : α → Except Panic β) : (.ok a >>= f) = f a := rfl

namespace Duration

/-- The nanoseconds of one second. -/
def second : Nat := 1000000000

/-! ## Putting two words together -/

/-- The duration of two words.  The second word has to be less than a second. -/
def ofWords (seconds subsecond : Nat) : Except Panic Duration :=
  if h : seconds < UInt64.size ∧ subsecond < second then
    .ok ⟨seconds * second + subsecond, by
      have := h.1
      have := h.2
      simp only [limit, second, UInt64.size] at *
      omega⟩
  else .error .overflow

/-- The duration of two words, if there are seconds for it. -/
def ofWords? : Option Nat → Nat → Except Panic (Option Duration)
  | none, _ => .ok none
  | some seconds, subsecond => do
    let duration ← ofWords seconds subsecond
    return some duration

variable {d a b : Duration} {seconds subsecond n k : Nat}

theorem nanos_eq_parts (d : Duration) : d.nanos = d.seconds * second + d.subsecond := by
  simp only [seconds, subsecond, second]
  omega

theorem seconds_lt (d : Duration) : d.seconds < UInt64.size :=
  Nat.div_lt_of_lt_mul (by rw [Nat.mul_comm]; exact d.lt_limit)

theorem subsecond_lt (d : Duration) : d.subsecond < second :=
  Nat.mod_lt _ (by decide)

theorem ofWords_of_parts (hparts : n = seconds * second + subsecond)
    (hsubsecond : subsecond < second) (hlimit : n < limit) : ofWords seconds subsecond = .ok ⟨n, hlimit⟩ := by
  have hseconds : seconds < UInt64.size := by
    simp only [limit, second] at hlimit hparts
    omega
  unfold ofWords
  rw [dif_pos ⟨hseconds, hsubsecond⟩]
  exact congrArg Except.ok (ext hparts.symm)

/-- Two words make the duration of as many nanoseconds as they stand for, and
none if there are too many. -/
theorem ofWords?_of_parts (hparts : n = seconds * second + subsecond)
    (hsubsecond : subsecond < second) :
    ofWords? (Word.fits? UInt64.size seconds) subsecond = .ok (ofNanos? n) := by
  by_cases hlimit : n < limit
  · have hseconds : seconds < UInt64.size := by
      simp only [limit, second] at hlimit hparts
      omega
    unfold Word.fits?
    rw [if_pos hseconds, ofWords?, ofWords_of_parts hparts hsubsecond hlimit,
      ofNanos?_of_lt hlimit]
    rfl
  · have hseconds : ¬seconds < UInt64.size := by
      simp only [limit, second] at hlimit hparts hsubsecond
      omega
    unfold Word.fits?
    rw [if_neg hseconds, ofWords?, ofNanos?_eq_none_iff.mpr (Nat.le_of_not_lt hlimit)]

/-! ## From and to a number -/

def ofMillisInWords (ms : UInt64) : Except Panic Duration := do
  let subsecond ← Word.fit UInt32.size (ms.toNat % 1000 * 1000000)
  ofWords (ms.toNat / 1000) subsecond

/-- A duration of as many nanoseconds as a word of sixty-four bits holds. -/
def ofNanosInWords (n : Nat) : Except Panic Duration :=
  ofWords (n / second) (n % second)

/-- All nanoseconds of a duration, in a word of a hundred and twenty-eight bits. -/
def nanosInWords (d : Duration) : Except Panic Nat := do
  let whole ← Word.fit (UInt64.size * UInt64.size) (d.seconds * second)
  Word.fit (UInt64.size * UInt64.size) (whole + d.subsecond)

theorem ofMillisInWords_eq (ms : UInt64) : ofMillisInWords ms = .ok (ofMillis ms) := by
  have hfits : ms.toNat % 1000 * 1000000 < UInt32.size := by
    simp only [UInt32.size]
    omega
  have hparts : ms.toNat * 1000000 = ms.toNat / 1000 * second + ms.toNat % 1000 * 1000000 := by
    simp only [second]
    omega
  unfold ofMillisInWords
  rw [Word.fit_of_lt hfits, Panic.ok_bind]
  exact ofWords_of_parts hparts (by simp only [second]; omega) (ofMillis ms).lt_limit

theorem ofNanosInWords_eq (h : n < UInt64.size) : ofNanosInWords n = .ok (ofNanos n) := by
  have hlimit : n < limit := by
    simp only [limit, UInt64.size] at h ⊢
    omega
  have hparts : n = n / second * second + n % second := (Nat.div_add_mod' n second).symm
  unfold ofNanosInWords ofNanos
  rw [ofWords_of_parts hparts (Nat.mod_lt _ (by decide)) hlimit, ofNanos?_of_lt hlimit]
  rfl

theorem nanosInWords_eq (d : Duration) : d.nanosInWords = .ok d.nanos := by
  have hseconds := d.seconds_lt
  have hsubsecond := d.subsecond_lt
  have hsize : UInt64.size * second + second ≤ UInt64.size * UInt64.size := by decide
  have hwhole : d.seconds * second + d.subsecond < UInt64.size * UInt64.size := by
    simp only [second, UInt64.size] at *
    omega
  unfold nanosInWords
  rw [Word.fit_of_lt (Nat.lt_of_le_of_lt (Nat.le_add_right _ _) hwhole), Panic.ok_bind,
    Word.fit_of_lt hwhole, nanos_eq_parts]

/-! ## Sums and differences -/

/-- A sum, if it is a duration: a full second is carried. -/
def plusInWords? (a b : Duration) : Except Panic (Option Duration) := do
  match Word.fits? UInt64.size (a.seconds + b.seconds) with
  | none => return none
  | some seconds =>
    let subsecond ← Word.fit UInt32.size (a.subsecond + b.subsecond)
    if subsecond < second then ofWords? (some seconds) subsecond
    else
      let subsecond ← Word.minus subsecond second
      ofWords? (Word.fits? UInt64.size (seconds + 1)) subsecond

/-- A difference, if it is a duration: a missing second is borrowed. -/
def minusInWords? (a b : Duration) : Except Panic (Option Duration) := do
  if a.seconds < b.seconds then return none
  else
    let seconds := a.seconds - b.seconds
    if b.subsecond ≤ a.subsecond then ofWords? (some seconds) (a.subsecond - b.subsecond)
    else if seconds = 0 then return none
    else
      let borrowed ← Word.fit UInt32.size (a.subsecond + second)
      let subsecond ← Word.minus borrowed b.subsecond
      ofWords? (some (seconds - 1)) subsecond

theorem plusInWords?_eq (a b : Duration) :
    a.plusInWords? b = .ok (ofNanos? (a.nanos + b.nanos)) := by
  have ha := a.nanos_eq_parts
  have hb := b.nanos_eq_parts
  have hsa := a.subsecond_lt
  have hsb := b.subsecond_lt
  have hfits : a.subsecond + b.subsecond < UInt32.size := by
    simp only [second, UInt32.size] at *
    omega
  unfold plusInWords?
  by_cases hseconds : a.seconds + b.seconds < UInt64.size
  · have hfirst : Word.fits? UInt64.size (a.seconds + b.seconds) = some (a.seconds + b.seconds) :=
      if_pos hseconds
    rw [hfirst]
    simp only
    rw [Word.fit_of_lt hfits, Panic.ok_bind]
    by_cases hcarry : a.subsecond + b.subsecond < second
    · rw [if_pos hcarry, ← hfirst]
      exact ofWords?_of_parts (by rw [ha, hb]; ring) hcarry
    · rw [if_neg hcarry, Word.minus_of_le (Nat.le_of_not_lt hcarry), Panic.ok_bind]
      apply ofWords?_of_parts
      · simp only [second] at *
        omega
      · omega
  · have hfirst : Word.fits? UInt64.size (a.seconds + b.seconds) = none := if_neg hseconds
    have hlimit : limit ≤ a.nanos + b.nanos := by
      simp only [limit, second] at *
      omega
    rw [hfirst, ofNanos?_eq_none_iff.mpr hlimit]
    rfl

/-- Two words make a difference if they stand for what the longer duration has
more. -/
theorem ofWords?_of_sub (hparts : a.nanos = b.nanos + (seconds * second + subsecond))
    (hsubsecond : subsecond < second) :
    ofWords? (some seconds) subsecond = .ok (if b ≤ a then some (a - b) else none) := by
  have hle : b ≤ a := by
    rw [le_def]
    omega
  have hdifference : (a - b).nanos = seconds * second + subsecond := by
    rw [nanos_sub]
    omega
  rw [if_pos hle, ofWords?, ofWords_of_parts hdifference hsubsecond (a - b).lt_limit]
  rfl

theorem minusInWords?_eq (a b : Duration) :
    a.minusInWords? b = .ok (if b ≤ a then some (a - b) else none) := by
  have ha := a.nanos_eq_parts
  have hb := b.nanos_eq_parts
  have hsa := a.subsecond_lt
  have hsb := b.subsecond_lt
  have hfits : a.subsecond + second < UInt32.size := by
    simp only [second, UInt32.size] at *
    omega
  have hnone : ¬b ≤ a → none = if b ≤ a then some (a - b) else none := fun h => (if_neg h).symm
  unfold minusInWords?
  by_cases hseconds : a.seconds < b.seconds
  · rw [if_pos hseconds, ← hnone]
    · rfl
    · rw [le_def]
      simp only [second] at *
      omega
  · rw [if_neg hseconds]
    simp only
    by_cases hsubsecond : b.subsecond ≤ a.subsecond
    · rw [if_pos hsubsecond]
      apply ofWords?_of_sub
      · simp only [second] at *
        omega
      · omega
    · rw [if_neg hsubsecond]
      by_cases hequal : a.seconds - b.seconds = 0
      · rw [if_pos hequal, ← hnone]
        · rfl
        · rw [le_def]
          simp only [second] at *
          omega
      · rw [if_neg hequal, Word.fit_of_lt hfits, Panic.ok_bind, Word.minus_of_le (by omega),
          Panic.ok_bind]
        apply ofWords?_of_sub
        · simp only [second] at *
          omega
        · omega

/-! ## Products and quotients -/

/-- `k` times a duration, if that is one. -/
def timesInWords? (d : Duration) (k : Nat) : Except Panic (Option Duration) := do
  let product ← Word.fit UInt64.size (d.subsecond * k)
  let carry ← Word.quotient product second
  let subsecond ← Word.remainder product second
  let seconds? := (Word.fits? UInt64.size (d.seconds * k)).bind fun seconds =>
    Word.fits? UInt64.size (seconds + carry)
  ofWords? seconds? subsecond

/-- The `k`-th part of a duration: the seconds that are left over go to the second word. -/
def overInWords? (d : Duration) (k : Nat) : Except Panic (Option Duration) := do
  if k = 0 then return none
  else
    let seconds ← Word.quotient d.seconds k
    let secondsLeft ← Word.remainder d.seconds k
    let subsecond ← Word.quotient d.subsecond k
    let subsecondLeft ← Word.remainder d.subsecond k
    let shifted ← Word.fit UInt64.size (secondsLeft * second)
    let left ← Word.fit UInt64.size (shifted + subsecondLeft)
    let carried ← Word.quotient left k
    let carried ← Word.fit UInt32.size carried
    let subsecond ← Word.fit UInt32.size (subsecond + carried)
    ofWords? (some seconds) subsecond

/-- What is left of the seconds and all of the second word are divided as one. -/
theorem part_of_rest {left subsecond : Nat} (h : 0 < k) :
    (left * second + subsecond) / k =
      subsecond / k + (left * second + subsecond % k) / k := by
  calc
    (left * second + subsecond) / k =
        (left * second + subsecond % k + subsecond / k * k) / k := by
      rw [Nat.add_assoc, Nat.add_comm (subsecond % k), Nat.div_add_mod']
    _ = _ := by rw [Nat.add_mul_div_right _ _ h, Nat.add_comm]

theorem nanos_over_parts (d : Duration) (h : 0 < k) :
    d.nanos / k = d.seconds / k * second +
      (d.subsecond / k + (d.seconds % k * second + d.subsecond % k) / k) := by
  have hwhole : d.nanos = d.seconds % k * second + d.subsecond + d.seconds / k * second * k := by
    calc
      d.nanos = (d.seconds / k * k + d.seconds % k) * second + d.subsecond := by
        rw [Nat.div_add_mod', nanos_eq_parts]
      _ = _ := by ring
  rw [hwhole, Nat.add_mul_div_right _ _ h, part_of_rest h, Nat.add_comm]

theorem timesInWords?_eq (d : Duration) (h : k < UInt32.size) :
    d.timesInWords? k = .ok (d.times? k) := by
  have hsecond : second ≠ 0 := by decide
  have hproduct : d.subsecond * k < UInt64.size := by
    calc
      d.subsecond * k ≤ second * UInt32.size :=
        Nat.mul_le_mul (Nat.le_of_lt d.subsecond_lt) (Nat.le_of_lt h)
      _ < UInt64.size := by decide
  have hparts : d.nanos * k =
      (d.seconds * k + d.subsecond * k / second) * second + d.subsecond * k % second := by
    calc
      d.nanos * k = d.seconds * k * second + d.subsecond * k := by
        rw [nanos_eq_parts]
        ring
      _ = d.seconds * k * second +
          (d.subsecond * k / second * second + d.subsecond * k % second) := by
        rw [Nat.div_add_mod']
      _ = _ := by ring
  unfold timesInWords?
  rw [Word.fit_of_lt hproduct, Panic.ok_bind, Word.quotient_of_ne_zero hsecond, Panic.ok_bind,
    Word.remainder_of_ne_zero hsecond, Panic.ok_bind]
  simp only [Word.fits?_bind_add]
  exact ofWords?_of_parts hparts (Nat.mod_lt _ (by decide))

theorem overInWords?_eq (d : Duration) (h : k < UInt32.size) :
    d.overInWords? k = .ok (d.over? k) := by
  unfold overInWords? over?
  by_cases hk : k = 0
  · rw [if_pos hk, if_pos hk]
    rfl
  · have hpos : 0 < k := Nat.pos_of_ne_zero hk
    have hleft : d.seconds % k * second + d.subsecond < k * second := by
      have hrest := Nat.mul_le_mul_right second (Nat.succ_le_of_lt (Nat.mod_lt d.seconds hpos))
      have hsubsecond := d.subsecond_lt
      rw [Nat.succ_mul] at hrest
      omega
    have hsubsecond :
        d.subsecond / k + (d.seconds % k * second + d.subsecond % k) / k < second := by
      rw [← part_of_rest hpos]
      exact Nat.div_lt_of_lt_mul hleft
    have hcarried := Nat.lt_of_le_of_lt (Nat.le_add_left _ _) hsubsecond
    have hsize : k * second < UInt64.size :=
      Nat.lt_of_lt_of_le (Nat.mul_lt_mul_of_pos_right h (by decide)) (by decide)
    have hrest := Nat.mod_le d.subsecond k
    have hsmall : second < UInt32.size := by decide
    rw [if_neg hk, if_neg hk, Word.quotient_of_ne_zero hk, Panic.ok_bind,
      Word.remainder_of_ne_zero hk, Panic.ok_bind, Word.quotient_of_ne_zero hk, Panic.ok_bind,
      Word.remainder_of_ne_zero hk, Panic.ok_bind, Word.fit_of_lt (by omega), Panic.ok_bind,
      Word.fit_of_lt (by omega), Panic.ok_bind, Word.quotient_of_ne_zero hk, Panic.ok_bind,
      Word.fit_of_lt (by omega), Panic.ok_bind, Word.fit_of_lt (by omega), Panic.ok_bind,
      ofWords?, ofWords_of_parts (nanos_over_parts d hpos) hsubsecond]
    rfl

end Duration

end Beacon
