/-!
# Number literals

A number literal is kept as it is spelled, since two readers take different things from it.
`natural?` reads a literal that is digits and nothing else, of any length, as a natural number.
`overflows` says whether a literal is too large for a double-precision number.

The rule of `overflows` works on a significand that is cut to sixty-four bits. Digits of the
whole part that no longer fit raise the exponent; digits of the fraction that no longer fit are
dropped. The significand and the power of ten are rounded to double precision first, and the
literal overflows if their product rounds to infinity.
-/

namespace Beacon.Json

abbrev Digit := Fin 10

def Digit.ofNat (n : Nat) : Digit := Fin.ofNat 10 n

/-- A number literal as it is spelled. A missing fraction has no digits; an exponent has a sign
and digits. -/
structure Number where
  negative : Bool
  whole : List Digit
  fraction : List Digit
  exponent : Option (Bool × List Digit)
deriving DecidableEq

namespace Number

/-- The natural number with these decimal digits, the most significant one first. -/
def ofDigits (digits : List Digit) : Nat :=
  digits.foldl (fun n d => 10 * n + d.val) 0

/-- The decimal digits of a natural number, the most significant one first. -/
def digitsOf (n : Nat) : List Digit :=
  if n < 10 then [.ofNat n] else digitsOf (n / 10) ++ [.ofNat n]
termination_by n

theorem ofDigits_digitsOf (n : Nat) : ofDigits (digitsOf n) = n := by
  fun_induction digitsOf n with
  | case1 n small => simp [ofDigits, Digit.ofNat, Nat.mod_eq_of_lt small]
  | case2 n _ ih =>
    have split : 10 * (n / 10) + n % 10 = n := Nat.div_add_mod n 10
    simpa [ofDigits, Digit.ofNat] using (congrArg (10 * · + n % 10) ih).trans split

/-- The value of a literal that has digits only: no sign, fraction or exponent. -/
def natural? (n : Number) : Option Nat :=
  if n.negative || !n.fraction.isEmpty || n.exponent.isSome then none
  else some (ofDigits n.whole)

/-- The literal of a natural number: its digits and nothing else. -/
def ofNat (n : Nat) : Number := ⟨false, digitsOf n, [], none⟩

theorem natural?_ofNat (n : Nat) : (ofNat n).natural? = some n := by
  simp [natural?, ofNat, ofDigits_digitsOf]

/-! ## Overflow -/

/-- A significand and the power of ten that it is multiplied by. -/
structure Scaled where
  significand : Nat
  exponent : Int
deriving DecidableEq

/-- Whether a digit can be appended to a significand within sixty-four bits. -/
def fits (significand : Nat) (d : Digit) : Bool := 10 * significand + d.val < UInt64.size

/-- Takes in the whole part: as many digits as fit, the others raise the exponent. -/
def takeWhole (significand : Nat) : List Digit → Scaled
  | [] => ⟨significand, 0⟩
  | d :: rest =>
    if fits significand d then takeWhole (10 * significand + d.val) rest
    else ⟨significand, rest.length + 1⟩

/-- Takes in the fraction: as many digits as fit, each lowering the exponent. -/
def takeFraction (s : Scaled) : List Digit → Scaled
  | [] => s
  | d :: rest =>
    if fits s.significand d then
      takeFraction ⟨10 * s.significand + d.val, s.exponent - 1⟩ rest
    else s

/-- The literal without its sign and exponent. -/
def mantissa (n : Number) : Scaled := takeFraction (takeWhole 0 n.whole) n.fraction

/-- A natural number rounded to fifty-three binary digits, a half to the even neighbour. -/
def round53 (n : Nat) : Nat :=
  let unit := Nat.pow 2 (n.log2 + 1 - 53)
  let quotient := n / unit
  let remainder := n % unit
  let up := unit < 2 * remainder || (2 * remainder == unit && quotient % 2 == 1)
  (if up then quotient + 1 else quotient) * unit

/-- From here on a product rounds to infinity. -/
def infinityFrom : Nat := Nat.pow 2 1024 - Nat.pow 2 970

/-- Whether a significand times a power of ten is too large for a double-precision number. -/
def Scaled.overflows (s : Scaled) : Bool :=
  s.significand != 0 && 0 ≤ s.exponent &&
    (308 < s.exponent ||
      infinityFrom ≤ round53 s.significand * round53 (Nat.pow 10 s.exponent.toNat))

/-- The largest exponent that is taken at its value. A greater one overflows any number but zero. -/
def largestExponent : Nat := 2147483647

/-- Whether the literal is too large for a double-precision number. -/
def overflows (n : Number) : Bool :=
  let m := n.mantissa
  match n.exponent with
  | none =>
    m.overflows
  | some (false, digits) =>
    if largestExponent < ofDigits digits then m.significand != 0
    else { m with exponent := m.exponent + ofDigits digits }.overflows
  | some (true, digits) =>
    if largestExponent < ofDigits digits then false
    else { m with exponent := m.exponent - ofDigits digits }.overflows

end Number

end Beacon.Json
