import Beacon.Duration

/-!
# Durations as text

A duration is written in the largest of the units second, millisecond, microsecond and
nanosecond of which it holds at least one, with every remaining digit behind the point and no
zero at the end: `1.5s`, `416.666666ms`, `10µs`, `0ns`.
-/

namespace Beacon

/-- The digits of `n`, with zeros in front up to the given width. -/
def paddedDigits (width n : Nat) : List Char :=
  let digits := Nat.toDigits 10 n
  List.replicate (width - digits.length) '0' ++ digits

/-- A list of digits without the zeros at its end. -/
def trimZeros (digits : List Char) : List Char :=
  (digits.reverse.dropWhile (· == '0')).reverse

/-- `n` with so many decimal places, exactly: the whole part, then the remaining digits behind a
point, if any is left. -/
def decimalText (places n : Nat) : String :=
  let fraction := trimZeros (paddedDigits places (n % Nat.pow 10 places))
  let whole := toString (n / Nat.pow 10 places)
  if fraction.isEmpty then whole else whole ++ "." ++ String.ofList fraction

def Duration.text (d : Duration) : String :=
  if 1000000000 ≤ d.nanos then decimalText 9 d.nanos ++ "s"
  else if 1000000 ≤ d.nanos then decimalText 6 d.nanos ++ "ms"
  else if 1000 ≤ d.nanos then decimalText 3 d.nanos ++ "µs"
  else decimalText 0 d.nanos ++ "ns"

end Beacon
