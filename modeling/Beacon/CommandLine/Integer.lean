/-!
# Whole numbers on the command line

A whole number is digits with an optional sign, read from left to right as a signed number of
sixty-four bits. The first character that spoils it decides what is wrong: one that is no digit,
or a digit that takes the number out of range.
-/

namespace Beacon.CommandLine

inductive NumberFault where
  | empty
  | digit
  | tooLarge
  | tooSmall
  /-- It is a number, but not one of thirty-two bits. -/
  | outOfRange (value : Int)
deriving DecidableEq

/-- What is wrong, in words. -/
def NumberFault.message : NumberFault → String
  | .empty => "cannot parse integer from empty string"
  | .digit => "invalid digit found in string"
  | .tooLarge => "number too large to fit in target type"
  | .tooSmall => "number too small to fit in target type"
  | .outOfRange value => toString value ++ " is not in 0..=4294967295"

def digit? (c : Char) : Option Nat :=
  if '0' ≤ c && c ≤ '9' then some (c.toNat - '0'.toNat) else none

/-- Goes on reading digits behind a number; no number on the way may exceed the bound. -/
def digits (bound : Nat) (beyond : NumberFault) (number : Nat) : List Char → Except NumberFault Nat
  | [] => .ok number
  | c :: rest =>
    match digit? c with
    | none => .error .digit
    | some d =>
      if bound < 10 * number + d then .error beyond
      else digits bound beyond (10 * number + d) rest

/-- A number without its sign needs a digit. -/
def unsigned (bound : Nat) (beyond : NumberFault) : List Char → Except NumberFault Nat
  | [] => .error .digit
  | cs => digits bound beyond 0 cs

def largest : Nat := 9223372036854775807

def integer (text : List Char) : Except NumberFault Int :=
  match text with
  | [] => .error .empty
  | '+' :: rest => (unsigned largest .tooLarge rest).map Int.ofNat
  | '-' :: rest => (unsigned (largest + 1) .tooSmall rest).map fun n => -Int.ofNat n
  | rest => (unsigned largest .tooLarge rest).map Int.ofNat

def word (text : List Char) : Except NumberFault UInt32 :=
  match integer text with
  | .error fault => .error fault
  | .ok value =>
    if 0 ≤ value ∧ value < UInt32.size then .ok value.toNat.toUInt32 else .error (.outOfRange value)

end Beacon.CommandLine
