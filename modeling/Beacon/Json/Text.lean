import Beacon.Utf8

/-!
# String literals

The inside of a string literal is a list of pieces: a byte that stands for itself, or a sixteen
bit unit that was written as an escape. A literal can be well formed without being text: its
bytes need not be UTF-8, and its units may be surrogates without a partner. `Text.decode?` gives
the characters where there are some.
-/

namespace Beacon.Json

inductive Piece where
  | byte (b : UInt8)
  | unit (u : UInt16)
deriving DecidableEq

abbrev Text := List Piece

namespace Text

def isHigh (u : UInt16) : Bool := 0xD800 ≤ u && u ≤ 0xDBFF

def isLow (u : UInt16) : Bool := 0xDC00 ≤ u && u ≤ 0xDFFF

def pair (high low : UInt16) : Char :=
  Char.ofNat (0x10000 + high.toNat % 1024 * 1024 + low.toNat % 1024)

/-- The bytes of a text, with its units written in UTF-8. A surrogate needs its partner right
beside it. -/
def bytes? : Text → Option (List UInt8)
  | [] => some []
  | .byte b :: rest => (bytes? rest).map (b :: ·)
  | .unit u :: rest =>
    if isHigh u then
      match rest with
      | .unit low :: rest₂ =>
        if isLow low then (bytes? rest₂).map (String.utf8EncodeChar (pair u low) ++ ·) else none
      | _ => none
    else if isLow u then none
    else (bytes? rest).map (String.utf8EncodeChar (Char.ofNat u.toNat) ++ ·)

/-- The text of a string, every byte of it standing for itself. -/
def ofString (s : String) : Text := (Utf8.encode s).map .byte

def decode? (text : Text) : Option (List Char) := (bytes? text).bind Utf8.decode?

end Text

end Beacon.Json
