import Beacon.Json.Value

/-!
# Printing values

The compact document of a value. `Value.tokens` lists the tokens that the value consists of, and
`Token.bytes` spells one of them; a document is the spellings of the tokens, with no blank between
them.

A piece of a string is printed so that it is read back as the same piece. A byte stands for itself
where it may; the quote, the backslash and the control characters that have a letter are escaped
by it, and the other control characters as units.
-/

namespace Beacon.Json

/-! ## Spelling tokens -/

def Digit.byte (d : Digit) : UInt8 := 0x30 + d.val.toUInt8

def Number.bytes (n : Number) : List UInt8 :=
  (if n.negative then [0x2D] else []) ++ n.whole.map Digit.byte ++
    (if n.fraction.isEmpty then [] else 0x2E :: n.fraction.map Digit.byte) ++
    match n.exponent with
    | none => []
    | some (negative, digits) =>
      0x65 :: (if negative then [0x2D] else []) ++ digits.map Digit.byte

/-- The byte of a hexadecimal digit, in lower case. -/
def hexByte (digit : Nat) : UInt8 :=
  if digit < 10 then 0x30 + digit.toUInt8 else 0x57 + digit.toUInt8

/-- The escape of a unit: its four hexadecimal digits. -/
def unitBytes (u : UInt16) : List UInt8 :=
  [0x5C, 0x75, hexByte (u.toNat / 4096), hexByte (u.toNat / 256 % 16),
    hexByte (u.toNat / 16 % 16), hexByte (u.toNat % 16)]

def escapeLetter? (b : UInt8) : Option UInt8 :=
  if b == 0x22 || b == 0x5C then some b
  else if b == 0x08 then some 0x62
  else if b == 0x0C then some 0x66
  else if b == 0x0A then some 0x6E
  else if b == 0x0D then some 0x72
  else if b == 0x09 then some 0x74
  else none

def Piece.bytes : Piece → List UInt8
  | .byte b =>
    match escapeLetter? b with
    | some letter => [0x5C, letter]
    | none => if b < 0x20 then unitBytes b.toUInt16 else [b]
  | .unit u => unitBytes u

def Token.bytes : Token → List UInt8
  | .openArray => [0x5B]
  | .closeArray => [0x5D]
  | .openObject => [0x7B]
  | .closeObject => [0x7D]
  | .comma => [0x2C]
  | .colon => [0x3A]
  | .null => [0x6E, 0x75, 0x6C, 0x6C]
  | .bool true => [0x74, 0x72, 0x75, 0x65]
  | .bool false => [0x66, 0x61, 0x6C, 0x73, 0x65]
  | .number n => n.bytes
  | .string text => 0x22 :: text.flatMap Piece.bytes ++ [0x22]

/-! ## Listing tokens -/

namespace Value

mutual

def tokens : Value → List Token
  | .null => [.null]
  | .bool b => [.bool b]
  | .number n => [.number n]
  | .string text => [.string text]
  | .array [] => [.openArray, .closeArray]
  | .array (v :: rest) => .openArray :: (tokens v ++ furtherItems rest)
  | .object [] => [.openObject, .closeObject]
  | .object ((k, v) :: rest) =>
    .openObject :: .string k :: .colon :: (tokens v ++ furtherMembers rest)

/-- The tokens behind an item of an array: those of the items that follow, and the end. -/
def furtherItems : List Value → List Token
  | [] => [.closeArray]
  | v :: rest => .comma :: (tokens v ++ furtherItems rest)

/-- The tokens behind a member of an object: those of the members that follow, and the end. -/
def furtherMembers : List (Text × Value) → List Token
  | [] => [.closeObject]
  | (k, v) :: rest => .comma :: .string k :: .colon :: (tokens v ++ furtherMembers rest)

end

/-! ## Reading tokens back -/

open Builder (push?)

/-- The first token of a value does not close an array. -/
theorem foldlM_item (v : Value) (stack : List Frame) (rest : List Token) :
    (v.tokens ++ rest).foldlM push? (.item stack) =
      (v.tokens ++ rest).foldlM push? (.value (.array [] :: stack)) := by
  rcases v with _ | _ | _ | _ | (_ | _) | (_ | _) <;> simp [tokens, push?]

mutual

/-- Where a value is expected, its tokens build it. -/
theorem foldlM_tokens (v : Value) (stack : List Frame) (rest : List Token) :
    (v.tokens ++ rest).foldlM push? (.value stack) = rest.foldlM push? (.after stack v) := by
  match v with
  | .null | .bool _ | .number _ | .string _ => simp [tokens, push?, Builder.begin?]
  | .array [] => simp [tokens, push?, Builder.begin?]
  | .array (v :: items) =>
    have first := foldlM_tokens v (.array [] :: stack) (furtherItems items ++ rest)
    have further := foldlM_furtherItems items stack [] v rest
    simpa [tokens, push?, Builder.begin?, foldlM_item, first, -List.foldlM_append] using further
  | .object [] => simp [tokens, push?, Builder.begin?]
  | .object ((k, v) :: members) =>
    have first := foldlM_tokens v (.object [] k :: stack) (furtherMembers members ++ rest)
    have further := foldlM_furtherMembers members stack [] k v rest
    simpa [tokens, push?, Builder.begin?, first, -List.foldlM_append] using further

/-- Behind an item, the tokens of those that follow complete the array. -/
theorem foldlM_furtherItems (items : List Value) (stack : List Frame) (before : List Value)
    (last : Value) (rest : List Token) :
    (furtherItems items ++ rest).foldlM push? (.after (.array before :: stack) last) =
      rest.foldlM push? (.after stack (.array (before.reverse ++ last :: items))) := by
  match items with
  | [] => simp [furtherItems, push?]
  | v :: items =>
    have next := foldlM_tokens v (.array (last :: before) :: stack) (furtherItems items ++ rest)
    have further := foldlM_furtherItems items stack (last :: before) v rest
    simpa [furtherItems, push?, next, -List.foldlM_append] using further

/-- Behind a member, the tokens of those that follow complete the object. -/
theorem foldlM_furtherMembers (members : List (Text × Value)) (stack : List Frame)
    (before : List (Text × Value)) (key : Text) (last : Value) (rest : List Token) :
    (furtherMembers members ++ rest).foldlM push? (.after (.object before key :: stack) last) =
      rest.foldlM push?
        (.after stack (.object (before.reverse ++ (key, last) :: members))) := by
  match members with
  | [] => simp [furtherMembers, push?]
  | (k, v) :: members =>
    have next :=
      foldlM_tokens v (.object ((key, last) :: before) k :: stack) (furtherMembers members ++ rest)
    have further := foldlM_furtherMembers members stack ((key, last) :: before) k v rest
    simpa [furtherMembers, push?, next, -List.foldlM_append] using further

end

/-- The tokens of a value spell it. -/
theorem ofTokens?_tokens (v : Value) : ofTokens? v.tokens = some v := by
  have built := foldlM_tokens v [] []
  simp only [List.append_nil] at built
  simp [ofTokens?, built, Builder.done?]

/-! ## Documents -/

def bytes (value : Value) : List UInt8 := value.tokens.flatMap Token.bytes

def ofNat (n : Nat) : Value := .number (.ofNat n)

def ofString (s : String) : Value := .string (.ofString s)

def record (fields : List (String × Value)) : Value :=
  .object (fields.map fun (name, value) => (Text.ofString name, value))

end Value

end Beacon.Json
