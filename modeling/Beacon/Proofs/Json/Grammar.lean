import Beacon.Json.Printer

/-!
# The grammar of documents

Which bytes spell which value, said without the scanner and the builder.

* `Number.Spelling`, `Piece.Spelling`, `Text.Spelling` and `Token.Spelling`
  say how a token may be written: a number in its one way, an exponent with
  either mark, a character of a string as itself or as an escape.
* `Layout` puts the tokens of a document one behind the other, with any
  blanks around them, and `Value.Spelling` says that they are those of a
  value.
* `Text.StandsFor` says which characters a string means, and
  `Value.Readable` which values can be taken in completely.
-/

namespace Beacon.Json

/-! ## Blanks -/

/-- Any number of spaces, tabs, line feeds and carriage returns. -/
def Blank (bytes : List UInt8) : Prop :=
  ∀ b ∈ bytes, b = 0x20 ∨ b = 0x09 ∨ b = 0x0A ∨ b = 0x0D

instance (bytes : List UInt8) : Decidable (Blank bytes) := List.decidableBAll _ bytes

/-! ## Numbers -/

namespace Number

/-- The whole part is a zero alone, or does not begin with a zero. -/
inductive WholeSpelling : List Digit → List UInt8 → Prop where
  | zero : WholeSpelling [0] [0x30]
  | digits {d : Digit} {rest : List Digit} :
    d ≠ 0 → WholeSpelling (d :: rest) ((d :: rest).map Digit.byte)

inductive FractionSpelling : List Digit → List UInt8 → Prop where
  | absent : FractionSpelling [] []
  | digits {digits : List Digit} :
    digits ≠ [] → FractionSpelling digits (0x2E :: digits.map Digit.byte)

/-- The sign of an exponent; a plus may be left out. -/
inductive SignSpelling : Bool → List UInt8 → Prop where
  | absent : SignSpelling false []
  | plus : SignSpelling false [0x2B]
  | minus : SignSpelling true [0x2D]

inductive ExponentSpelling : Option (Bool × List Digit) → List UInt8 → Prop where
  | absent : ExponentSpelling none []
  | digits {mark : UInt8} {negative : Bool} {sign : List UInt8} {digits : List Digit} :
    mark = 0x65 ∨ mark = 0x45 → SignSpelling negative sign → digits ≠ [] →
      ExponentSpelling (some (negative, digits)) (mark :: (sign ++ digits.map Digit.byte))

/-- The sign of a number: only a minus is written. -/
def signBytes (negative : Bool) : List UInt8 := if negative then [0x2D] else []

/-- The sign, the whole part, the fraction and the exponent, without a blank. -/
inductive Spelling (n : Number) : List UInt8 → Prop where
  | parts {whole fraction exponent : List UInt8} :
    WholeSpelling n.whole whole → FractionSpelling n.fraction fraction →
      ExponentSpelling n.exponent exponent →
      Spelling n (signBytes n.negative ++ whole ++ fraction ++ exponent)

end Number

/-! ## Strings -/

/-- The bytes that have an escape of one letter, each with its letter. -/
def escapeLetters : List (UInt8 × UInt8) :=
  [(0x22, 0x22), (0x5C, 0x5C), (0x2F, 0x2F), (0x08, 0x62), (0x0C, 0x66), (0x0A, 0x6E),
    (0x0D, 0x72), (0x09, 0x74)]

/-- A hexadecimal digit and its value; letters are written in either case. -/
inductive HexSpelling : Nat → UInt8 → Prop where
  | digit {v : Nat} {b : UInt8} : v < 10 → b.toNat = 0x30 + v → HexSpelling v b
  | upper {v : Nat} {b : UInt8} : 10 ≤ v → v < 16 → b.toNat = 0x41 + (v - 10) → HexSpelling v b
  | lower {v : Nat} {b : UInt8} : 10 ≤ v → v < 16 → b.toNat = 0x61 + (v - 10) → HexSpelling v b

/-- A byte is written as itself unless it is a control character, the quote or
the backslash, or as a backslash and its letter; a unit is written as a
backslash, a `u` and four hexadecimal digits. -/
inductive Piece.Spelling : Piece → List UInt8 → Prop where
  | plain {b : UInt8} : 0x20 ≤ b → b ≠ 0x22 → b ≠ 0x5C → Spelling (.byte b) [b]
  | letter {b letter : UInt8} : (b, letter) ∈ escapeLetters → Spelling (.byte b) [0x5C, letter]
  | unit {u : UInt16} {v₁ v₂ v₃ v₄ : Nat} {b₁ b₂ b₃ b₄ : UInt8} :
    HexSpelling v₁ b₁ → HexSpelling v₂ b₂ → HexSpelling v₃ b₃ → HexSpelling v₄ b₄ →
      u.toNat = v₁ * 4096 + v₂ * 256 + v₃ * 16 + v₄ →
      Spelling (.unit u) [0x5C, 0x75, b₁, b₂, b₃, b₄]

/-- What stands between the quotes: the pieces, one behind the other. -/
inductive Text.Spelling : Text → List UInt8 → Prop where
  | nil : Spelling [] []
  | cons {piece : Piece} {text : Text} {first rest : List UInt8} :
    piece.Spelling first → Spelling text rest → Spelling (piece :: text) (first ++ rest)

/-! ## Tokens -/

inductive Token.Spelling : Token → List UInt8 → Prop where
  | openArray : Spelling .openArray [0x5B]
  | closeArray : Spelling .closeArray [0x5D]
  | openObject : Spelling .openObject [0x7B]
  | closeObject : Spelling .closeObject [0x7D]
  | comma : Spelling .comma [0x2C]
  | colon : Spelling .colon [0x3A]
  | null : Spelling .null [0x6E, 0x75, 0x6C, 0x6C]
  | yes : Spelling (.bool true) [0x74, 0x72, 0x75, 0x65]
  | no : Spelling (.bool false) [0x66, 0x61, 0x6C, 0x73, 0x65]
  | number {n : Number} {bytes : List UInt8} : n.Spelling bytes → Spelling (.number n) bytes
  | string {text : Text} {inside : List UInt8} :
    text.Spelling inside → Spelling (.string text) (0x22 :: (inside ++ [0x22]))

/-- The tokens one behind the other, with any blanks before, between and
behind them. -/
inductive Layout : List Token → List UInt8 → Prop where
  | nil {blanks : List UInt8} : Blank blanks → Layout [] blanks
  | cons {token : Token} {tokens : List Token} {blanks first rest : List UInt8} :
    Blank blanks → token.Spelling first → Layout tokens rest →
      Layout (token :: tokens) (blanks ++ first ++ rest)

/-- The bytes lay out the tokens of the value. -/
def Value.Spelling (value : Value) (bytes : List UInt8) : Prop := Layout value.tokens bytes

/-! ## What a string means -/

/-- The characters that a string stands for. A character is written in UTF-8,
as one unit if it has four hexadecimal digits, and as a pair of units if it
has more. -/
inductive Text.StandsFor : Text → List Char → Prop where
  | nil : StandsFor [] []
  | plain {text : Text} {rest : List Char} (c : Char) :
    StandsFor text rest → StandsFor ((String.utf8EncodeChar c).map .byte ++ text) (c :: rest)
  | unit {text : Text} {rest : List Char} {c : Char} {u : UInt16} :
    u.toNat = c.toNat → StandsFor text rest → StandsFor (.unit u :: text) (c :: rest)
  | pair {text : Text} {rest : List Char} {c : Char} {high low : UInt16} :
    0x10000 ≤ c.toNat → high.toNat = 0xD800 + (c.toNat - 0x10000) / 0x400 →
      low.toNat = 0xDC00 + (c.toNat - 0x10000) % 0x400 → StandsFor text rest →
      StandsFor (.unit high :: .unit low :: text) (c :: rest)

/-- A value that can be taken in completely: every string in it means
something, every number is in range, and containers are nested no deeper than
`room`. -/
inductive Value.Readable : Nat → Value → Prop where
  | null {room : Nat} : Readable room .null
  | bool {room : Nat} {b : Bool} : Readable room (.bool b)
  | number {room : Nat} {n : Number} : n.overflows = false → Readable room (.number n)
  | string {room : Nat} {text : Text} {cs : List Char} :
    text.StandsFor cs → Readable room (.string text)
  | array {room : Nat} {items : List Value} :
    (∀ v ∈ items, Readable room v) → Readable (room + 1) (.array items)
  | object {room : Nat} {members : List (Text × Value)} :
    (∀ m ∈ members, ∃ cs, m.1.StandsFor cs) → (∀ m ∈ members, Readable room m.2) →
      Readable (room + 1) (.object members)

end Beacon.Json
