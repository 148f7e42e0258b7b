/-!
# Text in bytes

UTF-8, with the byte ranges of its standard. `chunks` cuts any bytes into characters and spoilt
places; a spoilt place is as long as it could have been the start of a character. From it come
two readers: `decode?` refuses bytes that hold a spoilt place, and `lossy` writes the replacement
character there.
-/

namespace Beacon.Utf8

def continues (b : UInt8) : Bool := 0x80 ≤ b && b ≤ 0xBF

def leadsTwo (a : UInt8) : Bool := 0xC2 ≤ a && a ≤ 0xDF

/-- The first two bytes of a character of three bytes: no shorter form exists, and the character
is no surrogate. -/
def leadsThree (a b : UInt8) : Bool :=
  if a == 0xE0 then 0xA0 ≤ b && b ≤ 0xBF
  else if a == 0xED then 0x80 ≤ b && b ≤ 0x9F
  else 0xE1 ≤ a && a ≤ 0xEF && continues b

/-- The first two bytes of a character of four bytes: no shorter form exists, and the character
is within the range of characters. -/
def leadsFour (a b : UInt8) : Bool :=
  if a == 0xF0 then 0x90 ≤ b && b ≤ 0xBF
  else if a == 0xF4 then 0x80 ≤ b && b ≤ 0x8F
  else 0xF1 ≤ a && a ≤ 0xF3 && continues b

/-- The low six bits of a byte that continues a character. -/
def tail (b : UInt8) : Nat := b.toNat % 64

/-- The characters of some bytes, with `none` for each spoilt place. -/
def chunks : List UInt8 → List (Option Char)
  | [] => []
  | a :: rest =>
    if a < 0x80 then
      some (Char.ofNat a.toNat) :: chunks rest
    else
      match rest with
      | [] => [none]
      | b :: rest₂ =>
        if leadsTwo a && continues b then
          some (Char.ofNat (a.toNat % 32 * 64 + tail b)) :: chunks rest₂
        else if leadsThree a b then
          match rest₂ with
          | [] => [none]
          | c :: rest₃ =>
            if continues c then
              some (Char.ofNat (a.toNat % 16 * 4096 + tail b * 64 + tail c)) :: chunks rest₃
            else
              none :: chunks (c :: rest₃)
        else if leadsFour a b then
          match rest₂ with
          | [] => [none]
          | c :: rest₃ =>
            if continues c then
              match rest₃ with
              | [] => [none]
              | d :: rest₄ =>
                if continues d then
                  some (Char.ofNat (a.toNat % 8 * 262144 + tail b * 4096 + tail c * 64 + tail d)) ::
                    chunks rest₄
                else
                  none :: chunks (d :: rest₄)
            else
              none :: chunks (c :: rest₃)
        else
          none :: chunks (b :: rest₂)

/-- The characters of some bytes, where every byte belongs to one. -/
def decode? (bytes : List UInt8) : Option (List Char) :=
  (chunks bytes).mapM id

/-- The characters of some bytes, with the replacement character for each spoilt place. -/
def lossy (bytes : List UInt8) : String :=
  String.ofList ((chunks bytes).map (·.getD '\uFFFD'))

def encode (text : String) : List UInt8 := text.toList.flatMap String.utf8EncodeChar

end Beacon.Utf8
