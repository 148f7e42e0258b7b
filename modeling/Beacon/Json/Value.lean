import Beacon.Json.Token

/-!
# Values of a document

`Value.ofTokens?` puts the tokens of a document together to one value. The builder keeps the
containers that are still open on a stack, so documents may be nested as deep as they like. It
takes one token at a time, and the state says all that may follow: a value, a key, a colon, or
what stands behind a value.
-/

namespace Beacon.Json

/-- A value of a document. An object keeps its members in their order, repeated keys included. -/
inductive Value where
  | null
  | bool (b : Bool)
  | number (n : Number)
  | string (t : Text)
  | array (items : List Value)
  | object (members : List (Text × Value))

/-- A container that is still open, with what it holds so far in reverse. -/
inductive Frame where
  | array (items : List Value)
  /-- An object, and the key of the member whose value is being read. -/
  | object (members : List (Text × Value)) (key : Text)

/-- A value under way: what is expected next, inside which open containers. -/
inductive Builder where
  | value (stack : List Frame)
  /-- The first item of an array, or its end. -/
  | item (stack : List Frame)
  /-- The first key of an object, or its end. -/
  | member (stack : List Frame)
  | key (stack : List Frame) (members : List (Text × Value))
  | colon (stack : List Frame) (members : List (Text × Value)) (key : Text)
  /-- What stands behind a value that has just ended. -/
  | after (stack : List Frame) (value : Value)

namespace Builder

def begin? (stack : List Frame) : Token → Option Builder
  | .openArray => some (.item stack)
  | .openObject => some (.member stack)
  | .null => some (.after stack .null)
  | .bool b => some (.after stack (.bool b))
  | .number n => some (.after stack (.number n))
  | .string t => some (.after stack (.string t))
  | _ => none

def push? : Builder → Token → Option Builder
  | value stack, token => begin? stack token
  | item stack, .closeArray => some (after stack (.array []))
  | item stack, token => begin? (.array [] :: stack) token
  | member stack, .closeObject => some (after stack (.object []))
  | member stack, .string k => some (colon stack [] k)
  | key stack members, .string k => some (colon stack members k)
  | colon stack members k, .colon => some (value (.object members k :: stack))
  | after (.array items :: stack) v, .comma => some (value (.array (v :: items) :: stack))
  | after (.array items :: stack) v, .closeArray =>
    some (after stack (.array (v :: items).reverse))
  | after (.object members k :: stack) v, .comma => some (key stack ((k, v) :: members))
  | after (.object members k :: stack) v, .closeObject =>
    some (after stack (.object ((k, v) :: members).reverse))
  | _, _ => none

/-- The value, if it is complete. -/
def done? : Builder → Option Value
  | after [] v => some v
  | _ => none

end Builder

namespace Value

/-- The value that a sequence of tokens spells. -/
def ofTokens? (tokens : List Token) : Option Value :=
  (tokens.foldlM Builder.push? (.value [])).bind Builder.done?

def ofBytes? (bytes : List UInt8) : Option Value :=
  (Token.ofBytes? bytes).bind ofTokens?

/-! ## Scalars -/

def naturalBelow? (value : Value) (limit : Nat) : Option Nat :=
  match value with
  | .number n => n.natural?.filter (· < limit)
  | _ => none

def uint8? (value : Value) : Option UInt8 := (value.naturalBelow? UInt8.size).map Nat.toUInt8

def uint16? (value : Value) : Option UInt16 := (value.naturalBelow? UInt16.size).map Nat.toUInt16

def uint32? (value : Value) : Option UInt32 := (value.naturalBelow? UInt32.size).map Nat.toUInt32

def bool? : Value → Option Bool
  | .bool b => some b
  | _ => none

def text? : Value → Option (List Char)
  | .string t => t.decode?
  | _ => none

/-! ## Sound values -/

mutual

/-- Whether a value can be taken in completely: its strings and keys are text, its numbers are
within the range of double precision, and its containers are nested no deeper than `room`. -/
def isSound (room : Nat) : Value → Bool
  | .null => true
  | .bool _ => true
  | .number n => !n.overflows
  | .string t => t.decode?.isSome
  | .array items =>
    match room with
    | 0 => false
    | room + 1 => areSound room items
  | .object members =>
    match room with
    | 0 => false
    | room + 1 => areSoundMembers room members

/-- Whether every item is sound. -/
def areSound (room : Nat) : List Value → Bool
  | [] => true
  | v :: rest => isSound room v && areSound room rest

/-- Whether every key is text and every value is sound. -/
def areSoundMembers (room : Nat) : List (Text × Value) → Bool
  | [] => true
  | (k, v) :: rest => k.decode?.isSome && isSound room v && areSoundMembers room rest

end

end Value

end Beacon.Json
