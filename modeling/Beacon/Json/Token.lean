import Beacon.Json.Number
import Beacon.Json.Text

/-!
# Tokens of a document

A document is a sequence of bytes, and `Token.ofBytes?` cuts it into tokens. The scanner is a
machine that takes one byte at a time, so it needs no look-ahead: a number ends at the first byte
that cannot continue it, and that byte is then taken as if the scanner were at rest.

Blanks are the space, the tab, the line feed and the carriage return. A string may hold any byte
but a control character; what its bytes mean is not looked at here.
-/

namespace Beacon.Json

inductive Token where
  | openArray
  | closeArray
  | openObject
  | closeObject
  | comma
  | colon
  | null
  | bool (b : Bool)
  | number (n : Number)
  | string (t : Text)
deriving DecidableEq

namespace Scanner

/-! ## Numbers under way -/

inductive Stage where
  | minus
  | zero
  | whole
  | point
  | fraction
  | mark
  | sign
  | exponent
deriving DecidableEq

/-- A number under way; the digits are in reverse. -/
structure Partial where
  stage : Stage
  negative : Bool := false
  whole : List Digit := []
  fraction : List Digit := []
  exponentNegative : Bool := false
  exponent : List Digit := []
deriving DecidableEq

def digit? (b : UInt8) : Option Digit :=
  if 0x30 ≤ b && b ≤ 0x39 then some (Digit.ofNat (b.toNat - 0x30)) else none

def Partial.start? (b : UInt8) : Option Partial :=
  if b == 0x2D then some { stage := .minus, negative := true }
  else (digit? b).map fun d =>
    { stage := if d.val = 0 then .zero else .whole, whole := [d] }

/-- The number under way after one more byte, if the byte continues it. -/
def Partial.next? (p : Partial) (b : UInt8) : Option Partial :=
  let digit := digit? b
  let isPoint := b == 0x2E
  let isMark := b == 0x65 || b == 0x45
  match p.stage with
  | .minus => digit.map fun d =>
      { p with stage := if d.val = 0 then .zero else .whole, whole := [d] }
  | .zero =>
    if isPoint then some { p with stage := .point }
    else if isMark then some { p with stage := .mark }
    else none
  | .whole =>
    if isPoint then some { p with stage := .point }
    else if isMark then some { p with stage := .mark }
    else digit.map fun d => { p with whole := d :: p.whole }
  | .point => digit.map fun d => { p with stage := .fraction, fraction := [d] }
  | .fraction =>
    if isMark then some { p with stage := .mark }
    else digit.map fun d => { p with fraction := d :: p.fraction }
  | .mark =>
    if b == 0x2B then some { p with stage := .sign }
    else if b == 0x2D then some { p with stage := .sign, exponentNegative := true }
    else digit.map fun d => { p with stage := .exponent, exponent := [d] }
  | .sign => digit.map fun d => { p with stage := .exponent, exponent := [d] }
  | .exponent => digit.map fun d => { p with exponent := d :: p.exponent }

/-- The finished number, if a number may end here. -/
def Partial.done? (p : Partial) : Option Number :=
  match p.stage with
  | .zero | .whole | .fraction => some ⟨p.negative, p.whole.reverse, p.fraction.reverse, none⟩
  | .exponent =>
    some ⟨p.negative, p.whole.reverse, p.fraction.reverse,
      some (p.exponentNegative, p.exponent.reverse)⟩
  | _ => none

/-! ## The machine -/

/-- Where the scanner stands. What has been read of a string is in reverse. -/
inductive Mode where
  | rest
  /-- Inside a word; the bytes that it still needs. -/
  | word (token : Token) (missing : List UInt8)
  | number (p : Partial)
  | string (read : Text)
  | escape (read : Text)
  /-- Inside a unit: the number of digits still to come, and the value of the others. -/
  | unit (read : Text) (missing : Nat) (value : Nat)
deriving DecidableEq

/-- A scanner: the tokens so far, the latest one first, and where it stands. -/
structure State where
  tokens : List Token := []
  mode : Mode := .rest
deriving DecidableEq

def isBlank (b : UInt8) : Bool := b == 0x20 || b == 0x09 || b == 0x0A || b == 0x0D

def mark? (b : UInt8) : Option Token :=
  if b == 0x5B then some .openArray
  else if b == 0x5D then some .closeArray
  else if b == 0x7B then some .openObject
  else if b == 0x7D then some .closeObject
  else if b == 0x2C then some .comma
  else if b == 0x3A then some .colon
  else none

/-- The word that a byte begins, and the bytes that follow in it. -/
def word? (b : UInt8) : Option (Token × List UInt8) :=
  if b == 0x6E then some (.null, [0x75, 0x6C, 0x6C])
  else if b == 0x74 then some (.bool true, [0x72, 0x75, 0x65])
  else if b == 0x66 then some (.bool false, [0x61, 0x6C, 0x73, 0x65])
  else none

/-- The value of a hexadecimal digit, in either case. -/
def hexDigit? (b : UInt8) : Option Nat :=
  if 0x30 ≤ b && b ≤ 0x39 then some (b.toNat - 0x30)
  else if 0x41 ≤ b && b ≤ 0x46 then some (b.toNat - 0x37)
  else if 0x61 ≤ b && b ≤ 0x66 then some (b.toNat - 0x57)
  else none

/-- The byte that a backslash and a byte stand for. -/
def escaped? (b : UInt8) : Option UInt8 :=
  if b == 0x22 || b == 0x5C || b == 0x2F then some b
  else if b == 0x62 then some 0x08
  else if b == 0x66 then some 0x0C
  else if b == 0x6E then some 0x0A
  else if b == 0x72 then some 0x0D
  else if b == 0x74 then some 0x09
  else none

def start? (tokens : List Token) (b : UInt8) : Option State :=
  if isBlank b then some ⟨tokens, .rest⟩
  else if b == 0x22 then some ⟨tokens, .string []⟩
  else match mark? b with
    | some token => some ⟨token :: tokens, .rest⟩
    | none =>
      match word? b with
      | some (token, missing) => some ⟨tokens, .word token missing⟩
      | none => (Partial.start? b).map fun p => ⟨tokens, .number p⟩

def step? (s : State) (b : UInt8) : Option State :=
  match s.mode with
  | .rest => start? s.tokens b
  | .word token missing =>
    match missing with
    | [] => none
    | [last] => if b == last then some ⟨token :: s.tokens, .rest⟩ else none
    | next :: more => if b == next then some ⟨s.tokens, .word token more⟩ else none
  | .number p =>
    match p.next? b with
    | some q => some ⟨s.tokens, .number q⟩
    | none => p.done?.bind fun n => start? (.number n :: s.tokens) b
  | .string read =>
    if b == 0x22 then some ⟨.string read.reverse :: s.tokens, .rest⟩
    else if b == 0x5C then some ⟨s.tokens, .escape read⟩
    else if b < 0x20 then none
    else some ⟨s.tokens, .string (.byte b :: read)⟩
  | .escape read =>
    if b == 0x75 then some ⟨s.tokens, .unit read 4 0⟩
    else (escaped? b).map fun c => ⟨s.tokens, .string (.byte c :: read)⟩
  | .unit read missing value =>
    (hexDigit? b).map fun h =>
      let value := 16 * value + h
      if missing = 1 then ⟨s.tokens, .string (.unit value.toUInt16 :: read)⟩
      else ⟨s.tokens, .unit read (missing - 1) value⟩

/-- The tokens of a scanner that has taken every byte. -/
def State.done? (s : State) : Option (List Token) :=
  match s.mode with
  | .rest => some s.tokens.reverse
  | .number p => p.done?.map fun n => (.number n :: s.tokens).reverse
  | _ => none

end Scanner

def Token.ofBytes? (bytes : List UInt8) : Option (List Token) :=
  (bytes.foldlM Scanner.step? {}).bind Scanner.State.done?

end Beacon.Json
