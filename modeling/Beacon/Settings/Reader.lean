import Beacon.Settings
import Beacon.Json.Value

/-!
# Reading settings

A document holds settings as an object whose members are the fields, or as an array of the fields
in their order. The two are read apart. Of an object every field is looked up by its name: a key
that names no field is passed over, and so is its value, and a field that is given twice makes the
document malformed. Of an array every field takes the next item, and an item that is left over makes
the document malformed. Either way a field that is missing takes its default, and a value of the
wrong kind makes the document malformed. Whole numbers are digits and nothing else, and are never
cut to fit.

The lines are read the same two ways from an object or an array of their own. A step is an object
with its mode and the field of that mode, or an array of the two, and it is taken in completely: all
that stands in it has to be sound, whether it is used or not.
-/

namespace Beacon

open Json (Value Text)

/-! ## Fields of an object -/

/-- Members of a document, by name. -/
abbrev Members := List (List Char × Value)

/-- The members of an object, if every key is text. -/
def Members.ofObject? (members : List (Text × Value)) : Option Members :=
  members.mapM fun (key, value) => key.decode?.map fun name => (name, value)

def Members.values (members : Members) (name : String) : List Value :=
  (members.filter (·.1 == name.toList)).map (·.2)

/-- A field that may be missing but not repeated. -/
def Members.fieldOr {α : Type} (members : Members) (name : String) (default : α)
    (read : Value → Option α) : Option α :=
  match members.values name with
  | [] => some default
  | [value] => read value
  | _ => none

def Members.field? {α : Type} (members : Members) (name : String)
    (read : Value → Option α) : Option α :=
  match members.values name with
  | [value] => read value
  | _ => none

/-! ## Fields of an array -/

/-- The items of an array that no field has taken yet. -/
abbrev Items := List Value

/-- A field that takes the next item, if there is one, and the items behind it. -/
def Items.nextOr {α : Type} (items : Items) (default : α) (read : Value → Option α) :
    Option (α × Items) :=
  match items with
  | [] => some (default, [])
  | value :: rest => (read value).map fun field => (field, rest)

/-- The array has to end with its last field. -/
def Items.finish? : Items → Option Unit
  | [] => some ()
  | _ :: _ => none

/-! ## Wiring -/

namespace Wiring

def ofMembers? (members : Members) : Option Wiring := do
  let base : Wiring := {}
  let lamp ← members.fieldOr "led" base.lamp Value.uint32?
  let k1 ← members.fieldOr "k1" base.k1 Value.uint32?
  let k2 ← members.fieldOr "k2" base.k2 Value.uint32?
  let k3 ← members.fieldOr "k3" base.k3 Value.uint32?
  let buttonsActiveHigh ←
    members.fieldOr "buttons_active_high" base.buttonsActiveHigh Value.bool?
  return { lamp, k1, k2, k3, buttonsActiveHigh }

def ofItems? (items : Items) : Option Wiring := do
  let base : Wiring := {}
  let (lamp, items) ← items.nextOr base.lamp Value.uint32?
  let (k1, items) ← items.nextOr base.k1 Value.uint32?
  let (k2, items) ← items.nextOr base.k2 Value.uint32?
  let (k3, items) ← items.nextOr base.k3 Value.uint32?
  let (buttonsActiveHigh, items) ← items.nextOr base.buttonsActiveHigh Value.bool?
  items.finish?
  return { lamp, k1, k2, k3, buttonsActiveHigh }

def ofValue? : Value → Option Wiring
  | .object members => (Members.ofObject? members).bind ofMembers?
  | .array items => ofItems? items
  | _ => none

end Wiring

/-! ## Step -/

namespace PeriodStep

/-- The two modes of a step. -/
inductive Mode where
  | fixed
  | scale
deriving DecidableEq

def Mode.ofName? (name : List Char) : Option Mode :=
  if name = "fixed".toList then some .fixed
  else if name = "scale".toList then some .scale
  else none

def Mode.fieldName : Mode → String
  | .fixed => "ms"
  | .scale => "percent"

/-- The step of a mode, from the value of its field. -/
def Mode.step? : Mode → Value → Option PeriodStep
  | .fixed, value => (value.uint32?).map .fixed
  | .scale, value => (value.uint16?).map .scale

def mode? (value : Value) : Option Mode := value.text?.bind Mode.ofName?

def ofMembers? (members : Members) : Option PeriodStep := do
  let mode ← members.field? "mode" mode?
  members.field? mode.fieldName mode.step?

/-- How deep the containers of a step may be nested, the step itself included. -/
def depthLimit : Nat := 126

def ofValue? (value : Value) : Option PeriodStep :=
  if value.isSound depthLimit then
    match value with
    | .object members => (Members.ofObject? members).bind ofMembers?
    | .array [tag, amount] => (mode? tag).bind (·.step? amount)
    | _ => none
  else none

end PeriodStep

/-! ## Settings -/

namespace Settings

def ofMembers? (members : Members) : Option Settings := do
  let base : Settings := {}
  let periodMs ← members.fieldOr "period_ms" base.periodMs Value.uint32?
  let dutyPercent ← members.fieldOr "duty_percent" base.dutyPercent Value.uint8?
  let shortestMs ← members.fieldOr "min_period_ms" base.shortestMs Value.uint32?
  let longestMs ← members.fieldOr "max_period_ms" base.longestMs Value.uint32?
  let step ← members.fieldOr "step" base.step PeriodStep.ofValue?
  let repeatIntervalMs ← members.fieldOr "repeat_interval_ms" base.repeatIntervalMs Value.uint32?
  let wiring ← members.fieldOr "lines" base.wiring Wiring.ofValue?
  return { periodMs, dutyPercent, shortestMs, longestMs, step, repeatIntervalMs, wiring }

def ofItems? (items : Items) : Option Settings := do
  let base : Settings := {}
  let (periodMs, items) ← items.nextOr base.periodMs Value.uint32?
  let (dutyPercent, items) ← items.nextOr base.dutyPercent Value.uint8?
  let (shortestMs, items) ← items.nextOr base.shortestMs Value.uint32?
  let (longestMs, items) ← items.nextOr base.longestMs Value.uint32?
  let (step, items) ← items.nextOr base.step PeriodStep.ofValue?
  let (repeatIntervalMs, items) ← items.nextOr base.repeatIntervalMs Value.uint32?
  let (wiring, items) ← items.nextOr base.wiring Wiring.ofValue?
  items.finish?
  return { periodMs, dutyPercent, shortestMs, longestMs, step, repeatIntervalMs, wiring }

def ofValue? : Value → Option Settings
  | .object members => (Members.ofObject? members).bind ofMembers?
  | .array items => ofItems? items
  | _ => none

/-- The settings that a document describes, whether they keep the rules or not. -/
def ofBytes? (bytes : List UInt8) : Option Settings :=
  (Value.ofBytes? bytes).bind ofValue?

/-- Reads settings from a document and checks them. -/
def read (bytes : List UInt8) : Except SettingsFault Settings :=
  match ofBytes? bytes with
  | none => .error .malformed
  | some settings => do
    settings.check
    return settings

/-- What a reader says of a document that it cannot read: the line it has come to, and why it does
not get further. -/
structure Complaint where
  line : UInt64
  text : String

def Complaint.entry (complaint : Complaint) : Journal.Entry :=
  ⟨.warning, s!"config: parse error at line {complaint.line}: {complaint.text}"⟩

/-- Reads settings from a document. The complaint about a malformed one goes to the journal; the
rule that settings break does not. -/
def readNoting (complain : List UInt8 → Complaint) (bytes : List UInt8) :
    Except SettingsFault Settings × List Journal.Entry :=
  match ofBytes? bytes with
  | none => (.error .malformed, [(complain bytes).entry])
  | some _ => (read bytes, [])

end Settings

end Beacon
