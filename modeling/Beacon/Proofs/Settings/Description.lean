import Beacon.Proofs.Json.Grammar
import Beacon.Settings.Reader

/-!
# What an object says of a record

The settings, their wiring and a step are each written as an object, and the
three kinds of objects differ only in their fields.  A `Schema` holds what
they differ in: the names, and which value says which entry.

`Schema.Lists` reads an object member by member, in whatever order they come:
a member is an entry, or its key names no field.  `Schema.Describes` adds that
no field is given twice.  What the object describes is then the defaults,
overwritten by its entries (`Settings.Described`, `Wiring.Described`), or the
step that its two parts make (`PeriodStep.Described`).
-/

namespace Beacon

open Json (Value Text Number)

/-- A number literal that is digits and nothing else, and its value. -/
def Json.Value.IsNatural (value : Value) (n : Nat) : Prop :=
  ∃ digits, value = .number ⟨false, digits, [], none⟩ ∧ Number.ofDigits digits = n

theorem Json.Value.isNatural_ofNat (n : Nat) : (Value.ofNat n).IsNatural n :=
  ⟨_, rfl, Number.ofDigits_digitsOf n⟩

/-! ## Schemas -/

/-- How a record is written as an object. -/
structure Schema (Entry : Type) where
  /-- The names of the fields. -/
  names : List String
  name : Entry → String
  name_mem : ∀ entry, name entry ∈ names
  /-- The value says the entry. -/
  Says : Entry → Value → Prop
  /-- What may stand behind a key that names no field. -/
  Passes : Value → Prop

namespace Schema

variable {Entry : Type}

/-- The entries that an object lists, in its order. A key that names no field
has to be text all the same. -/
inductive Lists (schema : Schema Entry) : List (Text × Value) → List Entry → Prop where
  | nil : Lists schema [] []
  | entry {key : Text} {value : Value} {members : List (Text × Value)} {entry : Entry}
    {entries : List Entry} :
    key.StandsFor (schema.name entry).toList → schema.Says entry value →
      Lists schema members entries → Lists schema ((key, value) :: members) (entry :: entries)
  | other {key : Text} {value : Value} {members : List (Text × Value)} {entries : List Entry}
    {name : List Char} :
    key.StandsFor name → (∀ known ∈ schema.names, known.toList ≠ name) → schema.Passes value →
      Lists schema members entries → Lists schema ((key, value) :: members) entries

/-- An object that gives no field twice, and the entries that it lists. -/
structure Describes (schema : Schema Entry) (members : List (Text × Value))
    (entries : List Entry) : Prop where
  lists : schema.Lists members entries
  once : (entries.map schema.name).Nodup

end Schema

/-- Two members of an object have keys that stand for the name. -/
def Repeats (name : String) (members : List (Text × Value)) : Prop :=
  ∃ first second : Text × Value, [first, second].Sublist members ∧
    first.1.StandsFor name.toList ∧ second.1.StandsFor name.toList

/-! ## Wiring -/

namespace Wiring

/-- What one field of a wiring is. -/
inductive Entry where
  | lamp (line : UInt32)
  | k1 (line : UInt32)
  | k2 (line : UInt32)
  | k3 (line : UInt32)
  | buttonsActiveHigh (high : Bool)

def Entry.name : Entry → String
  | .lamp _ => "led"
  | .k1 _ => "k1"
  | .k2 _ => "k2"
  | .k3 _ => "k3"
  | .buttonsActiveHigh _ => "buttons_active_high"

/-- A line is a natural number, and the polarity is a truth value. -/
def Entry.Says : Entry → Value → Prop
  | .lamp line, value | .k1 line, value | .k2 line, value | .k3 line, value =>
    value.IsNatural line.toNat
  | .buttonsActiveHigh high, value => value = .bool high

def overwrite (wiring : Wiring) : Entry → Wiring
  | .lamp line => { wiring with lamp := line }
  | .k1 line => { wiring with k1 := line }
  | .k2 line => { wiring with k2 := line }
  | .k3 line => { wiring with k3 := line }
  | .buttonsActiveHigh high => { wiring with buttonsActiveHigh := high }

/-- The fields of a wiring, in order. -/
def fieldNames : List String := ["led", "k1", "k2", "k3", "buttons_active_high"]

def schema : Schema Entry where
  names := fieldNames
  name := Entry.name
  name_mem := by
    intro entry
    cases entry <;> simp [Entry.name, fieldNames]
  Says := Entry.Says
  Passes := fun _ => True

/-- The value is an object that describes the wiring. -/
def Described (wiring : Wiring) (value : Value) : Prop :=
  ∃ members entries, value = .object members ∧ schema.Describes members entries ∧
    wiring = entries.foldl overwrite {}

end Wiring

/-! ## Step -/

namespace PeriodStep

def Mode.name : Mode → String
  | .fixed => "fixed"
  | .scale => "scale"

def mode : PeriodStep → Mode
  | .fixed _ => .fixed
  | .scale _ => .scale

/-- The number that the field of the mode holds. -/
def amount : PeriodStep → Nat
  | .fixed ms => ms.toNat
  | .scale percent => percent.toNat

/-- The two members that a step needs. -/
inductive Part where
  | mode
  | amount

def Part.name (mode : Mode) : Part → String
  | .mode => "mode"
  | .amount => mode.fieldName

def Part.Says (step : PeriodStep) : Part → Value → Prop
  | .mode, value => ∃ text, value = .string text ∧ text.StandsFor step.mode.name.toList
  | .amount, value => value.IsNatural step.amount

/-- How a step is written; what its other members hold has to be readable. The
step is itself one of the containers that may be nested. -/
def schema (step : PeriodStep) : Schema Part where
  names := ["mode", step.mode.fieldName]
  name := Part.name step.mode
  name_mem := by
    intro part
    cases part <;> simp [Part.name]
  Says := Part.Says step
  Passes := Value.Readable (depthLimit - 1)

/-- The value is an object with the mode of the step and the field of that
mode. -/
def Described (step : PeriodStep) (value : Value) : Prop :=
  ∃ members parts, value = .object members ∧ step.schema.Describes members parts ∧
    Part.mode ∈ parts ∧ Part.amount ∈ parts

end PeriodStep

/-! ## Settings -/

namespace Settings

/-- What one field of the settings is. -/
inductive Entry where
  | periodMs (ms : UInt32)
  | dutyPercent (percent : UInt8)
  | shortestMs (ms : UInt32)
  | longestMs (ms : UInt32)
  | step (given : PeriodStep)
  | repeatIntervalMs (ms : UInt32)
  | wiring (given : Wiring)

def Entry.name : Entry → String
  | .periodMs _ => "period_ms"
  | .dutyPercent _ => "duty_percent"
  | .shortestMs _ => "min_period_ms"
  | .longestMs _ => "max_period_ms"
  | .step _ => "step"
  | .repeatIntervalMs _ => "repeat_interval_ms"
  | .wiring _ => "lines"

def Entry.Says : Entry → Value → Prop
  | .periodMs ms, value | .shortestMs ms, value | .longestMs ms, value
  | .repeatIntervalMs ms, value => value.IsNatural ms.toNat
  | .dutyPercent percent, value => value.IsNatural percent.toNat
  | .step given, value => given.Described value
  | .wiring given, value => given.Described value

def overwrite (settings : Settings) : Entry → Settings
  | .periodMs ms => { settings with periodMs := ms }
  | .dutyPercent percent => { settings with dutyPercent := percent }
  | .shortestMs ms => { settings with shortestMs := ms }
  | .longestMs ms => { settings with longestMs := ms }
  | .step given => { settings with step := given }
  | .repeatIntervalMs ms => { settings with repeatIntervalMs := ms }
  | .wiring given => { settings with wiring := given }

/-- The fields of the settings, in order. -/
def fieldNames : List String :=
  ["period_ms", "duty_percent", "min_period_ms", "max_period_ms", "step", "repeat_interval_ms",
    "lines"]

def schema : Schema Entry where
  names := fieldNames
  name := Entry.name
  name_mem := by
    intro entry
    cases entry <;> simp [Entry.name, fieldNames]
  Says := Entry.Says
  Passes := fun _ => True

/-- The members of an object that describes the settings. -/
def Described (settings : Settings) (members : List (Text × Value)) : Prop :=
  ∃ entries, schema.Describes members entries ∧ settings = entries.foldl overwrite {}

/-- A document that gives a field twice: one of the settings, a line of the
wiring, the mode of the step, or the field of that mode. -/
inductive Ambiguous (members : List (Text × Value)) : Prop where
  | field {name : String} : name ∈ fieldNames → Repeats name members → Ambiguous members
  | line {key : Text} {lines : List (Text × Value)} {name : String} :
    (key, Value.object lines) ∈ members → key.StandsFor "lines".toList →
      name ∈ Wiring.fieldNames → Repeats name lines → Ambiguous members
  | mode {key : Text} {parts : List (Text × Value)} :
    (key, Value.object parts) ∈ members → key.StandsFor "step".toList →
      Repeats "mode" parts → Ambiguous members
  | amount {key modeKey tag : Text} {parts : List (Text × Value)} {mode : PeriodStep.Mode} :
    (key, Value.object parts) ∈ members → key.StandsFor "step".toList →
      (modeKey, Value.string tag) ∈ parts → modeKey.StandsFor "mode".toList →
      tag.StandsFor mode.name.toList → Repeats mode.fieldName parts → Ambiguous members

end Settings

end Beacon
