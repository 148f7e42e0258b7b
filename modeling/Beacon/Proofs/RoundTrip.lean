import Beacon.Settings.Writer
import Beacon.Proofs.Json.Printing
import Beacon.Proofs.Settings.Outcome
import Beacon.Proofs.Settings.Reading

/-!
# Settings are read as they were written

`read_document`: reading the document of any settings gives the settings back
if they keep every rule, and the rule they break first if they do not.  No
document that was written is malformed.

The proof meets at the value of the settings.  It is printable, so its
document is read as that value; and it is an object that describes the
settings, so the settings are read off it.  `Schema.Writes` has both from what
is written for a single entry, and there is one proof of it for each of the
three records.
-/

namespace Beacon

open Json (Value Text)

/-! ## Records -/

section Record

variable {Entry : Type} {schema : Schema Entry} {written : Entry → Value} {entries : List Entry}

/-- What is written for an entry can be printed, and says the entry. -/
structure Schema.Writes (schema : Schema Entry) (written : Entry → Value) : Prop where
  plain : ∀ name ∈ schema.names, Json.IsPlain name
  printable : ∀ entry, (written entry).Printable
  said : ∀ entry, schema.Says entry (written entry)

/-- The fields of a record, by their names. -/
def Schema.fields (schema : Schema Entry) (written : Entry → Value) (entries : List Entry) :
    List (String × Value) :=
  entries.map fun entry => (schema.name entry, written entry)

theorem Schema.Writes.printable_record (h : schema.Writes written) (entries : List Entry) :
    (Value.record (schema.fields written entries)).Printable := by
  refine Value.printable_record fun field hfield => ?_
  obtain ⟨entry, -, rfl⟩ := List.mem_map.mp hfield
  exact ⟨h.plain _ (schema.name_mem entry), h.printable entry⟩

theorem Schema.Writes.describes (h : schema.Writes written)
    (honce : (entries.map schema.name).Nodup) :
    schema.Describes
      ((schema.fields written entries).map fun field => (Text.ofString field.1, field.2))
      entries := by
  refine ⟨?_, honce⟩
  clear honce
  induction entries with
  | nil => exact .nil
  | cons entry rest ih => exact .entry (Text.standsFor_ofString _) (h.said entry) ih

end Record

/-! ## Steps -/

namespace PeriodStep

def Part.written (step : PeriodStep) : Part → Value
  | .mode => .ofString step.mode.name
  | .amount => .ofNat step.amount

theorem toValue_eq (step : PeriodStep) :
    step.toValue = .record (step.schema.fields (Part.written step) [.mode, .amount]) := by
  cases step <;> rfl

theorem plain_names (mode : Mode) :
    Json.IsPlain "mode" ∧ Json.IsPlain mode.fieldName ∧ Json.IsPlain mode.name := by
  cases mode <;> decide

theorem writes (step : PeriodStep) : step.schema.Writes (Part.written step) where
  plain := by
    obtain ⟨hmode, hfield, -⟩ := plain_names step.mode
    simp [schema, hmode, hfield]
  printable := by
    intro part
    cases part with
    | mode => exact Value.printable_ofString (plain_names step.mode).2.2
    | amount => exact Value.printable_ofNat _
  said := by
    intro part
    cases part with
    | mode => exact ⟨_, rfl, Text.standsFor_ofString _⟩
    | amount => exact Value.isNatural_ofNat _

theorem printable_toValue (step : PeriodStep) : step.toValue.Printable := by
  rw [toValue_eq]
  exact step.writes.printable_record _

theorem described_toValue (step : PeriodStep) : step.Described step.toValue := by
  have honce : ([Part.mode, Part.amount].map step.schema.name).Nodup := by
    change ([Part.mode, Part.amount].map (Part.name step.mode)).Nodup
    cases step.mode <;> decide
  exact ⟨_, _, step.toValue_eq, step.writes.describes honce, by simp, by simp⟩

end PeriodStep

/-! ## Wirings -/

namespace Wiring

def Entry.written : Entry → Value
  | .lamp line | .k1 line | .k2 line | .k3 line => .ofNat line.toNat
  | .buttonsActiveHigh high => .bool high

theorem writes : schema.Writes Entry.written where
  plain := by decide
  printable := by
    intro entry
    cases entry with
    | buttonsActiveHigh => exact Value.printable_bool _
    | _ => exact Value.printable_ofNat _
  said := by
    intro entry
    cases entry with
    | buttonsActiveHigh => rfl
    | _ => exact Value.isNatural_ofNat _

/-- The fields, in the order in which they are written. -/
def entries (wiring : Wiring) : List Entry :=
  [.lamp wiring.lamp, .k1 wiring.k1, .k2 wiring.k2, .k3 wiring.k3,
    .buttonsActiveHigh wiring.buttonsActiveHigh]

theorem printable_toValue (wiring : Wiring) : wiring.toValue.Printable :=
  writes.printable_record wiring.entries

theorem described_toValue (wiring : Wiring) : wiring.Described wiring.toValue := by
  have honce : (wiring.entries.map schema.name).Nodup := by
    change fieldNames.Nodup
    decide
  exact ⟨_, wiring.entries, rfl, writes.describes honce, rfl⟩

end Wiring

/-! ## Settings -/

namespace Settings

def Entry.written : Entry → Value
  | .periodMs ms | .shortestMs ms | .longestMs ms | .repeatIntervalMs ms => .ofNat ms.toNat
  | .dutyPercent percent => .ofNat percent.toNat
  | .step given => given.toValue
  | .wiring given => given.toValue

theorem writes : schema.Writes Entry.written where
  plain := by decide
  printable := by
    intro entry
    cases entry with
    | step given => exact given.printable_toValue
    | wiring given => exact given.printable_toValue
    | _ => exact Value.printable_ofNat _
  said := by
    intro entry
    cases entry with
    | step given => exact given.described_toValue
    | wiring given => exact given.described_toValue
    | _ => exact Value.isNatural_ofNat _

/-- The fields, in the order in which they are written. -/
def entries (settings : Settings) : List Entry :=
  [.periodMs settings.periodMs, .dutyPercent settings.dutyPercent,
    .shortestMs settings.shortestMs, .longestMs settings.longestMs, .step settings.step,
    .repeatIntervalMs settings.repeatIntervalMs, .wiring settings.wiring]

/-- The fields leave nothing of the defaults. -/
theorem foldl_entries (settings : Settings) : settings.entries.foldl overwrite {} = settings := by
  simp only [entries, List.foldl_cons, List.foldl_nil, overwrite]

theorem ofBytes?_document (settings : Settings) :
    ofBytes? settings.document = some settings := by
  have hprintable : settings.toValue.Printable := writes.printable_record settings.entries
  have honce : (settings.entries.map schema.name).Nodup := by
    change fieldNames.Nodup
    decide
  have hdescribed : settings.Described _ :=
    ⟨settings.entries, writes.describes honce, settings.foldl_entries.symm⟩
  unfold ofBytes?
  rw [show settings.document = settings.toValue.bytes from rfl,
    Value.ofBytes?_of_spelling hprintable.spelling, Option.bind_some]
  exact ofValue?_of_described hdescribed

/-- The document of any settings, whether they keep the rules or not, is read
as these settings and then checked. -/
theorem read_document (settings : Settings) :
    read settings.document = (settings.check.map fun _ => settings) ∧
      read settings.document ≠ .error .malformed :=
  ⟨read_of_ofBytes? settings.ofBytes?_document,
    read_ne_malformed_iff.mpr ⟨settings, settings.ofBytes?_document⟩⟩

end Settings

end Beacon
