import Mathlib.Data.List.Forall2
import Beacon.Proofs.Json.Meaning
import Beacon.Proofs.Settings.Description

/-!
# Reading what an object describes

An object that describes settings is read as these settings
(`Settings.ofValue?_of_described`), and so are the objects of a wiring and of
a step.

There are three steps.

* `Schema.Lists.values`: the values that a name finds in an object are those
  that say the entries of the name, in order.
* `Schema.Sets.fieldOr_eq`: a field that is set by one kind of entry is read as
  that entry says, and as the default if there is none.  Which entry sets which
  field is said once for each field, by `Schema.Sets.of_make`.
* The records are read field by field.
-/

namespace Beacon

open Json (Value Text Number)

/-! ## Numbers -/

theorem Json.Value.IsNatural.naturalBelow? {value : Value} {n limit : Nat}
    (h : value.IsNatural n) (hlt : n < limit) : value.naturalBelow? limit = some n := by
  obtain ⟨digits, rfl, rfl⟩ := h
  simp [Value.naturalBelow?, Number.natural?, hlt]

theorem Json.Value.IsNatural.uint8? {value : Value} {n : UInt8} (h : value.IsNatural n.toNat) :
    value.uint8? = some n := by
  simp [Value.uint8?, h.naturalBelow? n.toNat_lt]

theorem Json.Value.IsNatural.uint16? {value : Value} {n : UInt16} (h : value.IsNatural n.toNat) :
    value.uint16? = some n := by
  simp [Value.uint16?, h.naturalBelow? n.toNat_lt]

theorem Json.Value.IsNatural.uint32? {value : Value} {n : UInt32} (h : value.IsNatural n.toNat) :
    value.uint32? = some n := by
  simp [Value.uint32?, h.naturalBelow? n.toNat_lt]

/-! ## Members -/

theorem Members.ofObject?_cons (key : Text) (value : Value) (rest : List (Text × Value)) :
    Members.ofObject? ((key, value) :: rest) =
      key.decode?.bind fun name => (Members.ofObject? rest).map ((name, value) :: ·) := by
  unfold Members.ofObject?
  rw [List.mapM_cons]
  dsimp only
  generalize List.mapM (fun member : Text × Value => Option.map (fun name => (name, member.2))
    member.1.decode?) rest = found
  cases key.decode? <;> cases found <;> rfl

theorem Members.values_cons (name : List Char) (value : Value) (rest : Members) (field : String) :
    Members.values ((name, value) :: rest) field =
      if name = field.toList then value :: rest.values field else rest.values field := by
  unfold Members.values
  by_cases h : name = field.toList <;> simp [h]

namespace Schema

variable {Entry : Type} {schema : Schema Entry} {members : List (Text × Value)}
  {entries : List Entry}

/-- The values of a field are those that say its entries, in order. -/
theorem Lists.values (h : schema.Lists members entries) :
    ∃ found, Members.ofObject? members = some found ∧
      ∀ field ∈ schema.names, List.Forall₂ schema.Says
        (entries.filter (schema.name · = field)) (found.values field) := by
  induction h with
  | nil => exact ⟨[], rfl, fun _ _ => .nil⟩
  | @entry key value members entry entries hkey hsaid _ ih =>
    obtain ⟨found, hfound, hvalues⟩ := ih
    refine ⟨_, by rw [Members.ofObject?_cons, Text.decode?_of_standsFor hkey, hfound]; rfl,
      fun field hfield => ?_⟩
    rw [Members.values_cons]
    by_cases hname : schema.name entry = field
    · rw [if_pos (by rw [hname]), List.filter_cons_of_pos (by simpa using hname)]
      exact .cons hsaid (hvalues field hfield)
    · have hne : (schema.name entry).toList ≠ field.toList :=
        fun h => hname (String.toList_injective h)
      rw [if_neg hne, List.filter_cons_of_neg (by simpa using hname)]
      exact hvalues field hfield
  | @other key value members entries name hkey hunknown _ _ ih =>
    obtain ⟨found, hfound, hvalues⟩ := ih
    refine ⟨_, by rw [Members.ofObject?_cons, Text.decode?_of_standsFor hkey, hfound]; rfl,
      fun field hfield => ?_⟩
    rw [Members.values_cons, if_neg (Ne.symm (hunknown field hfield))]
    exact hvalues field hfield

/-- Among distinct names, a name is that of one entry. -/
theorem filter_eq_singleton {name : Entry → String} (h : (entries.map name).Nodup) {entry : Entry}
    (hentry : entry ∈ entries) : entries.filter (name · = name entry) = [entry] := by
  induction entries with
  | nil => cases hentry
  | cons first rest ih =>
    rw [List.map_cons, List.nodup_cons] at h
    have hrest : ∀ other ∈ rest, name other ≠ name first := by
      intro other hother heq
      exact h.1 (heq ▸ List.mem_map_of_mem hother)
    rcases List.mem_cons.mp hentry with rfl | hmem
    · rw [List.filter_cons_of_pos (by simp), List.filter_eq_nil_iff.mpr (by simpa using hrest)]
    · rw [List.filter_cons_of_neg (by simpa using (hrest entry hmem).symm)]
      exact ih h.2 hmem

/-- A field that no entry gives is not found. -/
theorem Lists.values_eq_nil (h : schema.Lists members entries) {found : Members}
    (hfound : Members.ofObject? members = some found) {field : String}
    (hfield : field ∈ schema.names) (hnone : ∀ entry ∈ entries, schema.name entry ≠ field) :
    found.values field = [] := by
  obtain ⟨found', hfound', hvalues⟩ := h.values
  obtain rfl : found' = found := Option.some_inj.mp (hfound'.symm.trans hfound)
  have hfilter : entries.filter (schema.name · = field) = [] := by
    simpa [List.filter_eq_nil_iff] using hnone
  have hpair := hvalues field hfield
  rw [hfilter] at hpair
  exact List.forall₂_nil_left_iff.mp hpair

/-- A field that is given once is all that its name finds. -/
theorem Describes.values_eq (h : schema.Describes members entries) {found : Members}
    (hfound : Members.ofObject? members = some found) {entry : Entry} (hentry : entry ∈ entries) :
    ∃ value, found.values (schema.name entry) = [value] ∧ schema.Says entry value := by
  obtain ⟨found', hfound', hvalues⟩ := h.lists.values
  obtain rfl : found' = found := Option.some_inj.mp (hfound'.symm.trans hfound)
  have hfilter : entries.filter (schema.name · = schema.name entry) = [entry] :=
    filter_eq_singleton h.once hentry
  have hpair := hvalues _ (schema.name_mem entry)
  rw [hfilter] at hpair
  obtain ⟨value, rest, hsaid, hrest, heq⟩ := List.forall₂_cons_left_iff.mp hpair
  rw [List.forall₂_nil_left_iff.mp hrest] at heq
  exact ⟨value, heq, hsaid⟩

end Schema

/-! ## Fields

`get` is a field of a record that entries overwrite: an entry of the field's
name sets it to what the entry says, and the others leave it alone. -/

section Field

variable {Entry Record Part : Type} {schema : Schema Entry} {overwrite : Record → Entry → Record}
  {field : String} {get : Record → Part} {read : Value → Option Part}
  {members : List (Text × Value)} {entries : List Entry}

/-- The entries of one name, and no others, set a field of the record; what
they say is what the field reads. -/
structure Schema.Sets (schema : Schema Entry) (overwrite : Record → Entry → Record)
    (field : String) (get : Record → Part) (read : Value → Option Part) : Prop where
  known : field ∈ schema.names
  set : ∀ record entry value, schema.name entry = field → schema.Says entry value →
    read value = some (get (overwrite record entry))
  keep : ∀ record entry, schema.name entry ≠ field → get (overwrite record entry) = get record

namespace Schema.Sets

/-- A field has one kind of entry, and no other entry touches it. -/
theorem of_make (make : Part → Entry) (known : field ∈ schema.names)
    (made : ∀ entry, (∃ part, entry = make part) ∨
      schema.name entry ≠ field ∧ ∀ record, get (overwrite record entry) = get record)
    (named : ∀ part, schema.name (make part) = field)
    (reads : ∀ part value, schema.Says (make part) value → read value = some part)
    (gets : ∀ record part, get (overwrite record (make part)) = part) :
    schema.Sets overwrite field get read where
  known := known
  set := by
    intro record entry value hname hsaid
    rcases made entry with ⟨part, rfl⟩ | ⟨hother, -⟩
    · rw [gets, reads part value hsaid]
    · exact absurd hname hother
  keep := by
    intro record entry hname
    rcases made entry with ⟨part, rfl⟩ | ⟨-, hkeep⟩
    · exact absurd (named part) hname
    · exact hkeep record

theorem get_foldl (h : schema.Sets overwrite field get read)
    (hnone : ∀ entry ∈ entries, schema.name entry ≠ field) (record : Record) :
    get (entries.foldl overwrite record) = get record := by
  induction entries generalizing record with
  | nil => rfl
  | cons first rest ih =>
    rw [List.foldl_cons, ih (fun entry hentry => hnone entry (by simp [hentry]))]
    exact h.keep record first (hnone first (by simp))

/-- A field is read as what the only entry of its name says, and as the
default if there is no such entry. -/
theorem fieldOr_eq (h : schema.Sets overwrite field get read)
    (hdescribes : schema.Describes members entries) {found : Members}
    (hfound : Members.ofObject? members = some found) (record : Record) :
    found.fieldOr field (get record) read = some (get (entries.foldl overwrite record)) := by
  by_cases hgiven : ∃ entry ∈ entries, schema.name entry = field
  · obtain ⟨entry, hentry, hname⟩ := hgiven
    obtain ⟨value, hvalue, hsaid⟩ := hdescribes.values_eq hfound hentry
    obtain ⟨before, after, rfl⟩ := List.append_of_mem hentry
    have honce := hdescribes.once
    rw [List.map_append, List.map_cons, List.nodup_append] at honce
    have hafter : ∀ other ∈ after, schema.name other ≠ field := by
      intro other hother heq
      exact (List.nodup_cons.mp honce.2.1).1 (hname ▸ heq ▸ List.mem_map_of_mem hother)
    unfold Members.fieldOr
    rw [← hname, hvalue, List.foldl_append, List.foldl_cons, h.get_foldl hafter]
    exact h.set _ _ _ hname hsaid
  · have hnone : ∀ entry ∈ entries, schema.name entry ≠ field :=
      fun entry hentry hname => hgiven ⟨entry, hentry, hname⟩
    unfold Members.fieldOr
    rw [hdescribes.lists.values_eq_nil hfound h.known hnone, h.get_foldl hnone]

end Schema.Sets

end Field

/-! ## Wiring -/

namespace Wiring

theorem sets_lamp : schema.Sets overwrite "led" lamp Value.uint32? :=
  .of_make .lamp (by decide)
    (fun entry => by cases entry <;> simp [schema, Entry.name, overwrite])
    (fun _ => rfl) (fun _ _ h => Value.IsNatural.uint32? h) (fun _ _ => rfl)

theorem sets_k1 : schema.Sets overwrite "k1" k1 Value.uint32? :=
  .of_make .k1 (by decide)
    (fun entry => by cases entry <;> simp [schema, Entry.name, overwrite])
    (fun _ => rfl) (fun _ _ h => Value.IsNatural.uint32? h) (fun _ _ => rfl)

theorem sets_k2 : schema.Sets overwrite "k2" k2 Value.uint32? :=
  .of_make .k2 (by decide)
    (fun entry => by cases entry <;> simp [schema, Entry.name, overwrite])
    (fun _ => rfl) (fun _ _ h => Value.IsNatural.uint32? h) (fun _ _ => rfl)

theorem sets_k3 : schema.Sets overwrite "k3" k3 Value.uint32? :=
  .of_make .k3 (by decide)
    (fun entry => by cases entry <;> simp [schema, Entry.name, overwrite])
    (fun _ => rfl) (fun _ _ h => Value.IsNatural.uint32? h) (fun _ _ => rfl)

theorem sets_buttonsActiveHigh :
    schema.Sets overwrite "buttons_active_high" buttonsActiveHigh Value.bool? :=
  .of_make .buttonsActiveHigh (by decide)
    (fun entry => by cases entry <;> simp [schema, Entry.name, overwrite])
    (fun _ => rfl) (fun _ _ h => by rw [h]; rfl) (fun _ _ => rfl)

theorem ofValue?_of_described {wiring : Wiring} {value : Value} (h : wiring.Described value) :
    ofValue? value = some wiring := by
  obtain ⟨members, entries, rfl, hdescribes, rfl⟩ := h
  obtain ⟨found, hfound, -⟩ := hdescribes.lists.values
  have hmembers : ofMembers? found = some (entries.foldl overwrite {}) := by
    unfold ofMembers?
    simp only [sets_lamp.fieldOr_eq hdescribes hfound {}, sets_k1.fieldOr_eq hdescribes hfound {},
      sets_k2.fieldOr_eq hdescribes hfound {}, sets_k3.fieldOr_eq hdescribes hfound {},
      sets_buttonsActiveHigh.fieldOr_eq hdescribes hfound {}]
    rfl
  simp [ofValue?, hfound, hmembers]

end Wiring

/-! ## Step -/

namespace PeriodStep

theorem step?_of_isNatural {step : PeriodStep} {value : Value} (h : value.IsNatural step.amount) :
    step.mode.step? value = some step := by
  cases step with
  | fixed ms => simp [mode, Mode.step?, Value.IsNatural.uint32? h]
  | scale percent => simp [mode, Mode.step?, Value.IsNatural.uint16? h]

theorem ofName?_name (mode : Mode) : Mode.ofName? mode.name.toList = some mode := by
  cases mode <;> decide

theorem mode?_of_standsFor {mode : Mode} {tag : Text} (h : tag.StandsFor mode.name.toList) :
    mode? (.string tag) = some mode := by
  simp [mode?, Value.text?, Text.decode?_of_standsFor h, ofName?_name]

theorem amount_lt (step : PeriodStep) : step.amount < UInt32.size := by
  cases step with
  | fixed ms => exact ms.toNat_lt
  | scale percent => exact Nat.lt_trans percent.toNat_lt (by decide)

/-- Everything in the object of a step is sound: what the step needs is, and
the rest has to be. -/
theorem isSound_of_lists {step : PeriodStep} {members : List (Text × Value)} {parts : List Part}
    (h : step.schema.Lists members parts) :
    ∀ member ∈ members, member.1.decode?.isSome = true ∧
      member.2.isSound (depthLimit - 1) = true := by
  induction h with
  | nil => simp
  | @entry key value members part parts hkey hsaid _ ih =>
    have hsound : value.isSound (depthLimit - 1) = true := by
      cases part with
      | mode =>
        obtain ⟨text, rfl, htext⟩ := hsaid
        exact Value.isSound_of_readable (.string htext)
      | amount =>
        obtain ⟨digits, rfl, hdigits⟩ := hsaid
        exact Value.isSound_of_readable
          (.number (Number.overflows_of_lt (hdigits ▸ step.amount_lt)))
    rw [List.forall_mem_cons]
    exact ⟨⟨by rw [Text.decode?_of_standsFor hkey]; rfl, hsound⟩, ih⟩
  | @other key value members parts name hkey _ hpasses _ ih =>
    rw [List.forall_mem_cons]
    exact ⟨⟨by rw [Text.decode?_of_standsFor hkey]; rfl, Value.isSound_of_readable hpasses⟩, ih⟩

theorem ofValue?_of_described {step : PeriodStep} {value : Value} (h : step.Described value) :
    ofValue? value = some step := by
  obtain ⟨members, parts, rfl, hdescribes, hmode, hamount⟩ := h
  obtain ⟨found, hfound, -⟩ := hdescribes.lists.values
  have hsound : (Value.object members).isSound depthLimit = true :=
    Value.areSoundMembers_iff.mpr (isSound_of_lists hdescribes.lists)
  have hmembers : ofMembers? found = some step := by
    obtain ⟨tag, htag, text, rfl, htext⟩ := hdescribes.values_eq hfound hmode
    obtain ⟨value, hvalue, hnatural⟩ := hdescribes.values_eq hfound hamount
    have hmode' : found.field? "mode" mode? = some step.mode := by
      unfold Members.field?
      rw [show found.values "mode" = _ from htag]
      exact mode?_of_standsFor htext
    have hamount' : found.field? step.mode.fieldName step.mode.step? = some step := by
      unfold Members.field?
      rw [show found.values step.mode.fieldName = _ from hvalue]
      exact step?_of_isNatural hnatural
    simp [ofMembers?, hmode', hamount']
  simp [ofValue?, hsound, hfound, hmembers]

end PeriodStep

/-! ## Settings -/

namespace Settings

theorem sets_periodMs : schema.Sets overwrite "period_ms" periodMs Value.uint32? :=
  .of_make .periodMs (by decide)
    (fun entry => by cases entry <;> simp [schema, Entry.name, overwrite])
    (fun _ => rfl) (fun _ _ h => Value.IsNatural.uint32? h) (fun _ _ => rfl)

theorem sets_dutyPercent : schema.Sets overwrite "duty_percent" dutyPercent Value.uint8? :=
  .of_make .dutyPercent (by decide)
    (fun entry => by cases entry <;> simp [schema, Entry.name, overwrite])
    (fun _ => rfl) (fun _ _ h => Value.IsNatural.uint8? h) (fun _ _ => rfl)

theorem sets_shortestMs : schema.Sets overwrite "min_period_ms" shortestMs Value.uint32? :=
  .of_make .shortestMs (by decide)
    (fun entry => by cases entry <;> simp [schema, Entry.name, overwrite])
    (fun _ => rfl) (fun _ _ h => Value.IsNatural.uint32? h) (fun _ _ => rfl)

theorem sets_longestMs : schema.Sets overwrite "max_period_ms" longestMs Value.uint32? :=
  .of_make .longestMs (by decide)
    (fun entry => by cases entry <;> simp [schema, Entry.name, overwrite])
    (fun _ => rfl) (fun _ _ h => Value.IsNatural.uint32? h) (fun _ _ => rfl)

theorem sets_step : schema.Sets overwrite "step" step PeriodStep.ofValue? :=
  .of_make .step (by decide)
    (fun entry => by cases entry <;> simp [schema, Entry.name, overwrite])
    (fun _ => rfl) (fun _ _ h => PeriodStep.ofValue?_of_described h) (fun _ _ => rfl)

theorem sets_repeatIntervalMs :
    schema.Sets overwrite "repeat_interval_ms" repeatIntervalMs Value.uint32? :=
  .of_make .repeatIntervalMs (by decide)
    (fun entry => by cases entry <;> simp [schema, Entry.name, overwrite])
    (fun _ => rfl) (fun _ _ h => Value.IsNatural.uint32? h) (fun _ _ => rfl)

theorem sets_wiring : schema.Sets overwrite "lines" wiring Wiring.ofValue? :=
  .of_make .wiring (by decide)
    (fun entry => by cases entry <;> simp [schema, Entry.name, overwrite])
    (fun _ => rfl) (fun _ _ h => Wiring.ofValue?_of_described h) (fun _ _ => rfl)

theorem ofValue?_of_described {settings : Settings} {members : List (Text × Value)}
    (h : settings.Described members) : ofValue? (.object members) = some settings := by
  obtain ⟨entries, hdescribes, rfl⟩ := h
  obtain ⟨found, hfound, -⟩ := hdescribes.lists.values
  have hmembers : ofMembers? found = some (entries.foldl overwrite {}) := by
    unfold ofMembers?
    simp only [sets_periodMs.fieldOr_eq hdescribes hfound {},
      sets_dutyPercent.fieldOr_eq hdescribes hfound {},
      sets_shortestMs.fieldOr_eq hdescribes hfound {},
      sets_longestMs.fieldOr_eq hdescribes hfound {}, sets_step.fieldOr_eq hdescribes hfound {},
      sets_repeatIntervalMs.fieldOr_eq hdescribes hfound {},
      sets_wiring.fieldOr_eq hdescribes hfound {}]
    rfl
  simp [ofValue?, hfound, hmembers]

end Settings

end Beacon
