import Beacon.Proofs.Json.Scanning
import Beacon.Proofs.Settings.Items
import Beacon.Proofs.Settings.Repeats

/-!
# What stands at one place of a document

A document with a gap at the place of a field is read as the same settings
whatever fills the gap, except for that field.

* `Place` says where the value of a field can stand: behind a key of its name in
  an object, or at its index in an array.  What else is there is as it may be.
* `Place.members`: the members that a field is looked up in have the value under
  its name, and are the same otherwise.  So the field is read from that value
  alone if it is given once (`Members.values_own`), and no other field is read
  from it (`Members.values_other`).
* `Settings.ofValue?_place` and `Wiring.ofValue?_place` put the fields together:
  either no value makes the document one that can be read, or each value is
  read by itself and overwrites the field.
-/

namespace Beacon

open Json (Value Text Number)

/-- Where the value of a field can stand. -/
inductive Place (names : List String) (name : String) : (Value → Value) → Prop where
  | member (before after : List (Text × Value)) {key : Text} :
    key.StandsFor name.toList →
      Place names name fun value => .object (before ++ (key, value) :: after)
  | item (before after : List Value) :
    names[before.length]? = some name →
      Place names name fun value => .array (before ++ value :: after)

/-! ## Numbers -/

/-- Nothing but the digits of a small number is read as one. -/
theorem Json.Value.naturalBelow?_eq_some_iff {value : Value} {limit n : Nat} :
    value.naturalBelow? limit = some n ↔ value.IsNatural n ∧ n < limit := by
  constructor
  · intro h
    cases value with
    | number number =>
      obtain ⟨negative, whole, fraction, exponent⟩ := number
      obtain ⟨hnatural, hlt⟩ := Option.filter_eq_some_iff.mp h
      simp only [Number.natural?] at hnatural
      split at hnatural
      · cases hnatural
      · next hplain =>
        obtain rfl := Option.some.inj hnatural
        obtain ⟨⟨rfl, rfl⟩, rfl⟩ : (negative = false ∧ fraction = []) ∧ exponent = none := by
          simpa using hplain
        exact ⟨⟨whole, rfl, rfl⟩, of_decide_eq_true hlt⟩
    | null | bool | string | array | object => cases h
  · rintro ⟨hnatural, hlt⟩
    exact hnatural.naturalBelow? hlt

/-! ## Members with a gap -/

namespace Members

variable {before after : Members} {name other : String} {value : Value}

theorem values_append (first second : Members) (name : String) :
    values (first ++ second) name = first.values name ++ second.values name := by
  simp [values]

theorem values_own :
    values (before ++ (name.toList, value) :: after) name =
      before.values name ++ value :: after.values name := by
  rw [values_append, values_cons, if_pos rfl]

theorem values_other (h : other ≠ name) :
    values (before ++ (name.toList, value) :: after) other = values (before ++ after) other := by
  have hne : name.toList ≠ other.toList := fun heq => h (String.toList_injective heq).symm
  rw [values_append, values_cons, if_neg hne, values_append]

/-- Another field does not depend on the value in the gap. -/
theorem fieldOr_other {α : Type} (h : other ≠ name) (default : α) (read : Value → Option α) :
    fieldOr (before ++ (name.toList, value) :: after) other default read =
      fieldOr (before ++ after) other default read := by
  unfold fieldOr
  rw [values_other h]

/-- A field that is given nowhere else is read from the value in the gap. -/
theorem fieldOr_own {α : Type} (hbefore : before.values name = [])
    (hafter : after.values name = []) (default : α) (read : Value → Option α) :
    fieldOr (before ++ (name.toList, value) :: after) name default read = read value := by
  unfold fieldOr
  rw [values_own, hbefore, hafter]
  rfl

theorem field?_other {α : Type} (h : other ≠ name) (read : Value → Option α) :
    field? (before ++ (name.toList, value) :: after) other read =
      field? (before ++ after) other read := by
  unfold field?
  rw [values_other h]

theorem field?_own {α : Type} (hbefore : before.values name = [])
    (hafter : after.values name = []) (read : Value → Option α) :
    field? (before ++ (name.toList, value) :: after) name read = read value := by
  unfold field?
  rw [values_own, hbefore, hafter]
  rfl

/-- A field that is given once is not given beside the gap. -/
theorem alone_of_length_le
    (h : (values (before ++ (name.toList, value) :: after) name).length ≤ 1) :
    before.values name = [] ∧ after.values name = [] := by
  rw [values_own, List.length_append, List.length_cons] at h
  constructor
  · exact List.length_eq_zero_iff.mp (by omega)
  · exact List.length_eq_zero_iff.mp (by omega)

theorem ofObject?_append (first second : List (Text × Value)) :
    ofObject? (first ++ second) =
      (ofObject? first).bind fun before => (ofObject? second).map (before ++ ·) := by
  induction first with
  | nil => exact Option.map_id'.symm
  | cons member rest ih =>
    obtain ⟨key, value⟩ := member
    rw [List.cons_append, ofObject?_cons, ofObject?_cons, ih]
    rcases key.decode? with _ | name
    · rfl
    · rcases ofObject? rest with _ | found
      · rfl
      · simp only [Option.bind_some, Option.map_some, Option.map_map]
        rfl

end Members

namespace Place

variable {names : List String} {name : String} {place : Value → Value}

/-- One value that leaves the members found tells what any other does. -/
theorem members (h : Place names name place) {value : Value} {found : Members}
    (hfound : Members.ofValue? names (place value) = some found) :
    ∃ before after : Members, found = before ++ (name.toList, value) :: after ∧
      ∀ other, Members.ofValue? names (place other) =
        some (before ++ (name.toList, other) :: after) := by
  cases h with
  | @member before after key hkey =>
    have hmembers : ∀ other, Members.ofObject? (before ++ (key, other) :: after) =
        (Members.ofObject? before).bind fun first =>
          (Members.ofObject? after).map fun second =>
            first ++ (name.toList, other) :: second := by
      intro other
      rw [Members.ofObject?_append, Members.ofObject?_cons, Text.decode?_of_standsFor hkey,
        Option.bind_some]
      simp only [Option.map_map]
      rfl
    simp only [Members.ofValue?, hmembers] at hfound ⊢
    obtain ⟨first, hfirst, hrest⟩ := Option.bind_eq_some_iff.mp hfound
    obtain ⟨second, hsecond, rfl⟩ := Option.map_eq_some_iff.mp hrest
    exact ⟨first, second, rfl, fun other => by rw [hfirst, hsecond]; rfl⟩
  | item before after hname =>
    obtain ⟨hlt, hget⟩ := List.getElem?_eq_some_iff.mp hname
    have hsplit : names.map String.toList =
        (names.take before.length).map String.toList ++
          name.toList :: (names.drop (before.length + 1)).map String.toList := by
      rw [← List.map_cons, ← List.map_append, ← hget, List.getElem_cons_drop,
        List.take_append_drop]
    have hzip : ∀ other, (names.map String.toList).zip (before ++ other :: after) =
        ((names.take before.length).map String.toList).zip before ++ (name.toList, other) ::
          ((names.drop (before.length + 1)).map String.toList).zip after := by
      intro other
      rw [hsplit, List.zip_append (by simp; omega), List.zip_cons_cons]
    simp only [Members.ofValue?, Members.ofItems, List.length_append, List.length_cons, hzip]
      at hfound ⊢
    split at hfound
    · next hle =>
      obtain rfl := Option.some.inj hfound
      exact ⟨_, _, rfl, fun other => if_pos hle⟩
    · cases hfound

end Place

/-! ## Wiring -/

namespace Wiring

/-- The fields of a wiring. -/
inductive Field where
  | lamp
  | k1
  | k2
  | k3
  | buttonsActiveHigh

def Field.name : Field → String
  | .lamp => "led"
  | .k1 => "k1"
  | .k2 => "k2"
  | .k3 => "k3"
  | .buttonsActiveHigh => "buttons_active_high"

/-- What a value says of a field. -/
def Field.entry? : Field → Value → Option Entry
  | .lamp, value => value.uint32?.map .lamp
  | .k1, value => value.uint32?.map .k1
  | .k2, value => value.uint32?.map .k2
  | .k3, value => value.uint32?.map .k3
  | .buttonsActiveHigh, value => value.bool?.map .buttonsActiveHigh

theorem Field.name_mem (field : Field) : field.name ∈ fieldNames := by
  cases field <;> decide

/-- Members that can be read with one value in the gap are read from any other
in the same way. -/
theorem ofMembers?_gap {field : Field} {before after : Members} {value : Value} {wiring : Wiring}
    (h : ofMembers? (before ++ (field.name.toList, value) :: after) = some wiring)
    (other : Value) :
    ofMembers? (before ++ (field.name.toList, other) :: after) =
      (field.entry? other).map wiring.overwrite := by
  obtain ⟨hbefore, hafter⟩ := Members.alone_of_length_le (length_le_of_ofMembers? h field.name_mem)
  simp only [ofMembers?, Option.bind_eq_bind, Option.bind_eq_some_iff] at h ⊢
  obtain ⟨_, h₁, _, h₂, _, h₃, _, h₄, _, h₅, hwiring⟩ := h
  obtain rfl := Option.some.inj hwiring
  cases field
  all_goals
    dsimp only [Field.name] at hbefore hafter h₁ h₂ h₃ h₄ h₅ ⊢
    simp (disch := decide) only [Members.fieldOr_other] at h₁ h₂ h₃ h₄ h₅ ⊢
    simp only [Members.fieldOr_own hbefore hafter, h₁, h₂, h₃, h₄, h₅, Option.bind_some,
      Field.entry?, Option.map_eq_bind, Option.bind_assoc]
    rfl

theorem ofValue?_place {field : Field} {place : Value → Value}
    (h : Place fieldNames field.name place) {value : Value} {wiring : Wiring}
    (hread : ofValue? (place value) = some wiring) (other : Value) :
    ofValue? (place other) = (field.entry? other).map wiring.overwrite := by
  rw [ofValue?_eq] at hread ⊢
  obtain ⟨found, hfound, hmembers⟩ := Option.bind_eq_some_iff.mp hread
  obtain ⟨before, after, rfl, hplace⟩ := h.members hfound
  rw [hplace, Option.bind_some]
  exact ofMembers?_gap hmembers other

end Wiring

/-! ## Step -/

namespace PeriodStep

theorem Mode.name_ne_fieldName (mode : Mode) : "mode" ≠ mode.fieldName := by
  cases mode <;> decide

/-- The amount of a step is a number that is small enough to be sound. -/
theorem Mode.isSound_of_step? {mode : Mode} {value : Value} {step : PeriodStep}
    (h : mode.step? value = some step) (room : Nat) : value.isSound room = true := by
  have hnatural : ∃ n, value.IsNatural n ∧ n < UInt32.size := by
    cases mode with
    | fixed =>
      obtain ⟨ms, hms, -⟩ := Option.map_eq_some_iff.mp h
      obtain ⟨n, hn, -⟩ := Option.map_eq_some_iff.mp hms
      exact ⟨n, Value.naturalBelow?_eq_some_iff.mp hn⟩
    | scale =>
      obtain ⟨percent, hpercent, -⟩ := Option.map_eq_some_iff.mp h
      obtain ⟨n, hn, -⟩ := Option.map_eq_some_iff.mp hpercent
      obtain ⟨hnatural, hlt⟩ := Value.naturalBelow?_eq_some_iff.mp hn
      exact ⟨n, hnatural, Nat.lt_trans hlt (by decide)⟩
  obtain ⟨n, ⟨digits, rfl, hdigits⟩, hlt⟩ := hnatural
  exact Value.isSound_of_readable (.number (Number.overflows_of_lt (hdigits ▸ hlt)))

theorem ofMembers?_gap {mode : Mode} {before after : Members} {value : Value} {step : PeriodStep}
    (hmode : (before ++ after).field? "mode" mode? = some mode)
    (h : ofMembers? (before ++ (mode.fieldName.toList, value) :: after) = some step)
    (other : Value) :
    ofMembers? (before ++ (mode.fieldName.toList, other) :: after) = mode.step? other := by
  simp only [ofMembers?, Members.field?_other mode.name_ne_fieldName, hmode, Option.bind_eq_bind,
    Option.bind_some] at h ⊢
  obtain ⟨given, hgiven, -⟩ := Members.values_of_field? h
  obtain ⟨hbefore, hafter⟩ := Members.alone_of_length_le (by rw [hgiven]; exact Nat.le_refl 1)
  exact Members.field?_own hbefore hafter mode.step?

/-- The object of a step that can be read with one amount is read with any other as
that says. -/
theorem ofValue?_gap {mode : Mode} {before after : List (Text × Value)} {key modeKey tag : Text}
    (hkey : key.StandsFor mode.fieldName.toList)
    (hmember : (modeKey, .string tag) ∈ before ++ after)
    (hmodeKey : modeKey.StandsFor "mode".toList) (htag : tag.StandsFor mode.name.toList)
    {value : Value} {step : PeriodStep}
    (hread : ofValue? (.object (before ++ (key, value) :: after)) = some step) (other : Value) :
    ofValue? (.object (before ++ (key, other) :: after)) = mode.step? other := by
  unfold ofValue? at hread
  split at hread
  case isFalse => cases hread
  case isTrue hsound =>
    obtain ⟨found, hfound, hmembers⟩ := Option.bind_eq_some_iff.mp hread
    have hplace : Place [] mode.fieldName fun value => .object (before ++ (key, value) :: after) :=
      .member before after hkey
    obtain ⟨first, second, rfl, hothers⟩ := hplace.members hfound
    have hmode : (first ++ second).field? "mode" mode? = some mode := by
      obtain ⟨read, hread, -⟩ := Option.bind_eq_some_iff.mp hmembers
      have hgiven : (modeKey, Value.string tag) ∈ before ++ (key, value) :: after := by
        rcases List.mem_append.mp hmember with hmem | hmem
        · exact List.mem_append_left _ hmem
        · exact List.mem_append_right _ (List.mem_cons_of_mem _ hmem)
      obtain rfl := mode_eq_of_mem hfound hread hgiven hmodeKey htag
      rwa [Members.field?_other mode.name_ne_fieldName] at hread
    have hread : (Members.ofObject? (before ++ (key, other) :: after)).bind ofMembers? =
        mode.step? other := by
      rw [show Members.ofObject? _ = _ from hothers other, Option.bind_some]
      exact ofMembers?_gap hmode hmembers other
    unfold ofValue?
    split
    · exact hread
    · next hunsound =>
      refine (Option.eq_none_iff_forall_ne_some.mpr fun step hstep => hunsound ?_).symm
      have hamount := Mode.isSound_of_step? hstep (depthLimit - 1)
      have hall := Value.areSoundMembers_iff.mp hsound
      refine Value.areSoundMembers_iff.mpr fun member hmem => ?_
      rcases List.mem_append.mp hmem with hbefore | hrest
      · exact hall member (List.mem_append_left _ hbefore)
      · rcases List.mem_cons.mp hrest with rfl | hafter
        · exact ⟨(hall (key, value) (by simp)).1, hamount⟩
        · exact hall member (List.mem_append_right _ (List.mem_cons_of_mem _ hafter))

end PeriodStep

/-! ## Settings -/

namespace Settings

/-- The fields of the settings. -/
inductive Field where
  | periodMs
  | dutyPercent
  | shortestMs
  | longestMs
  | step
  | repeatIntervalMs
  | wiring

def Field.name : Field → String
  | .periodMs => "period_ms"
  | .dutyPercent => "duty_percent"
  | .shortestMs => "min_period_ms"
  | .longestMs => "max_period_ms"
  | .step => "step"
  | .repeatIntervalMs => "repeat_interval_ms"
  | .wiring => "lines"

/-- What a value says of a field. -/
def Field.entry? : Field → Value → Option Entry
  | .periodMs, value => value.uint32?.map .periodMs
  | .dutyPercent, value => value.uint8?.map .dutyPercent
  | .shortestMs, value => value.uint32?.map .shortestMs
  | .longestMs, value => value.uint32?.map .longestMs
  | .step, value => (PeriodStep.ofValue? value).map .step
  | .repeatIntervalMs, value => value.uint32?.map .repeatIntervalMs
  | .wiring, value => (Wiring.ofValue? value).map .wiring

theorem Field.name_mem (field : Field) : field.name ∈ fieldNames := by
  cases field <;> decide

/-- Members that can be read with one value in the gap are read from any other
in the same way. -/
theorem ofMembers?_gap {field : Field} {before after : Members} {value : Value}
    {settings : Settings}
    (h : ofMembers? (before ++ (field.name.toList, value) :: after) = some settings)
    (other : Value) :
    ofMembers? (before ++ (field.name.toList, other) :: after) =
      (field.entry? other).map settings.overwrite := by
  obtain ⟨hbefore, hafter⟩ := Members.alone_of_length_le (length_le_of_ofMembers? h field.name_mem)
  simp only [ofMembers?, Option.bind_eq_bind, Option.bind_eq_some_iff] at h ⊢
  obtain ⟨_, h₁, _, h₂, _, h₃, _, h₄, _, h₅, _, h₆, _, h₇, hsettings⟩ := h
  obtain rfl := Option.some.inj hsettings
  cases field
  all_goals
    dsimp only [Field.name] at hbefore hafter h₁ h₂ h₃ h₄ h₅ h₆ h₇ ⊢
    simp (disch := decide) only [Members.fieldOr_other] at h₁ h₂ h₃ h₄ h₅ h₆ h₇ ⊢
    simp only [Members.fieldOr_own hbefore hafter, h₁, h₂, h₃, h₄, h₅, h₆, h₇, Option.bind_some,
      Field.entry?, Option.map_eq_bind, Option.bind_assoc]
    rfl

theorem ofValue?_place {field : Field} {place : Value → Value}
    (h : Place fieldNames field.name place) {value : Value} {settings : Settings}
    (hread : ofValue? (place value) = some settings) (other : Value) :
    ofValue? (place other) = (field.entry? other).map settings.overwrite := by
  rw [ofValue?_eq] at hread ⊢
  obtain ⟨found, hfound, hmembers⟩ := Option.bind_eq_some_iff.mp hread
  obtain ⟨before, after, rfl, hplace⟩ := h.members hfound
  rw [hplace, Option.bind_some]
  exact ofMembers?_gap hmembers other

/-- What a value that was read says of a field is so in what was read. -/
theorem exists_entry_of_place {field : Field} {place : Value → Value}
    (h : Place fieldNames field.name place) {value : Value} {settings : Settings}
    (hread : ofValue? (place value) = some settings) :
    ∃ entry, field.entry? value = some entry ∧ settings.overwrite entry = settings := by
  have hsame := ofValue?_place h hread value
  rw [hread] at hsame
  exact Option.map_eq_some_iff.mp hsame.symm

/-- Values that say the same of a field can stand for each other. -/
theorem ofValue?_congr (field : Field) {place : Value → Value}
    (h : Place fieldNames field.name place) {value other : Value}
    (hsame : field.entry? value = field.entry? other) :
    ofValue? (place value) = ofValue? (place other) := by
  refine Option.ext fun settings => ⟨fun hread => ?_, fun hread => ?_⟩
  · rw [ofValue?_place h hread other, ← hsame, ← ofValue?_place h hread value, hread]
  · rw [ofValue?_place h hread value, hsame, ← ofValue?_place h hread other, hread]

/-- A value that says nothing of a field makes a document one that cannot be read. -/
theorem ofValue?_of_refused (field : Field) {place : Value → Value}
    (h : Place fieldNames field.name place) {value : Value} (hnone : field.entry? value = none) :
    ofValue? (place value) = none := by
  refine Option.eq_none_iff_forall_ne_some.mpr fun settings hread => ?_
  rw [ofValue?_place h hread value, hnone] at hread
  cases hread

/-! ## Documents -/

theorem ofBytes?_of_spelling {value : Value} {document : List UInt8}
    (h : value.Spelling document) : ofBytes? document = ofValue? value := by
  rw [ofBytes?, Value.ofBytes?_of_spelling h, Option.bind_some]

end Settings

end Beacon
