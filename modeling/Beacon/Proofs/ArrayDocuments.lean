import Beacon.Proofs.Json.Exactness
import Beacon.Proofs.Settings.Outcome
import Beacon.Proofs.Settings.Places

/-!
# Array documents

An array gives its items to the fields in their order, and means what the
object means that gives them by name.  The two are not read alike: an array is
read item by item, and a field that the items do not reach is a default.

* `Keyed` is that object.  `Keyed.ofValue?_eq`: the same members are found in it
  as in the array.  That it is enough to find the same ones is what
  `Wiring.ofValue?_eq` and `Settings.ofValue?_eq` say of the two readers.
* `PeriodStep.ofValue?_pair`: a step that is an array of its mode and its amount
  is the object of these two.
* `Settings.Positional` says where in a document an array may stand for an
  object, and `Settings.Overlong` where it has too many items.
* `Settings.read_positional`: documents that differ so end in the same way.
-/

namespace Beacon

open Json (Value Text)

/-- The object that gives the items to the first of the named fields, in order. -/
inductive Keyed : List String → List Value → List (Text × Value) → Prop where
  | nil {names : List String} : Keyed names [] []
  | cons {name : String} {names : List String} {key : Text} {value : Value} {items : List Value}
    {members : List (Text × Value)} :
    key.StandsFor name.toList → Keyed names items members →
      Keyed (name :: names) (value :: items) ((key, value) :: members)

namespace Keyed

variable {names : List String} {items : List Value} {members : List (Text × Value)}

theorem length_le (h : Keyed names items members) : items.length ≤ names.length := by
  induction h with
  | nil => exact Nat.zero_le _
  | cons _ _ ih => exact Nat.succ_le_succ ih

theorem ofObject?_eq (h : Keyed names items members) :
    Members.ofObject? members = some (Members.ofItems names items) := by
  induction h with
  | nil => simp [Members.ofObject?, Members.ofItems]
  | cons hkey _ ih =>
    rw [Members.ofObject?_cons, Text.decode?_of_standsFor hkey, ih]
    rfl

/-- The array and the object have the same members. -/
theorem ofValue?_eq (h : Keyed names items members) :
    Members.ofValue? names (.array items) = Members.ofValue? names (.object members) := by
  show (if items.length ≤ names.length then some (Members.ofItems names items) else none) =
    Members.ofObject? members
  rw [if_pos h.length_le, h.ofObject?_eq]

end Keyed

theorem Members.ofValue?_of_overlong {names : List String} {items : List Value}
    (h : names.length < items.length) : ofValue? names (.array items) = none :=
  if_neg (Nat.not_le_of_lt h)

/-! ## Step -/

namespace PeriodStep

variable {mode : Mode} {tag tagged modeKey key : Text}

/-- The array of a mode and an amount is read as the object of the two. -/
theorem ofValue?_pair (htag : tag.StandsFor mode.name.toList)
    (htagged : tagged.StandsFor mode.name.toList) (hmodeKey : modeKey.StandsFor "mode".toList)
    (hkey : key.StandsFor mode.fieldName.toList) (value : Value) :
    ofValue? (.array [.string tag, value]) =
      ofValue? (.object [(modeKey, .string tagged), (key, value)]) := by
  have hsound : (Value.array [.string tag, value]).isSound depthLimit =
      (Value.object [(modeKey, .string tagged), (key, value)]).isSound depthLimit := by
    simp [depthLimit, Value.isSound, Value.areSound, Value.areSoundMembers,
      Text.decode?_of_standsFor htag, Text.decode?_of_standsFor htagged,
      Text.decode?_of_standsFor hmodeKey, Text.decode?_of_standsFor hkey]
  have hobject : Members.ofObject? [(modeKey, .string tagged), (key, value)] =
      some ([("mode".toList, .string tagged)] ++ [(mode.fieldName.toList, value)]) := by
    simp [Members.ofObject?, Text.decode?_of_standsFor hmodeKey, Text.decode?_of_standsFor hkey]
  have hmode : Members.field? ([("mode".toList, .string tagged)] ++
      [(mode.fieldName.toList, value)]) "mode" mode? = some mode := by
    rw [Members.field?_other mode.name_ne_fieldName]
    exact mode?_of_standsFor htagged
  have hamount : Members.field? ([("mode".toList, .string tagged)] ++
      [(mode.fieldName.toList, value)]) mode.fieldName mode.step? = mode.step? value := by
    refine Members.field?_own ?_ rfl _
    rw [Members.values_cons, if_neg fun h => mode.name_ne_fieldName (String.toList_injective h)]
    rfl
  have hread : (mode? (.string tag)).bind (·.step? value) =
      (Members.ofObject? [(modeKey, .string tagged), (key, value)]).bind ofMembers? := by
    rw [hobject, Option.bind_some, ofMembers?, hmode, mode?_of_standsFor htag]
    exact hamount.symm
  unfold ofValue?
  rw [hsound]
  split
  · exact hread
  · rfl

theorem ofValue?_of_overlong {items : List Value} (h : 2 < items.length) :
    ofValue? (.array items) = none := by
  obtain ⟨first, second, third, rest, rfl⟩ : ∃ first second third rest,
      items = first :: second :: third :: rest := by
    match items, h with
    | first :: second :: third :: rest, _ => exact ⟨first, second, third, rest, rfl⟩
  unfold ofValue?
  split
  · rfl
  · rfl

end PeriodStep

/-! ## Documents -/

namespace Settings

/-- An array, in a document or as all of it, and the same document with the
object that gives by name what the array gives in order. -/
inductive Positional : Value → Value → Prop where
  | settings {items : List Value} {members : List (Text × Value)} :
    Keyed fieldNames items members → Positional (.array items) (.object members)
  | wiring {place : Value → Value} {items : List Value} {members : List (Text × Value)} :
    Place fieldNames "lines" place → Keyed Wiring.fieldNames items members →
      Positional (place (.array items)) (place (.object members))
  | step {place : Value → Value} {mode : PeriodStep.Mode} {tag tagged modeKey key : Text}
    {value : Value} :
    Place fieldNames "step" place → tag.StandsFor mode.name.toList →
      tagged.StandsFor mode.name.toList → modeKey.StandsFor "mode".toList →
      key.StandsFor mode.fieldName.toList →
      Positional (place (.array [.string tag, value]))
        (place (.object [(modeKey, .string tagged), (key, value)]))

/-- A document with an array that has more items than there are fields for. -/
inductive Overlong : Value → Prop where
  | settings {items : List Value} :
    fieldNames.length < items.length → Overlong (.array items)
  | wiring {place : Value → Value} {items : List Value} :
    Place fieldNames "lines" place → Wiring.fieldNames.length < items.length →
      Overlong (place (.array items))
  | step {place : Value → Value} {items : List Value} :
    Place fieldNames "step" place → 2 < items.length → Overlong (place (.array items))

theorem Positional.ofValue?_eq {array object : Value} (h : Positional array object) :
    ofValue? array = ofValue? object := by
  cases h with
  | settings hkeyed => rw [Settings.ofValue?_eq, Settings.ofValue?_eq, hkeyed.ofValue?_eq]
  | wiring hplace hkeyed =>
    refine ofValue?_congr .wiring hplace ?_
    show (Wiring.ofValue? _).map _ = (Wiring.ofValue? _).map _
    rw [Wiring.ofValue?_eq, Wiring.ofValue?_eq, hkeyed.ofValue?_eq]
  | step hplace htag htagged hmodeKey hkey =>
    refine ofValue?_congr .step hplace ?_
    show (PeriodStep.ofValue? _).map _ = (PeriodStep.ofValue? _).map _
    rw [PeriodStep.ofValue?_pair htag htagged hmodeKey hkey]

theorem Overlong.ofValue?_eq {value : Value} (h : Overlong value) : ofValue? value = none := by
  cases h with
  | settings hlong =>
    rw [Settings.ofValue?_eq, Members.ofValue?_of_overlong hlong, Option.bind_none]
  | wiring hplace hlong =>
    refine ofValue?_of_refused .wiring hplace ?_
    show (Wiring.ofValue? _).map _ = none
    rw [Wiring.ofValue?_eq, Members.ofValue?_of_overlong hlong, Option.bind_none, Option.map_none]
  | step hplace hlong =>
    refine ofValue?_of_refused .step hplace ?_
    show (PeriodStep.ofValue? _).map _ = none
    rw [PeriodStep.ofValue?_of_overlong hlong, Option.map_none]

/-- Two documents, one with an array where the other has the object that gives
the same by name, are read as the same settings or refused for the same
reason.  An array with too many items makes a document malformed. -/
theorem read_positional :
    (∀ {array object : Value} {document keyed : List UInt8}, Positional array object →
      array.Spelling document → object.Spelling keyed → read document = read keyed) ∧
    ∀ {value : Value} {document : List UInt8}, Overlong value → value.Spelling document →
      read document = .error .malformed := by
  constructor
  · intro array object document keyed hpositional harray hobject
    unfold read
    rw [ofBytes?_of_spelling harray, ofBytes?_of_spelling hobject, hpositional.ofValue?_eq]
  · intro value document hlong hdocument
    rw [read_eq_malformed_iff, ofBytes?_of_spelling hdocument, hlong.ofValue?_eq]

/-- A period and a duty without names; an object with three of the lines; a scale that
leads nowhere, refused by the same rule either way; and three items for a
step. -/
theorem read_positional_partial :
    let items := Utf8.encode "[700, 40]"
    let byName := Utf8.encode "\x7b\"period_ms\": 700, \"duty_percent\": 40\x7d"
    let lines := Utf8.encode "\x7b\"lines\": [9, 1, 4]\x7d"
    let linesByName := Utf8.encode "\x7b\"lines\": \x7b\"led\":9, \"k1\":1, \"k2\":4\x7d\x7d"
    let step := Utf8.encode "[500, 50, 50, 5000, [\"scale\", 100]]"
    let stepByName :=
      Utf8.encode "[500, 50, 50, 5000, \x7b\"mode\": \"scale\", \"percent\": 100\x7d]"
    let long := Utf8.encode "[500, 50, 50, 5000, [\"fixed\", 50, 50]]"
    read items = .ok { periodMs := 700, dutyPercent := 40 } ∧ read items = read byName ∧
      read lines = .ok { wiring := { lamp := 9, k1 := 1, k2 := 4 } } ∧
      read lines = read linesByName ∧
      read step = .error (.invalid Rule.scaleStepAboveHundred.message) ∧
      read step = read stepByName ∧ read long = .error .malformed := by
  intro items byName lines linesByName step stepByName long
  obtain ⟨hsame, hlong⟩ := read_positional
  have hitems : Positional (.array [.ofNat 700, .ofNat 40])
      (.object [(Text.ofString "period_ms", .ofNat 700),
        (Text.ofString "duty_percent", .ofNat 40)]) :=
    .settings (.cons (Text.standsFor_ofString _) (.cons (Text.standsFor_ofString _) .nil))
  have hlines : Positional
      (.object [(Text.ofString "lines", .array [.ofNat 9, .ofNat 1, .ofNat 4])])
      (.object [(Text.ofString "lines", .object [(Text.ofString "led", .ofNat 9),
        (Text.ofString "k1", .ofNat 1), (Text.ofString "k2", .ofNat 4)])]) :=
    .wiring (.member [] [] (Text.standsFor_ofString _))
      (.cons (Text.standsFor_ofString _) (.cons (Text.standsFor_ofString _)
        (.cons (Text.standsFor_ofString _) .nil)))
  let before : List Value := [.ofNat 500, .ofNat 50, .ofNat 50, .ofNat 5000]
  have hstep : Positional
      (.array (before ++ [.array [.ofString "scale", .ofNat 100]]))
      (.array (before ++ [.object [(Text.ofString "mode", .ofString "scale"),
        (Text.ofString "percent", .ofNat 100)]])) :=
    .step (.item before [] rfl) (Text.standsFor_ofString (PeriodStep.Mode.name .scale))
      (Text.standsFor_ofString (PeriodStep.Mode.name .scale)) (Text.standsFor_ofString "mode")
      (Text.standsFor_ofString (PeriodStep.Mode.fieldName .scale))
  have hthree : Overlong (.array (before ++ [.array [.ofString "fixed", .ofNat 50, .ofNat 50]])) :=
    .step (.item before [] rfl) (by decide)
  have hlay := @Json.Token.layout_of_ofBytes?
  exact ⟨by decide +kernel, hsame hitems (hlay (by decide +kernel)) (hlay (by decide +kernel)),
    by decide +kernel, hsame hlines (hlay (by decide +kernel)) (hlay (by decide +kernel)),
    by decide +kernel, hsame hstep (hlay (by decide +kernel)) (hlay (by decide +kernel)),
    hlong hthree (hlay (by decide +kernel))⟩

end Settings

end Beacon
