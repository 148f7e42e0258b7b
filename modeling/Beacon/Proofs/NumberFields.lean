import Beacon.Proofs.Json.Exactness
import Beacon.Proofs.Settings.Outcome
import Beacon.Proofs.Settings.Places

/-!
# Numbers in a document

A number in a document is the number that is written there, or the document is
malformed.  Nothing is rounded, wrapped or cut to fit.

* `Settings.Quantity` are the numbers that settings have, with the largest one
  that each can hold, and `Quantity.Place` says where in a document they stand:
  among the fields of the settings, among those of the wiring, or beside the
  mode of a step.
* `Quantity.ofValue?_place`: a document that can be read with one value there is
  read with any other as a natural number that is small enough, or not at all.
* `Settings.read_number` says how such a document ends.
-/

namespace Beacon

open Json (Value Text Number Token Layout)

/-! ## Literals -/

namespace Json

theorem Layout.exists_spelling {tokens : List Token} {bytes : List UInt8} (h : Layout tokens bytes)
    {token : Token} (hmem : token ∈ tokens) : ∃ spelled, token.Spelling spelled := by
  induction h with
  | nil => cases hmem
  | cons _ hspelling _ ih =>
    rcases List.mem_cons.mp hmem with rfl | hmem
    · exact ⟨_, hspelling⟩
    · exact ih hmem

namespace Value

variable {value : Value} {token : Token}

theorem mem_furtherItems {items : List Value} (h : value ∈ items) (hmem : token ∈ value.tokens) :
    token ∈ furtherItems items := by
  induction items with
  | nil => cases h
  | cons item rest ih =>
    rcases List.mem_cons.mp h with rfl | hrest
    · simp [furtherItems, hmem]
    · simp [furtherItems, ih hrest]

theorem mem_tokens_array {items : List Value} (h : value ∈ items) (hmem : token ∈ value.tokens) :
    token ∈ (array items).tokens := by
  cases items with
  | nil => cases h
  | cons item rest =>
    rcases List.mem_cons.mp h with rfl | hrest
    · simp [tokens, hmem]
    · simp [tokens, mem_furtherItems hrest hmem]

theorem mem_furtherMembers {members : List (Text × Value)} {key : Text}
    (h : (key, value) ∈ members) (hmem : token ∈ value.tokens) :
    token ∈ furtherMembers members := by
  induction members with
  | nil => cases h
  | cons member rest ih =>
    rcases List.mem_cons.mp h with rfl | hrest
    · simp [furtherMembers, hmem]
    · simp [furtherMembers, ih hrest]

theorem mem_tokens_object {members : List (Text × Value)} {key : Text}
    (h : (key, value) ∈ members) (hmem : token ∈ value.tokens) :
    token ∈ (object members).tokens := by
  cases members with
  | nil => cases h
  | cons member rest =>
    rcases List.mem_cons.mp h with rfl | hrest
    · simp [tokens, hmem]
    · simp [tokens, mem_furtherMembers hrest hmem]

/-- A literal of digits alone, and these are a zero or do not begin with one. -/
def IsPlain (value : Value) (n : Nat) : Prop :=
  ∃ digits bytes, value = .number ⟨false, digits, [], none⟩ ∧
    Number.WholeSpelling digits bytes ∧ Number.ofDigits digits = n

theorem IsPlain.isNatural {n : Nat} (h : value.IsPlain n) : value.IsNatural n := by
  obtain ⟨digits, -, hvalue, -, hn⟩ := h
  exact ⟨digits, hvalue, hn⟩

/-- A natural number that is spelled somewhere is spelled without idle zeros. -/
theorem IsNatural.isPlain {n : Nat} (h : value.IsNatural n) {tokens : List Token}
    {bytes : List UInt8} (hlayout : Layout tokens bytes)
    (hmem : ∀ token ∈ value.tokens, token ∈ tokens) : value.IsPlain n := by
  obtain ⟨digits, rfl, hn⟩ := h
  obtain ⟨spelled, hspelled⟩ := hlayout.exists_spelling (hmem _ List.mem_cons_self)
  cases hspelled with
  | number hnumber =>
    cases hnumber with
    | parts hwhole _ _ => exact ⟨digits, _, rfl, hwhole, hn⟩

end Value

end Json

theorem Place.mem_tokens {names : List String} {name : String} {place : Value → Value}
    (h : Place names name place) {value : Value} {token : Token} (hmem : token ∈ value.tokens) :
    token ∈ (place value).tokens := by
  cases h with
  | member before after _ =>
    exact Value.mem_tokens_object (List.mem_append_right _ List.mem_cons_self) hmem
  | item before after _ =>
    exact Value.mem_tokens_array (List.mem_append_right _ List.mem_cons_self) hmem

namespace Settings

/-- The numbers that settings have. -/
inductive Quantity where
  | periodMs
  | dutyPercent
  | shortestMs
  | longestMs
  | repeatIntervalMs
  | lamp
  | k1
  | k2
  | k3
  | amount (mode : PeriodStep.Mode)

namespace Quantity

/-- The largest number that the field can hold. -/
def most : Quantity → Nat
  | .dutyPercent => UInt8.size - 1
  | .amount .scale => UInt16.size - 1
  | .periodMs | .shortestMs | .longestMs | .repeatIntervalMs | .lamp | .k1 | .k2 | .k3
  | .amount .fixed => UInt32.size - 1

def get (quantity : Quantity) (settings : Settings) : Nat :=
  match quantity with
  | .periodMs => settings.periodMs.toNat
  | .dutyPercent => settings.dutyPercent.toNat
  | .shortestMs => settings.shortestMs.toNat
  | .longestMs => settings.longestMs.toNat
  | .repeatIntervalMs => settings.repeatIntervalMs.toNat
  | .lamp => settings.wiring.lamp.toNat
  | .k1 => settings.wiring.k1.toNat
  | .k2 => settings.wiring.k2.toNat
  | .k3 => settings.wiring.k3.toNat
  | .amount _ => settings.step.amount

/-- The settings with another number, and nothing else changed. -/
def put (quantity : Quantity) (settings : Settings) (n : Nat) : Settings :=
  match quantity with
  | .periodMs => { settings with periodMs := n.toUInt32 }
  | .dutyPercent => { settings with dutyPercent := n.toUInt8 }
  | .shortestMs => { settings with shortestMs := n.toUInt32 }
  | .longestMs => { settings with longestMs := n.toUInt32 }
  | .repeatIntervalMs => { settings with repeatIntervalMs := n.toUInt32 }
  | .lamp => { settings with wiring := { settings.wiring with lamp := n.toUInt32 } }
  | .k1 => { settings with wiring := { settings.wiring with k1 := n.toUInt32 } }
  | .k2 => { settings with wiring := { settings.wiring with k2 := n.toUInt32 } }
  | .k3 => { settings with wiring := { settings.wiring with k3 := n.toUInt32 } }
  | .amount .fixed => { settings with step := .fixed n.toUInt32 }
  | .amount .scale => { settings with step := .scale n.toUInt16 }

theorem get_put {quantity : Quantity} {n : Nat} (h : n ≤ quantity.most) (settings : Settings) :
    quantity.get (quantity.put settings n) = n := by
  cases quantity with
  | periodMs | shortestMs | longestMs | repeatIntervalMs | lamp | k1 | k2 | k3 =>
    exact UInt32.toNat_ofNat_of_lt' (Nat.lt_succ_of_le h)
  | dutyPercent => exact UInt8.toNat_ofNat_of_lt' (Nat.lt_succ_of_le h)
  | amount mode =>
    cases mode with
    | fixed => exact UInt32.toNat_ofNat_of_lt' (Nat.lt_succ_of_le h)
    | scale => exact UInt16.toNat_ofNat_of_lt' (Nat.lt_succ_of_le h)

/-- The field of the settings that is this number. -/
def own? : Quantity → Option Field
  | .periodMs => some .periodMs
  | .dutyPercent => some .dutyPercent
  | .shortestMs => some .shortestMs
  | .longestMs => some .longestMs
  | .repeatIntervalMs => some .repeatIntervalMs
  | .lamp | .k1 | .k2 | .k3 | .amount _ => none

/-- The field of the wiring that is this number. -/
def line? : Quantity → Option Wiring.Field
  | .lamp => some .lamp
  | .k1 => some .k1
  | .k2 => some .k2
  | .k3 => some .k3
  | .periodMs | .dutyPercent | .shortestMs | .longestMs | .repeatIntervalMs | .amount _ => none

/-- Where the number stands. The object of a step gives the mode beside it, and
may hold other members. -/
inductive Place : Quantity → (Value → Value) → Prop where
  | own {quantity : Quantity} {field : Field} {place : Value → Value} :
    quantity.own? = some field → Beacon.Place fieldNames field.name place →
      Place quantity place
  | line {quantity : Quantity} {field : Wiring.Field} {outer inner : Value → Value} :
    quantity.line? = some field → Beacon.Place fieldNames "lines" outer →
      Beacon.Place Wiring.fieldNames field.name inner →
      Place quantity fun value => outer (inner value)
  | amount {mode : PeriodStep.Mode} {outer : Value → Value} (before after : List (Text × Value))
    {key modeKey tag : Text} :
    Beacon.Place fieldNames "step" outer → key.StandsFor mode.fieldName.toList →
      (modeKey, .string tag) ∈ before ++ after → modeKey.StandsFor "mode".toList →
      tag.StandsFor mode.name.toList →
      Place (.amount mode) fun value => outer (.object (before ++ (key, value) :: after))

variable {quantity : Quantity} {place : Value → Value} {value : Value} {settings : Settings}

theorem Place.mem_tokens (h : quantity.Place place) {token : Token} (hmem : token ∈ value.tokens) :
    token ∈ (place value).tokens := by
  cases h with
  | own _ hplace => exact hplace.mem_tokens hmem
  | line _ houter hinner => exact houter.mem_tokens (hinner.mem_tokens hmem)
  | amount before after houter _ _ _ _ =>
    exact houter.mem_tokens
      (Value.mem_tokens_object (List.mem_append_right _ List.mem_cons_self) hmem)

/-- What one value leaves readable, another one changes in one number. -/
theorem ofValue?_place (h : quantity.Place place) (hread : ofValue? (place value) = some settings)
    (other : Value) :
    ofValue? (place other) =
      (other.naturalBelow? (quantity.most + 1)).map (quantity.put settings) := by
  cases h with
  | own hfield hplace =>
    rw [Settings.ofValue?_place hplace hread other]
    cases quantity with
    | periodMs | shortestMs | longestMs | repeatIntervalMs =>
      cases hfield
      simp only [Field.entry?, Value.uint32?, Option.map_map]
      rfl
    | dutyPercent =>
      cases hfield
      simp only [Field.entry?, Value.uint8?, Option.map_map]
      rfl
    | lamp | k1 | k2 | k3 | amount => cases hfield
  | @line _ _ outer inner hfield houter hinner =>
    have hlines : Beacon.Place fieldNames (Field.name .wiring) outer := houter
    obtain ⟨entry, hentry, hsettings⟩ := exists_entry_of_place hlines hread
    obtain ⟨wiring, hwiring, rfl⟩ := Option.map_eq_some_iff.mp hentry
    have hgiven : wiring = settings.wiring := congrArg Settings.wiring hsettings
    rw [Settings.ofValue?_place hlines hread, Field.entry?,
      Wiring.ofValue?_place hinner hwiring other, hgiven]
    cases quantity with
    | lamp | k1 | k2 | k3 =>
      cases hfield
      simp only [Wiring.Field.entry?, Value.uint32?, Option.map_map]
      rfl
    | periodMs | dutyPercent | shortestMs | longestMs | repeatIntervalMs | amount => cases hfield
  | @amount mode outer before after _ _ _ houter hkey hmember hmodeKey htag =>
    have hstep : Beacon.Place fieldNames (Field.name .step) outer := houter
    obtain ⟨entry, hentry, -⟩ := exists_entry_of_place hstep hread
    obtain ⟨step, hgiven, -⟩ := Option.map_eq_some_iff.mp hentry
    rw [Settings.ofValue?_place hstep hread, Field.entry?,
      PeriodStep.ofValue?_gap hkey hmember hmodeKey htag hgiven other]
    cases mode with
    | fixed =>
      simp only [PeriodStep.Mode.step?, Value.uint32?, Option.map_map]
      rfl
    | scale =>
      simp only [PeriodStep.Mode.step?, Value.uint16?, Option.map_map]
      rfl

end Quantity

variable {quantity : Quantity} {place : Value → Value} {first value : Value} {settings : Settings}
  {readable document : List UInt8}

/-- A document can be read with some value for a number.  With another value it
can be read if that is a literal of digits alone which the field can hold, and
then the field is this very number and nothing else has changed.  With
anything else it is malformed. -/
theorem read_number (h : quantity.Place place) (hreadable : (place first).Spelling readable)
    (hread : ofBytes? readable = some settings) (hdocument : (place value).Spelling document) :
    (read document ≠ .error .malformed ↔ ∃ n, value.IsPlain n ∧ n ≤ quantity.most) ∧
      ∀ n, value.IsPlain n → n ≤ quantity.most →
        ofBytes? document = some (quantity.put settings n) ∧
          quantity.get (quantity.put settings n) = n := by
  rw [ofBytes?_of_spelling hreadable] at hread
  have hother := Quantity.ofValue?_place h hread value
  rw [← ofBytes?_of_spelling hdocument] at hother
  have hnumber : ∀ n, value.naturalBelow? (quantity.most + 1) = some n ↔
      value.IsPlain n ∧ n ≤ quantity.most := by
    intro n
    rw [Value.naturalBelow?_eq_some_iff, Nat.lt_succ_iff]
    exact and_congr_left fun _ =>
      ⟨fun hnatural => hnatural.isPlain hdocument fun _ => h.mem_tokens, Value.IsPlain.isNatural⟩
  constructor
  · rw [read_ne_malformed_iff, hother]
    constructor
    · rintro ⟨found, hfound⟩
      obtain ⟨n, hn, -⟩ := Option.map_eq_some_iff.mp hfound
      exact ⟨n, (hnumber n).mp hn⟩
    · rintro ⟨n, hn⟩
      rw [(hnumber n).mpr hn]
      exact ⟨_, rfl⟩
  · intro n hplain hle
    rw [hother, (hnumber n).mpr ⟨hplain, hle⟩]
    exact ⟨rfl, Quantity.get_put hle settings⟩

/-- The factor of a step.  The largest one is read; one more is not, and neither is
what sixty-four bits would make a factor of, nor a zero with a sign. -/
theorem read_number_percent :
    let document (literal : String) :=
      Utf8.encode ("\x7b\"lines\": [1], \"step\": \x7b\"percent\":" ++ literal ++
        ", \"mode\":\"scale\"\x7d\x7d")
    let settings : Settings := { wiring := { lamp := 1 }, step := .scale 150 }
    ofBytes? (document "150") = some settings ∧
      ofBytes? (document "65535") = some { settings with step := .scale 65535 } ∧
      read (document "65536") = .error .malformed ∧
      read (document "18446744073709551766") = .error .malformed ∧
      read (document "-0") = .error .malformed := by
  intro document settings
  let before : List (Text × Value) := [(Text.ofString "lines", .array [.ofNat 1])]
  let after : List (Text × Value) := [(Text.ofString "mode", .ofString "scale")]
  let place (value : Value) : Value :=
    .object (before ++
      [(Text.ofString "step", .object ([] ++ (Text.ofString "percent", value) :: after))])
  have hplace : (Quantity.amount .scale).Place place :=
    .amount [] after (.member before [] (Text.standsFor_ofString _))
      (Text.standsFor_ofString (PeriodStep.Mode.fieldName .scale)) List.mem_cons_self
      (Text.standsFor_ofString "mode") (Text.standsFor_ofString (PeriodStep.Mode.name .scale))
  have hspelled : ∀ value literal, Token.ofBytes? (document literal) = some (place value).tokens →
      (place value).Spelling (document literal) :=
    fun _ _ => Json.Token.layout_of_ofBytes?
  have hfirst : (place (.ofNat 150)).Spelling (document "150") := hspelled _ _ (by decide +kernel)
  have hread : ofBytes? (document "150") = some settings := by decide +kernel
  have hrefused : ∀ value literal, Token.ofBytes? (document literal) = some (place value).tokens →
      (∀ n, value.IsPlain n → 65535 < n) → read (document literal) = .error .malformed := by
    intro value literal htokens hlarge
    refine Decidable.byContradiction fun hne => ?_
    obtain ⟨n, hplain, hle⟩ :=
      (read_number hplace hfirst hread (hspelled value literal htokens)).1.mp hne
    exact Nat.not_lt_of_le hle (hlarge n hplain)
  have hlargest : (Value.number ⟨false, [6, 5, 5, 3, 5], [], none⟩).IsPlain 65535 :=
    ⟨_, _, rfl, .digits (by decide), by decide⟩
  have hlarge : ∀ digits, 65535 < Number.ofDigits digits → ∀ n,
      (Value.number ⟨false, digits, [], none⟩).IsPlain n → 65535 < n := by
    rintro digits hdigits n ⟨_, _, hvalue, -, rfl⟩
    cases hvalue
    exact hdigits
  have hsigned : ∀ n, (Value.number ⟨true, [0], [], none⟩).IsPlain n → 65535 < n := by
    rintro n ⟨_, _, hvalue, -⟩
    cases hvalue
  refine ⟨hread, ?_, ?_, ?_, ?_⟩
  · exact ((read_number hplace hfirst hread (hspelled _ _ (by decide +kernel))).2 65535
      hlargest (by decide)).1
  · exact hrefused (.number ⟨false, [6, 5, 5, 3, 6], [], none⟩) _ (by decide +kernel)
      (hlarge _ (by decide))
  · exact hrefused (.ofNat 18446744073709551766) _ (by decide +kernel)
      (hlarge _ (by rw [Number.ofDigits_digitsOf]; decide))
  · exact hrefused (.number ⟨true, [0], [], none⟩) _ (by decide +kernel) hsigned

end Settings

end Beacon
