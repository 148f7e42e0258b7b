import Beacon.Proofs.Settings.Reading

/-!
# Fields from the items of an array

The fields of an array take its items one after the other, and those of an
object are looked up by their names.  A record comes out the same if the items
are given the names of the fields in order.

* `Members.ofItems` gives the names to the items, and `Members.values_ofItems`
  says what a name finds.
* `Items.nextOr_drop`: a field that takes the next item is read as it is found
  under its name.  It is a default if and only if the array has ended.
* `Wiring.ofItems?_eq` and `Settings.ofItems?_eq` put the fields together.
* `Members.ofValue?` are the members of either kind of value, and
  `Wiring.ofValue?_eq` and `Settings.ofValue?_eq` say that it is enough to know
  these.
-/

namespace Beacon

open Json (Value)

namespace Members

variable {names : List String} {name : String} {items : List Value}

/-- The items under the names of the first fields. -/
def ofItems (names : List String) (items : List Value) : Members :=
  (names.map String.toList).zip items

theorem values_ofItems_of_notMem (h : name ∉ names) : (ofItems names items).values name = [] := by
  unfold values ofItems
  rw [List.map_eq_nil_iff, List.filter_eq_nil_iff]
  intro member hmem hname
  obtain ⟨known, hknown, hsame⟩ := List.mem_map.mp (List.of_mem_zip hmem).1
  have heq : known = name := String.toList_injective (hsame.trans (beq_iff_eq.mp hname))
  exact h (heq ▸ hknown)

/-- A name finds the item at its place, if there is one. -/
theorem values_ofItems (hnodup : names.Nodup) {k : Nat} (hname : names[k]? = some name) :
    (ofItems names items).values name = items[k]?.toList := by
  induction names generalizing k items with
  | nil => simp at hname
  | cons first rest ih =>
    obtain ⟨hfirst, hrest⟩ := List.nodup_cons.mp hnodup
    cases items with
    | nil => rfl
    | cons value items =>
      show values ((first.toList, value) :: ofItems rest items) name = _
      rw [values_cons]
      cases k with
      | zero =>
        obtain rfl : first = name := Option.some.inj hname
        rw [if_pos rfl, values_ofItems_of_notMem hfirst]
        rfl
      | succ k =>
        have hmem : name ∈ rest := List.mem_of_getElem? hname
        have hne : first.toList ≠ name.toList :=
          fun heq => hfirst (String.toList_injective heq ▸ hmem)
        rw [if_neg hne]
        exact ih hrest hname

end Members

/-- A field that takes the next item is read as it is found under its name. -/
theorem Items.nextOr_drop {α : Type} {names : List String} (hnodup : names.Nodup) {name : String}
    {k : Nat} (hname : names[k]? = some name) (items : List Value) (default : α)
    (read : Value → Option α) :
    Items.nextOr (items.drop k) default read =
      ((Members.ofItems names items).fieldOr name default read).map
        fun field => (field, items.drop (k + 1)) := by
  unfold Members.fieldOr
  rw [Members.values_ofItems hnodup hname]
  cases hitem : items[k]? with
  | none =>
    have hended := List.getElem?_eq_none_iff.mp hitem
    rw [List.drop_eq_nil_of_le hended, List.drop_eq_nil_of_le (Nat.le_succ_of_le hended)]
    rfl
  | some value =>
    obtain ⟨hlt, hvalue⟩ := List.getElem?_eq_some_iff.mp hitem
    rw [List.drop_eq_getElem_cons hlt, hvalue]
    rfl

theorem Items.finish?_drop (items : List Value) (k : Nat) :
    Items.finish? (items.drop k) = if items.length ≤ k then some () else none := by
  by_cases hle : items.length ≤ k
  · rw [if_pos hle, List.drop_eq_nil_of_le hle]
    rfl
  · rw [if_neg hle, List.drop_eq_getElem_cons (Nat.lt_of_not_le hle)]
    rfl

/-! ## Records -/

/-- A wiring that is read item by item is read as from members of the names of its
fields. Every item has to be one of a field. -/
theorem Wiring.ofItems?_eq (items : List Value) :
    ofItems? items = if items.length ≤ fieldNames.length then
      ofMembers? (Members.ofItems fieldNames items) else none := by
  have hnodup : fieldNames.Nodup := by decide
  have hlamp := @Items.nextOr_drop UInt32 _ hnodup "led" 0 rfl items
  have hk1 := @Items.nextOr_drop UInt32 _ hnodup "k1" 1 rfl items
  have hk2 := @Items.nextOr_drop UInt32 _ hnodup "k2" 2 rfl items
  have hk3 := @Items.nextOr_drop UInt32 _ hnodup "k3" 3 rfl items
  have hactive := @Items.nextOr_drop Bool _ hnodup "buttons_active_high" 4 rfl items
  rw [List.drop_zero] at hlamp
  simp only [ofItems?, ofMembers?, hlamp, hk1, hk2, hk3, hactive, Items.finish?_drop,
    Option.bind_eq_bind, Option.bind_map, Function.comp_def]
  show _ = if items.length ≤ 5 then _ else none
  split
  · rfl
  · simp only [Option.bind_none, Option.bind_fun_none]

/-- Settings that are read item by item are read as from members of the names of
their fields. Every item has to be one of a field. -/
theorem Settings.ofItems?_eq (items : List Value) :
    ofItems? items = if items.length ≤ fieldNames.length then
      ofMembers? (Members.ofItems fieldNames items) else none := by
  have hnodup : fieldNames.Nodup := by decide
  have hperiod := @Items.nextOr_drop UInt32 _ hnodup "period_ms" 0 rfl items
  have hduty := @Items.nextOr_drop UInt8 _ hnodup "duty_percent" 1 rfl items
  have hshortest := @Items.nextOr_drop UInt32 _ hnodup "min_period_ms" 2 rfl items
  have hlongest := @Items.nextOr_drop UInt32 _ hnodup "max_period_ms" 3 rfl items
  have hstep := @Items.nextOr_drop PeriodStep _ hnodup "step" 4 rfl items
  have hinterval := @Items.nextOr_drop UInt32 _ hnodup "repeat_interval_ms" 5 rfl items
  have hwiring := @Items.nextOr_drop Wiring _ hnodup "lines" 6 rfl items
  rw [List.drop_zero] at hperiod
  simp only [ofItems?, ofMembers?, hperiod, hduty, hshortest, hlongest, hstep, hinterval, hwiring,
    Items.finish?_drop, Option.bind_eq_bind, Option.bind_map, Function.comp_def]
  show _ = if items.length ≤ 7 then _ else none
  split
  · rfl
  · simp only [Option.bind_none, Option.bind_fun_none]

/-- The members of an object, or the items of an array under the names of the first
fields. -/
def Members.ofValue? (names : List String) : Value → Option Members
  | .object members => ofObject? members
  | .array items => if items.length ≤ names.length then some (ofItems names items) else none
  | _ => none

theorem Wiring.ofValue?_eq (value : Value) :
    ofValue? value = (Members.ofValue? fieldNames value).bind ofMembers? := by
  cases value with
  | array items =>
    show ofItems? items = (if _ then _ else _ : Option Members).bind ofMembers?
    rw [ofItems?_eq]
    split <;> rfl
  | object | null | bool | number | string => rfl

theorem Settings.ofValue?_eq (value : Value) :
    ofValue? value = (Members.ofValue? fieldNames value).bind ofMembers? := by
  cases value with
  | array items =>
    show ofItems? items = (if _ then _ else _ : Option Members).bind ofMembers?
    rw [ofItems?_eq]
    split <;> rfl
  | object | null | bool | number | string => rfl

end Beacon
