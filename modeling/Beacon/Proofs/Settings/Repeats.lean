import Beacon.Proofs.Settings.Reading

/-!
# A field that is given twice

An ambiguous object is not read (`Settings.ofValue?_of_ambiguous`), whatever
else stands in it.  Keys that stand for the same name find two values under
it, however they are spelled (`Members.two_le_of_repeats`), and a field that
was read has found one at most.
-/

namespace Beacon

open Json (Value Text)

namespace Members

variable {α : Type} {members : List (Text × Value)} {found : Members} {name : String}

/-- The values of members whose keys stand for a name are found under it, in
order. -/
theorem sublist_values (hfound : ofObject? members = some found) {named : List (Text × Value)}
    (hsub : named.Sublist members) (hnamed : ∀ member ∈ named, member.1.StandsFor name.toList) :
    (named.map (·.2)).Sublist (found.values name) := by
  induction hsub generalizing found with
  | slnil => exact List.nil_sublist _
  | @cons named rest member _ ih =>
    obtain ⟨key, value⟩ := member
    rw [ofObject?_cons] at hfound
    obtain ⟨name', -, hrest⟩ := Option.bind_eq_some_iff.mp hfound
    obtain ⟨found', hfound', rfl⟩ := Option.map_eq_some_iff.mp hrest
    rw [values_cons]
    split
    · exact (ih hfound' hnamed).cons _
    · exact ih hfound' hnamed
  | @cons_cons named rest member _ ih =>
    obtain ⟨key, value⟩ := member
    have hkey : key.StandsFor name.toList := hnamed (key, value) (by simp)
    rw [ofObject?_cons, Json.Text.decode?_of_standsFor hkey, Option.bind_some] at hfound
    obtain ⟨found', hfound', rfl⟩ := Option.map_eq_some_iff.mp hfound
    rw [values_cons, if_pos rfl]
    exact (ih hfound' fun member hmember => hnamed member (by simp [hmember])).cons_cons _

theorem mem_values (hfound : ofObject? members = some found) {key : Text} {value : Value}
    (hmember : (key, value) ∈ members) (hkey : key.StandsFor name.toList) :
    value ∈ found.values name := by
  have hsub := sublist_values hfound (List.singleton_sublist.mpr hmember)
    (by simpa using hkey)
  exact List.singleton_sublist.mp hsub

theorem two_le_of_repeats (hfound : ofObject? members = some found)
    (hrepeats : Repeats name members) : 2 ≤ (found.values name).length := by
  obtain ⟨first, second, hsub, hfirst, hsecond⟩ := hrepeats
  exact (sublist_values hfound hsub (by simp [hfirst, hsecond])).length_le

/-! ## What a field that was read has found -/

theorem values_of_fieldOr {default x : α} {read : Value → Option α}
    (h : found.fieldOr name default read = some x) :
    found.values name = [] ∧ x = default ∨
      ∃ value, found.values name = [value] ∧ read value = some x := by
  unfold fieldOr at h
  split at h
  · exact .inl ⟨‹_›, (Option.some_inj.mp h).symm⟩
  · exact .inr ⟨_, ‹_›, h⟩
  · cases h

theorem values_of_field? {x : α} {read : Value → Option α}
    (h : found.field? name read = some x) :
    ∃ value, found.values name = [value] ∧ read value = some x := by
  unfold field? at h
  split at h
  · exact ⟨_, ‹_›, h⟩
  · cases h

theorem length_le_of_fieldOr {default x : α} {read : Value → Option α}
    (h : found.fieldOr name default read = some x) : (found.values name).length ≤ 1 := by
  rcases values_of_fieldOr h with ⟨hnil, -⟩ | ⟨value, hone, -⟩
  · simp [hnil]
  · simp [hone]

end Members

/-! ## Records -/

theorem Wiring.length_le_of_ofMembers? {found : Members} {wiring : Wiring}
    (h : ofMembers? found = some wiring) {name : String} (hname : name ∈ fieldNames) :
    (found.values name).length ≤ 1 := by
  simp only [ofMembers?, Option.bind_eq_bind, Option.bind_eq_some_iff] at h
  obtain ⟨_, h₁, _, h₂, _, h₃, _, h₄, _, h₅, -⟩ := h
  simp only [fieldNames, List.mem_cons, List.not_mem_nil, or_false] at hname
  rcases hname with rfl | rfl | rfl | rfl | rfl
  · exact Members.length_le_of_fieldOr h₁
  · exact Members.length_le_of_fieldOr h₂
  · exact Members.length_le_of_fieldOr h₃
  · exact Members.length_le_of_fieldOr h₄
  · exact Members.length_le_of_fieldOr h₅

theorem Wiring.no_repeats {lines : List (Text × Value)} {wiring : Wiring}
    (h : ofValue? (.object lines) = some wiring) {name : String} (hname : name ∈ fieldNames) :
    ¬Repeats name lines := by
  intro hrepeats
  obtain ⟨found, hfound, hmembers⟩ := Option.bind_eq_some_iff.mp h
  have htwo := Members.two_le_of_repeats hfound hrepeats
  have hone := length_le_of_ofMembers? hmembers hname
  omega

/-- The one mode that an object gives is the mode that is read. -/
theorem PeriodStep.mode_eq_of_mem {parts : List (Text × Value)} {found : Members}
    (hfound : Members.ofObject? parts = some found) {mode named : Mode}
    (hread : found.field? "mode" mode? = some mode) {key tag : Text}
    (hmember : (key, Value.string tag) ∈ parts) (hkey : key.StandsFor "mode".toList)
    (htag : tag.StandsFor named.name.toList) : named = mode := by
  obtain ⟨value, hvalue, hmode⟩ := Members.values_of_field? hread
  have hmem := Members.mem_values hfound hmember hkey
  rw [hvalue, List.mem_singleton] at hmem
  rw [← hmem, mode?_of_standsFor htag] at hmode
  exact Option.some.inj hmode

theorem PeriodStep.no_repeats {parts : List (Text × Value)} {step : PeriodStep}
    (h : ofValue? (.object parts) = some step) :
    ¬Repeats "mode" parts ∧ ∀ modeKey tag mode, (modeKey, Value.string tag) ∈ parts →
      modeKey.StandsFor "mode".toList → tag.StandsFor (Mode.name mode).toList →
        ¬Repeats mode.fieldName parts := by
  unfold ofValue? at h
  split at h
  case isFalse => cases h
  case isTrue =>
    obtain ⟨found, hfound, hmembers⟩ := Option.bind_eq_some_iff.mp h
    simp only [ofMembers?, Option.bind_eq_bind, Option.bind_eq_some_iff] at hmembers
    obtain ⟨mode, hmode, hamount⟩ := hmembers
    obtain ⟨value, hvalue, -⟩ := Members.values_of_field? hmode
    obtain ⟨value', hvalue', -⟩ := Members.values_of_field? hamount
    refine ⟨fun hrepeats => ?_, fun modeKey tag mode' hmember hkey htag hrepeats => ?_⟩
    · have htwo := Members.two_le_of_repeats hfound hrepeats
      simp [hvalue] at htwo
    · have htwo := Members.two_le_of_repeats hfound hrepeats
      obtain rfl := mode_eq_of_mem hfound hmode hmember hkey htag
      simp [hvalue'] at htwo

theorem Settings.length_le_of_ofMembers? {found : Members} {settings : Settings}
    (h : ofMembers? found = some settings) {name : String} (hname : name ∈ fieldNames) :
    (found.values name).length ≤ 1 := by
  simp only [ofMembers?, Option.bind_eq_bind, Option.bind_eq_some_iff] at h
  obtain ⟨_, h₁, _, h₂, _, h₃, _, h₄, _, h₅, _, h₆, _, h₇, -⟩ := h
  simp only [fieldNames, List.mem_cons, List.not_mem_nil, or_false] at hname
  rcases hname with rfl | rfl | rfl | rfl | rfl | rfl | rfl
  · exact Members.length_le_of_fieldOr h₁
  · exact Members.length_le_of_fieldOr h₂
  · exact Members.length_le_of_fieldOr h₃
  · exact Members.length_le_of_fieldOr h₄
  · exact Members.length_le_of_fieldOr h₅
  · exact Members.length_le_of_fieldOr h₆
  · exact Members.length_le_of_fieldOr h₇

theorem Settings.ofValue?_of_ambiguous {members : List (Text × Value)}
    (h : Ambiguous members) : ofValue? (.object members) = none := by
  rw [← Option.not_isSome_iff_eq_none, Option.isSome_iff_exists]
  rintro ⟨settings, hsettings⟩
  obtain ⟨found, hfound, hmembers⟩ := Option.bind_eq_some_iff.mp hsettings
  have honce := @length_le_of_ofMembers? found settings hmembers
  simp only [ofMembers?, Option.bind_eq_bind, Option.bind_eq_some_iff] at hmembers
  obtain ⟨_, -, _, -, _, -, _, -, step, hstep, _, -, wiring, hwiring, -⟩ := hmembers
  have hread : ∀ {α : Type} {name : String} {default x : α} {read : Value → Option α} {key value},
      found.fieldOr name default read = some x → (key, value) ∈ members →
        key.StandsFor name.toList → read value = some x := by
    intro α name default x read key value hfield hmember hkey
    have hmem := Members.mem_values hfound hmember hkey
    rcases Members.values_of_fieldOr hfield with ⟨hnil, -⟩ | ⟨value', hone, hvalue⟩
    · rw [hnil] at hmem
      cases hmem
    · rw [hone, List.mem_singleton] at hmem
      exact hmem ▸ hvalue
  cases h with
  | @field name hname hrepeats =>
    have htwo := Members.two_le_of_repeats hfound hrepeats
    have hone := honce hname
    omega
  | line hmember hkey hname hrepeats =>
    exact Wiring.no_repeats (hread hwiring hmember hkey) hname hrepeats
  | mode hmember hkey hrepeats =>
    exact (PeriodStep.no_repeats (hread hstep hmember hkey)).1 hrepeats
  | amount hmember hkey hmode hmodeKey htag hrepeats =>
    exact (PeriodStep.no_repeats (hread hstep hmember hkey)).2 _ _ _ hmode hmodeKey htag hrepeats

end Beacon
