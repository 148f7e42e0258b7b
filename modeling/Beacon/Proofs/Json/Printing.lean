import Mathlib.Tactic.Tauto
import Beacon.Proofs.Json.Scanning

/-!
# What is printed is a spelling

The compact document of a value is one of its spellings
(`Value.Printable.spelling`), so that it is read back as the value.  That
holds of the values that are printed here: natural numbers, truth values,
strings without control characters, and records of such values.  A control
character may be printed as a unit, which means the same but is another piece.
-/

namespace Beacon.Json

/-! ## Tokens -/

namespace Number

/-- The digits of a natural number are a whole part: they begin with a zero
only if there is nothing else. -/
theorem wholeSpelling_digitsOf (n : Nat) :
    WholeSpelling (digitsOf n) ((digitsOf n).map Digit.byte) := by
  have hhead : digitsOf n = [0] ∨ ∃ d rest, digitsOf n = d :: rest ∧ d ≠ 0 := by
    fun_induction digitsOf n with
    | case1 n hsmall =>
      by_cases hzero : n = 0
      · subst hzero
        exact .inl rfl
      · refine .inr ⟨_, [], rfl, fun h => hzero ?_⟩
        have hval := congrArg Fin.val h
        simpa [Digit.ofNat, Nat.mod_eq_of_lt hsmall] using hval
    | case2 n hlarge ih =>
      rcases ih with hzero | ⟨d, rest, heq, hd⟩
      · -- A number of two digits at least is not ten times zero and a digit.
        have hvalue := ofDigits_digitsOf (n / 10)
        rw [hzero] at hvalue
        have hnone : ofDigits [0] = 0 := rfl
        omega
      · exact .inr ⟨d, rest ++ [.ofNat n], by rw [heq]; rfl, hd⟩
  rcases hhead with hzero | ⟨d, rest, heq, hd⟩
  · rw [hzero]
    exact .zero
  · rw [heq]
    exact .digits hd

theorem spelling_ofNat (n : Nat) : (ofNat n).Spelling (ofNat n).bytes :=
  .parts (n := ofNat n) (wholeSpelling_digitsOf n) .absent .absent

end Number

/-- A byte that is no control character is printed as itself or by its letter. -/
theorem Piece.spelling_byte {b : UInt8} (h : 0x20 ≤ b) :
    (Piece.byte b).Spelling (Piece.byte b).bytes := by
  by_cases hquote : b = 0x22
  · subst hquote
    exact .letter (by decide)
  by_cases hbackslash : b = 0x5C
  · subst hbackslash
    exact .letter (by decide)
  have hne : ∀ c : UInt8, c < 0x20 → b ≠ c := by
    rintro c hc rfl
    exact absurd hc (UInt8.not_lt.mpr h)
  have hletter : escapeLetter? b = none := by
    simp [escapeLetter?, hquote, hbackslash, hne 0x08 (by decide), hne 0x0C (by decide),
      hne 0x0A (by decide), hne 0x0D (by decide), hne 0x09 (by decide)]
  have hcontrol : ¬b < 0x20 := UInt8.not_lt.mpr h
  simp only [Piece.bytes, hletter, hcontrol, if_false]
  exact .plain h hquote hbackslash

theorem Text.spelling_flatMap {text : Text} (h : ∀ piece ∈ text, piece.Spelling piece.bytes) :
    text.Spelling (text.flatMap Piece.bytes) := by
  induction text with
  | nil => exact .nil
  | cons piece rest ih =>
    rw [List.flatMap_cons]
    exact .cons (h piece (by simp)) (ih fun piece hpiece => h piece (by simp [hpiece]))

theorem layout_flatMap {tokens : List Token} (h : ∀ token ∈ tokens, token.Spelling token.bytes) :
    Layout tokens (tokens.flatMap Token.bytes) := by
  induction tokens with
  | nil => exact .nil (by simp [Blank])
  | cons token rest ih =>
    rw [List.flatMap_cons]
    have hnone : Blank [] := by simp [Blank]
    exact .cons hnone (h token (by simp)) (ih fun token htoken => h token (by simp [htoken]))

/-! ## Values -/

/-- A string without control characters. -/
def IsPlain (s : String) : Prop := ∀ b ∈ Utf8.encode s, 0x20 ≤ b

instance (s : String) : Decidable (IsPlain s) := List.decidableBAll _ (Utf8.encode s)

/-- Every token of the value is printed as a spelling of itself. -/
def Value.Printable (v : Value) : Prop := ∀ token ∈ v.tokens, token.Spelling token.bytes

theorem spelling_string_ofString {s : String} (h : IsPlain s) :
    (Token.string (.ofString s)).Spelling (Token.string (.ofString s)).bytes := by
  refine .string (Text.spelling_flatMap fun piece hpiece => ?_)
  obtain ⟨b, hb, rfl⟩ := List.mem_map.mp hpiece
  exact Piece.spelling_byte (h b hb)

namespace Value

theorem printable_ofNat (n : Nat) : (ofNat n).Printable := by
  intro token htoken
  obtain rfl := List.mem_singleton.mp htoken
  exact .number (Number.spelling_ofNat n)

theorem printable_bool (b : Bool) : (Value.bool b).Printable := by
  intro token htoken
  obtain rfl := List.mem_singleton.mp htoken
  cases b
  · exact .no
  · exact .yes

theorem printable_ofString {s : String} (h : IsPlain s) : (ofString s).Printable := by
  intro token htoken
  obtain rfl := List.mem_singleton.mp htoken
  exact spelling_string_ofString h

/-- The members of a record, as they are listed behind another member. -/
theorem printable_furtherMembers {fields : List (String × Value)}
    (h : ∀ field ∈ fields, IsPlain field.1 ∧ field.2.Printable) :
    ∀ token ∈ furtherMembers (fields.map fun (name, value) => (Text.ofString name, value)),
      token.Spelling token.bytes := by
  intro token htoken
  induction fields with
  | nil =>
    obtain rfl := List.mem_singleton.mp htoken
    exact .closeObject
  | cons field rest ih =>
    obtain ⟨hname, hvalue⟩ := h field (by simp)
    simp only [List.map_cons, furtherMembers, List.mem_cons, List.mem_append] at htoken
    rcases htoken with rfl | rfl | rfl | htoken | htoken
    · exact .comma
    · exact spelling_string_ofString hname
    · exact .colon
    · exact hvalue token htoken
    · exact ih (fun field hfield => h field (by simp [hfield])) htoken

theorem printable_record {fields : List (String × Value)}
    (h : ∀ field ∈ fields, IsPlain field.1 ∧ field.2.Printable) : (record fields).Printable := by
  intro token htoken
  have hcases : token = .openObject ∨
      token ∈ furtherMembers (fields.map fun (name, value) => (Text.ofString name, value)) := by
    cases fields with
    | nil => simpa [record, tokens, furtherMembers] using htoken
    | cons field rest =>
      simp only [record, List.map_cons, tokens, furtherMembers, List.mem_cons] at htoken ⊢
      tauto
  rcases hcases with rfl | hfurther
  · exact .openObject
  · exact printable_furtherMembers h token hfurther

theorem Printable.spelling {v : Value} (h : v.Printable) : v.Spelling v.bytes := layout_flatMap h

end Value

end Beacon.Json
