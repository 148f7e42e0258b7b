import Beacon.Proofs.Utf8
import Beacon.Proofs.Json.Grammar

/-!
# The reader finds what is meant

What the grammar calls the meaning of a string, the reader decodes
(`Text.decode?_of_standsFor`), and what the grammar calls readable, the reader
takes to be sound (`Value.isSound_of_readable`).

A number that a field can hold must not be too large for double precision,
where it stands inside a step.  `Number.overflows_of_lt` says so of every
number of thirty-two bits: its digits fit the significand together, and
neither rounding touches them.
-/

namespace Beacon.Json

namespace Text

theorem bytes?_bytes_append (bytes : List UInt8) (text : Text) :
    bytes? (bytes.map .byte ++ text) = (bytes? text).map (bytes ++ ·) := by
  induction bytes with
  | nil => simp
  | cons b rest ih => simp [bytes?, ih, Function.comp_def]

/-- A unit that is a character by itself is no surrogate. -/
theorem not_surrogate {u : UInt16} {c : Char} (h : u.toNat = c.toNat) :
    isHigh u = false ∧ isLow u = false := by
  have hvalid : c.toNat < 0xD800 ∨ 0xDFFF < c.toNat ∧ c.toNat < 0x110000 := c.valid
  constructor <;> simp [isHigh, isLow, UInt16.le_iff_toNat_le, h] <;> omega

theorem pair_eq {c : Char} {high low : UInt16} (hwide : 0x10000 ≤ c.toNat)
    (hhigh : high.toNat = 0xD800 + (c.toNat - 0x10000) / 0x400)
    (hlow : low.toNat = 0xDC00 + (c.toNat - 0x10000) % 0x400) :
    isHigh high = true ∧ isLow low = true ∧ pair high low = c := by
  have hvalid : c.toNat < 0xD800 ∨ 0xDFFF < c.toNat ∧ c.toNat < 0x110000 := c.valid
  refine ⟨?_, ?_, ?_⟩
  · simp [isHigh, UInt16.le_iff_toNat_le]; omega
  · simp [isLow, UInt16.le_iff_toNat_le]; omega
  · unfold pair
    have hback : Char.ofNat c.toNat = c := Char.ofNat_toNat c
    have hnat : 0x10000 + high.toNat % 1024 * 1024 + low.toNat % 1024 = c.toNat := by omega
    rw [hnat, hback]

theorem bytes?_of_standsFor {text : Text} {cs : List Char} (h : text.StandsFor cs) :
    bytes? text = some (cs.flatMap String.utf8EncodeChar) := by
  induction h with
  | nil => rfl
  | plain c _ ih => simp [bytes?_bytes_append, ih]
  | @unit text rest c u hu _ ih =>
    obtain ⟨hhigh, hlow⟩ := not_surrogate hu
    have hback : Char.ofNat u.toNat = c := by
      rw [hu]
      exact Char.ofNat_toNat c
    rw [bytes?.eq_def]
    simp [hhigh, hlow, ih, hback]
  | @pair text rest c high low hwide hh hl _ ih =>
    obtain ⟨hhigh, hlow, hpair⟩ := pair_eq hwide hh hl
    simp [bytes?, hhigh, hlow, ih, hpair]

theorem decode?_of_standsFor {text : Text} {cs : List Char} (h : text.StandsFor cs) :
    text.decode? = some cs := by
  unfold decode?
  rw [bytes?_of_standsFor h, Option.bind_some, Utf8.decode?_flatMap]

theorem standsFor_ofString (s : String) : (ofString s).StandsFor s.toList := by
  unfold ofString Utf8.encode
  induction s.toList with
  | nil => exact .nil
  | cons c rest ih => simpa using StandsFor.plain c ih

end Text

namespace Number

theorem le_foldl_digits (digits : List Digit) (n : Nat) :
    n ≤ digits.foldl (fun n d => 10 * n + d.val) n := by
  induction digits generalizing n with
  | nil => exact Nat.le_refl n
  | cons d rest ih => exact Nat.le_trans (by omega) (ih (10 * n + d.val))

/-- Digits that fit sixty-four bits together are all taken in. -/
theorem takeWhole_of_lt {digits : List Digit} {n : Nat}
    (h : digits.foldl (fun n d => 10 * n + d.val) n < UInt64.size) :
    takeWhole n digits = ⟨digits.foldl (fun n d => 10 * n + d.val) n, 0⟩ := by
  induction digits generalizing n with
  | nil => rfl
  | cons d rest ih =>
    have hgrows := le_foldl_digits rest (10 * n + d.val)
    have hfits : fits n d = true := decide_eq_true (Nat.lt_of_le_of_lt hgrows h)
    rw [takeWhole, if_pos hfits]
    exact ih h

/-- Fifty-three binary digits hold a small number exactly. -/
theorem round53_of_lt {n : Nat} (h : n < Nat.pow 2 53) : round53 n = n := by
  have hlog : n.log2 - 52 = 0 := by
    by_cases hzero : n = 0
    · simp [hzero]
    · have := (Nat.log2_lt hzero).mpr h
      omega
  unfold round53
  simp [hlog, Nat.mod_one]

/-- A natural number of thirty-two bits is far from too large. -/
theorem overflows_of_lt {digits : List Digit} (h : ofDigits digits < UInt32.size) :
    overflows ⟨false, digits, [], none⟩ = false := by
  have hwhole : takeWhole 0 digits = ⟨ofDigits digits, 0⟩ :=
    takeWhole_of_lt (Nat.lt_trans h (by decide))
  have hexact : round53 (ofDigits digits) = ofDigits digits :=
    round53_of_lt (Nat.lt_trans h (by decide))
  have hone : round53 (Nat.pow 10 (0 : Int).toNat) = 1 := by decide
  have hsmall : ofDigits digits < infinityFrom :=
    Nat.lt_of_lt_of_le h (by decide +kernel)
  have hmantissa : mantissa ⟨false, digits, [], none⟩ = ⟨ofDigits digits, 0⟩ := hwhole
  unfold overflows
  simp only [hmantissa]
  unfold Scaled.overflows
  simp only [hexact, hone]
  simp [hsmall]

end Number

namespace Value

theorem areSound_iff {room : Nat} {items : List Value} :
    areSound room items = true ↔ ∀ v ∈ items, v.isSound room = true := by
  induction items with
  | nil => simp [areSound]
  | cons v rest ih => simp [areSound, ih]

theorem areSoundMembers_iff {room : Nat} {members : List (Text × Value)} :
    areSoundMembers room members = true ↔
      ∀ m ∈ members, m.1.decode?.isSome = true ∧ m.2.isSound room = true := by
  induction members with
  | nil => simp [areSoundMembers]
  | cons m rest ih => simp [areSoundMembers, ih]

theorem isSound_of_readable {room : Nat} {v : Value} (h : v.Readable room) :
    v.isSound room = true := by
  induction h with
  | null | bool => rfl
  | number hn => simp [isSound, hn]
  | string ht => simp [isSound, Text.decode?_of_standsFor ht]
  | array _ ih => exact areSound_iff.mpr ih
  | object hkeys _ ih =>
    refine areSoundMembers_iff.mpr fun m hm => ⟨?_, ih m hm⟩
    obtain ⟨cs, hcs⟩ := hkeys m hm
    simp [Text.decode?_of_standsFor hcs]

end Value

end Beacon.Json
