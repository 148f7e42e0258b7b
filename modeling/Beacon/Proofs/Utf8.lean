import Mathlib.Tactic.SplitIfs
import Beacon.Utf8

/-!
# Characters are read back

What is written in UTF-8 is read back as it was: one character whatever bytes
follow it (`chunks_utf8EncodeChar_append`), and a list of characters as a
whole (`decode?_flatMap`).

The four forms of a character are told apart by its first byte; the second
byte decides whether a form of three or four bytes is the shortest one.  The
lemmas on `continues` and the `leads` tests turn these ranges into ranges of
numbers, and the rest is arithmetic on the parts of a code point.
-/

namespace Beacon.Utf8

/-! ## Ranges of bytes -/

theorem continues_iff {b : UInt8} : continues b = true ↔ 0x80 ≤ b.toNat ∧ b.toNat ≤ 0xBF := by
  simp [continues, UInt8.le_iff_toNat_le]

theorem leadsTwo_iff {a : UInt8} : leadsTwo a = true ↔ 0xC2 ≤ a.toNat ∧ a.toNat ≤ 0xDF := by
  simp [leadsTwo, UInt8.le_iff_toNat_le]

theorem leadsThree_iff {a b : UInt8} :
    leadsThree a b = true ↔
      (a.toNat = 0xE0 ∧ 0xA0 ≤ b.toNat ∧ b.toNat ≤ 0xBF) ∨
      (a.toNat = 0xED ∧ 0x80 ≤ b.toNat ∧ b.toNat ≤ 0x9F) ∨
      (a.toNat ≠ 0xE0 ∧ a.toNat ≠ 0xED ∧ 0xE1 ≤ a.toNat ∧ a.toNat ≤ 0xEF ∧
        0x80 ≤ b.toNat ∧ b.toNat ≤ 0xBF) := by
  unfold leadsThree
  simp only [beq_iff_eq, ← UInt8.toNat_inj]
  split_ifs <;> simp [UInt8.le_iff_toNat_le, continues_iff] at * <;> omega

theorem leadsFour_iff {a b : UInt8} :
    leadsFour a b = true ↔
      (a.toNat = 0xF0 ∧ 0x90 ≤ b.toNat ∧ b.toNat ≤ 0xBF) ∨
      (a.toNat = 0xF4 ∧ 0x80 ≤ b.toNat ∧ b.toNat ≤ 0x8F) ∨
      (a.toNat ≠ 0xF0 ∧ a.toNat ≠ 0xF4 ∧ 0xF1 ≤ a.toNat ∧ a.toNat ≤ 0xF3 ∧
        0x80 ≤ b.toNat ∧ b.toNat ≤ 0xBF) := by
  unfold leadsFour
  simp only [beq_iff_eq, ← UInt8.toNat_inj]
  split_ifs <;> simp [UInt8.le_iff_toNat_le, continues_iff] at * <;> omega

theorem lt_ascii_iff {a : UInt8} : a < 0x80 ↔ a.toNat < 0x80 := UInt8.lt_iff_toNat_lt

/-! ## The four forms -/

variable {a b c d : UInt8} (rest : List UInt8)

theorem chunks_one (ha : a.toNat < 0x80) :
    chunks (a :: rest) = some (Char.ofNat a.toNat) :: chunks rest := by
  rw [chunks.eq_def]
  simp [lt_ascii_iff, ha]

theorem chunks_two (ha : leadsTwo a = true) (hb : continues b = true) :
    chunks (a :: b :: rest) =
      some (Char.ofNat (a.toNat % 32 * 64 + tail b)) :: chunks rest := by
  have hhigh : ¬a < 0x80 := by
    rw [leadsTwo_iff] at ha
    rw [lt_ascii_iff]
    omega
  rw [chunks.eq_def]
  simp [hhigh, ha, hb]

theorem chunks_three (hab : leadsThree a b = true) (hc : continues c = true) :
    chunks (a :: b :: c :: rest) =
      some (Char.ofNat (a.toNat % 16 * 4096 + tail b * 64 + tail c)) :: chunks rest := by
  have ha : 0xE0 ≤ a.toNat := by
    rw [leadsThree_iff] at hab
    omega
  have hhigh : ¬a < 0x80 := by
    rw [lt_ascii_iff]
    omega
  have htwo : leadsTwo a = false := by
    rw [← Bool.not_eq_true, leadsTwo_iff]
    omega
  rw [chunks.eq_def]
  simp [hhigh, htwo, hab, hc]

theorem chunks_four (hab : leadsFour a b = true) (hc : continues c = true)
    (hd : continues d = true) :
    chunks (a :: b :: c :: d :: rest) =
      some (Char.ofNat (a.toNat % 8 * 262144 + tail b * 4096 + tail c * 64 + tail d)) ::
        chunks rest := by
  have ha : 0xF0 ≤ a.toNat := by
    rw [leadsFour_iff] at hab
    omega
  have hhigh : ¬a < 0x80 := by
    rw [lt_ascii_iff]
    omega
  have htwo : leadsTwo a = false := by
    rw [← Bool.not_eq_true, leadsTwo_iff]
    omega
  have hthree : leadsThree a b = false := by
    rw [← Bool.not_eq_true, leadsThree_iff]
    omega
  rw [chunks.eq_def]
  simp [hhigh, htwo, hthree, hab, hc, hd]

/-! ## Characters -/

theorem toNat_ofNat_of_lt {n : Nat} (h : n < 256) : (UInt8.ofNat n).toNat = n := by
  rw [UInt8.toNat_ofNat']
  omega

/-- A character is read back, whatever follows it. -/
theorem chunks_utf8EncodeChar_append (c : Char) (rest : List UInt8) :
    chunks (String.utf8EncodeChar c ++ rest) = some c :: chunks rest := by
  have hvalid : c.val.toNat < 0xD800 ∨ 0xDFFF < c.val.toNat ∧ c.val.toNat < 0x110000 := c.valid
  have hback : Char.ofNat c.val.toNat = c := Char.ofNat_toNat c
  have hchar : ∀ n, n = c.val.toNat →
      some (Char.ofNat n) :: chunks rest = some c :: chunks rest := by
    rintro n rfl
    rw [hback]
  have hbyte := @toNat_ofNat_of_lt
  unfold String.utf8EncodeChar
  generalize c.val.toNat = v at *
  simp only
  split_ifs with h1 h2 h3 <;> simp only [List.cons_append, List.nil_append]
  · have ha : (UInt8.ofNat v).toNat = v := hbyte (by omega)
    rw [chunks_one _ (by omega), ha]
    exact hchar _ rfl
  · have ha : (UInt8.ofNat (v / 64 % 32 + 192)).toNat = v / 64 % 32 + 192 := hbyte (by omega)
    have hb : (UInt8.ofNat (v % 64 + 128)).toNat = v % 64 + 128 := hbyte (by omega)
    rw [chunks_two _ (leadsTwo_iff.mpr (by omega)) (continues_iff.mpr (by omega)), tail, ha, hb]
    exact hchar _ (by omega)
  · have ha : (UInt8.ofNat (v / 4096 % 16 + 224)).toNat = v / 4096 % 16 + 224 := hbyte (by omega)
    have hb : (UInt8.ofNat (v / 64 % 64 + 128)).toNat = v / 64 % 64 + 128 := hbyte (by omega)
    have hc : (UInt8.ofNat (v % 64 + 128)).toNat = v % 64 + 128 := hbyte (by omega)
    rw [chunks_three _ (leadsThree_iff.mpr (by omega)) (continues_iff.mpr (by omega)), tail, tail,
      ha, hb, hc]
    exact hchar _ (by omega)
  · have ha : (UInt8.ofNat (v / 262144 % 8 + 240)).toNat = v / 262144 % 8 + 240 := hbyte (by omega)
    have hb : (UInt8.ofNat (v / 4096 % 64 + 128)).toNat = v / 4096 % 64 + 128 := hbyte (by omega)
    have hc : (UInt8.ofNat (v / 64 % 64 + 128)).toNat = v / 64 % 64 + 128 := hbyte (by omega)
    have hd : (UInt8.ofNat (v % 64 + 128)).toNat = v % 64 + 128 := hbyte (by omega)
    rw [chunks_four _ (leadsFour_iff.mpr (by omega)) (continues_iff.mpr (by omega))
      (continues_iff.mpr (by omega)), tail, tail, tail, ha, hb, hc, hd]
    exact hchar _ (by omega)

theorem chunks_flatMap (cs : List Char) :
    chunks (cs.flatMap String.utf8EncodeChar) = cs.map some := by
  induction cs with
  | nil => rfl
  | cons c rest ih =>
    rw [List.flatMap_cons, chunks_utf8EncodeChar_append, ih]
    rfl

/-- What is written in UTF-8 is read back. -/
theorem decode?_flatMap (cs : List Char) :
    decode? (cs.flatMap String.utf8EncodeChar) = some cs := by
  unfold decode?
  rw [chunks_flatMap]
  induction cs with
  | nil => rfl
  | cons c rest ih => simp [ih]

end Beacon.Utf8
