import Mathlib.Tactic.SplitIfs
import Beacon.Proofs.Json.Scanning

/-!
# The reader takes nothing but spellings

`Value.ofBytes?_eq_some_iff`: a document is read as a value if and only if it
spells the value.  One direction stands in `Beacon.Proofs.Json.Scanning`; this
is the other.

* `Scanner.Covers` ties the scanner to the bytes that it has taken: the tokens
  so far are laid out in them, and what is left at the end spells the beginning
  of one token.  `Covers.step` is its step, `Covers.run` its run.
* `Builder.tokens` recovers from a value under way the tokens that it was built
  from.  `Builder.tokens_push?` says that no token is lost.
-/

namespace Beacon.Json

/-! ## Layouts that grow -/

theorem Blank.append {first rest : List UInt8} (hfirst : Blank first) (hrest : Blank rest) :
    Blank (first ++ rest) := by
  intro b hb
  rcases List.mem_append.mp hb with h | h
  · exact hfirst b h
  · exact hrest b h

theorem Layout.append_blank {tokens : List Token} {bytes blanks : List UInt8}
    (h : Layout tokens bytes) (hblank : Blank blanks) : Layout tokens (bytes ++ blanks) := by
  induction h with
  | nil hbefore => exact .nil (hbefore.append hblank)
  | cons hbefore htoken _ ih =>
    rw [List.append_assoc]
    exact .cons hbefore htoken ih

/-- One more token behind those that are kept in reverse. -/
theorem Layout.reverse_cons {tokens : List Token} {bytes last : List UInt8} {token : Token}
    (h : Layout tokens.reverse bytes) (hlast : token.Spelling last) :
    Layout (token :: tokens).reverse (bytes ++ last) := by
  rw [List.reverse_cons]
  generalize tokens.reverse = before at h
  induction h with
  | nil hbefore =>
    have hnone : Blank [] := by simp [Blank]
    simpa using Layout.cons hbefore hlast (.nil hnone)
  | cons hbefore htoken _ ih =>
    rw [List.append_assoc]
    exact .cons hbefore htoken ih

namespace Scanner

/-! ## Numbers -/

theorem eq_byte_of_digit? {b : UInt8} {d : Digit} (h : digit? b = some d) : b = d.byte := by
  unfold digit? at h
  split at h
  case isFalse => cases h
  case isTrue hrange =>
    obtain rfl := Option.some_inj.mp h
    simp only [Bool.and_eq_true, decide_eq_true_eq, UInt8.le_iff_toNat_le] at hrange
    have hlow : 48 ≤ b.toNat := hrange.1
    have hhigh : b.toNat ≤ 57 := hrange.2
    have hval : (Digit.ofNat (b.toNat - 48)).val = b.toNat - 48 := Nat.mod_eq_of_lt (by omega)
    rw [← UInt8.toNat_inj, Digit.byte]
    simp only [hval, UInt8.toNat_add, Nat.toUInt8_eq, UInt8.toNat_ofNat']
    simp; omega

/-- The sign, the whole part and the fraction of a number. -/
inductive Mantissa (negative : Bool) (whole fraction : List Digit) : List UInt8 → Prop where
  | parts {wholeBytes fractionBytes : List UInt8} :
    Number.WholeSpelling whole wholeBytes → Number.FractionSpelling fraction fractionBytes →
      Mantissa negative whole fraction
        (Number.signBytes negative ++ wholeBytes ++ fractionBytes)

/-- The bytes that have been read of a number under way. -/
inductive Partial.HasTaken : Partial → List UInt8 → Prop where
  | minus : HasTaken { stage := .minus, negative := true } [0x2D]
  | zero (negative : Bool) :
    HasTaken { stage := .zero, negative, whole := [0] } (Number.signBytes negative ++ [0x30])
  | whole (negative : Bool) {d : Digit} (rest : List Digit) :
    d ≠ 0 → HasTaken { stage := .whole, negative, whole := (d :: rest).reverse }
      (Number.signBytes negative ++ (d :: rest).map Digit.byte)
  | point (negative : Bool) {whole : List Digit} {wholeBytes : List UInt8} :
    Number.WholeSpelling whole wholeBytes →
      HasTaken { stage := .point, negative, whole := whole.reverse }
        (Number.signBytes negative ++ wholeBytes ++ [0x2E])
  | fraction (negative : Bool) {whole fraction : List Digit} {mantissa : List UInt8} :
    Mantissa negative whole fraction mantissa → fraction ≠ [] →
      HasTaken
        { stage := .fraction, negative, whole := whole.reverse, fraction := fraction.reverse }
        mantissa
  | mark {p : Partial} {mantissa : List UInt8} {mark : UInt8} :
    Mantissa p.negative p.whole.reverse p.fraction.reverse mantissa → p.stage = .mark →
      p.exponentNegative = false → mark = 0x65 ∨ mark = 0x45 → HasTaken p (mantissa ++ [mark])
  | sign {p : Partial} {mantissa sign : List UInt8} {mark : UInt8} :
    Mantissa p.negative p.whole.reverse p.fraction.reverse mantissa → p.stage = .sign →
      mark = 0x65 ∨ mark = 0x45 → Number.SignSpelling p.exponentNegative sign →
      HasTaken p (mantissa ++ mark :: sign)
  | exponent {p : Partial} {mantissa exponent : List UInt8} :
    Mantissa p.negative p.whole.reverse p.fraction.reverse mantissa → p.stage = .exponent →
      Number.ExponentSpelling (some (p.exponentNegative, p.exponent.reverse)) exponent →
      HasTaken p (mantissa ++ exponent)

/-- The first digit begins the whole part. -/
theorem Partial.HasTaken.first (negative : Bool) (d : Digit) :
    HasTaken { stage := if d.val = 0 then .zero else .whole, negative, whole := [d] }
      (Number.signBytes negative ++ [d.byte]) := by
  by_cases hzero : d = 0
  · subst hzero
    exact .zero negative
  · have hval : d.val ≠ 0 := fun h => hzero (Fin.ext h)
    rw [if_neg hval]
    exact .whole negative [] hzero

theorem Partial.HasTaken.start {b : UInt8} {p : Partial} (h : Partial.start? b = some p) :
    p.HasTaken [b] := by
  unfold Partial.start? at h
  split at h
  case isTrue hminus =>
    obtain rfl := Option.some_inj.mp h
    obtain rfl : b = 0x2D := by simpa using hminus
    exact .minus
  case isFalse =>
    obtain ⟨d, hd, rfl⟩ := Option.map_eq_some_iff.mp h
    rw [eq_byte_of_digit? hd]
    exact .first false d

/-- A byte that continues a number is a digit, or a point, a mark or a sign in
its place. -/
theorem Partial.next?_cases {p q : Partial} {b : UInt8} (h : p.next? b = some q) :
    (∃ d : Digit, b = d.byte) ∨
      b = 0x2E ∧ (p.stage = .zero ∨ p.stage = .whole) ∧ q = { p with stage := .point } ∨
      (b = 0x65 ∨ b = 0x45) ∧ p.stage.EndsPart ∧ q = { p with stage := .mark } ∨
      p.stage = .mark ∧ (b = 0x2B ∧ q = { p with stage := .sign } ∨
        b = 0x2D ∧ q = { p with stage := .sign, exponentNegative := true }) := by
  by_cases hdigit : ∃ d : Digit, b = d.byte
  · exact .inl hdigit
  refine .inr ?_
  have hnone : digit? b = none :=
    Option.eq_none_iff_forall_ne_some.mpr fun d hd => hdigit ⟨d, eq_byte_of_digit? hd⟩
  unfold Partial.next? at h
  unfold Stage.EndsPart
  simp only [hnone, Option.map_none, Bool.or_eq_true, beq_iff_eq] at h
  cases hstage : p.stage <;> simp only [hstage] at h <;> grind

/-- Where an exponent may follow, the number is a mantissa so far. -/
theorem Partial.HasTaken.mantissa {p : Partial} {bytes : List UInt8} (h : p.HasTaken bytes)
    (hstage : p.stage.EndsPart) :
    Mantissa p.negative p.whole.reverse p.fraction.reverse bytes ∧ p.exponentNegative = false := by
  cases h with
  | zero negative =>
    rw [← List.append_nil (_ ++ _)]
    exact ⟨.parts .zero .absent, rfl⟩
  | @whole negative d rest hd =>
    dsimp only
    rw [← List.append_nil (_ ++ _), List.reverse_reverse]
    exact ⟨.parts (.digits hd) .absent, rfl⟩
  | fraction negative hmantissa => simpa using hmantissa
  | minus | point => simp [Stage.EndsPart] at hstage
  | mark _ h | sign _ h | exponent _ h => simp [Stage.EndsPart, h] at hstage

/-- Where a point may follow, the number has a sign and a whole part. -/
theorem Partial.HasTaken.point_of {p : Partial} {bytes : List UInt8} (h : p.HasTaken bytes)
    (hstage : p.stage = .zero ∨ p.stage = .whole) :
    HasTaken { p with stage := .point } (bytes ++ [0x2E]) := by
  cases h with
  | zero negative => exact .point negative .zero
  | whole negative rest hd => exact .point negative (.digits hd)
  | minus | point | fraction => simp at hstage
  | mark _ h | sign _ h | exponent _ h => simp [h] at hstage

theorem Mantissa.snoc {negative : Bool} {whole fraction : List Digit} {bytes : List UInt8}
    (h : Mantissa negative whole fraction bytes) (hsome : fraction ≠ []) (d : Digit) :
    Mantissa negative whole (fraction ++ [d]) (bytes ++ [d.byte]) := by
  obtain ⟨hwhole, hfraction⟩ := h
  cases hfraction with
  | absent => exact absurd rfl hsome
  | digits =>
    have hlonger : fraction ++ [d] ≠ [] := by simp
    have hmore : Mantissa negative whole (fraction ++ [d]) _ := .parts hwhole (.digits hlonger)
    simpa using hmore

theorem exponentSpelling_snoc {negative : Bool} {digits : List Digit} {bytes : List UInt8}
    (h : Number.ExponentSpelling (some (negative, digits)) bytes) (d : Digit) :
    Number.ExponentSpelling (some (negative, digits ++ [d])) (bytes ++ [d.byte]) := by
  cases h with
  | digits hmark hsign hsome =>
    have hlonger : digits ++ [d] ≠ [] := by simp
    simpa using Number.ExponentSpelling.digits hmark hsign hlonger

/-- A digit begins the part of the number that is due, or makes it longer. -/
theorem Partial.HasTaken.digit {p q : Partial} {bytes : List UInt8} {d : Digit}
    (h : p.HasTaken bytes) (hnext : p.next? d.byte = some q) : q.HasTaken (bytes ++ [d.byte]) := by
  rw [Partial.next?_byte] at hnext
  have hone : [d] ≠ [] := by simp
  cases h with
  | minus =>
    obtain rfl := Option.some_inj.mp hnext
    exact .first true d
  | zero => cases hnext
  | whole negative rest hd =>
    obtain rfl := Option.some_inj.mp hnext
    simpa using whole negative (rest ++ [d]) hd
  | point negative hwhole =>
    obtain rfl := Option.some_inj.mp hnext
    simpa using fraction negative (.parts hwhole (.digits hone)) hone
  | fraction negative hmantissa hsome =>
    obtain rfl := Option.some_inj.mp hnext
    simpa using fraction negative (hmantissa.snoc hsome d) (by simp)
  | mark hmantissa hstage hpositive hmark =>
    rw [hstage] at hnext
    obtain rfl := Option.some_inj.mp hnext
    rw [List.append_assoc]
    refine .exponent hmantissa rfl ?_
    rw [hpositive]
    exact .digits hmark .absent hone
  | sign hmantissa hstage hmark hsign =>
    rw [hstage] at hnext
    obtain rfl := Option.some_inj.mp hnext
    rw [List.append_assoc]
    exact .exponent hmantissa rfl (.digits hmark hsign hone)
  | exponent hmantissa hstage hexponent =>
    rw [hstage] at hnext
    obtain rfl := Option.some_inj.mp hnext
    rw [List.append_assoc]
    refine .exponent hmantissa rfl ?_
    rw [List.reverse_cons]
    exact exponentSpelling_snoc hexponent d

/-- A number under way has taken its bytes, whatever continues it. -/
theorem Partial.HasTaken.next {p q : Partial} {bytes : List UInt8} {b : UInt8}
    (h : p.HasTaken bytes) (hnext : p.next? b = some q) : q.HasTaken (bytes ++ [b]) := by
  rcases Partial.next?_cases hnext with
    ⟨d, rfl⟩ | ⟨rfl, hstage, rfl⟩ | ⟨hmark, hstage, rfl⟩ | ⟨hstage, hsign⟩
  · exact h.digit hnext
  · exact h.point_of hstage
  · obtain ⟨hmantissa, hpositive⟩ := h.mantissa hstage
    exact .mark hmantissa rfl hpositive hmark
  · cases h with
    | mark hmantissa _ hpositive hmark =>
      rw [List.append_assoc]
      rcases hsign with ⟨rfl, rfl⟩ | ⟨rfl, rfl⟩
      · refine .sign hmantissa rfl hmark ?_
        rw [hpositive]
        exact .plus
      · exact .sign hmantissa rfl hmark .minus
    | minus | zero | whole | point | fraction => cases hstage
    | sign _ h | exponent _ h => simp [h] at hstage

/-- Where a number may end, what has been read of it spells it. -/
theorem Partial.HasTaken.spelling {p : Partial} {n : Number} {bytes : List UInt8}
    (h : p.HasTaken bytes) (hdone : p.done? = some n) : n.Spelling bytes := by
  have hends : p.stage.EndsPart ∨ p.stage = .exponent := by
    unfold Partial.done? at hdone
    unfold Stage.EndsPart
    cases hstage : p.stage <;> simp [hstage] at hdone ⊢
  unfold Partial.done? at hdone
  rcases hends with hends | hexponent
  · have hn : n = ⟨p.negative, p.whole.reverse, p.fraction.reverse, none⟩ := by
      rcases hends with hstage | hstage | hstage <;> rw [hstage] at hdone <;>
        exact (Option.some_inj.mp hdone).symm
    subst hn
    obtain ⟨⟨hwhole, hfraction⟩, -⟩ := h.mantissa hends
    rw [← List.append_nil (_ ++ _)]
    exact .parts hwhole hfraction .absent
  · rw [hexponent] at hdone
    obtain rfl := Option.some_inj.mp hdone
    cases h with
    | exponent hmantissa _ hspelling =>
      obtain ⟨hwhole, hfraction⟩ := hmantissa
      exact .parts hwhole hfraction hspelling
    | minus | zero | whole | point | fraction => cases hexponent
    | mark _ h | sign _ h => simp [h] at hexponent

/-! ## Strings -/

theorem spelling_of_hexDigit? {v : Nat} {b : UInt8} (h : hexDigit? b = some v) :
    HexSpelling v b := by
  unfold hexDigit? at h
  simp only [Bool.and_eq_true, decide_eq_true_eq, UInt8.le_iff_toNat_le] at h
  split at h
  · obtain rfl := Option.some_inj.mp h
    exact .digit (by simp_all; omega) (by simp_all)
  split at h
  · obtain rfl := Option.some_inj.mp h
    exact .upper (by simp_all; omega) (by simp_all; omega) (by simp_all; omega)
  split at h
  · obtain rfl := Option.some_inj.mp h
    exact .lower (by simp_all; omega) (by simp_all; omega) (by simp_all; omega)
  · cases h

theorem mem_of_escaped? {b letter : UInt8} (h : escaped? letter = some b) :
    (b, letter) ∈ escapeLetters := by
  unfold escaped? at h
  simp only [Bool.or_eq_true, beq_iff_eq] at h
  unfold escapeLetters
  grind

/-- A number of hexadecimal digits, and their value. -/
inductive Hexadecimal : Nat → Nat → List UInt8 → Prop where
  | nil : Hexadecimal 0 0 []
  | snoc {count value v : Nat} {bytes : List UInt8} {b : UInt8} :
    Hexadecimal count value bytes → HexSpelling v b →
      Hexadecimal (count + 1) (16 * value + v) (bytes ++ [b])

theorem lt_of_hexSpelling {v : Nat} {b : UInt8} (h : HexSpelling v b) : v < 16 := by
  cases h <;> omega

/-- Four hexadecimal digits behind a backslash and a `u` are a unit. -/
theorem Hexadecimal.spelling {value : Nat} {bytes : List UInt8} (h : Hexadecimal 4 value bytes) :
    (Piece.unit value.toUInt16).Spelling (0x5C :: 0x75 :: bytes) := by
  obtain _ | ⟨h, h₄⟩ := h
  obtain _ | ⟨h, h₃⟩ := h
  obtain _ | ⟨h, h₂⟩ := h
  obtain _ | ⟨h, h₁⟩ := h
  obtain _ | _ := h
  have hlt₁ := lt_of_hexSpelling h₁
  have hlt₂ := lt_of_hexSpelling h₂
  have hlt₃ := lt_of_hexSpelling h₃
  have hlt₄ := lt_of_hexSpelling h₄
  refine .unit h₁ h₂ h₃ h₄ ?_
  rw [Nat.toUInt16_eq, UInt16.toNat_ofNat']
  omega

/-- One more piece of a string that is kept in reverse. -/
theorem textSpelling_reverse_cons {read : Text} {inside bytes : List UInt8} {piece : Piece}
    (h : Text.Spelling read.reverse inside) (hpiece : piece.Spelling bytes) :
    Text.Spelling (piece :: read).reverse (inside ++ bytes) := by
  rw [List.reverse_cons]
  generalize read.reverse = text at h
  induction h with
  | nil => simpa using Text.Spelling.cons hpiece .nil
  | cons hfirst _ ih =>
    rw [List.append_assoc]
    exact .cons hfirst ih

/-! ## The machine -/

/-- The bytes that have brought the scanner where it stands: the layout of the
tokens so far, and what has been read of the next one. -/
inductive Covers : State → List UInt8 → Prop where
  | rest {tokens : List Token} {laid : List UInt8} :
    Layout tokens.reverse laid → Covers ⟨tokens, .rest⟩ laid
  | word {tokens : List Token} {token : Token} {laid taken missing : List UInt8} :
    Layout tokens.reverse laid → token.Spelling (taken ++ missing) →
      Covers ⟨tokens, .word token missing⟩ (laid ++ taken)
  | number {tokens : List Token} {p : Partial} {laid taken : List UInt8} :
    Layout tokens.reverse laid → p.HasTaken taken → Covers ⟨tokens, .number p⟩ (laid ++ taken)
  | string {tokens : List Token} {read : Text} {laid inside : List UInt8} :
    Layout tokens.reverse laid → Text.Spelling read.reverse inside →
      Covers ⟨tokens, .string read⟩ (laid ++ 0x22 :: inside)
  | escape {tokens : List Token} {read : Text} {laid inside : List UInt8} :
    Layout tokens.reverse laid → Text.Spelling read.reverse inside →
      Covers ⟨tokens, .escape read⟩ (laid ++ 0x22 :: (inside ++ [0x5C]))
  | unit {tokens : List Token} {read : Text} {laid inside digits : List UInt8}
    {count missing value : Nat} :
    Layout tokens.reverse laid → Text.Spelling read.reverse inside →
      Hexadecimal count value digits → count + missing = 4 → count < 4 →
      Covers ⟨tokens, .unit read missing value⟩ (laid ++ 0x22 :: (inside ++ 0x5C :: 0x75 :: digits))

theorem spelling_of_mark? {b : UInt8} {token : Token} (h : mark? b = some token) :
    token.Spelling [b] := by
  unfold mark? at h
  simp only [beq_iff_eq] at h
  split_ifs at h with h₁ h₂ h₃ h₄ h₅ h₆ <;> obtain rfl := Option.some_inj.mp h
  · exact h₁ ▸ .openArray
  · exact h₂ ▸ .closeArray
  · exact h₃ ▸ .openObject
  · exact h₄ ▸ .closeObject
  · exact h₅ ▸ .comma
  · exact h₆ ▸ .colon

theorem spelling_of_word? {b : UInt8} {token : Token} {missing : List UInt8}
    (h : word? b = some (token, missing)) : token.Spelling (b :: missing) := by
  unfold word? at h
  simp only [beq_iff_eq] at h
  split_ifs at h with h₁ h₂ h₃ <;> obtain ⟨rfl, rfl⟩ := Prod.mk.inj (Option.some_inj.mp h)
  · exact h₁ ▸ .null
  · exact h₂ ▸ .yes
  · exact h₃ ▸ .no

/-- At rest, every byte begins a token or is a blank. -/
theorem covers_start {tokens : List Token} {laid : List UInt8} {b : UInt8} {s : State}
    (h : Layout tokens.reverse laid) (hs : start? tokens b = some s) : Covers s (laid ++ [b]) := by
  unfold start? at hs
  split at hs
  case isTrue hblank =>
    obtain rfl := Option.some_inj.mp hs
    have hb : Blank [b] := by simpa [Blank] using isBlank_iff.mp hblank
    exact .rest (h.append_blank hb)
  split at hs
  case isTrue hquote =>
    obtain rfl := Option.some_inj.mp hs
    obtain rfl : b = 0x22 := by simpa using hquote
    exact .string h .nil
  split at hs
  next token hmark =>
    obtain rfl := Option.some_inj.mp hs
    exact .rest (h.reverse_cons (spelling_of_mark? hmark))
  split at hs
  next token missing hword =>
    obtain rfl := Option.some_inj.mp hs
    exact .word h (spelling_of_word? hword)
  obtain ⟨p, hp, rfl⟩ := Option.map_eq_some_iff.mp hs
  exact .number h (.start hp)

/-- The step, one case for each place where the scanner may stand. -/
theorem Covers.step {s s' : State} {bytes : List UInt8} {b : UInt8} (h : Covers s bytes)
    (hs : step? s b = some s') : Covers s' (bytes ++ [b]) := by
  cases h with
  | rest hlayout => exact covers_start hlayout hs
  | @word tokens token laid taken missing hlayout hspelling =>
    simp only [step?, beq_iff_eq] at hs
    split at hs
    · cases hs
    · split at hs
      next last hlast =>
        subst hlast
        obtain rfl := Option.some_inj.mp hs
        rw [List.append_assoc]
        exact .rest (hlayout.reverse_cons hspelling)
      · cases hs
    next next more _ =>
      split at hs
      next hnext =>
        subst hnext
        obtain rfl := Option.some_inj.mp hs
        rw [List.append_assoc]
        exact .word hlayout (by simpa using hspelling)
      · cases hs
  | @number tokens p laid taken hlayout htaken =>
    simp only [step?] at hs
    split at hs
    next q hnext =>
      obtain rfl := Option.some_inj.mp hs
      rw [List.append_assoc]
      exact .number hlayout (htaken.next hnext)
    next =>
      obtain ⟨n, hn, hstart⟩ := Option.bind_eq_some_iff.mp hs
      exact covers_start (hlayout.reverse_cons (.number (htaken.spelling hn))) hstart
  | @string tokens read laid inside hlayout hread =>
    simp only [step?, beq_iff_eq] at hs
    rw [List.append_assoc, List.cons_append]
    split_ifs at hs with hquote hbackslash hcontrol <;> obtain rfl := Option.some_inj.mp hs
    · subst hquote
      exact .rest (hlayout.reverse_cons (.string hread))
    · subst hbackslash
      exact .escape hlayout hread
    · have hplain := Piece.Spelling.plain (UInt8.not_lt.mp hcontrol) hquote hbackslash
      exact .string hlayout (textSpelling_reverse_cons hread hplain)
  | @escape tokens read laid inside hlayout hread =>
    simp only [step?, beq_iff_eq] at hs
    rw [List.append_assoc, List.cons_append, List.append_assoc]
    split_ifs at hs with hunit
    · subst hunit
      obtain rfl := Option.some_inj.mp hs
      exact .unit hlayout hread .nil rfl (by omega)
    · obtain ⟨c, hc, rfl⟩ := Option.map_eq_some_iff.mp hs
      exact .string hlayout (textSpelling_reverse_cons hread (.letter (mem_of_escaped? hc)))
  | @unit tokens read laid inside digits count missing value hlayout hread hdigits hcount hlt =>
    simp only [step?] at hs
    obtain ⟨v, hv, rfl⟩ := Option.map_eq_some_iff.mp hs
    have hmore := hdigits.snoc (spelling_of_hexDigit? hv)
    rw [List.append_assoc, List.cons_append, List.append_assoc]
    split_ifs with hlast
    · obtain rfl : count = 3 := by omega
      exact .string hlayout (textSpelling_reverse_cons hread hmore.spelling)
    · exact .unit hlayout hread hmore (by omega) (by omega)

theorem Covers.run {bytes rest : List UInt8} {s s' : State} (h : Covers s bytes)
    (hs : rest.foldlM step? s = some s') : Covers s' (bytes ++ rest) := by
  induction rest generalizing s bytes with
  | nil =>
    obtain rfl := Option.some_inj.mp hs
    simpa using h
  | cons b rest ih =>
    rw [List.foldlM_cons] at hs
    obtain ⟨s₁, hs₁, hrest⟩ := Option.bind_eq_some_iff.mp hs
    simpa using ih (h.step hs₁) hrest

theorem Covers.layout {bytes : List UInt8} {s : State} {tokens : List Token} (h : Covers s bytes)
    (hdone : s.done? = some tokens) : Layout tokens bytes := by
  cases h with
  | rest hlayout => exact Option.some_inj.mp hdone ▸ hlayout
  | number hlayout htaken =>
    obtain ⟨n, hn, rfl⟩ := Option.map_eq_some_iff.mp hdone
    exact hlayout.reverse_cons (.number (htaken.spelling hn))
  | word | string | escape | unit => cases hdone

end Scanner

/-- What the scanner reads is a layout of the tokens. -/
theorem Token.layout_of_ofBytes? {bytes : List UInt8} {tokens : List Token}
    (h : Token.ofBytes? bytes = some tokens) : Layout tokens bytes := by
  obtain ⟨s, hs, hdone⟩ := Option.bind_eq_some_iff.mp h
  have hstart : Scanner.Covers {} [] := .rest (.nil (by simp [Blank]))
  exact (hstart.run hs).layout hdone

/-! ## Values under way -/

namespace Value

/-- The tokens of items that are followed by another one. -/
def itemTokens (items : List Value) : List Token :=
  items.flatMap fun v => v.tokens ++ [.comma]

/-- The tokens of members that are followed by another one. -/
def memberTokens (members : List (Text × Value)) : List Token :=
  members.flatMap fun m => .string m.1 :: .colon :: (m.2.tokens ++ [.comma])

theorem furtherItems_append (items : List Value) (last : Value) :
    furtherItems (items ++ [last]) =
      .comma :: (itemTokens items ++ last.tokens ++ [.closeArray]) := by
  induction items with
  | nil => simp [furtherItems, itemTokens]
  | cons v rest ih => simp [furtherItems, ih, itemTokens]

theorem tokens_array_append (items : List Value) (last : Value) :
    (Value.array (items ++ [last])).tokens =
      .openArray :: (itemTokens items ++ last.tokens ++ [.closeArray]) := by
  cases items with
  | nil => simp [tokens, furtherItems, itemTokens]
  | cons v rest => simp [tokens, furtherItems_append, itemTokens]

theorem furtherMembers_append (members : List (Text × Value)) (key : Text) (last : Value) :
    furtherMembers (members ++ [(key, last)]) =
      .comma :: (memberTokens members ++
        .string key :: .colon :: (last.tokens ++ [.closeObject])) := by
  induction members with
  | nil => simp [furtherMembers, memberTokens]
  | cons m rest ih => simp [furtherMembers, ih, memberTokens]

theorem tokens_object_append (members : List (Text × Value)) (key : Text) (last : Value) :
    (Value.object (members ++ [(key, last)])).tokens =
      .openObject :: (memberTokens members ++
        .string key :: .colon :: (last.tokens ++ [.closeObject])) := by
  cases members with
  | nil => simp [tokens, furtherMembers, memberTokens]
  | cons m rest => simp [tokens, furtherMembers_append, memberTokens]

end Value

open Value (itemTokens memberTokens)

/-- The tokens that have opened a container, up to the value that it waits for. -/
def Frame.tokens : Frame → List Token
  | .array items => .openArray :: itemTokens items.reverse
  | .object members key => .openObject :: (memberTokens members.reverse ++ [.string key, .colon])

namespace Builder

/-- The tokens that have opened the containers of a stack. -/
def stackTokens : List Frame → List Token
  | [] => []
  | frame :: stack => stackTokens stack ++ frame.tokens

/-- The tokens that have been taken so far. -/
def tokens : Builder → List Token
  | value stack => stackTokens stack
  | item stack => stackTokens stack ++ [.openArray]
  | member stack => stackTokens stack ++ [.openObject]
  | key stack members => stackTokens stack ++ .openObject :: memberTokens members.reverse
  | colon stack members k =>
    stackTokens stack ++ .openObject :: (memberTokens members.reverse ++ [.string k])
  | after stack v => stackTokens stack ++ v.tokens

theorem tokens_begin? {stack : List Frame} {token : Token} {s : Builder}
    (h : begin? stack token = some s) : s.tokens = stackTokens stack ++ [token] := by
  unfold begin? at h
  split at h <;> cases h <;> rfl

/-- Every token that is taken is kept. -/
theorem tokens_push? {s s' : Builder} {token : Token} (h : push? s token = some s') :
    s'.tokens = s.tokens ++ [token] := by
  unfold push? at h
  split at h
  case h_1 => exact tokens_begin? h
  case h_3 => simpa [tokens, stackTokens, Frame.tokens, itemTokens] using tokens_begin? h
  case h_12 => cases h
  all_goals
    cases h
    simp [tokens, stackTokens, Frame.tokens, Value.tokens, itemTokens, memberTokens,
      Value.tokens_array_append, Value.tokens_object_append]

theorem tokens_foldlM {read : List Token} {s s' : Builder} (h : read.foldlM push? s = some s') :
    s'.tokens = s.tokens ++ read := by
  induction read generalizing s with
  | nil =>
    obtain rfl := Option.some_inj.mp h
    simp
  | cons token rest ih =>
    rw [List.foldlM_cons] at h
    obtain ⟨s₁, hs₁, hrest⟩ := Option.bind_eq_some_iff.mp h
    rw [ih hrest, tokens_push? hs₁]
    simp

theorem done?_eq_some_iff {s : Builder} {v : Value} : s.done? = some v ↔ s = .after [] v := by
  unfold done?
  split <;> simp_all

end Builder

namespace Value

/-- Only the tokens of a value build it. -/
theorem ofTokens?_eq_some_iff {read : List Token} {v : Value} :
    ofTokens? read = some v ↔ read = v.tokens := by
  constructor
  · intro h
    obtain ⟨s, hs, hdone⟩ := Option.bind_eq_some_iff.mp h
    obtain rfl := Builder.done?_eq_some_iff.mp hdone
    exact (Builder.tokens_foldlM hs).symm
  · rintro rfl
    exact ofTokens?_tokens v

/-- A document is read as a value if and only if it spells the value. -/
theorem ofBytes?_eq_some_iff {bytes : List UInt8} {v : Value} :
    ofBytes? bytes = some v ↔ v.Spelling bytes := by
  constructor
  · intro h
    obtain ⟨read, hread, hv⟩ := Option.bind_eq_some_iff.mp h
    obtain rfl := ofTokens?_eq_some_iff.mp hv
    exact Token.layout_of_ofBytes? hread
  · exact ofBytes?_of_spelling

end Value

end Beacon.Json
