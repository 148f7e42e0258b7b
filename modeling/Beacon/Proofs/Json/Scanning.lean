import Mathlib.Data.List.Chain
import Beacon.Proofs.Json.Grammar

/-!
# The scanner reads every layout

What the grammar allows, the scanner takes: `ofBytes?_of_layout` says so for
the tokens of a document.

A number ends only at the byte behind it, so the scanner may stand in two
places behind a token.  `HasRead` covers both: at rest, or in a number that
may end.  Blanks and all other tokens begin with a byte that ends a number,
and leave the scanner at rest.  Only two numbers side by side would run into
each other, and `Apart` says that there are none.
-/

namespace Beacon.Json

def Token.IsNumber : Token → Prop
  | .number _ => True
  | _ => False

namespace Scanner

theorem foldlM_append_of_eq_some {α σ : Type} {f : σ → α → Option σ} {first : List α} {s s' : σ}
    (h : first.foldlM f s = some s') (rest : List α) :
    (first ++ rest).foldlM f s = rest.foldlM f s' := by
  rw [List.foldlM_append, h]
  rfl

/-! ## Bytes -/

@[simp] theorem digit?_byte (d : Digit) : digit? d.byte = some d := by
  revert d
  decide

/-- No digit is a point, a mark or a sign. -/
theorem byte_ne (d : Digit) :
    d.byte ≠ 0x2E ∧ d.byte ≠ 0x65 ∧ d.byte ≠ 0x45 ∧ d.byte ≠ 0x2B ∧ d.byte ≠ 0x2D := by
  revert d
  decide

/-- What a digit does to a number under way. -/
theorem Partial.next?_byte (p : Partial) (d : Digit) :
    p.next? d.byte =
      match p.stage with
      | .minus => some { p with stage := if d.val = 0 then .zero else .whole, whole := [d] }
      | .zero => none
      | .whole => some { p with whole := d :: p.whole }
      | .point => some { p with stage := .fraction, fraction := [d] }
      | .fraction => some { p with fraction := d :: p.fraction }
      | .mark | .sign => some { p with stage := .exponent, exponent := [d] }
      | .exponent => some { p with exponent := d :: p.exponent } := by
  obtain ⟨hpoint, hlower, hupper, hplus, hminus⟩ := byte_ne d
  unfold Partial.next?
  cases p.stage <;> simp [*]

/-- A byte at which a number ends, wherever it may. -/
def EndsNumber (b : UInt8) : Prop :=
  digit? b = none ∧ b ≠ 0x2E ∧ b ≠ 0x65 ∧ b ≠ 0x45 ∧ b ≠ 0x2B ∧ b ≠ 0x2D

instance (b : UInt8) : Decidable (EndsNumber b) := inferInstanceAs (Decidable (_ ∧ _))

theorem Partial.next?_of_endsNumber {b : UInt8} (h : EndsNumber b) (p : Partial) :
    p.next? b = none := by
  obtain ⟨hdigit, hpoint, hlower, hupper, hplus, hminus⟩ := h
  unfold Partial.next?
  cases p.stage <;> simp [*]

theorem isBlank_iff {b : UInt8} :
    isBlank b = true ↔ b = 0x20 ∨ b = 0x09 ∨ b = 0x0A ∨ b = 0x0D := by
  simp [isBlank, or_assoc]

theorem endsNumber_of_isBlank {b : UInt8} (h : isBlank b = true) : EndsNumber b := by
  rcases isBlank_iff.mp h with rfl | rfl | rfl | rfl <;> decide

theorem start?_of_isBlank {b : UInt8} (h : isBlank b = true) (tokens : List Token) :
    start? tokens b = some ⟨tokens, .rest⟩ := by
  simp [start?, h]

/-- A digit begins a number. -/
theorem start?_byte (d : Digit) (tokens : List Token) :
    start? tokens d.byte =
      some ⟨tokens, .number { stage := if d.val = 0 then .zero else .whole, whole := [d] }⟩ := by
  have hother : isBlank d.byte = false ∧ (d.byte == 0x22) = false ∧ mark? d.byte = none ∧
      word? d.byte = none ∧ (d.byte == 0x2D) = false := by
    revert d
    decide
  obtain ⟨hblank, hquote, hmark, hword, hminus⟩ := hother
  simp [start?, Partial.start?, hblank, hquote, hmark, hword, hminus]

/-! ## Numbers -/

/-- Bytes that continue a number are taken by the scanner. -/
theorem foldlM_number {bytes : List UInt8} {p q : Partial} {tokens : List Token}
    (h : bytes.foldlM Partial.next? p = some q) :
    bytes.foldlM step? ⟨tokens, .number p⟩ = some ⟨tokens, .number q⟩ := by
  induction bytes generalizing p with
  | nil => simpa using h
  | cons b rest ih =>
    rw [List.foldlM_cons] at h ⊢
    obtain ⟨p', hp', hrest⟩ := Option.bind_eq_some_iff.mp h
    simpa [step?, hp'] using ih hrest

/-- Digits are put in front of those that a number under way holds. -/
theorem foldlM_digits (put : List Digit → Partial)
    (hput : ∀ before d, (put before).next? d.byte = some (put (d :: before)))
    (digits before : List Digit) :
    (digits.map Digit.byte).foldlM Partial.next? (put before) =
      some (put (digits.reverse ++ before)) := by
  induction digits generalizing before with
  | nil => rfl
  | cons d rest ih => simp [hput, ih]

theorem foldlM_whole {digits : List Digit} {whole : List UInt8}
    (h : Number.WholeSpelling digits whole) (negative : Bool) (tokens : List Token) :
    ∃ stage : Stage, (stage = .zero ∨ stage = .whole) ∧
      (Number.signBytes negative ++ whole).foldlM step? ⟨tokens, .rest⟩ =
        some ⟨tokens, .number { stage, negative, whole := digits.reverse }⟩ := by
  have hfirst : ∀ (d : Digit) (rest : List UInt8),
      (Number.signBytes negative ++ d.byte :: rest).foldlM step? ⟨tokens, .rest⟩ =
        rest.foldlM step? ⟨tokens, .number
          { stage := if d.val = 0 then .zero else .whole, negative, whole := [d] }⟩ := by
    intro d rest
    cases negative with
    | false => simp [Number.signBytes, step?, start?_byte]
    | true =>
      have hminus : start? tokens 0x2D =
          some ⟨tokens, .number { stage := .minus, negative := true }⟩ := rfl
      simp [Number.signBytes, step?, hminus, Partial.next?_byte]
  cases h with
  | zero =>
    refine ⟨.zero, .inl rfl, ?_⟩
    exact hfirst 0 []
  | @digits d rest hd =>
    have hdigits := foldlM_digits (fun ds => { stage := .whole, negative, whole := ds })
      (fun before d => Partial.next?_byte _ d) rest [d]
    refine ⟨.whole, .inr rfl, ?_⟩
    have hd' : d.val ≠ 0 := fun hzero => hd (Fin.ext hzero)
    rw [List.map_cons, hfirst, if_neg hd', foldlM_number hdigits]
    simp

/-- The stages behind which an exponent may stand. -/
def Stage.EndsPart (stage : Stage) : Prop := stage = .zero ∨ stage = .whole ∨ stage = .fraction

theorem foldlM_fraction {digits : List Digit} {bytes : List UInt8}
    (h : Number.FractionSpelling digits bytes) {p : Partial}
    (hstage : p.stage = .zero ∨ p.stage = .whole) (hnone : p.fraction = []) :
    ∃ stage : Stage, stage.EndsPart ∧
      bytes.foldlM Partial.next? p = some { p with stage, fraction := digits.reverse } := by
  cases h with
  | absent =>
    refine ⟨p.stage, hstage.imp id .inl, ?_⟩
    rw [List.reverse_nil, ← hnone]
    rfl
  | digits hsome =>
    obtain ⟨d, rest, rfl⟩ := List.exists_cons_of_ne_nil hsome
    have hpoint : p.next? 0x2E = some { p with stage := .point } := by
      unfold Partial.next?
      rcases hstage with h | h <;> rw [h] <;> rfl
    have hdigits := foldlM_digits (fun ds => { p with stage := .fraction, fraction := ds })
      (fun before d => Partial.next?_byte _ d) rest [d]
    refine ⟨.fraction, .inr (.inr rfl), ?_⟩
    simp [hpoint, Partial.next?_byte, hdigits]

theorem foldlM_exponent {exponent : Option (Bool × List Digit)} {bytes : List UInt8}
    (h : Number.ExponentSpelling exponent bytes) {p : Partial} (hstage : p.stage.EndsPart)
    (hpositive : p.exponentNegative = false) :
    ∃ q : Partial, bytes.foldlM Partial.next? p = some q ∧
      q.done? = some ⟨p.negative, p.whole.reverse, p.fraction.reverse, exponent⟩ := by
  cases h with
  | absent =>
    refine ⟨p, rfl, ?_⟩
    unfold Partial.done?
    rcases hstage with h | h | h <;> rw [h]
  | @digits mark negative sign digits hmark hsign hsome =>
    obtain ⟨d, rest, rfl⟩ := List.exists_cons_of_ne_nil hsome
    have hmarked : p.next? mark = some { p with stage := .mark } := by
      unfold Partial.next?
      rcases hstage with h | h | h <;> rw [h] <;> rcases hmark with rfl | rfl <;> rfl
    have hfirst : (sign ++ [d.byte]).foldlM Partial.next? { p with stage := .mark } =
        some { p with stage := .exponent, exponentNegative := negative, exponent := [d] } := by
      cases hsign with
      | absent => simp [Partial.next?_byte, hpositive]
      | plus =>
        have hplus : Partial.next? { p with stage := .mark } 0x2B =
            some { p with stage := .sign } := rfl
        rw [List.cons_append, List.foldlM_cons, hplus]
        simp [Partial.next?_byte, hpositive]
      | minus =>
        have hminus : Partial.next? { p with stage := .mark } 0x2D =
            some { p with stage := .sign, exponentNegative := true } := rfl
        simp [hminus, Partial.next?_byte]
    have hdigits := foldlM_digits
      (fun ds =>
        { p with stage := .exponent, exponentNegative := negative, exponent := ds })
      (fun before d => Partial.next?_byte _ d) rest [d]
    refine ⟨{ p with stage := .exponent, exponentNegative := negative,
                     exponent := rest.reverse ++ [d] }, ?_, ?_⟩
    · rw [List.foldlM_cons, hmarked, Option.bind_eq_bind, Option.bind_some, List.map_cons,
        List.append_cons, foldlM_append_of_eq_some hfirst]
      exact hdigits
    · simp [Partial.done?]

/-- A number is read up to a place where it may end. -/
theorem foldlM_numberSpelling {n : Number} {bytes : List UInt8} (h : n.Spelling bytes)
    (tokens : List Token) :
    ∃ p : Partial, p.done? = some n ∧
      bytes.foldlM step? ⟨tokens, .rest⟩ = some ⟨tokens, .number p⟩ := by
  obtain ⟨hwhole, hfraction, hexponent⟩ := h
  obtain ⟨stage, hstage, hp⟩ := foldlM_whole hwhole n.negative tokens
  obtain ⟨stage', hstage', hq⟩ := foldlM_fraction hfraction
    (p := { stage, negative := n.negative, whole := n.whole.reverse }) hstage rfl
  obtain ⟨q, hr, hdone⟩ := foldlM_exponent hexponent
    (p := { stage := stage', negative := n.negative, whole := n.whole.reverse,
            fraction := n.fraction.reverse }) hstage' rfl
  refine ⟨q, ?_, ?_⟩
  · simpa using hdone
  · rw [List.append_assoc, foldlM_append_of_eq_some hp,
      foldlM_append_of_eq_some (foldlM_number hq), foldlM_number hr]

/-! ## Strings -/

theorem hexDigit?_of_spelling {v : Nat} {b : UInt8} (h : HexSpelling v b) :
    hexDigit? b = some v := by
  unfold hexDigit?
  simp only [Bool.and_eq_true, decide_eq_true_eq, UInt8.le_iff_toNat_le]
  cases h with
  | digit hlt hb =>
    rw [if_pos (by simp; omega), hb]
    simp
  | upper hle hlt hb =>
    rw [if_neg (by simp; omega), if_pos (by simp; omega), hb]
    simp; omega
  | lower hle hlt hb =>
    rw [if_neg (by simp; omega), if_neg (by simp; omega), if_pos (by simp; omega), hb]
    simp; omega

/-- A piece of a string is put in front of those that were read. -/
theorem foldlM_piece {piece : Piece} {bytes : List UInt8} (h : piece.Spelling bytes)
    (tokens : List Token) (read : Text) :
    bytes.foldlM step? ⟨tokens, .string read⟩ = some ⟨tokens, .string (piece :: read)⟩ := by
  cases h with
  | @plain b hlow hquote hbackslash =>
    have hcontrol : ¬b < 0x20 := UInt8.not_lt.mpr hlow
    simp [step?, hquote, hbackslash, hcontrol]
  | @letter b letter hletter =>
    have hescaped : escaped? letter = some b ∧ letter ≠ 0x75 := by
      revert hletter
      simp only [escapeLetters, List.mem_cons, List.not_mem_nil, Prod.mk.injEq, or_false]
      rintro (⟨rfl, rfl⟩ | ⟨rfl, rfl⟩ | ⟨rfl, rfl⟩ | ⟨rfl, rfl⟩ | ⟨rfl, rfl⟩ | ⟨rfl, rfl⟩ |
        ⟨rfl, rfl⟩ | ⟨rfl, rfl⟩) <;> decide
    simp [step?, hescaped]
  | @unit u v₁ v₂ v₃ v₄ b₁ b₂ b₃ b₄ h₁ h₂ h₃ h₄ hu =>
    have hread : (16 * (16 * (16 * (16 * 0 + v₁) + v₂) + v₃) + v₄).toUInt16 = u := by
      have hlt := u.toNat_lt
      rw [← UInt16.toNat_inj, hu, Nat.toUInt16_eq, UInt16.toNat_ofNat']
      omega
    have hescape : step? ⟨tokens, .escape read⟩ 0x75 = some ⟨tokens, .unit read 4 0⟩ := rfl
    have hdigit : ∀ {v : Nat} {b : UInt8}, HexSpelling v b → ∀ missing value,
        step? ⟨tokens, .unit read (missing + 2) value⟩ b =
          some ⟨tokens, .unit read (missing + 1) (16 * value + v)⟩ := by
      intro v b h missing value
      simp [step?, hexDigit?_of_spelling h]
    have hlast : ∀ value, step? ⟨tokens, .unit read 1 value⟩ b₄ =
        some ⟨tokens, .string (.unit (16 * value + v₄).toUInt16 :: read)⟩ := by
      intro value
      simp only [step?, hexDigit?_of_spelling h₄, Option.map_some, if_true]
    rw [← hread]
    simp only [List.foldlM_cons, List.foldlM_nil, Option.bind_eq_bind]
    rw [show step? ⟨tokens, .string read⟩ 0x5C = some ⟨tokens, .escape read⟩ from rfl]
    simp only [Option.bind_some, hescape, hdigit h₁ 2, hdigit h₂ 1, hdigit h₃ 0, hlast]
    rfl

theorem foldlM_text {text : Text} {bytes : List UInt8} (h : text.Spelling bytes)
    (tokens : List Token) (read : Text) :
    bytes.foldlM step? ⟨tokens, .string read⟩ = some ⟨tokens, .string (text.reverse ++ read)⟩ := by
  induction h generalizing read with
  | nil => rfl
  | cons hpiece _ ih =>
    rw [foldlM_append_of_eq_some (foldlM_piece hpiece tokens read), ih]
    simp

/-! ## Tokens -/

/-- A token that is not a number is read as soon as it ends. It begins with a
byte that ends a number. -/
theorem foldlM_token {token : Token} {bytes : List UInt8} (h : token.Spelling bytes)
    (hother : ¬token.IsNumber) (tokens : List Token) :
    bytes.foldlM step? ⟨tokens, .rest⟩ = some ⟨token :: tokens, .rest⟩ ∧
      ∃ b rest, bytes = b :: rest ∧ EndsNumber b := by
  cases h with
  | openArray | closeArray | openObject | closeObject | comma | colon | null | yes | no =>
    exact ⟨rfl, _, _, rfl, by decide⟩
  | number hn => exact absurd trivial hother
  | @string text inside hinside =>
    refine ⟨?_, _, _, rfl, by decide⟩
    have hopen : step? ⟨tokens, .rest⟩ 0x22 = some ⟨tokens, .string []⟩ := rfl
    rw [List.foldlM_cons, hopen, Option.bind_eq_bind, Option.bind_some,
      foldlM_append_of_eq_some (foldlM_text hinside tokens [])]
    simp [step?]

/-! ## Documents -/

/-- The tokens that a scanner has read, the latest one first: a number that
may end counts as read. -/
inductive HasRead : State → List Token → Prop where
  | rest (tokens : List Token) : HasRead ⟨tokens, .rest⟩ tokens
  | number {tokens : List Token} {p : Partial} {n : Number} :
    p.done? = some n → HasRead ⟨tokens, .number p⟩ (.number n :: tokens)

theorem HasRead.done?_eq {s : State} {tokens : List Token} (h : HasRead s tokens) :
    s.done? = some tokens.reverse := by
  cases h with
  | rest => rfl
  | number hp => simp [State.done?, hp]

/-- What begins with a byte that ends a number is read as at rest. -/
theorem HasRead.foldlM_of_endsNumber {s : State} {tokens : List Token} (h : HasRead s tokens)
    {b : UInt8} (hb : EndsNumber b) (rest : List UInt8) :
    (b :: rest).foldlM step? s = (b :: rest).foldlM step? ⟨tokens, .rest⟩ := by
  cases h with
  | rest => rfl
  | number hp => simp [step?, hp, Partial.next?_of_endsNumber hb]

theorem foldlM_blank {blanks : List UInt8} (h : Blank blanks) (tokens : List Token) :
    blanks.foldlM step? ⟨tokens, .rest⟩ = some ⟨tokens, .rest⟩ := by
  induction blanks with
  | nil => rfl
  | cons b rest ih =>
    have hb : isBlank b = true := isBlank_iff.mpr (h b (by simp))
    have hstep : step? ⟨tokens, .rest⟩ b = some ⟨tokens, .rest⟩ := start?_of_isBlank hb tokens
    rw [List.foldlM_cons, hstep]
    exact ih fun b hb => h b (by simp [hb])

/-- Blanks leave what was read as it is, and behind a blank the scanner is at
rest. -/
theorem HasRead.blank {s : State} {tokens : List Token} (h : HasRead s tokens)
    {blanks : List UInt8} (hblank : Blank blanks) :
    ∃ s', blanks.foldlM step? s = some s' ∧ HasRead s' tokens ∧
      (s.mode = .rest → s'.mode = .rest) := by
  cases blanks with
  | nil => exact ⟨s, rfl, h, id⟩
  | cons b rest =>
    have hb : isBlank b = true := isBlank_iff.mpr (hblank b (by simp))
    rw [h.foldlM_of_endsNumber (endsNumber_of_isBlank hb)]
    exact ⟨_, foldlM_blank hblank tokens, .rest tokens, fun _ => rfl⟩

/-- No number stands right behind a number. -/
def Apart (tokens : List Token) : Prop :=
  tokens.IsChain fun first second => ¬(first.IsNumber ∧ second.IsNumber)

/-- A layout is read token by token. A number at its beginning needs a scanner
at rest. -/
theorem foldlM_layout {tokens : List Token} {bytes : List UInt8} (h : Layout tokens bytes)
    {s : State} {before : List Token} (hread : HasRead s before) (hapart : Apart tokens)
    (hrest : (∃ token ∈ tokens.head?, token.IsNumber) → s.mode = .rest) :
    ∃ s', bytes.foldlM step? s = some s' ∧ HasRead s' (tokens.reverse ++ before) := by
  induction h generalizing s before with
  | nil hblank =>
    obtain ⟨s', hs', hread', -⟩ := hread.blank hblank
    exact ⟨s', hs', hread'⟩
  | @cons token tokens blanks first rest hblank htoken hlayout ih =>
    obtain ⟨s', hs', hread', hrest'⟩ := hread.blank hblank
    have hbehind : Apart tokens := List.IsChain.tail hapart
    rw [List.append_assoc, foldlM_append_of_eq_some hs', List.reverse_cons, List.append_assoc]
    by_cases hnumber : token.IsNumber
    · obtain ⟨n, rfl⟩ : ∃ n, token = .number n := by
        cases token with
        | number n => exact ⟨n, rfl⟩
        | _ => exact absurd hnumber id
      have hmode : s'.mode = .rest := hrest' (hrest ⟨_, rfl, hnumber⟩)
      obtain rfl : s' = ⟨before, .rest⟩ := by
        cases hread' with
        | rest => rfl
        | number => cases hmode
      obtain ⟨p, hp, hfirst⟩ : ∃ p : Partial, p.done? = some n ∧
          first.foldlM step? ⟨before, .rest⟩ = some ⟨before, .number p⟩ := by
        cases htoken with
        | number hn => exact foldlM_numberSpelling hn before
      rw [foldlM_append_of_eq_some hfirst]
      refine ih (.number hp) hbehind ?_
      rintro ⟨second, hsecond, hboth⟩
      obtain ⟨more, rfl⟩ : ∃ more, tokens = second :: more := by
        cases tokens with
        | nil => cases hsecond
        | cons t more => cases hsecond; exact ⟨more, rfl⟩
      exact absurd ⟨hnumber, hboth⟩ (List.isChain_cons_cons.mp hapart).1
    · obtain ⟨hfirst, b, more, rfl, hb⟩ := foldlM_token htoken hnumber before
      rw [List.cons_append, hread'.foldlM_of_endsNumber hb, ← List.cons_append,
        foldlM_append_of_eq_some hfirst]
      exact ih (.rest _) hbehind fun _ => rfl

end Scanner

open Scanner

theorem Token.ofBytes?_of_layout {tokens : List Token} {bytes : List UInt8}
    (h : Layout tokens bytes) (hapart : Apart tokens) : Token.ofBytes? bytes = some tokens := by
  obtain ⟨s, hs, hread⟩ := foldlM_layout h (.rest []) hapart fun _ => rfl
  unfold Token.ofBytes?
  rw [hs, Option.bind_some, hread.done?_eq, List.append_nil, List.reverse_reverse]

/-! ## Values -/

namespace Value

theorem apart_cons (token : Token) (h : ¬token.IsNumber) {tokens : List Token}
    (hapart : Apart tokens) : Apart (token :: tokens) := by
  cases tokens with
  | nil => exact List.isChain_singleton _
  | cons second rest => exact List.isChain_cons_cons.mpr ⟨fun hboth => h hboth.1, hapart⟩

/-- No number begins what stands behind a value. -/
theorem apart_number {n : Number} {tokens : List Token} (hapart : Apart tokens)
    (hhead : ∀ token ∈ tokens.head?, ¬token.IsNumber) : Apart (.number n :: tokens) := by
  cases tokens with
  | nil => exact List.isChain_singleton _
  | cons second rest => exact List.isChain_cons_cons.mpr ⟨fun hboth => hhead _ rfl hboth.2, hapart⟩

mutual

theorem apart_tokens (v : Value) (rest : List Token) (hapart : Apart rest)
    (hhead : ∀ token ∈ rest.head?, ¬token.IsNumber) : Apart (v.tokens ++ rest) := by
  match v with
  | .null | .bool _ | .string _ => exact apart_cons _ id hapart
  | .number _ => exact apart_number hapart hhead
  | .array [] | .object [] => exact apart_cons _ id (apart_cons _ id hapart)
  | .array (v :: items) =>
    obtain ⟨hfurther, hhead'⟩ := apart_furtherItems items hapart
    simpa [tokens] using apart_cons .openArray id (apart_tokens v _ hfurther hhead')
  | .object ((k, v) :: members) =>
    obtain ⟨hfurther, hhead'⟩ := apart_furtherMembers members hapart
    simpa [tokens] using apart_cons .openObject id
      (apart_cons (.string k) id
        (apart_cons .colon id (apart_tokens v _ hfurther hhead')))

theorem apart_furtherItems (items : List Value) {rest : List Token} (hapart : Apart rest) :
    Apart (furtherItems items ++ rest) ∧
      ∀ token ∈ (furtherItems items ++ rest).head?, ¬token.IsNumber := by
  match items with
  | [] => exact ⟨apart_cons _ id hapart, by simp [furtherItems, Token.IsNumber]⟩
  | v :: items =>
    obtain ⟨hfurther, hhead⟩ := apart_furtherItems items hapart
    refine ⟨?_, by simp [furtherItems, Token.IsNumber]⟩
    simpa [furtherItems] using apart_cons .comma id (apart_tokens v _ hfurther hhead)

theorem apart_furtherMembers (members : List (Text × Value)) {rest : List Token}
    (hapart : Apart rest) :
    Apart (furtherMembers members ++ rest) ∧
      ∀ token ∈ (furtherMembers members ++ rest).head?, ¬token.IsNumber := by
  match members with
  | [] => exact ⟨apart_cons _ id hapart, by simp [furtherMembers, Token.IsNumber]⟩
  | (k, v) :: members =>
    obtain ⟨hfurther, hhead⟩ := apart_furtherMembers members hapart
    refine ⟨?_, by simp [furtherMembers, Token.IsNumber]⟩
    simpa [furtherMembers] using apart_cons .comma id
      (apart_cons (.string k) id
        (apart_cons .colon id (apart_tokens v _ hfurther hhead)))

end

theorem apart (v : Value) : Apart v.tokens := by
  simpa using apart_tokens v [] List.isChain_nil (by simp)

/-- Every spelling of a value is read as that value. -/
theorem ofBytes?_of_spelling {v : Value} {bytes : List UInt8} (h : v.Spelling bytes) :
    ofBytes? bytes = some v := by
  unfold ofBytes?
  rw [Token.ofBytes?_of_layout h v.apart]
  exact ofTokens?_tokens v

end Value

end Beacon.Json
