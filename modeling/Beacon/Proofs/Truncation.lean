import Beacon.Proofs.Settings.Outcome
import Beacon.Proofs.Json.Exactness

/-!
# Documents that are cut off or continued

`read_extended`: nothing but blanks can follow a document, and without its
closing bracket it is malformed.

A document of settings is an array or an object, so the scanner is at rest
behind it and reads what follows as if it were a document of its own
(`Token.ofBytes?_append`).  The builder has a complete value and takes no token
more, hence what follows holds none, and a document without tokens is blank.
-/

namespace Beacon

open Json

/-! ## The scanner behind other tokens -/

namespace Json.Scanner

/-- The scanner, had it begun behind some tokens. -/
def State.behind (before : List Token) (s : State) : State :=
  { s with tokens := s.tokens ++ before }

theorem start?_append (tokens before : List Token) (b : UInt8) :
    start? (tokens ++ before) b = (start? tokens b).map (State.behind before) := by
  unfold start?
  split
  · rfl
  split
  · rfl
  split
  · rfl
  split
  · rfl
  · simp [Function.comp_def, State.behind]

/-- What a byte does has nothing to do with the tokens before it. -/
theorem step?_behind (before : List Token) (s : State) (b : UInt8) :
    step? (s.behind before) b = (step? s b).map (State.behind before) := by
  obtain ⟨tokens, mode⟩ := s
  cases mode with
  | rest => exact start?_append tokens before b
  | word token missing =>
    simp only [step?, State.behind]
    split
    · rfl
    · split <;> rfl
    · split <;> rfl
  | number p =>
    simp only [step?, State.behind]
    split
    · rfl
    · cases p.done? with
      | none => rfl
      | some n => exact start?_append (.number n :: tokens) before b
  | string read =>
    simp only [step?, State.behind]
    split
    · rfl
    split
    · rfl
    split <;> rfl
  | escape read =>
    simp only [step?, State.behind]
    split
    · rfl
    · simp [Function.comp_def, State.behind]
  | unit read missing value =>
    simp only [step?, State.behind, Option.map_map]
    cases hexDigit? b with
    | none => rfl
    | some h =>
      simp only [Option.map_some, Function.comp_apply]
      split <;> rfl

theorem foldlM_behind (before : List Token) (bytes : List UInt8) (s : State) :
    bytes.foldlM step? (s.behind before) =
      (bytes.foldlM step? s).map (State.behind before) := by
  induction bytes generalizing s with
  | nil => rfl
  | cons b rest ih =>
    rw [List.foldlM_cons, List.foldlM_cons, step?_behind]
    cases step? s b with
    | none => rfl
    | some s' => exact ih s'

theorem done?_behind (before : List Token) (s : State) :
    (s.behind before).done? = s.done?.map (before.reverse ++ ·) := by
  obtain ⟨tokens, mode⟩ := s
  cases mode with
  | rest => simp [State.done?, State.behind]
  | number p => cases h : p.done? <;> simp [State.done?, State.behind, h]
  | word | string | escape | unit => rfl

end Json.Scanner

namespace Json

/-- Behind tokens that the scanner has read and left, it reads as from the
start. -/
theorem Token.ofBytes?_append {first : List UInt8} {tokens : List Token}
    (h : first.foldlM Scanner.step? {} = some ⟨tokens.reverse, .rest⟩) (rest : List UInt8) :
    Token.ofBytes? (first ++ rest) = (Token.ofBytes? rest).map (tokens ++ ·) := by
  have hbehind : (⟨tokens.reverse, .rest⟩ : Scanner.State) =
      Scanner.State.behind tokens.reverse {} := rfl
  unfold Token.ofBytes?
  rw [Scanner.foldlM_append_of_eq_some h, hbehind, Scanner.foldlM_behind]
  cases rest.foldlM Scanner.step? {} with
  | none => rfl
  | some s => simp [Scanner.done?_behind]

/-! ## Values between brackets -/

/-- An array or an object. -/
def Value.IsContainer : Value → Prop
  | .array _ | .object _ => True
  | _ => False

/-- The last token of an array or an object is its closing bracket. -/
theorem Value.IsContainer.tokens_eq {v : Value} (h : v.IsContainer) :
    ∃ before last, v.tokens = before ++ [last] ∧ (last = .closeArray ∨ last = .closeObject) := by
  cases v with
  | array items =>
    rcases List.eq_nil_or_concat items with rfl | ⟨items, v, rfl⟩
    · exact ⟨[.openArray], .closeArray, rfl, .inl rfl⟩
    · rw [List.concat_eq_append, tokens_array_append, ← List.cons_append]
      exact ⟨_, _, rfl, .inl rfl⟩
  | object members =>
    rcases List.eq_nil_or_concat members with rfl | ⟨members, ⟨key, v⟩, rfl⟩
    · exact ⟨[.openObject], .closeObject, rfl, .inr rfl⟩
    · refine ⟨.openObject :: (memberTokens members ++ .string key :: .colon :: v.tokens),
        .closeObject, ?_, .inr rfl⟩
      rw [List.concat_eq_append, tokens_object_append]
      simp
  | null | bool | number | string => exact h.elim

/-- The last token is laid out somewhere, and only blanks are behind it. -/
theorem Layout.eq_append_last {before : List Token} {last : Token} {bytes : List UInt8}
    (h : Layout (before ++ [last]) bytes) :
    ∃ body spelled blanks, bytes = body ++ spelled ++ blanks ∧ last.Spelling spelled ∧
      Blank blanks := by
  induction before generalizing bytes with
  | nil =>
    cases h with
    | cons hbefore hlast hrest =>
      cases hrest with
      | nil hbehind => exact ⟨_, _, _, rfl, hlast, hbehind⟩
  | cons token before ih =>
    cases h with
    | @cons _ _ blanks first rest _ _ hrest =>
      obtain ⟨body, spelled, behind, rfl, hlast, hbehind⟩ := ih hrest
      exact ⟨blanks ++ first ++ body, spelled, behind, by simp, hlast, hbehind⟩

/-- A document of an array or an object ends with its bracket, but for blanks. -/
theorem Value.IsContainer.bracket {v : Value} (h : v.IsContainer) {bytes : List UInt8}
    (hbytes : v.Spelling bytes) :
    ∃ body bracket blanks, bytes = body ++ bracket :: blanks ∧
      (bracket = 0x5D ∨ bracket = 0x7D) ∧ Blank blanks := by
  obtain ⟨before, last, htokens, hlast⟩ := h.tokens_eq
  unfold Value.Spelling at hbytes
  rw [htokens] at hbytes
  obtain ⟨body, spelled, blanks, rfl, hspelled, hblanks⟩ := hbytes.eq_append_last
  refine ⟨body, ?_⟩
  rcases hlast with rfl | rfl <;> cases hspelled
  · exact ⟨0x5D, blanks, by simp, .inl rfl, hblanks⟩
  · exact ⟨0x7D, blanks, by simp, .inr rfl, hblanks⟩

/-- Behind the bracket the scanner is at rest. -/
theorem Value.IsContainer.foldlM {v : Value} (h : v.IsContainer) {bytes : List UInt8}
    (hbytes : v.Spelling bytes) :
    bytes.foldlM Scanner.step? {} = some ⟨v.tokens.reverse, .rest⟩ := by
  obtain ⟨s, hs, hread⟩ := Scanner.foldlM_layout hbytes (.rest []) v.apart fun _ => rfl
  obtain ⟨before, last, htokens, hlast⟩ := h.tokens_eq
  rw [List.append_nil] at hread
  rw [hs]
  generalize hreverse : v.tokens.reverse = read at hread
  cases hread with
  | rest => rfl
  | number => simp [htokens] at hreverse; rcases hlast with rfl | rfl <;> simp at hreverse

/-- What follows an array or an object in a document is blank. -/
theorem Value.IsContainer.blank_of_append {v w : Value} (h : v.IsContainer)
    {bytes rest : List UInt8} (hv : v.Spelling bytes) (hw : w.Spelling (bytes ++ rest)) :
    Blank rest ∧ w = v := by
  obtain ⟨tokens, htokens, hw⟩ := Option.bind_eq_some_iff.mp (ofBytes?_of_spelling hw)
  rw [Token.ofBytes?_append (h.foldlM hv)] at htokens
  obtain ⟨more, hmore, rfl⟩ := Option.map_eq_some_iff.mp htokens
  unfold ofTokens? at hw
  rw [foldlM_tokens] at hw
  cases more with
  | nil =>
    have hblank := Token.layout_of_ofBytes? hmore
    cases hblank with
    | nil hblank => exact ⟨hblank, (Option.some_inj.mp hw).symm⟩
  | cons token more =>
    rw [List.foldlM_cons, show Builder.push? (.after [] v) token = none from rfl] at hw
    cases hw

end Json

/-! ## Settings -/

namespace Settings

/-- What is read as settings spells an array or an object. -/
theorem spelling_of_ofBytes? {bytes : List UInt8} {settings : Settings}
    (h : ofBytes? bytes = some settings) :
    ∃ v : Value, v.Spelling bytes ∧ v.IsContainer ∧ ofValue? v = some settings := by
  obtain ⟨v, hv, hsettings⟩ := Option.bind_eq_some_iff.mp h
  refine ⟨v, Value.ofBytes?_eq_some_iff.mp hv, ?_, hsettings⟩
  cases v with
  | array | object => trivial
  | null | bool | number | string => cases hsettings

/-- Blanks behind a document change nothing. -/
theorem ofBytes?_append_of_blank {bytes blanks : List UInt8} {settings : Settings}
    (h : ofBytes? bytes = some settings) (hblank : Blank blanks) :
    ofBytes? (bytes ++ blanks) = some settings := by
  obtain ⟨v, hv, -, hsettings⟩ := spelling_of_ofBytes? h
  have hmore : v.Spelling (bytes ++ blanks) := hv.append_blank hblank
  simp [ofBytes?, Value.ofBytes?_of_spelling hmore, hsettings]

/-- Nothing but blanks may follow a document. -/
theorem blank_of_ofBytes?_append {bytes rest : List UInt8} {settings longer : Settings}
    (h : ofBytes? bytes = some settings) (hmore : ofBytes? (bytes ++ rest) = some longer) :
    Blank rest := by
  obtain ⟨v, hv, hcontainer, -⟩ := spelling_of_ofBytes? h
  obtain ⟨w, hw, -, -⟩ := spelling_of_ofBytes? hmore
  exact (hcontainer.blank_of_append hv hw).1

theorem read_append_of_blank {document blanks : List UInt8}
    (h : read document ≠ .error .malformed) (hblank : Blank blanks) :
    read (document ++ blanks) = read document := by
  obtain ⟨settings, hsettings⟩ := read_ne_malformed_iff.mp h
  rw [read_of_ofBytes? hsettings, read_of_ofBytes? (ofBytes?_append_of_blank hsettings hblank)]

theorem blank_of_read_append {document rest : List UInt8}
    (h : read document ≠ .error .malformed) (hmore : read (document ++ rest) ≠ .error .malformed) :
    Blank rest := by
  obtain ⟨settings, hsettings⟩ := read_ne_malformed_iff.mp h
  obtain ⟨longer, hlonger⟩ := read_ne_malformed_iff.mp hmore
  exact blank_of_ofBytes?_append hsettings hlonger

/-- A document that is not malformed ends with a bracket, but for blanks. -/
theorem bracket_of_read {document : List UInt8} (h : read document ≠ .error .malformed) :
    ∃ body bracket blanks, document = body ++ bracket :: blanks ∧
      (bracket = 0x5D ∨ bracket = 0x7D) ∧ Blank blanks := by
  obtain ⟨settings, hsettings⟩ := read_ne_malformed_iff.mp h
  obtain ⟨v, hv, hcontainer, -⟩ := spelling_of_ofBytes? hsettings
  exact hcontainer.bracket hv

/-- Of a document that is not malformed, no extension is taken for another
one: only blanks may follow it, and they change nothing.  It ends with a
bracket, but for blanks, and what has been cut off before the bracket is
malformed. -/
theorem read_extended (document : List UInt8) (h : read document ≠ .error .malformed) :
    (∀ rest, read (document ++ rest) ≠ .error .malformed →
      Blank rest ∧ read (document ++ rest) = read document) ∧
    (∀ blanks, Blank blanks → read (document ++ blanks) = read document) ∧
    (∀ b rest, ¬Blank [b] → read (document ++ b :: rest) = .error .malformed) ∧
    ∃ body bracket blanks, document = body ++ bracket :: blanks ∧
      (bracket = 0x5D ∨ bracket = 0x7D) ∧ Blank blanks ∧
      ∀ cut, cut <+: body → read cut = .error .malformed := by
  refine ⟨fun rest hmore => ?_, fun blanks => read_append_of_blank h, fun b rest hb => ?_, ?_⟩
  · have hblank := blank_of_read_append h hmore
    exact ⟨hblank, read_append_of_blank h hblank⟩
  · by_contra hmore
    have hblank := blank_of_read_append h hmore
    exact hb fun c hc => hblank c (by simp_all)
  · obtain ⟨body, bracket, blanks, rfl, hbracket, hblanks⟩ := bracket_of_read h
    refine ⟨body, bracket, blanks, rfl, hbracket, hblanks, ?_⟩
    rintro cut ⟨lost, rfl⟩
    by_contra hcut
    rw [List.append_assoc] at h
    have hblank := blank_of_read_append hcut h bracket (by simp)
    rcases hbracket with rfl | rfl <;> simp at hblank

/-- A document with brackets inside a string, which are no end of it. -/
theorem read_extended_string :
    let document := Utf8.encode "\x7b\"note\": \"]\x7d\", \"period_ms\": 70\x7d "
    read document ≠ .error .malformed ∧
      read (document ++ Utf8.encode "\n\t") = read document ∧
      read (document ++ Utf8.encode "]\x7d") = .error .malformed ∧
      ∃ body bracket blanks, document = body ++ bracket :: blanks ∧
        (bracket = 0x5D ∨ bracket = 0x7D) ∧ Blank blanks ∧
        ∀ cut, cut <+: body → read cut = .error .malformed := by
  intro document
  have h : read document ≠ .error .malformed := by decide +kernel
  obtain ⟨-, hblank, hother, hbracket⟩ := read_extended document h
  have hnewline : Blank (Utf8.encode "\n\t") := by decide
  have hclose : ¬Blank [0x5D] := by decide
  exact ⟨h, hblank _ hnewline, hother 0x5D [0x7D] hclose, hbracket⟩

end Settings

end Beacon
