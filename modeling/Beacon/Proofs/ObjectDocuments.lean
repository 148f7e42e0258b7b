import Beacon.Proofs.Json.Exactness
import Beacon.Proofs.Settings.Outcome
import Beacon.Proofs.Settings.Repeats

/-!
# What an object document means

`read_object`: a document that spells an object, with any blanks, in any order
and with any escapes, is read as the settings that the object describes, and
checked.  If the object gives a field twice, at any of its levels, the
document is malformed.
-/

namespace Beacon

open Json (Value Text)

namespace Settings

/-- A document of an object is read as what the object describes. What is
ambiguous is refused. -/
theorem read_object {members : List (Text × Value)} {document : List UInt8}
    (hdocument : (Value.object members).Spelling document) :
    (∀ settings : Settings, settings.Described members →
      ofBytes? document = some settings ∧
        read document = settings.check.map fun _ => settings) ∧
    (Ambiguous members → read document = .error .malformed) := by
  have hread : ofBytes? document = ofValue? (.object members) := by
    unfold ofBytes?
    rw [Value.ofBytes?_of_spelling hdocument]
    rfl
  refine ⟨fun settings hsettings => ?_, fun hambiguous => ?_⟩
  · have hsome : ofBytes? document = some settings := hread.trans (ofValue?_of_described hsettings)
    exact ⟨hsome, read_of_ofBytes? hsome⟩
  · exact read_eq_malformed_iff.mpr (hread.trans (ofValue?_of_ambiguous hambiguous))

/-- Unknown members, a key with an escape, wiring in part, and a step whose
members come in another order, with one that is not its own; and a document
that gives a field in two spellings. -/
theorem read_object_partial :
    let escaped : Text := .byte 0x70 :: .unit 0x65 :: Text.ofString "riod_ms"
    let lines : List (Text × Value) :=
      [(Text.ofString "k2", .ofNat 9), (Text.ofString "k9", .string [.unit 0xD800])]
    let parts : List (Text × Value) :=
      [(Text.ofString "percent", .ofNat 150), (Text.ofString "ms", .array [.null]),
        (Text.ofString "mode", .ofString "scale")]
    let members : List (Text × Value) :=
      [(Text.ofString "note", .array [.object []]), (escaped, .ofNat 70),
        (Text.ofString "lines", .object lines), (Text.ofString "step", .object parts)]
    let document :=
      Utf8.encode "\x7b\"note\":[\x7b\x7d],\t\"p\\u0065riod_ms\" : 70,\n \"lines\":" ++
      Utf8.encode "\x7b\"k2\":9, \"k9\":\"\\uD800\"\x7d, \"step\": \x7b\"percent\": 150," ++
      Utf8.encode "\"ms\":[ null ],\"mode\":\"scale\"\x7d\x7d"
    let settings : Settings := { periodMs := 70, step := .scale 150, wiring := { k2 := 9 } }
    let repeating : List (Text × Value) :=
      [(Text.ofString "period_ms", .ofNat 70), (Text.ofString "note", .null), (escaped, .ofNat 70)]
    let twice := Utf8.encode "\x7b\"period_ms\":70,\"note\":null,\"p\\u0065riod_ms\":70\x7d"
    ((Value.object members).Spelling document ∧ settings.Described members ∧
      read document = .ok settings) ∧
    (Value.object repeating).Spelling twice ∧ Ambiguous repeating ∧
      read twice = .error .malformed := by
  intro escaped lines parts members document settings repeating twice
  have hdocument : (Value.object members).Spelling document :=
    Json.Token.layout_of_ofBytes? (by decide +kernel)
  have htwice : (Value.object repeating).Spelling twice :=
    Json.Token.layout_of_ofBytes? (by decide +kernel)
  have hescaped : escaped.StandsFor "period_ms".toList :=
    .plain 'p' (.unit rfl (Text.standsFor_ofString "riod_ms"))
  have hwiring : Wiring.Described { k2 := 9 } (.object lines) := by
    refine ⟨_, [.k2 9], rfl, ⟨?_, by decide⟩, rfl⟩
    exact .entry (Text.standsFor_ofString _) (Value.isNatural_ofNat 9)
      (.other (Text.standsFor_ofString "k9") (by decide) trivial .nil)
  have hstep : PeriodStep.Described (.scale 150) (.object parts) := by
    have hnull : Value.Readable 125 (.array [.null]) := .array (by simpa using .null)
    refine ⟨_, [.amount, .mode], rfl, ⟨?_, by decide⟩, by simp, by simp⟩
    exact .entry (Text.standsFor_ofString _) (Value.isNatural_ofNat 150)
      (.other (Text.standsFor_ofString "ms") (by decide) hnull
        (.entry (Text.standsFor_ofString _) ⟨_, rfl, Text.standsFor_ofString _⟩ .nil))
  have hdescribed : settings.Described members := by
    refine ⟨[.periodMs 70, .wiring { k2 := 9 }, .step (.scale 150)], ⟨?_, by decide⟩, rfl⟩
    exact .other (Text.standsFor_ofString "note") (by decide) trivial
      (.entry hescaped (Value.isNatural_ofNat 70)
        (.entry (Text.standsFor_ofString _) hwiring
          (.entry (Text.standsFor_ofString _) hstep .nil)))
  have hambiguous : Ambiguous repeating :=
    .field (by decide) ⟨_, _, .cons_cons _ (.cons _ (.cons_cons _ .slnil)),
      Text.standsFor_ofString "period_ms", hescaped⟩
  refine ⟨⟨hdocument, hdescribed, ?_⟩, htwice, hambiguous, (read_object htwice).2 hambiguous⟩
  have hcheck : settings.check = .ok () := by decide +kernel
  rw [((read_object hdocument).1 settings hdescribed).2, hcheck]
  rfl

end Settings

end Beacon
