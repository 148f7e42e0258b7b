import Beacon.Settings.Reader

/-!
# How reading ends

`Settings.read` reads a document and then checks what it has read.  A document
that cannot be read is malformed (`read_eq_malformed_iff`); any other gives its
settings or the rule that they break (`read_of_ofBytes?`), and settings that
come out keep every rule (`read_eq_ok_iff`).  Only a malformed document is
complained of (`readNoting_of_malformed` and `readNoting_of_readable`).
-/

namespace Beacon.Settings

variable {bytes : List UInt8} {settings : Settings}

theorem check_ne_malformed (settings : Settings) : settings.check ≠ .error .malformed := by
  unfold check
  split <;> simp

theorem read_of_ofBytes? (h : ofBytes? bytes = some settings) :
    read bytes = settings.check.map fun _ => settings := by
  unfold read
  rw [h]
  dsimp only
  cases settings.check <;> rfl

theorem read_eq_malformed_iff : read bytes = .error .malformed ↔ ofBytes? bytes = none := by
  cases h : ofBytes? bytes with
  | none => simp [read, h]
  | some settings =>
    have hne := settings.check_ne_malformed
    rw [read_of_ofBytes? h]
    cases hcheck : settings.check with
    | error fault => simpa [Except.map, hcheck] using hne
    | ok => simp [Except.map]

theorem read_ne_malformed_iff :
    read bytes ≠ .error .malformed ↔ ∃ settings, ofBytes? bytes = some settings := by
  rw [Ne, read_eq_malformed_iff, Option.eq_none_iff_forall_ne_some]
  simp

theorem read_eq_ok_iff :
    read bytes = .ok settings ↔ ofBytes? bytes = some settings ∧ settings.Valid := by
  constructor
  · intro h
    have hne : read bytes ≠ .error .malformed := by simp [h]
    obtain ⟨read, hread⟩ := read_ne_malformed_iff.mp hne
    rw [read_of_ofBytes? hread] at h
    cases hcheck : read.check with
    | error fault => simp [Except.map, hcheck] at h
    | ok =>
      obtain rfl : read = settings := by simpa [Except.map, hcheck] using h
      exact ⟨hread, check_eq_ok_iff.mp hcheck⟩
  · rintro ⟨hread, hvalid⟩
    rw [read_of_ofBytes? hread, check_eq_ok_iff.mpr hvalid]
    rfl

variable (complain : List UInt8 → Complaint)

/-- What is complained of does not change how reading ends. -/
theorem fst_readNoting : (readNoting complain bytes).1 = read bytes := by
  unfold readNoting
  cases h : ofBytes? bytes with
  | none => exact (read_eq_malformed_iff.mpr h).symm
  | some settings => rfl

theorem readNoting_of_malformed (h : read bytes = .error .malformed) :
    readNoting complain bytes = (.error .malformed, [(complain bytes).entry]) := by
  unfold readNoting
  rw [read_eq_malformed_iff.mp h]

theorem readNoting_of_readable (h : read bytes ≠ .error .malformed) :
    readNoting complain bytes = (read bytes, []) := by
  obtain ⟨settings, hsettings⟩ := read_ne_malformed_iff.mp h
  unfold readNoting
  rw [hsettings]

end Beacon.Settings
