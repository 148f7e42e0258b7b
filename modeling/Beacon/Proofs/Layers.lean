import Beacon.Launch
import Beacon.Proofs.Settings.Outcome

/-!
# Settings in layers

`load_layers` says what comes of the defaults, the file and the command line.
A file that cannot be read or is refused ends the matter.  Over valid settings,
the command line fails if and only if the period that it gives is out of
their range, whatever the duty; otherwise it replaces the period and the duty,
and nothing else.  Settings that come out are valid.  The journal tells of a
file if and only if it is malformed, and over valid settings of a duty if and
only if it has been cut.
-/

namespace Beacon

namespace Settings

/-- The range is kept in milliseconds. -/
theorem holds_periodInRange_iff {settings : Settings} :
    Rule.periodInRange.holds settings = true ↔
      settings.shortestMs ≤ settings.periodMs ∧ settings.periodMs ≤ settings.longestMs := by
  simp only [Rule.holds, PeriodRange.contains_iff, range, period, Duration.le_def,
    Duration.nanos_ofMillis, UInt32.le_iff_toNat_le, UInt32.toNat_toUInt64]
  omega

end Settings

namespace CommandLine

variable {line : CommandLine} {read : String → Except String (List UInt8)} {base result : Settings}
  {complain : List UInt8 → Settings.Complaint}

/-! ## The layers -/

/-- The settings that the command line is laid over. -/
inductive LiesOver (line : CommandLine) (read : String → Except String (List UInt8)) :
    Settings → Prop where
  | defaults : line.config = none → LiesOver line read {}
  | file {path : String} {bytes : List UInt8} {settings : Settings} :
    line.config = some path → read path = .ok bytes → Settings.read bytes = .ok settings →
      LiesOver line read settings

/-- The command line gives a period that is out of the range of the settings. -/
def Strays (line : CommandLine) (base : Settings) : Prop :=
  ∃ ms, line.periodMs = some ms ∧ (ms < base.shortestMs ∨ base.longestMs < ms)

/-- What the command line gives replaces what the settings hold, a duty as far
as a hundred percent; everything else is kept. -/
structure Overlays (line : CommandLine) (base result : Settings) : Prop where
  periodMs : result.periodMs = line.periodMs.getD base.periodMs
  dutyPercent : result.dutyPercent.toNat =
    (line.duty.map fun duty => min duty.toNat 100).getD base.dutyPercent.toNat
  others : result = { base with periodMs := result.periodMs, dutyPercent := result.dutyPercent }

/-- What the journal tells of a duty that has been cut. -/
def clampWarning (duty : UInt32) : Journal.Entry :=
  ⟨.warning, "duty cycle " ++ toString (min duty.toNat 255) ++ "% clamped to 100%"⟩

theorem LiesOver.valid (h : line.LiesOver read base) : base.Valid := by
  cases h with
  | defaults => exact Settings.valid_default
  | file _ _ hread => exact (Settings.read_eq_ok_iff.mp hread).2

theorem LiesOver.base_eq (h : line.LiesOver read base) :
    line.base complain read = (.ok base, []) := by
  unfold CommandLine.base
  cases h with
  | defaults hnone => rw [hnone]
  | @file path bytes _ hconfig hbytes hread =>
    have hne : Settings.read bytes ≠ .error .malformed := by simp [hread]
    simp only [hconfig, hbytes, Settings.readNoting_of_readable complain hne, hread]
    rfl

/-! ## The overlay -/

/-- No duty is too large to be taken. -/
theorem toNat_dutyPercent (duty : UInt32) : (dutyPercent duty).toNat = min duty.toNat 255 := by
  rw [dutyPercent, UInt8.toNat_ofNat']
  omega

theorem toNat_clamp_dutyPercent (duty : UInt32) :
    (Duty.clamp (dutyPercent duty)).percent.toNat = min duty.toNat 100 := by
  rw [Duty.percent_clamp_toNat, toNat_dutyPercent]
  omega

theorem overlays_override (line : CommandLine) (base : Settings) :
    line.Overlays base (line.override base) := by
  obtain ⟨duty, periodMs, config⟩ := line
  cases duty with
  | none => cases periodMs <;> exact ⟨rfl, rfl, rfl⟩
  | some duty => cases periodMs <;> exact ⟨rfl, toNat_clamp_dutyPercent duty, rfl⟩

/-- The range is that of the settings below, so only the given period can be
out of it. -/
theorem Overlays.inRange_iff (h : line.Overlays base result) (hbase : base.Valid) :
    Settings.Rule.periodInRange.holds result = true ↔ ¬line.Strays base := by
  have hshortest : result.shortestMs = base.shortestMs := by rw [h.others]
  have hlongest : result.longestMs = base.longestMs := by rw [h.others]
  have hbelow := Settings.holds_periodInRange_iff.mp (hbase .periodInRange)
  rw [Settings.holds_periodInRange_iff, hshortest, hlongest, h.periodMs]
  unfold Strays
  cases line.periodMs with
  | none => simpa using hbelow
  | some ms => simp [UInt32.not_lt]

theorem Overlays.duty_le_hundred (h : line.Overlays base result) (hbase : base.Valid) :
    result.dutyPercent ≤ 100 := by
  have hbelow : base.dutyPercent ≤ 100 := of_decide_eq_true (hbase .dutyAtMostHundred)
  rw [UInt8.le_iff_toNat_le] at hbelow ⊢
  rw [h.dutyPercent]
  cases line.duty with
  | none => exact hbelow
  | some duty => exact Nat.min_le_right _ _

/-- Over valid settings, the period is the only thing that can go wrong. -/
theorem Overlays.valid_iff (h : line.Overlays base result) (hbase : base.Valid) :
    result.Valid ↔ ¬line.Strays base := by
  rw [← h.inRange_iff hbase]
  refine ⟨fun hvalid => hvalid .periodInRange, fun hrange rule => ?_⟩
  have hshortest : 0 < result.shortestMs := by
    rw [h.others]
    exact of_decide_eq_true (hbase .shortestPositive)
  cases rule with
  | periodPositive =>
    have hle := (Settings.holds_periodInRange_iff.mp hrange).1
    exact decide_eq_true (UInt32.lt_of_lt_of_le hshortest hle)
  | dutyAtMostHundred => exact decide_eq_true (h.duty_le_hundred hbase)
  | periodInRange => exact hrange
  | shortestPositive => exact decide_eq_true hshortest
  | rangeInOrder => rw [h.others]; exact hbase .rangeInOrder
  | fixedStepPositive => rw [h.others]; exact hbase .fixedStepPositive
  | scaleStepAboveHundred => rw [h.others]; exact hbase .scaleStepAboveHundred
  | repeatIntervalPositive => rw [h.others]; exact hbase .repeatIntervalPositive

/-! ## Loading -/

theorem mem_dutyNotice {percent : UInt8} {entry : Journal.Entry} :
    entry ∈ Settings.dutyNotice percent ↔
      100 < percent ∧
        entry = ⟨.warning, "duty cycle " ++ toString percent.toNat ++ "% clamped to 100%"⟩ := by
  unfold Settings.dutyNotice Duty.clamp
  by_cases hsmall : percent ≤ 100
  · simp [hsmall, UInt8.not_lt.mpr hsmall]
  · have hlarge : 100 < percent := UInt8.not_le.mp hsmall
    have hne : (100 : UInt8) ≠ percent := fun h => hsmall (h ▸ UInt8.le_refl _)
    have htext : "duty cycle " ++ toString percent ++ "% clamped to " ++ "100" ++ "%" =
        "duty cycle " ++ toString percent ++ "% clamped to 100%" := by
      rw [String.append_assoc, String.append_assoc]
      rfl
    simp only [hsmall, Duty.full, dite_false, hne, if_false, List.mem_singleton, hlarge, true_and]
    exact htext ▸ Iff.rfl

theorem mem_overrideNotices {entry : Journal.Entry} :
    entry ∈ line.overrideNotices ↔
      ∃ duty, line.duty = some duty ∧ 100 < duty ∧ entry = clampWarning duty := by
  unfold overrideNotices
  cases line.duty with
  | none => simp
  | some duty =>
    have hlarge : 100 < dutyPercent duty ↔ 100 < duty := by
      rw [UInt8.lt_iff_toNat_lt, UInt32.lt_iff_toNat_lt, toNat_dutyPercent]
      change 100 < min duty.toNat 255 ↔ 100 < duty.toNat
      omega
    simp [mem_dutyNotice, hlarge, toNat_dutyPercent, clampWarning]

/-- Over the settings that it lies over, a command line that keeps to the range
leaves every rule kept. -/
theorem check_override_eq_ok_iff (h : line.LiesOver read base) :
    (line.override base).check = .ok () ↔ ¬line.Strays base :=
  Settings.check_eq_ok_iff.trans ((overlays_override line base).valid_iff h.valid)

theorem load_of_strays (h : line.LiesOver read base) (hstrays : line.Strays base) :
    ∃ fault, line.load complain read = (.error (.spoilt fault), line.overrideNotices) := by
  unfold load
  rw [h.base_eq]
  dsimp only
  cases hcheck : (line.override base).check with
  | error fault => exact ⟨fault, rfl⟩
  | ok => exact absurd hstrays ((check_override_eq_ok_iff h).mp hcheck)

theorem load_of_not_strays (h : line.LiesOver read base) (hstays : ¬line.Strays base) :
    line.load complain read = (.ok (line.override base), line.overrideNotices) := by
  unfold load
  rw [h.base_eq]
  dsimp only
  rw [(check_override_eq_ok_iff h).mpr hstays]
  rfl

/-- A file that is refused is complained of if it is malformed. -/
theorem load_of_refused {path : String} {bytes : List UInt8} {fault : SettingsFault}
    (hpath : line.config = some path) (hread : read path = .ok bytes)
    (hfault : Settings.read bytes = .error fault) :
    line.load complain read = (.error (.refused path fault),
      if fault = .malformed then [(complain bytes).entry] else []) := by
  have hbase : line.base complain read =
      ((Settings.readNoting complain bytes).1.mapError (.refused path),
        (Settings.readNoting complain bytes).2) := by
    simp only [CommandLine.base, hpath, hread]
  unfold load
  rw [hbase]
  by_cases hmalformed : fault = .malformed
  · subst hmalformed
    rw [Settings.readNoting_of_malformed complain hfault]
    rfl
  · have hne : Settings.read bytes ≠ .error .malformed := by simp [hfault, hmalformed]
    rw [Settings.readNoting_of_readable complain hne, hfault, if_neg hmalformed]
    rfl

/-- A command line that has settings lies over some settings. -/
theorem liesOver_of_base {settings : Settings} (h : (line.base complain read).1 = .ok settings) :
    line.LiesOver read settings := by
  unfold CommandLine.base at h
  split at h
  next hnone =>
    obtain rfl := Except.ok.inj h
    exact .defaults hnone
  next path hpath =>
    split at h
    · cases h
    next bytes hbytes =>
      change (Settings.readNoting complain bytes).1.mapError _ = .ok settings at h
      rw [Settings.fst_readNoting] at h
      cases hsettings : Settings.read bytes with
      | error fault =>
        rw [hsettings] at h
        cases h
      | ok read =>
        rw [hsettings] at h
        obtain rfl : read = settings := Except.ok.inj h
        exact .file hpath hbytes hsettings

/-- Settings that come out keep every rule. -/
theorem check_of_load (h : (line.load complain read).1 = .ok result) : result.check = .ok () := by
  obtain ⟨base, hbase⟩ : ∃ base, line.LiesOver read base := by
    rcases hread : line.base complain read with ⟨fault | base, notices⟩
    · simp [load, hread] at h
    · exact ⟨base, liesOver_of_base (congrArg Prod.fst hread)⟩
  by_cases hstrays : line.Strays base
  · obtain ⟨fault, hload⟩ := load_of_strays hbase hstrays
    rw [hload] at h
    cases h
  · rw [load_of_not_strays hbase hstrays] at h
    obtain rfl := Except.ok.inj h
    exact (check_override_eq_ok_iff hbase).mpr hstrays

/-- What comes of the defaults, the file and the command line, whatever is said of
a malformed file. -/
theorem load_layers (complain : List UInt8 → Settings.Complaint) (line : CommandLine)
    (read : String → Except String (List UInt8)) :
    (∀ path reason, line.config = some path → read path = .error reason →
      line.load complain read = (.error (.unreadable path reason), [])) ∧
    (∀ path bytes fault, line.config = some path → read path = .ok bytes →
      Settings.read bytes = .error fault →
      line.load complain read = (.error (.refused path fault),
        if fault = .malformed then [(complain bytes).entry] else [])) ∧
    (∀ base, line.LiesOver read base →
      ((∃ fault, (line.load complain read).1 = .error fault) ↔ line.Strays base) ∧
      (¬line.Strays base →
        ∃ result, (line.load complain read).1 = .ok result ∧ line.Overlays base result) ∧
      ∀ entry, entry ∈ (line.load complain read).2 ↔
        ∃ duty, line.duty = some duty ∧ 100 < duty ∧ entry = clampWarning duty) ∧
    ∀ result, (line.load complain read).1 = .ok result → result.check = .ok () := by
  refine ⟨fun path reason hpath hread => ?_, fun path bytes fault hpath hread hfault => ?_,
    fun base hbase => ?_, fun result => check_of_load⟩
  · simp [load, CommandLine.base, hpath, hread]
  · exact load_of_refused hpath hread hfault
  · by_cases hstrays : line.Strays base
    · obtain ⟨fault, hload⟩ := load_of_strays hbase hstrays
      rw [hload]
      exact ⟨⟨fun _ => hstrays, fun _ => ⟨_, rfl⟩⟩, fun hstays => absurd hstrays hstays,
        fun entry => mem_overrideNotices⟩
    · rw [load_of_not_strays hbase hstrays]
      refine ⟨⟨fun hfails => ?_, fun h => absurd h hstrays⟩,
        fun _ => ⟨_, rfl, overlays_override line base⟩, fun entry => mem_overrideNotices⟩
      obtain ⟨fault, hfault⟩ := hfails
      cases hfault

/-- A file with bounds of its own, a duty that would not fit eight bits, and a
period at the bound or beyond it; and a file that ends behind its first
bracket. -/
theorem load_layers_file :
    let file := fun path : String =>
      (.ok (Utf8.encode (if path = "cut.json" then "\x7b" else "\x7b\"max_period_ms\": 900\x7d")) :
        Except String (List UInt8))
    let complain := fun _ : List UInt8 =>
      Settings.Complaint.mk 1 "EOF while parsing an object at line 1 column 1"
    let base : Settings := { longestMs := 900 }
    let within : CommandLine := ⟨some 400, some 900, some "beacon.json"⟩
    let beyond : CommandLine := ⟨some 400, some 901, some "beacon.json"⟩
    let cut : CommandLine := ⟨some 400, none, some "cut.json"⟩
    within.LiesOver file base ∧ ¬within.Strays base ∧ beyond.Strays base ∧
      (∃ result, (within.load complain file).1 = .ok result ∧ within.Overlays base result) ∧
      (∃ fault, (beyond.load complain file).1 = .error fault) ∧
      clampWarning 400 ∈ (beyond.load complain file).2 ∧
      cut.load complain file = (.error (.refused "cut.json" .malformed),
        [⟨.warning, "config: parse error at line 1: " ++
          "EOF while parsing an object at line 1 column 1"⟩]) := by
  intro file complain base within beyond cut
  have hread : Settings.read (Utf8.encode "\x7b\"max_period_ms\": 900\x7d") = .ok base :=
    Settings.read_eq_ok_iff.mpr
      ⟨by decide +kernel, Settings.firstBroken?_eq_none_iff.mp (by decide +kernel)⟩
  have hcut : Settings.read (Utf8.encode "\x7b") = .error .malformed :=
    Settings.read_eq_malformed_iff.mpr (by decide +kernel)
  have hwithin : within.LiesOver file base := .file rfl rfl hread
  have hbeyond : beyond.LiesOver file base := .file rfl rfl hread
  have hstays : ¬within.Strays base := by
    rintro ⟨ms, hms, hout⟩
    obtain rfl : 900 = ms := Option.some_inj.mp hms
    revert hout
    decide
  have hstrays : beyond.Strays base := ⟨901, rfl, by decide⟩
  obtain ⟨-, hloads, -⟩ := (load_layers complain within file).2.2.1 base hwithin
  obtain ⟨hfails, -, hwarns⟩ := (load_layers complain beyond file).2.2.1 base hbeyond
  have hentry : (complain (Utf8.encode "\x7b")).entry = ⟨.warning,
      "config: parse error at line 1: " ++ "EOF while parsing an object at line 1 column 1"⟩ := by
    decide +kernel
  have hrefused := (load_layers complain cut file).2.1 "cut.json" _ _ rfl rfl hcut
  refine ⟨hwithin, hstays, hstrays, hloads hstays, hfails.mpr hstrays,
    (hwarns _).mpr ⟨400, rfl, by decide, rfl⟩, ?_⟩
  rw [hrefused, ← hentry]
  rfl

end CommandLine

end Beacon
