import Beacon.Period
import Beacon.Journal
import Beacon.Fault

/-!
# Settings

Everything about the controller that can be chosen: how it blinks at first, how far and how fast
the buttons adjust it, and which lines the lamp and the buttons are wired to. A value of
`Settings` may be out of range; `Settings.check` says whether it is, and which rule it breaks
first.
-/

namespace Beacon

/-- The lines that the lamp and the buttons are wired to. -/
structure Wiring where
  lamp : UInt32 := 10
  k1 : UInt32 := 0
  k2 : UInt32 := 2
  k3 : UInt32 := 3
  /-- Whether a button's line is high while the button is pressed. -/
  buttonsActiveHigh : Bool := true
deriving DecidableEq

def Wiring.buttonLine (wiring : Wiring) : Button → UInt32
  | .k1 => wiring.k1
  | .k2 => wiring.k2
  | .k3 => wiring.k3

/-- What the controller can be told before it starts. Times are in milliseconds. -/
structure Settings where
  /-- The period at the start and after a reset. -/
  periodMs : UInt32 := 500
  /-- The share of a period that the lamp is lit. -/
  dutyPercent : UInt8 := 50
  /-- The shortest period that the buttons can reach. -/
  shortestMs : UInt32 := 50
  /-- The longest period that the buttons can reach. -/
  longestMs : UInt32 := 5000
  /-- How far one step goes. -/
  step : PeriodStep := .fixed 50
  /-- The time between two steps while a button is held. -/
  repeatIntervalMs : UInt32 := 200
  wiring : Wiring := {}
deriving DecidableEq

namespace Settings

/-! ## Derived values -/

def period (settings : Settings) : Duration := .ofMillis settings.periodMs.toUInt64

/-- The duty, at most a hundred percent. -/
def duty (settings : Settings) : Duty := .clamp settings.dutyPercent

def range (settings : Settings) : PeriodRange :=
  ⟨.ofMillis settings.shortestMs.toUInt64, .ofMillis settings.longestMs.toUInt64⟩

/-- The time between two steps. -/
def repeatInterval (settings : Settings) : Duration := .ofMillis settings.repeatIntervalMs.toUInt64

/-- The period that the controller starts with, and goes back to. -/
def home (settings : Settings) : Duration := settings.range.clamp settings.period

/-! ## Rules -/

/-- The rules that settings have to keep, in the order in which they are checked. -/
inductive Rule where
  | periodPositive
  | dutyAtMostHundred
  | shortestPositive
  | rangeInOrder
  | periodInRange
  | fixedStepPositive
  | scaleStepAboveHundred
  | repeatIntervalPositive
deriving DecidableEq

namespace Rule

/-- Every rule, in the order of checking. -/
def all : List Rule :=
  [periodPositive, dutyAtMostHundred, shortestPositive, rangeInOrder, periodInRange,
    fixedStepPositive, scaleStepAboveHundred, repeatIntervalPositive]

def message : Rule → String
  | periodPositive => "period_ms must be > 0"
  | dutyAtMostHundred => "duty_percent must be <= 100"
  | shortestPositive => "min_period_ms must be > 0"
  | rangeInOrder => "min_period_ms must not exceed max_period_ms"
  | periodInRange => "period_ms must lie within [min_period_ms, max_period_ms]"
  | fixedStepPositive => "fixed step must be > 0 ms"
  | scaleStepAboveHundred => "scale step must be > 100%"
  | repeatIntervalPositive => "repeat_interval_ms must be > 0"

def holds (settings : Settings) : Rule → Bool
  | periodPositive => 0 < settings.periodMs
  | dutyAtMostHundred => settings.dutyPercent ≤ 100
  | shortestPositive => 0 < settings.shortestMs
  | rangeInOrder => settings.shortestMs ≤ settings.longestMs
  | periodInRange => settings.range.contains settings.period
  | fixedStepPositive =>
    match settings.step with
    | .fixed ms => 0 < ms
    | .scale _ => true
  | scaleStepAboveHundred =>
    match settings.step with
    | .fixed _ => true
    | .scale percent => 100 < percent
  | repeatIntervalPositive => 0 < settings.repeatIntervalMs

end Rule

def firstBroken? (settings : Settings) : Option Rule :=
  Rule.all.find? fun rule => !rule.holds settings

/-- Settings that break a rule are refused, and never mended. -/
def check (settings : Settings) : Except SettingsFault Unit :=
  match settings.firstBroken? with
  | none => .ok ()
  | some rule => .error (.invalid rule.message)

/-- Settings that keep every rule. -/
def Valid (settings : Settings) : Prop := ∀ rule : Rule, rule.holds settings = true

theorem Rule.mem_all (rule : Rule) : rule ∈ Rule.all := by
  cases rule <;> simp [Rule.all]

theorem firstBroken?_eq_none_iff {settings : Settings} :
    settings.firstBroken? = none ↔ settings.Valid := by
  simp only [firstBroken?, List.find?_eq_none, Bool.not_eq_true, Bool.not_eq_false', Valid]
  exact ⟨fun h rule => h rule rule.mem_all, fun h rule _ => h rule⟩

theorem check_eq_ok_iff {settings : Settings} : settings.check = .ok () ↔ settings.Valid := by
  rw [← firstBroken?_eq_none_iff]
  unfold check
  split <;> simp [*]

theorem valid_default : Valid {} := by
  intro rule
  cases rule <;> decide

/-! ## Overriding -/

/-- What overriding the duty tells the journal: a duty above a hundred is cut. -/
def dutyNotice (percent : UInt8) : List Journal.Entry :=
  let duty := Duty.clamp percent
  if duty.percent = percent then []
  else [⟨.warning, s!"duty cycle {percent}% clamped to {duty.percent}%"⟩]

/-- Settings with another duty, at most a hundred percent. -/
def withDuty (settings : Settings) (percent : UInt8) : Settings :=
  { settings with dutyPercent := (Duty.clamp percent).percent }

end Settings

end Beacon
