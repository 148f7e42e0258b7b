import Beacon.Json.Printer
import Beacon.Settings

/-!
# Writing settings

`Settings.toValue` is the object with every field, in the order of declaration, and
`Settings.document` is its compact document.
-/

namespace Beacon

open Json (Value)

/-- The object that holds a step: its mode, and the field of that mode. -/
def PeriodStep.toValue : PeriodStep → Value
  | .fixed ms => .record [("mode", .ofString "fixed"), ("ms", .ofNat ms.toNat)]
  | .scale percent => .record [("mode", .ofString "scale"), ("percent", .ofNat percent.toNat)]

def Wiring.toValue (wiring : Wiring) : Value :=
  .record
    [("led", .ofNat wiring.lamp.toNat),
      ("k1", .ofNat wiring.k1.toNat),
      ("k2", .ofNat wiring.k2.toNat),
      ("k3", .ofNat wiring.k3.toNat),
      ("buttons_active_high", .bool wiring.buttonsActiveHigh)]

def Settings.toValue (settings : Settings) : Value :=
  .record
    [("period_ms", .ofNat settings.periodMs.toNat),
      ("duty_percent", .ofNat settings.dutyPercent.toNat),
      ("min_period_ms", .ofNat settings.shortestMs.toNat),
      ("max_period_ms", .ofNat settings.longestMs.toNat),
      ("step", settings.step.toValue),
      ("repeat_interval_ms", .ofNat settings.repeatIntervalMs.toNat),
      ("lines", settings.wiring.toValue)]

def Settings.document (settings : Settings) : List UInt8 := settings.toValue.bytes

end Beacon
