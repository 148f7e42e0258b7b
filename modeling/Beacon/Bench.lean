import Beacon.Station

/-!
# The bench

A bench is a world in which everything is scripted: the levels of the lines, the expiries of the
timers, what fails, and the batches that a wait answers. It keeps a record of all that is done to
it.

`Bench.Operation` is one thing that can be done on a bench, to the controller or to the world
around it.
-/

namespace Beacon

namespace Bench

/-! ## Parts -/

inductive Level where
  | level (high : Bool)
  | unreadable
  /-- The line reads as neither low nor high. -/
  | garbled
deriving DecidableEq

def Level.reading (line : UInt32) : Level → Reading
  | level high => .ok high
  | unreadable => .error ⟨.read, line⟩
  | garbled => .error ⟨.level, line⟩

inductive Call where
  | arm (schedule : Schedule)
  | disarm
deriving DecidableEq

structure Timer where
  /-- What was done to it since the record was last cleared. -/
  calls : List Call := []
  armed : Bool := false
  /-- The expiries that nobody has asked for yet. -/
  pending : UInt64 := 0
  armFails : Bool := false
  disarmFails : Bool := false
  readFails : Bool := false
deriving DecidableEq

namespace Timer

/-- Arms the timer. The call is recorded even if it fails. -/
def arm (timer : Timer) (schedule : Schedule) : Except TimerFault Unit × Timer :=
  let timer := { timer with calls := timer.calls ++ [.arm schedule] }
  if timer.armFails then (.error .arm, timer)
  else (.ok (), { timer with armed := true, pending := 0 })

/-- Stops the timer. The call is recorded even if it fails. -/
def disarm (timer : Timer) : Except TimerFault Unit × Timer :=
  let timer := { timer with calls := timer.calls ++ [.disarm] }
  if timer.disarmFails then (.error .disarm, timer)
  else (.ok (), { timer with armed := false, pending := 0 })

def consume (timer : Timer) : Count × Timer :=
  if timer.readFails then (.error .read, timer)
  else (.ok timer.pending, { timer with pending := 0 })

/-- Lets the timer expire a number of times more, as far as the counter goes. -/
def expire (timer : Timer) (count : UInt64) : Timer :=
  let sum := timer.pending.toNat + count.toNat
  { timer with pending := UInt64.ofNat (min sum (UInt64.size - 1)) }

end Timer

/-- What happens during one wait. -/
structure Batch where
  blinkExpiries : UInt64 := 0
  repeatExpiries : UInt64 := 0
  levels : List (Button × Level) := []
  /-- What the wait answers; without it the wait fails. -/
  ready : Option (List Source) := none
deriving DecidableEq

inductive Weakness where
  | blinkArm
  | blinkRead
  | repeatArm
  | repeatDisarm
  | repeatRead
  | lamp
deriving DecidableEq

end Bench

/-- A scripted world. What it records is in the order in which it happened. -/
structure Bench where
  wiring : Wiring
  blink : Bench.Timer := {}
  repeating : Bench.Timer := {}
  levels : PerButton Bench.Level := ⟨.level false, .level false, .level false⟩
  lampFails : Bool := false
  /-- The source that cannot be registered. -/
  refused : Option Source := none
  /-- What the next waits bring. -/
  batches : List Bench.Batch := []
  lampWrites : List Bool := []
  events : List Event := []
  journal : List Journal.Entry := []
  registered : List (Source × Interest) := []
deriving DecidableEq

namespace Bench

/-! ## The world -/

def timer (bench : Bench) : Clock → Timer
  | .blink => bench.blink
  | .repeating => bench.repeating

def setTimer (bench : Bench) (clock : Clock) (timer : Timer) : Bench :=
  match clock with
  | .blink => { bench with blink := timer }
  | .repeating => { bench with repeating := timer }

/-- Switches the lamp; what fails is not recorded. -/
def setLamp (on : Bool) (bench : Bench) : Except LineFault Unit × Bench :=
  if bench.lampFails then (.error ⟨.write, bench.wiring.lamp⟩, bench)
  else (.ok (), { bench with lampWrites := bench.lampWrites ++ [on] })

instance : Devices Bench where
  readLine button bench :=
    ((bench.levels.get button).reading (bench.wiring.buttonLine button), bench)
  setLamp := setLamp
  arm clock schedule bench :=
    let (result, timer) := (bench.timer clock).arm schedule
    (result, bench.setTimer clock timer)
  disarm clock bench :=
    let (result, timer) := (bench.timer clock).disarm
    (result, bench.setTimer clock timer)
  expirations clock bench :=
    let (count, timer) := (bench.timer clock).consume
    (count, bench.setTimer clock timer)
  record entry bench := { bench with journal := bench.journal ++ [entry] }
  emit event bench := { bench with events := bench.events ++ [event] }

def setLevel (bench : Bench) (button : Button) (level : Level) : Bench :=
  { bench with levels := bench.levels.set button level }

def expire (bench : Bench) (clock : Clock) (count : UInt64) : Bench :=
  bench.setTimer clock ((bench.timer clock).expire count)

/-- Takes the next batch. Without one the wait fails, and so does a wait that is not given its
answer or is given too long a one. -/
def wait (bench : Bench) : Except QueueFault (List Source) × Bench :=
  match bench.batches with
  | [] => (.error .wait, bench)
  | batch :: rest =>
    let bench := { bench with batches := rest }
    let bench := (bench.expire .blink batch.blinkExpiries).expire .repeating batch.repeatExpiries
    let bench := batch.levels.foldl (fun bench (button, level) => bench.setLevel button level) bench
    match batch.ready with
    | none => (.error .wait, bench)
    | some ready => (if ready.length ≤ maxReady then .ok ready else .error .wait, bench)

instance : Watched Bench where
  register source interest bench :=
    if bench.refused = some source then (.error (.register source), bench)
    else (.ok (), { bench with registered := bench.registered ++ [(source, interest)] })
  wait := wait

/-- Makes something fail, or work again. -/
def setFailing (bench : Bench) (weakness : Weakness) (fails : Bool) : Bench :=
  match weakness with
  | .blinkArm => { bench with blink := { bench.blink with armFails := fails } }
  | .blinkRead => { bench with blink := { bench.blink with readFails := fails } }
  | .repeatArm => { bench with repeating := { bench.repeating with armFails := fails } }
  | .repeatDisarm => { bench with repeating := { bench.repeating with disarmFails := fails } }
  | .repeatRead => { bench with repeating := { bench.repeating with readFails := fails } }
  | .lamp => { bench with lampFails := fails }

/-- The bench with an empty record of what was done to it; the registrations stay. -/
def clear (bench : Bench) : Bench :=
  { bench with
    blink := { bench.blink with calls := [] }
    repeating := { bench.repeating with calls := [] }
    lampWrites := []
    events := []
    journal := [] }

/-! ## Operations -/

inductive Operation where
  | startPacer
  | startBlinker
  | start
  | level (button : Button) (level : Level)
  | wake (button : Button)
  /-- Set the level of a line and notify the controller. -/
  | move (button : Button) (level : Level)
  | edge (edge : Edge)
  /-- Let a timer expire a number of times and notify the controller. -/
  | expire (clock : Clock) (count : UInt64)
  | reset
  /-- Give the blinker another period, behind the pacer's back. -/
  | setPeriod (period : Duration)
  | fail (weakness : Weakness)
  | heal (weakness : Weakness)
  /-- One round of the station, with a batch to wait for. -/
  | round (batch : Batch)
  /-- The rounds of the station up to a failure, with batches to wait for. -/
  | rounds (batches : List Batch)
deriving DecidableEq

inductive Outcome where
  | done (result : Except Fault Unit)
  | period (period : Duration)
  | answered (result : Except Fault Nat)
  /-- Why the rounds ended, and how many batches were left. -/
  | ended (stopped : Option Fault) (left : Nat)

abbrev Rig := Station Bench

namespace Rig

def onBench (rig : Rig) (f : Bench → Bench) : Rig := { rig with devices := f rig.devices }

def outcome (answer : Except Fault Unit × Rig) : Outcome × Rig := (.done answer.1, answer.2)

def perform (rig : Rig) : Operation → Outcome × Rig
  | .startPacer => outcome rig.startPacer
  | .startBlinker => outcome rig.startBlinker
  | .start => outcome rig.start
  | .level button level => outcome (.ok (), rig.onBench (·.setLevel button level))
  | .wake button => outcome (rig.handle (.button button))
  | .move button level => outcome ((rig.onBench (·.setLevel button level)).handle (.button button))
  | .edge edge => outcome (rig.feed (.edge edge))
  | .expire clock count => outcome ((rig.onBench (·.expire clock count)).handle (.timer clock))
  | .reset => outcome (rig.feed .reset)
  | .setPeriod period =>
    let blinker := rig.controller.blinker.withPeriod period
    (.period blinker.period, { rig with controller := { rig.controller with blinker } })
  | .fail weakness => outcome (.ok (), rig.onBench (·.setFailing weakness true))
  | .heal weakness => outcome (.ok (), rig.onBench (·.setFailing weakness false))
  | .round batch =>
    let (result, rig) := (rig.onBench fun bench => { bench with batches := [batch] }).runOnce
    (.answered result, rig)
  | .rounds batches =>
    let done := Station.runUpTo (batches.length + 1)
      { station := rig.onBench fun bench => { bench with batches } }
    (.ended done.stopped done.station.devices.batches.length,
      Rig.onBench done.station fun bench => { bench with batches := [] })

/-- A bench with a station that has not started yet. The wiring of the lines is that of the
blinker's settings. -/
def make (blinker pacer : Settings) (bench : Bench) : Rig :=
  { controller := .ofTwo blinker pacer, devices := bench }

end Rig

end Bench

end Beacon
