import Beacon.Controller
import Beacon.Devices

/-!
# The station

A station is the controller among its devices. It starts up, and then waits for news and lets the
controller answer, one source after the other.

Starting up reads every button before its line is registered, which also clears the notification
that a line raises when it is opened. Then the sources are registered, and last the first phase
is entered; so nothing is switched and no timer is armed unless all else has worked.
-/

namespace Beacon

structure Station (δ : Type) where
  controller : Controller
  devices : δ

namespace Station

variable {δ : Type}

/-- Goes on where the first part has worked. -/
def andThen {σ : Type} (first : Except Fault Unit × σ) (next : σ → Except Fault Unit × σ) :
    Except Fault Unit × σ :=
  match first with
  | (.ok (), state) => next state
  | (.error fault, state) => (.error fault, state)

/-- Does something to every item of a list, up to the first failure. -/
def forAll {α σ : Type} (act : α → σ → Except Fault Unit × σ) :
    List α → σ → Except Fault Unit × σ
  | [], state => (.ok (), state)
  | a :: rest, state => andThen (act a state) (forAll act rest)

section Handlers

variable [Devices δ]

/-- Tells the controller something and carries out what it answers. -/
def feed (s : Station δ) (stimulus : Stimulus) : Except Fault Unit × Station δ :=
  let (controller, actions) := s.controller.react stimulus
  let (result, devices) := Devices.perform actions s.devices
  (result, { controller, devices })

/-- Reads a button's line and tells the controller what came of it. -/
def feedReading (s : Station δ) (button : Button) (stimulus : Reading → Stimulus) :
    Except Fault Unit × Station δ :=
  let (reading, devices) := Devices.readLine button s.devices
  feed { s with devices } (stimulus reading)

/-- Asks a timer for its expiries and tells the controller what came of it. -/
def feedCount (s : Station δ) (clock : Clock) (stimulus : Count → Stimulus) :
    Except Fault Unit × Station δ :=
  let (count, devices) := Devices.expirations clock s.devices
  feed { s with devices } (stimulus count)

/-- Reads every button for the first time and stops the repeat timer. -/
def startPacer (s : Station δ) : Except Fault Unit × Station δ :=
  andThen (forAll (fun button s => s.feedReading button (.seed button)) Button.all s)
    (·.feed .settle)

def startBlinker (s : Station δ) : Except Fault Unit × Station δ := s.feed .begin

def handle (source : Source) (s : Station δ) : Except Fault Unit × Station δ :=
  match source with
  | .timer .blink => s.feedCount .blink .blinkExpired
  | .timer .repeating => s.feedCount .repeating .repeatExpired
  | .button button => s.feedReading button (.woke button)

end Handlers

section Loop

variable [Watched δ]

def interestIn : Source → Interest
  | .timer _ => .readable
  | .button _ => .priority

def register (source : Source) (s : Station δ) : Except Fault Unit × Station δ :=
  match Watched.register source (interestIn source) s.devices with
  | (.ok (), devices) => (.ok (), { s with devices })
  | (.error fault, devices) => (.error (.queue fault), { s with devices })

def start (s : Station δ) : Except Fault Unit × Station δ :=
  andThen s.startPacer fun s =>
    andThen (forAll register Source.all s) fun s =>
      andThen s.startBlinker fun s =>
        (.ok (), { s with devices := Devices.note (.watching Source.all.length) s.devices })

/-- Waits once, and lets the controller answer each source that has news. Answers their number. -/
def runOnce (s : Station δ) : Except Fault Nat × Station δ :=
  match Watched.wait s.devices with
  | (.error fault, devices) =>
    (.error (.queue fault), { s with devices := Devices.note (.waitFailed fault) devices })
  | (.ok ready, devices) =>
    match forAll handle ready { s with devices } with
    | (.ok (), s) => (.ok ready.length, s)
    | (.error fault, s) => (.error fault, s)

structure Rounds (δ : Type) where
  station : Station δ
  rounds : Nat := 0
  sources : Nat := 0
  /-- Why it ended before the limit, if it did. -/
  stopped : Option Fault := none

/-- Runs up to the first failure, but no more than a number of rounds. -/
def runUpTo : Nat → Rounds δ → Rounds δ
  | 0, done => done
  | limit + 1, done =>
    match done.station.runOnce with
    | (.ok count, station) =>
      runUpTo limit { station, rounds := done.rounds + 1, sources := done.sources + count }
    | (.error fault, station) => { done with station, stopped := some fault }

end Loop

end Station

end Beacon
