import Beacon.Controller.Action

/-!
# Devices

`Devices δ` says what the controller needs of the world `δ` around it: lines to read, a lamp, two
timers, a journal and somewhere to report events. `Watched δ` adds the queue that the sources are
registered with. Each operation answers what came of it and the world that it leaves behind, so a
world may fail wherever it likes.

`perform` carries out a list of actions. Two failures are fatal, since without the timer nothing
would ever happen again: a blink timer that cannot be armed, and at the start a repeat timer that
cannot be stopped. The actions behind a fatal one are not carried out. Every other failure is a
journal entry, and the next action follows.
-/

namespace Beacon

class Devices (δ : Type) where
  readLine : Button → δ → Reading × δ
  setLamp : Bool → δ → Except LineFault Unit × δ
  /-- Arms a timer; an expiry still to come is forgotten. -/
  arm : Clock → Schedule → δ → Except TimerFault Unit × δ
  disarm : Clock → δ → Except TimerFault Unit × δ
  /-- How often a timer expired since this was last asked. -/
  expirations : Clock → δ → Count × δ
  record : Journal.Entry → δ → δ
  emit : Event → δ → δ

/-- Devices with a queue that says which of them have news. -/
class Watched (δ : Type) extends Devices δ where
  register : Source → Interest → δ → Except QueueFault Unit × δ
  /-- Waits for news, and answers the sources that have some. -/
  wait : δ → Except QueueFault (List Source) × δ

namespace Devices

variable {δ : Type} [Devices δ]

def note (notice : Notice) (world : δ) : δ := record notice.entry world

/-- Carries out one action; a failure that is not fatal goes to the journal. -/
def execute (action : Action) (world : δ) : Except Fault Unit × δ :=
  match action with
  | .light on occasion =>
    match setLamp on world with
    | (.ok (), world) => (.ok (), world)
    | (.error fault, world) => (.ok (), note (.lampRefused occasion fault) world)
  | .armBlink schedule occasion =>
    match arm .blink schedule world with
    | (.ok (), world) => (.ok (), world)
    | (.error fault, world) =>
      (.error (.timer (match occasion with | .start => fault | .running => .arm)),
        note (.blinkLost occasion schedule.first fault) world)
  | .armRepeat schedule =>
    match arm .repeating schedule world with
    | (.ok (), world) => (.ok (), world)
    | (.error fault, world) => (.ok (), note (.repeatLost fault) world)
  | .disarmRepeat occasion =>
    match disarm .repeating world, occasion with
    | (.ok (), world), _ => (.ok (), world)
    | (.error fault, world), .start => (.error (.timer fault), world)
    | (.error fault, world), .running => (.ok (), note (.repeatStuck fault) world)
  | .note notice => (.ok (), note notice world)
  | .emit event => (.ok (), emit event world)

/-- Carries out actions up to the first that fails fatally. -/
def perform : List Action → δ → Except Fault Unit × δ
  | [], world => (.ok (), world)
  | action :: rest, world =>
    match execute action world with
    | (.ok (), world) => perform rest world
    | (.error fault, world) => (.error fault, world)

end Devices

end Beacon
