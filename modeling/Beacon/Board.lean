import Beacon.Host.Gpio
import Beacon.Station

/-!
# The board

A board is a host with the lines of the lamp and the buttons open. `Board.bringUp` opens the
lines that the settings name, the lamp's first, makes the timers and the queue, and starts a station
on them. If anything goes wrong, the lines that are open by then are closed again: the last one
first where a line cannot be opened, and in the order of a board that is shut down where the station
cannot be started.
-/

namespace Beacon

/-- A host with the lines of the lamp and the buttons. -/
structure Board where
  host : Host
  lamp : Gpio.Line
  buttons : PerButton Gpio.Line
deriving DecidableEq

namespace Board

def onHost {α : Type} (act : Host → α × Host) (board : Board) : α × Board :=
  let (result, host) := act board.host
  (result, { board with host })

instance : Devices Board where
  readLine button board := board.onHost (Host.readLine (board.buttons.get button))
  setLamp on board := board.onHost (Host.writeLine board.lamp on)
  arm clock schedule := onHost (Host.arm clock schedule)
  disarm clock := onHost (Host.disarm clock)
  expirations clock := onHost (Host.expirations clock)
  record entry board := { board with host := board.host.record entry.severity entry.text }
  emit event board :=
    { board with host := board.host.record event.entry.severity event.entry.text }

/-- Registers a source with the queue of the host: a timer, or the line of a button. -/
def register (source : Source) (interest : Interest) (board : Board) :
    Except QueueFault Unit × Board :=
  match source with
  | .timer clock => board.onHost (Host.register (.timer clock) true source interest)
  | .button button =>
    let watchable := board.host.tree.isPollable (board.buttons.get button).value
    board.onHost (Host.register (.line button) watchable source interest)

instance : Watched Board where
  register := register
  wait := onHost Host.wait

/-! ## Bringing up -/

/-- The lines of a board in the order in which they are opened, and closed when it is shut down. -/
def lines (board : Board) : List Gpio.Line :=
  [board.lamp, board.buttons.k1, board.buttons.k2, board.buttons.k3]

def shutDown (board : Board) : Host := board.host.closeAll board.lines

/-- Opens the line of a button. Both edges count: the level of a button has to be known when it
goes up, even if nothing happens then. If the line cannot be opened, the given ones are closed. -/
def openButton (line : UInt32) (opened : List Gpio.Line) (host : Host) :
    Except LineFault Gpio.Line × Host :=
  match host.openInput line .both with
  | (.ok line, host) => (.ok line, host)
  | (.error fault, host) => (.error fault, host.closeAll opened)

/-- Opens the lines of the lamp and the buttons. If one cannot be opened, those that were opened
before are closed, the last one first. -/
def openLines (wiring : Wiring) (host : Host) : Except LineFault Board × Host :=
  match host.openOutput wiring.lamp with
  | (.error fault, host) => (.error fault, host)
  | (.ok lamp, host) =>
    match openButton wiring.k1 [lamp] host with
    | (.error fault, host) => (.error fault, host)
    | (.ok k1, host) =>
      match openButton wiring.k2 [k1, lamp] host with
      | (.error fault, host) => (.error fault, host)
      | (.ok k2, host) =>
        match openButton wiring.k3 [k2, k1, lamp] host with
        | (.error fault, host) => (.error fault, host)
        | (.ok k3, host) => (.ok { host, lamp, buttons := ⟨k1, k2, k3⟩ }, host)

/-- Closes the lines of a board whose lamp is already in the hands of a blinker: the lamp's last. -/
def abandon (board : Board) : Host :=
  board.host.closeAll [board.buttons.k1, board.buttons.k2, board.buttons.k3, board.lamp]

/-- Makes the timers and the queue. If one cannot be made, the lines are closed. -/
def createSources (board : Board) : Except (Fault × Host) Board :=
  match board.onHost (Host.createTimer .blink) with
  | (.error fault, board) => .error (.timer fault, board.shutDown)
  | (.ok (), board) =>
    match board.onHost (Host.createTimer .repeating) with
    | (.error fault, board) => .error (.timer fault, board.abandon)
    | (.ok (), board) =>
      match board.onHost Host.createQueue with
      | (.error fault, board) => .error (.queue fault, board.abandon)
      | (.ok (), board) => .ok board

/-- Checks the settings, opens the lines that they name and makes the timers and the queue. Answers
the station that is to be started, or what went wrong and the host that is left. -/
def assemble (settings : Settings) (host : Host) : Except (Fault × Host) (Station Board) :=
  match settings.check with
  | .error fault => .error (.settings fault, host)
  | .ok () =>
    match openLines settings.wiring host with
    | (.error fault, host) => .error (.line fault, host)
    | (.ok board, _) =>
      match board.createSources with
      | .error left => .error left
      | .ok board => .ok { controller := .ofSettings settings, devices := board }

/-- What the journal says of a board that is up. -/
def upNotice (wiring : Wiring) : String :=
  s!"board: led=gpio{wiring.lamp} k1=gpio{wiring.k1} k2=gpio{wiring.k2} k3=gpio{wiring.k3} up"

/-- Brings up a station on the lines that the settings name. Answers the station, or what went
wrong and the host that is left. -/
def bringUp (settings : Settings) (host : Host) : Except (Fault × Host) (Station Board) :=
  match assemble settings host with
  | .error left => .error left
  | .ok station =>
    match station.start with
    | (.error fault, station) => .error (fault, station.devices.shutDown)
    | (.ok (), station) =>
      let host := station.devices.host.record .info (upNotice settings.wiring)
      .ok { station with devices := { station.devices with host } }

end Board

end Beacon
