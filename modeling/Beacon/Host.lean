import Beacon.Event
import Beacon.Fault
import Beacon.FileTree
import Beacon.KernelTimer
import Beacon.Utf8

/-!
# The host

The host is the system that the controller runs on: a tree of files with the directory of the
GPIO lines in it, two timers, a readiness queue, and the journal. Every operation leaves behind
the journal entries it makes.

The system can refuse any request, whatever it asks for; the host knows which of the next ones it
will refuse. A request that is let through is looked at as it is.

The queue takes a descriptor only once, and only if the descriptor can be watched: a timer, or a
line whose file reports news. A wait answers the watched timers that have expired; while there is
none, time passes.
-/

namespace Beacon

namespace Host

/-- An attempt to write a file, and whether it worked. -/
structure Attempt where
  path : Path
  text : String
  worked : Bool
deriving DecidableEq

inductive Descriptor where
  | timer (clock : Clock)
  | line (button : Button)
  | file
deriving DecidableEq

structure Registration where
  descriptor : Descriptor
  source : Source
  interest : Interest
deriving DecidableEq

end Host

structure Host where
  tree : FileTree
  root : Path := []
  blink : KernelTimer := {}
  repeating : KernelTimer := {}
  queue : List Host.Registration := []
  /-- For each of the next requests, the fault that refuses it if one does; those after them are all
  let through. -/
  refusals : List (Option SystemFault) := []
  /-- The attempts to write a file as a whole, in order. -/
  attempts : List Host.Attempt := []
  journal : List Journal.Entry := []
deriving DecidableEq

namespace Host

def record (severity : Severity) (text : String) (host : Host) : Host :=
  { host with journal := host.journal ++ [⟨severity, text⟩] }

/-- Asks the system for something, which it refuses or looks at. -/
def request {α : Type} (serve : Host → Except SystemFault α × Host) (host : Host) :
    Except SystemFault α × Host :=
  match host.refusals with
  | [] => serve host
  | none :: rest => serve { host with refusals := rest }
  | some fault :: rest => (.error fault, { host with refusals := rest })

/-- Asks the system for something. A refusal is reported as a fault and in the journal. -/
def ask {α ε : Type} (fault : ε) (severity : Severity) (complaint : String)
    (serve : Host → Except SystemFault α × Host) (host : Host) : Except ε α × Host :=
  match host.request serve with
  | (.ok answer, host) => (.ok answer, host)
  | (.error refusal, host) =>
    (.error fault, host.record severity s!"{complaint}: {refusal.symbolic}")

/-! ## Files -/

def writeFile (path : Path) (text : String) (host : Host) : Except SystemFault Unit × Host :=
  let (result, host) := host.request fun host =>
    let (result, tree) := host.tree.write path (Utf8.encode text)
    (result, { host with tree })
  (result, { host with attempts := host.attempts ++ [⟨path, text, result.toOption.isSome⟩] })

def openFile (path : Path) (writable : Bool) (host : Host) :
    Except SystemFault FileTree.Handle × Host :=
  host.request fun host => (host.tree.openAt path writable, host)

def readFirst (handle : FileTree.Handle) (host : Host) :
    Except SystemFault (Option UInt8) × Host :=
  host.request fun host => (host.tree.readFirst handle, host)

def writeFirst (handle : FileTree.Handle) (byte : UInt8) (host : Host) :
    Except SystemFault Unit × Host :=
  host.request fun host =>
    let (result, tree) := host.tree.writeFirst handle byte
    (result, { host with tree })

/-! ## Timers -/

def timer (host : Host) : Clock → KernelTimer
  | .blink => host.blink
  | .repeating => host.repeating

def setTimer (host : Host) (clock : Clock) (timer : KernelTimer) : Host :=
  match clock with
  | .blink => { host with blink := timer }
  | .repeating => { host with repeating := timer }

/-- Makes a timer, which is not armed. -/
def createTimer (clock : Clock) : Host → Except TimerFault Unit × Host :=
  ask .create .error s!"{clock.name}: timerfd_create failed" fun host =>
    (.ok (), host.setTimer clock {})

def arm (clock : Clock) (schedule : Schedule) : Host → Except TimerFault Unit × Host :=
  ask .arm .warning s!"{clock.name}: timerfd_settime failed" fun host =>
    match KernelTimer.arm? schedule with
    | some timer => (.ok (), host.setTimer clock timer)
    | none => (.error .invalidArgument, host)

def disarm (clock : Clock) : Host → Except TimerFault Unit × Host :=
  ask .disarm .warning s!"{clock.name}: disarm failed" fun host =>
    (.ok (), host.setTimer clock {})

def expirations (clock : Clock) : Host → Except TimerFault UInt64 × Host :=
  ask .read .warning s!"{clock.name}: read failed" fun host =>
    let timer := host.timer clock
    (.ok (UInt64.ofNat timer.unread), host.setTimer clock timer.read)

def pass (nanos : Nat) (host : Host) : Host :=
  { host with blink := host.blink.pass nanos, repeating := host.repeating.pass nanos }

/-! ## The queue -/

/-- Makes the queue, in which nothing is registered. -/
def createQueue : Host → Except QueueFault Unit × Host :=
  ask .create .error "epoll: create failed" fun host => (.ok (), { host with queue := [] })

def register (descriptor : Descriptor) (watchable : Bool) (source : Source) (interest : Interest) :
    Host → Except QueueFault Unit × Host :=
  ask (.register source) .error s!"epoll: registering {source.label} failed" fun host =>
    if !watchable then (.error .notPermitted, host)
    else if host.queue.any (·.descriptor = descriptor) then (.error .alreadyExists, host)
    else (.ok (), { host with queue := host.queue ++ [⟨descriptor, source, interest⟩] })

/-- Whether an entry of the queue has news: a timer to be read that has expired. -/
def hasNews (host : Host) (registration : Registration) : Bool :=
  match registration.descriptor, registration.interest with
  | .timer clock, .readable => (host.timer clock).unread != 0
  | _, _ => false

def news (host : Host) : List Source := (host.queue.filter host.hasNews).map (·.source)

/-- The time until a watched timer expires next, if any does. -/
def untilNews (host : Host) : Option Nat :=
  (host.queue.filterMap fun registration =>
    match registration.descriptor, registration.interest with
    | .timer clock, .readable => (host.timer clock).remaining
    | _, _ => none).min?

/-- Lets time pass until there is news. A wait that would never end fails. -/
def awaitNews (host : Host) : Except QueueFault (List Source) × Host :=
  if host.news.isEmpty then
    match host.untilNews with
    | none => (.error .wait, host)
    | some nanos =>
      let host := host.pass nanos
      (.ok host.news, host)
  else (.ok host.news, host)

/-- Waits for news. -/
def wait (host : Host) : Except QueueFault (List Source) × Host :=
  match host.ask .wait .error "epoll: wait failed" fun host => (.ok (), host) with
  | (.ok (), host) => host.awaitNews
  | (.error fault, host) => (.error fault, host)

end Host

end Beacon
