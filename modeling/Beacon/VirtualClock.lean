import Beacon.Station

/-!
# The virtual clock

A virtual clock is a world in which nothing ever fails and time passes only while somebody waits.
Timers have deadlines, and a script says when which line changes to which level.

A wait answers at once if a timer has expired or a line has changed. Otherwise the clock moves to
the next deadline or the next line of the script, whichever is first, and looks again. It does not
move past the horizon: a wait that would have to fails. It moves past no deadline either, so a timer
that repeats expires once at a time.
-/

namespace Beacon

namespace VirtualClock

structure Alarm where
  deadline : Option Duration := none
  /-- The time between two expiries, if the alarm repeats. -/
  interval : Option Duration := none
  /-- The expiries that nobody has asked for yet. -/
  count : UInt64 := 0
deriving DecidableEq

def Alarm.upTo (alarm : Alarm) (now : Duration) : Alarm :=
  match alarm.deadline with
  | none => alarm
  | some deadline =>
    if deadline ≤ now then
      { alarm with deadline := alarm.interval.map (deadline + ·), count := alarm.count + 1 }
    else alarm

/-- A line of the script: from some time on a button's line has some level. -/
structure Move where
  time : Duration
  button : Button
  level : Bool
deriving DecidableEq

end VirtualClock

/-- A world with a clock of its own. What it records bears the time. -/
structure VirtualClock where
  now : Duration := .zero
  horizon : Duration := .zero
  blink : VirtualClock.Alarm := {}
  repeating : VirtualClock.Alarm := {}
  levels : PerButton Bool := ⟨false, false, false⟩
  /-- The buttons whose lines have changed since they were last read. -/
  changed : PerButton Bool := ⟨false, false, false⟩
  script : List VirtualClock.Move := []
  /-- Whether a wait answers its sources in reverse. -/
  reversed : Bool := false
  lampWrites : List (Duration × Bool) := []
  events : List (Duration × Event) := []
deriving DecidableEq

namespace VirtualClock

/-! ## Devices -/

def alarm (world : VirtualClock) : Clock → Alarm
  | .blink => world.blink
  | .repeating => world.repeating

def setAlarm (world : VirtualClock) (clock : Clock) (alarm : Alarm) : VirtualClock :=
  match clock with
  | .blink => { world with blink := alarm }
  | .repeating => { world with repeating := alarm }

instance : Devices VirtualClock where
  readLine button world :=
    (.ok (world.levels.get button), { world with changed := world.changed.set button false })
  setLamp on world := (.ok (), { world with lampWrites := world.lampWrites ++ [(world.now, on)] })
  arm clock schedule world :=
    (.ok (), world.setAlarm clock
      { deadline := some (world.now + schedule.first), interval := schedule.again, count := 0 })
  disarm clock world := (.ok (), world.setAlarm clock {})
  expirations clock world :=
    let alarm := world.alarm clock
    (.ok alarm.count, world.setAlarm clock { alarm with count := 0 })
  record _ world := world
  emit event world := { world with events := world.events ++ [(world.now, event)] }

/-! ## Time -/

def hasNews (world : VirtualClock) : Source → Bool
  | .timer clock => (world.alarm clock).count != 0
  | .button button => world.changed.get button

def news (world : VirtualClock) : List Source :=
  let ready := Source.all.filter world.hasNews
  if world.reversed then ready.reverse else ready

def times (world : VirtualClock) : List Duration :=
  world.blink.deadline.toList ++ world.repeating.deadline.toList ++ world.script.map Move.time

/-- Changes a line, if it has another level so far. -/
def move (world : VirtualClock) (m : Move) : VirtualClock :=
  if world.levels.get m.button = m.level then world
  else
    { world with
      levels := world.levels.set m.button m.level
      changed := world.changed.set m.button true }

/-- The world at some time: what was due by then has happened. -/
def upTo (world : VirtualClock) (now : Duration) : VirtualClock :=
  let due := world.script.filter (·.time ≤ now)
  due.foldl move
    { world with
      now
      blink := world.blink.upTo now
      repeating := world.repeating.upTo now
      script := world.script.filter fun m => !(m.time ≤ now) }

theorem alarm_foldl_move (moves : List Move) (world : VirtualClock) (clock : Clock) :
    (moves.foldl move world).alarm clock = world.alarm clock := by
  induction moves generalizing world with
  | nil => rfl
  | cons m rest ih =>
    rw [List.foldl_cons, ih]
    unfold move
    split
    · rfl
    · cases clock <;> rfl

theorem alarm_upTo (world : VirtualClock) (now : Duration) (clock : Clock) :
    (world.upTo now).alarm clock = (world.alarm clock).upTo now := by
  unfold upTo
  rw [alarm_foldl_move]
  cases clock <;> rfl

theorem script_foldl_move (moves : List Move) (world : VirtualClock) :
    (moves.foldl move world).script = world.script := by
  induction moves generalizing world with
  | nil => rfl
  | cons m rest ih =>
    rw [List.foldl_cons, ih]
    unfold move
    split <;> rfl

theorem script_upTo (world : VirtualClock) (now : Duration) :
    (world.upTo now).script = world.script.filter fun m => !(m.time ≤ now) :=
  script_foldl_move _ _

theorem news_eq_nil_iff {world : VirtualClock} :
    world.news = [] ↔ ∀ source, world.hasNews source = false := by
  unfold news
  split <;> simp [List.filter_eq_nil_iff, Source.mem_all]

/-- What is to happen next is that an alarm expires or that a line of the script is due. -/
theorem mem_times_iff {world : VirtualClock} {time : Duration} :
    time ∈ world.times ↔
      (∃ clock, (world.alarm clock).deadline = some time) ∨ ∃ m ∈ world.script, m.time = time := by
  unfold times
  rw [List.mem_append, List.mem_append, List.mem_map, Option.mem_toList, Option.mem_toList]
  refine or_congr ⟨?_, ?_⟩ Iff.rfl
  · intro hdue
    rcases hdue with hblink | hrepeating
    · exact ⟨.blink, hblink⟩
    · exact ⟨.repeating, hrepeating⟩
  · intro hdue
    obtain ⟨clock, hdeadline⟩ := hdue
    cases clock with
    | blink => exact .inl hdeadline
    | repeating => exact .inr hdeadline

/-- How much is still ahead of a wait: the lines of the script, and as long as there is no news the
news that ends it. -/
def ahead (world : VirtualClock) : Nat :=
  2 * world.script.length + if world.news = [] then 1 else 0

/-- A wait gets on: at the next time it has news of a timer, or a line of the script is done. -/
theorem ahead_upTo_lt {world : VirtualClock} {next : Duration} (hquiet : world.news = [])
    (h : world.times.min? = some next) : (world.upTo next).ahead < world.ahead := by
  have hscript : (world.upTo next).script.length ≤ world.script.length := by
    rw [script_upTo]
    exact List.length_filter_le _ _
  unfold ahead
  rw [if_pos hquiet]
  rcases mem_times_iff.mp (List.min?_mem h) with ⟨clock, hdeadline⟩ | ⟨m, hmem, htime⟩
  · have hsilent : (world.alarm clock).count = 0 := by
      simpa [hasNews] using news_eq_nil_iff.mp hquiet (.timer clock)
    have hexpired : (world.upTo next).hasNews (.timer clock) = true := by
      simp [hasNews, alarm_upTo, Alarm.upTo, hdeadline, hsilent, Duration.le_def]
    have hnews : (world.upTo next).news ≠ [] := by
      intro hnone
      rw [news_eq_nil_iff.mp hnone] at hexpired
      cases hexpired
    rw [if_neg hnews]
    omega
  · have hdone : (world.upTo next).script.length < world.script.length := by
      rw [script_upTo]
      refine List.length_filter_lt_length_iff_exists.mpr ⟨m, hmem, ?_⟩
      simp [Duration.le_def, htime]
    split <;> omega

def wait (world : VirtualClock) : Except QueueFault (List Source) × VirtualClock :=
  if _hquiet : world.news = [] then
    match _h : world.times.min? with
    | none => (.error .wait, world)
    | some next =>
      if next ≤ world.horizon then wait (world.upTo next) else (.error .wait, world)
  else (.ok world.news, world)
termination_by world.ahead
decreasing_by exact ahead_upTo_lt _hquiet _h

instance : Watched VirtualClock where
  register _ _ world := (.ok (), world)
  wait := wait

/-! ## Runs -/

def roundLimit : Nat := 300

def runUntil (station : Station VirtualClock) (horizon : Duration) :
    Station.Rounds VirtualClock :=
  let world := { station.devices with horizon }
  let done := Station.runUpTo roundLimit { station := { station with devices := world } }
  { done with
    station := { done.station with devices := { done.station.devices with now := horizon } } }

def clear (world : VirtualClock) : VirtualClock := { world with lampWrites := [], events := [] }

end VirtualClock

end Beacon
