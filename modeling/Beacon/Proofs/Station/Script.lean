import Beacon.Proofs.Station.Carried

/-!
# Scripts

Two runs can be compared where both are told the same things.  A `Cue` is
one thing that happens to a station whose controller is told directly what
its devices would have said: the stimulus holds the reading or the count.
What becomes of the answer is up to the world, as in a session, and the world
may change by itself between two cues, so that any call may fail.

* `controller_followAll`: the controller after a script is the one that has
  been run on the stimuli of the script.
* `Observed.after` is a record with older dealings in front.  Nothing that a
  station does depends on them: `followAll_after`.
* `Station.script` writes a session down as a script: a device that is asked is
  a change of the world, and then the controller is told what it has said.
  `followAll_script`: the session goes as its script, but for the dealings of
  the asking.
* `Hardware` is a world of lines, lamp and timers only.  Notices do not reach
  it, so only the deeds of an answer matter: `feed_congr`.
-/

namespace Beacon

/-- One thing that happens by a script. -/
inductive Cue (δ : Type) where
  /-- The world changes by itself. -/
  | change (f : δ → δ)
  /-- The controller is told something, whatever the devices would have said. -/
  | tell (stimulus : Stimulus)

/-- What a cue tells the controller. -/
def Cue.told? {δ : Type} : Cue δ → Option Stimulus
  | .change _ => none
  | .tell stimulus => some stimulus

namespace Station

variable {δ : Type} [Devices δ]

/-- The station after a cue. -/
def follow (s : Station (Observed δ)) : Cue δ → Station (Observed δ)
  | .change f => { s with devices := { s.devices with world := f s.devices.world } }
  | .tell stimulus => (s.feed stimulus).2

/-- The station after a script. -/
def followAll (s : Station (Observed δ)) (cues : List (Cue δ)) : Station (Observed δ) :=
  cues.foldl follow s

@[simp] theorem followAll_nil (s : Station (Observed δ)) : s.followAll [] = s := rfl

@[simp] theorem followAll_cons (s : Station (Observed δ)) (cue : Cue δ) (rest : List (Cue δ)) :
    s.followAll (cue :: rest) = (s.follow cue).followAll rest := rfl

theorem followAll_append (s : Station (Observed δ)) (first second : List (Cue δ)) :
    s.followAll (first ++ second) = (s.followAll first).followAll second :=
  List.foldl_append

theorem controller_followAll (s : Station (Observed δ)) (cues : List (Cue δ)) :
    (s.followAll cues).controller = (s.controller.run (cues.filterMap Cue.told?)).1 := by
  induction cues generalizing s with
  | nil => rfl
  | cons cue rest ih =>
    rw [followAll_cons, ih]
    cases cue with
    | change f => rfl
    | tell stimulus => rfl

end Station

/-! ## Older dealings -/

namespace Observed

variable {δ : Type}

/-- The record with older dealings in front. -/
def after (older : List Dealing) (o : Observed δ) : Observed δ :=
  { o with dealings := older ++ o.dealings }

@[simp] theorem after_dealt (older : List Dealing) (o : Observed δ) (world : δ)
    (dealing : Dealing) :
    (o.after older).dealt world dealing = (o.dealt world dealing).after older := by
  simp [after, dealt]

variable [Devices δ]

/-- What is done in a world, is done whatever has been dealt before. -/
theorem carries_after (older : List Dealing) :
    Devices.Carries (Observed.after older : Observed δ → Observed δ) where
  setLamp _ _ := congrArg (Prod.mk _) (after_dealt older _ _ _)
  arm _ _ _ := congrArg (Prod.mk _) (after_dealt older _ _ _)
  disarm _ _ := congrArg (Prod.mk _) (after_dealt older _ _ _)
  record _ _ := rfl
  emit _ _ := after_dealt older _ _ _

theorem perform_after (older : List Dealing) (actions : List Action) (o : Observed δ) :
    Devices.perform actions (o.after older) =
      ((Devices.perform actions o).1, (Devices.perform actions o).2.after older) :=
  (carries_after older).perform actions o

end Observed

namespace Station

variable {δ : Type} [Devices δ]

/-- The station with older dealings in its record. -/
def after (older : List Dealing) (s : Station (Observed δ)) : Station (Observed δ) :=
  { s with devices := s.devices.after older }

theorem follow_after (older : List Dealing) (s : Station (Observed δ)) (cue : Cue δ) :
    (s.after older).follow cue = (s.follow cue).after older := by
  cases cue with
  | change f => rfl
  | tell stimulus =>
    exact congrArg Prod.snd ((Observed.carries_after older).feed (c := s.controller) s.devices rfl)

theorem followAll_after (older : List Dealing) (s : Station (Observed δ)) (cues : List (Cue δ)) :
    (s.after older).followAll cues = (s.followAll cues).after older := by
  induction cues generalizing s with
  | nil => rfl
  | cons cue rest ih => rw [followAll_cons, follow_after, ih, followAll_cons]

end Station

/-! ## The script of a session -/

/-- Whether a dealing only asks a line or a timer. -/
def Dealing.isAsking : Dealing → Bool
  | .read _ _ | .counted _ _ => true
  | _ => false

namespace Observed

variable {δ : Type}

/-- The record without what has only been asked. -/
def unasked (o : Observed δ) : Observed δ :=
  { o with dealings := o.dealings.filter fun dealing => !dealing.isAsking }

theorem unasked_dealt (dealing : Dealing) (h : dealing.isAsking = false) (o : Observed δ)
    (world : δ) : (o.dealt world dealing).unasked = o.unasked.dealt world dealing := by
  simp [unasked, dealt, h]

theorem unasked_dealt_of_asking (dealing : Dealing) (h : dealing.isAsking = true)
    (o : Observed δ) (world : δ) : (o.dealt world dealing).unasked = { o.unasked with world } := by
  simp [unasked, dealt, h]

variable [Devices δ]

/-- What is done in a world, is done whatever has been asked before. -/
theorem carries_unasked : Devices.Carries (unasked : Observed δ → Observed δ) where
  setLamp on o := congrArg (Prod.mk _) (unasked_dealt (.lit on _) rfl o _).symm
  arm clock schedule o :=
    congrArg (Prod.mk _) (unasked_dealt (.armed clock schedule _) rfl o _).symm
  disarm clock o := congrArg (Prod.mk _) (unasked_dealt (.disarmed clock _) rfl o _).symm
  record _ _ := rfl
  emit event o := (unasked_dealt (.emitted event) rfl o _).symm

end Observed

namespace Station

variable {δ : Type} [Devices δ]

/-- The station without what has only been asked in its record. -/
def unasked (s : Station (Observed δ)) : Station (Observed δ) :=
  { s with devices := s.devices.unasked }

/-- The station asks a line, and is told what it reads. -/
def readCues (s : Station (Observed δ)) (button : Button) (stimulus : Reading → Stimulus) :
    List (Cue δ) :=
  [.change fun world => (Devices.readLine button world).2,
    .tell (stimulus (Devices.readLine button s.devices).1)]

/-- The station asks a timer, and is told what it counts. -/
def countCues (s : Station (Observed δ)) (clock : Clock) (stimulus : Count → Stimulus) :
    List (Cue δ) :=
  [.change fun world => (Devices.expirations clock world).2,
    .tell (stimulus (Devices.expirations clock s.devices).1)]

/-- A happening as a script. -/
def cues (s : Station (Observed δ)) : Happening δ → List (Cue δ)
  | .change f => [.change f]
  | .startPacer =>
    s.readCues .k1 (.seed .k1) ++ (s.seeded .k1).readCues .k2 (.seed .k2) ++
      ((s.seeded .k1).seeded .k2).readCues .k3 (.seed .k3) ++ [.tell .settle]
  | .startBlinker => [.tell .begin]
  | .notify (.timer .blink) => s.countCues .blink .blinkExpired
  | .notify (.timer .repeating) => s.countCues .repeating .repeatExpired
  | .notify (.button button) => s.readCues button (.woke button)
  | .edge edge => [.tell (.edge edge)]
  | .reset => [.tell .reset]

/-- A session as a script. -/
def script (s : Station (Observed δ)) : List (Happening δ) → List (Cue δ)
  | [] => []
  | happening :: rest => s.cues happening ++ (s.undergo happening.observed).script rest

theorem follow_tell_unasked (s : Station (Observed δ)) (stimulus : Stimulus) :
    s.unasked.follow (.tell stimulus) = (s.feed stimulus).2.unasked :=
  congrArg Prod.snd (Observed.carries_unasked.feed (c := s.controller) s.devices rfl)

/-- To ask is to change the world, and then to be told the answer. -/
theorem followAll_asking (s : Station (Observed δ)) (dealing : Dealing)
    (h : dealing.isAsking = true) (change : δ → δ) (stimulus : Stimulus) :
    s.unasked.followAll [.change change, .tell stimulus] =
      (feed { s with devices := s.devices.dealt (change s.devices.world) dealing }
        stimulus).2.unasked := by
  let asked : Station (Observed δ) :=
    { s with devices := s.devices.dealt (change s.devices.world) dealing }
  have hasked : s.unasked.follow (.change change) = asked.unasked :=
    congrArg (Station.mk s.controller) (Observed.unasked_dealt_of_asking dealing h s.devices _).symm
  rw [followAll_cons, hasked, followAll_cons, follow_tell_unasked]
  rfl

theorem followAll_readCues (s : Station (Observed δ)) (button : Button)
    (stimulus : Reading → Stimulus) :
    s.unasked.followAll (s.readCues button stimulus) =
      (s.feedReading button stimulus).2.unasked :=
  s.followAll_asking (.read button _) rfl _ _

theorem followAll_countCues (s : Station (Observed δ)) (clock : Clock)
    (stimulus : Count → Stimulus) :
    s.unasked.followAll (s.countCues clock stimulus) = (s.feedCount clock stimulus).2.unasked :=
  s.followAll_asking (.counted clock _) rfl _ _

/-- A happening goes as its script, but for the dealings of the asking. -/
theorem followAll_cues (s : Station (Observed δ)) (happening : Happening δ) :
    s.unasked.followAll (s.cues happening) = (s.undergo happening.observed).unasked := by
  rcases happening with f | _ | _ | ⟨⟨_ | _⟩ | button⟩ | edge | _
  case change => rfl
  case startPacer =>
    show _ = s.startPacer.2.unasked
    rw [startPacer_eq, ← follow_tell_unasked, cues, followAll_append, followAll_append,
      followAll_append, followAll_readCues]
    show followAll (followAll (followAll (s.seeded .k1).unasked _) _) _ = _
    rw [followAll_readCues]
    show followAll (followAll ((s.seeded .k1).seeded .k2).unasked _) _ = _
    rw [followAll_readCues]
    rfl
  case notify.timer.blink => exact s.followAll_countCues .blink .blinkExpired
  case notify.timer.repeating => exact s.followAll_countCues .repeating .repeatExpired
  case notify.button => exact s.followAll_readCues button (.woke button)
  all_goals exact s.follow_tell_unasked _

/-- A session goes as its script, but for the dealings of the asking. -/
theorem followAll_script (s : Station (Observed δ)) (happenings : List (Happening δ)) :
    s.unasked.followAll (s.script happenings) =
      (s.undergoAll (happenings.map Happening.observed)).unasked := by
  induction happenings generalizing s with
  | nil => rfl
  | cons happening rest ih =>
    rw [script, followAll_append, followAll_cues, ih]
    rfl

/-- The controller of a session is the one that has been run on the stimuli of its
script. -/
theorem controller_undergoAll (s : Station (Observed δ)) (happenings : List (Happening δ)) :
    (s.undergoAll (happenings.map Happening.observed)).controller =
      (s.controller.run ((s.script happenings).filterMap Cue.told?)).1 := by
  have hscript := controller_followAll s.unasked (s.script happenings)
  rw [followAll_script] at hscript
  exact hscript

end Station

/-! ## Worlds that hear nothing -/

/-- The lines, the lamp and the timers of a world.  What is reported goes
elsewhere: neither a notice nor an event makes a difference to them. -/
structure Hardware (δ : Type) where
  world : δ
deriving DecidableEq

namespace Hardware

variable {δ : Type}

instance [Devices δ] : Devices (Hardware δ) where
  readLine button h :=
    let (reading, world) := Devices.readLine button h.world
    (reading, ⟨world⟩)
  setLamp on h :=
    let (result, world) := Devices.setLamp on h.world
    (result, ⟨world⟩)
  arm clock schedule h :=
    let (result, world) := Devices.arm clock schedule h.world
    (result, ⟨world⟩)
  disarm clock h :=
    let (result, world) := Devices.disarm clock h.world
    (result, ⟨world⟩)
  expirations clock h :=
    let (count, world) := Devices.expirations clock h.world
    (count, ⟨world⟩)
  record _ h := h
  emit _ h := h

end Hardware

/-- Whether an action is more than a notice. -/
def Action.isDeed : Action → Bool
  | .note _ => false
  | _ => true

namespace Station

variable {δ : Type} [Devices δ]

theorem perform_deeds (actions : List Action) (o : Observed (Hardware δ)) :
    Devices.perform (actions.filter Action.isDeed) o = Devices.perform actions o := by
  induction actions generalizing o with
  | nil => rfl
  | cons action rest ih =>
    cases action with
    | note notice => exact ih o
    | light | armBlink | armRepeat | disarmRepeat | emit =>
      simp only [List.filter_cons, Action.isDeed, if_true, Devices.perform]
      split
      · exact ih _
      · rfl

/-- Hardware is left alike by answers of the same deeds. -/
theorem feed_congr {s s' : Station (Observed (Hardware δ))} {stimulus stimulus' : Stimulus}
    (hdevices : s.devices = s'.devices)
    (hdeeds : (s.controller.react stimulus).2.filter Action.isDeed =
      (s'.controller.react stimulus').2.filter Action.isDeed) :
    (s.feed stimulus).2.devices = (s'.feed stimulus').2.devices := by
  show (Devices.perform (s.controller.react stimulus).2 s.devices).2 =
    (Devices.perform (s'.controller.react stimulus').2 s'.devices).2
  rw [← perform_deeds, hdeeds, perform_deeds, hdevices]

end Station

end Beacon
