import Beacon.Bench
import Beacon.Proofs.Controller.Period

/-!
# Sessions of a station

A `Happening` is one thing that happens to a station: the world around it
changes by itself, or somebody calls the controller.  Between two calls the
world may do whatever it likes, so lines move, timers expire and devices
break or work again at any point; and a device answers as the world has it,
so every call may fail.  `Station.undergo` is one happening, and
`Station.undergoAll` is a session.

* `told?` is the stimulus that a happening makes the controller answer.
  `undergo_of_told` and `startPacer_eq` say that nothing else ever reaches
  the controller.
* `keeps_undergoAll`, `madeFrom_undergoAll` and `adjusted_undergo` carry what
  is known of one answer over to happenings and sessions.
* `Observed` is a world inside which another world does the work.  It writes
  down every dealing that the station has with the devices: what was read
  and counted, what was asked of the lamp and the timers and whether it
  worked, and what was reported.  `dealings_execute` says what one action
  adds to it.
* `started` is an observed station that has started up once, which is where
  most sessions begin.
-/

namespace Beacon

/-- One thing that happens to a station. -/
inductive Happening (δ : Type) where
  /-- The world changes by itself. -/
  | change (f : δ → δ)
  /-- The buttons are read for the first time, and the repeat timer is stopped. -/
  | startPacer
  /-- The first phase is entered. -/
  | startBlinker
  /-- A source has news. -/
  | notify (source : Source)
  /-- An edge is handed to the controller. -/
  | edge (edge : Edge)
  /-- The controller is to go back to the initial period. -/
  | reset

namespace Station

variable {δ : Type} [Devices δ]

/-- The station after something has happened. -/
def undergo (s : Station δ) : Happening δ → Station δ
  | .change f => { s with devices := f s.devices }
  | .startPacer => s.startPacer.2
  | .startBlinker => s.startBlinker.2
  | .notify source => (s.handle source).2
  | .edge edge => (s.feed (.edge edge)).2
  | .reset => (s.feed .reset).2

/-- The station after a session. -/
def undergoAll (s : Station δ) (happenings : List (Happening δ)) : Station δ :=
  happenings.foldl undergo s

@[simp] theorem undergoAll_nil (s : Station δ) : s.undergoAll [] = s := rfl

@[simp] theorem undergoAll_cons (s : Station δ) (happening : Happening δ)
    (rest : List (Happening δ)) :
    s.undergoAll (happening :: rest) = (s.undergo happening).undergoAll rest := rfl

theorem undergoAll_append (s : Station δ) (first second : List (Happening δ)) :
    s.undergoAll (first ++ second) = (s.undergoAll first).undergoAll second :=
  List.foldl_append

/-! ## What the controller is told -/

/-- What a happening makes the controller answer, if it is one stimulus. -/
def told? (s : Station δ) : Happening δ → Option Stimulus
  | .change _ | .startPacer => none
  | .startBlinker => some .begin
  | .notify (.timer .blink) => some (.blinkExpired (Devices.expirations .blink s.devices).1)
  | .notify (.timer .repeating) =>
    some (.repeatExpired (Devices.expirations .repeating s.devices).1)
  | .notify (.button button) => some (.woke button (Devices.readLine button s.devices).1)
  | .edge edge => some (.edge edge)
  | .reset => some .reset

/-- The world once it has been asked for what the controller is told. -/
def consulted (s : Station δ) : Happening δ → δ
  | .notify (.timer clock) => (Devices.expirations clock s.devices).2
  | .notify (.button button) => (Devices.readLine button s.devices).2
  | _ => s.devices

theorem undergo_of_told {s : Station δ} {happening : Happening δ} {stimulus : Stimulus}
    (h : s.told? happening = some stimulus) :
    s.undergo happening = ({ s with devices := s.consulted happening }.feed stimulus).2 := by
  rcases happening with f | _ | _ | ⟨⟨_ | _⟩ | button⟩ | edge | _ <;> cases h <;> rfl

theorem controller_undergo_of_told {s : Station δ} {happening : Happening δ}
    {stimulus : Stimulus} (h : s.told? happening = some stimulus) :
    (s.undergo happening).controller = (s.controller.react stimulus).1 := by
  rw [undergo_of_told h]
  rfl

theorem told?_eq_none {s : Station δ} {happening : Happening δ}
    (h : s.told? happening = none) :
    (∃ f, happening = .change f) ∨ happening = .startPacer := by
  rcases happening with f | _ | _ | ⟨⟨_ | _⟩ | button⟩ | edge | _
  · exact .inl ⟨f, rfl⟩
  · exact .inr rfl
  all_goals cases h

/-- The station after the first reading of a button. -/
def seeded (s : Station δ) (button : Button) : Station δ :=
  (s.feedReading button (.seed button)).2

/-- A first reading only makes a notice, so nothing about it can fail. -/
theorem feedReading_seed (s : Station δ) (button : Button) :
    ∃ notice, s.feedReading button (.seed button) =
      (.ok (),
        { controller := s.controller.heard (.seed button (Devices.readLine button s.devices).1)
          devices := Devices.note notice (Devices.readLine button s.devices).2 }) := by
  obtain ⟨notice, hseed⟩ :=
    s.controller.seed_eq button (Devices.readLine button s.devices).1
  refine ⟨notice, ?_⟩
  show feed _ (.seed button (Devices.readLine button s.devices).1) = _
  unfold feed
  rw [hseed]
  rfl

theorem feedReading_seed_eq (s : Station δ) (button : Button) :
    s.feedReading button (.seed button) = (.ok (), s.seeded button) := by
  obtain ⟨notice, hfeed⟩ := s.feedReading_seed button
  unfold seeded
  rw [hfeed]

theorem controller_seeded (s : Station δ) (button : Button) :
    (s.seeded button).controller =
      s.controller.heard (.seed button (Devices.readLine button s.devices).1) := by
  obtain ⟨notice, hfeed⟩ := s.feedReading_seed button
  unfold seeded
  rw [hfeed]

/-- Starting the pacer is three readings and one call to stop the timer. -/
theorem startPacer_eq (s : Station δ) :
    s.startPacer = (((s.seeded .k1).seeded .k2).seeded .k3).feed .settle := by
  simp only [startPacer, Button.all, forAll, andThen, feedReading_seed_eq]

theorem controller_startPacer (s : Station δ) :
    s.startPacer.2.controller = (((s.seeded .k1).seeded .k2).seeded .k3).controller := by
  rw [startPacer_eq]
  rfl

theorem heading_startPacer (s : Station δ) :
    s.startPacer.2.controller.heading = s.controller.heading := by
  rw [controller_startPacer]
  simp only [controller_seeded, Controller.heading_heard]

/-- What every answer of the controller keeps, every happening keeps. -/
theorem keeps_undergo {P : Controller → Prop}
    (hreact : ∀ c stimulus, P c → P (c.react stimulus).1) {s : Station δ}
    (h : P s.controller) (happening : Happening δ) : P (s.undergo happening).controller := by
  rcases htold : s.told? happening with _ | stimulus
  · rcases told?_eq_none htold with ⟨f, rfl⟩ | rfl
    · exact h
    · have hseed : ∀ {s : Station δ} (button), P s.controller → P (s.seeded button).controller := by
        intro s button hs
        exact hreact s.controller (.seed button (Devices.readLine button s.devices).1) hs
      show P s.startPacer.2.controller
      rw [startPacer_eq]
      exact hreact _ .settle (hseed .k3 (hseed .k2 (hseed .k1 h)))
  · rw [controller_undergo_of_told htold]
    exact hreact _ _ h

/-- What every answer of the controller keeps, every session keeps. -/
theorem keeps_undergoAll {P : Controller → Prop}
    (hreact : ∀ c stimulus, P c → P (c.react stimulus).1) {s : Station δ}
    (h : P s.controller) (happenings : List (Happening δ)) :
    P (s.undergoAll happenings).controller := by
  induction happenings generalizing s with
  | nil => exact h
  | cons happening rest ih => exact ih (keeps_undergo hreact h happening)

/-- The period that a happening makes the pacer ask the blinker for. -/
def asked? (s : Station δ) (happening : Happening δ) : Option Duration :=
  (s.told? happening).bind s.controller.asked?

theorem adjusted_undergo (s : Station δ) (happening : Happening δ) :
    s.controller.Adjusted (s.asked? happening) (s.undergo happening).controller := by
  rcases htold : s.told? happening with _ | stimulus
  · have hasked : s.asked? happening = none := by
      unfold asked?
      rw [htold]
      rfl
    rw [hasked]
    rcases told?_eq_none htold with ⟨f, rfl⟩ | rfl
    · exact ⟨rfl, rfl⟩
    · rw [show (s.undergo .startPacer).controller = _ from s.controller_startPacer]
      exact ⟨by simp [controller_seeded], by simp [controller_seeded]⟩
  · have hasked : s.asked? happening = s.controller.asked? stimulus := by
      unfold asked?
      rw [htold]
      rfl
    rw [hasked, controller_undergo_of_told htold]
    exact s.controller.adjusted_react stimulus

theorem madeFrom_undergo {blinker pacer : Settings} {s : Station δ}
    (h : s.controller.MadeFrom blinker pacer) (happening : Happening δ) :
    (s.undergo happening).controller.MadeFrom blinker pacer :=
  keeps_undergo (fun _ stimulus hmade => hmade.react stimulus) h happening

theorem madeFrom_undergoAll {blinker pacer : Settings} {s : Station δ}
    (h : s.controller.MadeFrom blinker pacer) (happenings : List (Happening δ)) :
    (s.undergoAll happenings).controller.MadeFrom blinker pacer :=
  keeps_undergoAll (fun _ stimulus hmade => hmade.react stimulus) h happenings

end Station

/-! ## What a world can be seen to do -/

/-- One dealing of a station with its devices, and what came of it. -/
inductive Dealing where
  | read (button : Button) (reading : Reading)
  | counted (clock : Clock) (count : Count)
  | lit (on : Bool) (result : Except LineFault Unit)
  | armed (clock : Clock) (schedule : Schedule) (result : Except TimerFault Unit)
  | disarmed (clock : Clock) (result : Except TimerFault Unit)
  | emitted (event : Event)

/-- A world whose dealings are written down.  Another world does the work. -/
structure Observed (δ : Type) where
  world : δ
  /-- What has been dealt, in the order in which it happened. -/
  dealings : List Dealing := []

namespace Observed

variable {δ : Type}

/-- The world after a dealing that left the inner world in some state. -/
def dealt (o : Observed δ) (world : δ) (dealing : Dealing) : Observed δ :=
  ⟨world, o.dealings ++ [dealing]⟩

instance [Devices δ] : Devices (Observed δ) where
  readLine button o :=
    let (reading, world) := Devices.readLine button o.world
    (reading, o.dealt world (.read button reading))
  setLamp on o :=
    let (result, world) := Devices.setLamp on o.world
    (result, o.dealt world (.lit on result))
  arm clock schedule o :=
    let (result, world) := Devices.arm clock schedule o.world
    (result, o.dealt world (.armed clock schedule result))
  disarm clock o :=
    let (result, world) := Devices.disarm clock o.world
    (result, o.dealt world (.disarmed clock result))
  expirations clock o :=
    let (count, world) := Devices.expirations clock o.world
    (count, o.dealt world (.counted clock count))
  record entry o := { o with world := Devices.record entry o.world }
  emit event o := o.dealt (Devices.emit event o.world) (.emitted event)

end Observed

/-- The dealing that an action makes in a world. -/
def Devices.dealing? {δ : Type} [Devices δ] (world : δ) : Action → Option Dealing
  | .light on _ => some (.lit on (setLamp on world).1)
  | .armBlink schedule _ => some (.armed .blink schedule (arm .blink schedule world).1)
  | .armRepeat schedule => some (.armed .repeating schedule (arm .repeating schedule world).1)
  | .disarmRepeat _ => some (.disarmed .repeating (disarm .repeating world).1)
  | .note _ => none
  | .emit event => some (.emitted event)

namespace Observed

variable {δ : Type} [Devices δ]

theorem setLamp_eq (on : Bool) (o : Observed δ) :
    Devices.setLamp on o =
      ((Devices.setLamp on o.world).1,
        o.dealt (Devices.setLamp on o.world).2 (.lit on (Devices.setLamp on o.world).1)) := rfl

theorem arm_eq (clock : Clock) (schedule : Schedule) (o : Observed δ) :
    Devices.arm clock schedule o =
      ((Devices.arm clock schedule o.world).1,
        o.dealt (Devices.arm clock schedule o.world).2
          (.armed clock schedule (Devices.arm clock schedule o.world).1)) := rfl

theorem disarm_eq (clock : Clock) (o : Observed δ) :
    Devices.disarm clock o =
      ((Devices.disarm clock o.world).1,
        o.dealt (Devices.disarm clock o.world).2
          (.disarmed clock (Devices.disarm clock o.world).1)) := rfl

/-- Carrying out an action adds its dealing, whether or not it works. -/
theorem dealings_execute (action : Action) (o : Observed δ) :
    (Devices.execute action o).2.dealings =
      o.dealings ++ (Devices.dealing? o.world action).toList := by
  cases action with
  | light on occasion =>
    simp only [Devices.execute, Devices.dealing?, setLamp_eq]
    rcases Devices.setLamp on o.world with ⟨fault | ⟨⟩, world⟩ <;> rfl
  | armBlink schedule occasion =>
    simp only [Devices.execute, Devices.dealing?, arm_eq]
    rcases Devices.arm .blink schedule o.world with ⟨fault | ⟨⟩, world⟩ <;> rfl
  | armRepeat schedule =>
    simp only [Devices.execute, Devices.dealing?, arm_eq]
    rcases Devices.arm .repeating schedule o.world with ⟨fault | ⟨⟩, world⟩ <;> rfl
  | disarmRepeat occasion =>
    simp only [Devices.execute, Devices.dealing?, disarm_eq]
    rcases Devices.disarm .repeating o.world with ⟨fault | ⟨⟩, world⟩ <;> cases occasion <;> rfl
  | note notice => exact (List.append_nil _).symm
  | emit event => rfl

theorem mem_dealings_execute {action : Action} {o : Observed δ} {dealing : Dealing}
    (h : Devices.dealing? o action = some dealing) :
    dealing ∈ (Devices.execute action o).2.dealings := by
  have hinner : Devices.dealing? o action = Devices.dealing? o.world action := by
    cases action <;> rfl
  rw [dealings_execute, ← hinner, h]
  simp

/-- Carrying out actions leaves no dealing of a kind that none of them makes. -/
theorem filterMap_dealings_perform {β : Type} (kind : Dealing → Option β) {actions : List Action}
    (h : ∀ action ∈ actions, ∀ world : δ, (Devices.dealing? world action).bind kind = none)
    (o : Observed δ) :
    (Devices.perform actions o).2.dealings.filterMap kind = o.dealings.filterMap kind := by
  induction actions generalizing o with
  | nil => rfl
  | cons action rest ih =>
    have hexecute : (Devices.execute action o).2.dealings.filterMap kind =
        o.dealings.filterMap kind := by
      have hkind := h action List.mem_cons_self o.world
      rw [dealings_execute, List.filterMap_append]
      cases hdealing : Devices.dealing? o.world action with
      | none => simp
      | some dealing =>
        rw [hdealing, Option.bind_some] at hkind
        simp [hkind]
    have hrest := fun o => ih (fun later hmem => h later (List.mem_cons_of_mem action hmem)) o
    unfold Devices.perform
    generalize Devices.execute action o = answer at hexecute ⊢
    obtain ⟨fault | ⟨⟩, o'⟩ := answer
    · exact hexecute
    · exact (hrest o').trans hexecute

end Observed

/-- A happening of a world, when the world is observed. -/
def Happening.observed {δ : Type} : Happening δ → Happening (Observed δ)
  | .change f => .change fun o => { o with world := f o.world }
  | .startPacer => .startPacer
  | .startBlinker => .startBlinker
  | .notify source => .notify source
  | .edge confirmed => .edge confirmed
  | .reset => .reset

namespace Station

variable {δ : Type} [Devices δ]

/-- An observed station whose buttons have been read for the first time. -/
def seededAll (blinker pacer : Settings) (world : δ) : Station (Observed δ) :=
  (((Station.mk (.ofTwo blinker pacer) (Observed.mk world [])).seeded .k1).seeded .k2).seeded .k3

/-- An observed station that has started up once. -/
def started (blinker pacer : Settings) (world : δ) : Station (Observed δ) :=
  (Station.mk (.ofTwo blinker pacer) (Observed.mk world [])).undergo .startPacer

theorem started_eq (blinker pacer : Settings) (world : δ) :
    started blinker pacer world = ((seededAll blinker pacer world).feed .settle).2 := by
  show (Station.startPacer _).2 = _
  rw [startPacer_eq]
  rfl

theorem controller_started (blinker pacer : Settings) (world : δ) :
    (started blinker pacer world).controller = (seededAll blinker pacer world).controller := by
  rw [started_eq]
  rfl

theorem heading_seededAll (blinker pacer : Settings) (world : δ) :
    (seededAll blinker pacer world).controller.heading = none := by
  simp only [seededAll, controller_seeded, Controller.heading_heard]
  rfl

theorem held_seededAll (blinker pacer : Settings) (world : δ) (heading : Heading) :
    (seededAll blinker pacer world).controller.pacer.held heading = false := by
  simp only [seededAll, controller_seeded, Controller.held_heard]
  cases heading <;> rfl

theorem madeFrom_started (blinker pacer : Settings) (world : δ) :
    (started blinker pacer world).controller.MadeFrom blinker pacer :=
  madeFrom_undergo (Controller.madeFrom_ofTwo blinker pacer) .startPacer

/-- What every happening of an observed session keeps, the session keeps. -/
theorem keeps_observed {P : Station (Observed δ) → Prop} {happenings : List (Happening δ)}
    (hstep : ∀ s, ∀ happening ∈ happenings, P s → P (s.undergo happening.observed))
    {s : Station (Observed δ)} (h : P s) :
    P (s.undergoAll (happenings.map Happening.observed)) := by
  induction happenings generalizing s with
  | nil => exact h
  | cons happening rest ih =>
    have hrest := fun s later hmem => hstep s later (List.mem_cons_of_mem happening hmem)
    exact ih hrest (hstep s happening List.mem_cons_self h)

/-- Asking a line or a timer leaves no dealing of any other kind. -/
theorem filterMap_consulted {β : Type} {kind : Dealing → Option β}
    (hread : ∀ button reading, kind (.read button reading) = none)
    (hcounted : ∀ clock count, kind (.counted clock count) = none)
    (s : Station (Observed δ)) (happening : Happening (Observed δ)) :
    (Observed.dealings (s.consulted happening)).filterMap kind =
      s.devices.dealings.filterMap kind := by
  rcases happening with f | _ | _ | ⟨clock | button⟩ | edge | _
  · rfl
  · rfl
  · rfl
  · show List.filterMap kind (_ ++ [_]) = _
    simp [hcounted]
  · show List.filterMap kind (_ ++ [_]) = _
    simp [hread]
  · rfl
  · rfl

end Station

end Beacon
