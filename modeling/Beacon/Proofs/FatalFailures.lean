import Beacon.Proofs.Station.Batches

/-!
# Which failures are fatal

A station stops for very few failures.  A start needs the repeat timer
stopped, all sources registered and the blink timer armed, in this order; from
then on only a wait that fails and a blink timer that cannot be armed again
end a round.  Everything else that fails makes a journal entry at most.

* `Enrolled` is a world that writes down what is registered.  Together with
  the dealings this is all that a start does to the outside.
* `Starts` lists the forms that a start takes, and `starts_start` says that
  there are no others.
* `runOnce_of_wait_failed` and `runOnce_of_woken` are the two forms of a round.
-/

namespace Beacon

/-! ## Worlds with a queue -/

/-- Neither a wait nor a registration is a dealing with a device, so an
observed world passes them on. -/
instance {δ : Type} [Watched δ] : Watched (Observed δ) where
  register source interest o :=
    let (result, world) := Watched.register source interest o.world
    (result, { o with world })
  wait o :=
    let (answer, world) := Watched.wait o.world
    (answer, { o with world })

/-- A registration, and what came of it. -/
structure Registration where
  source : Source
  interest : Interest
  result : Except QueueFault Unit

/-- A world whose registrations are written down.  Another world does the work. -/
structure Enrolled (δ : Type) where
  world : δ
  /-- What has been registered, or should have been, in order. -/
  registrations : List Registration := []

namespace Enrolled

variable {δ : Type}

instance [Devices δ] : Devices (Enrolled δ) where
  readLine button e :=
    let (reading, world) := Devices.readLine button e.world
    (reading, { e with world })
  setLamp on e :=
    let (result, world) := Devices.setLamp on e.world
    (result, { e with world })
  arm clock schedule e :=
    let (result, world) := Devices.arm clock schedule e.world
    (result, { e with world })
  disarm clock e :=
    let (result, world) := Devices.disarm clock e.world
    (result, { e with world })
  expirations clock e :=
    let (count, world) := Devices.expirations clock e.world
    (count, { e with world })
  record entry e := { e with world := Devices.record entry e.world }
  emit event e := { e with world := Devices.emit event e.world }

instance [Watched δ] : Watched (Enrolled δ) where
  register source interest e :=
    let (result, world) := Watched.register source interest e.world
    (result, ⟨world, e.registrations ++ [⟨source, interest, result⟩]⟩)
  wait e :=
    let (answer, world) := Watched.wait e.world
    (answer, { e with world })

variable [Devices δ]

/-- Nothing that happens to a station registers anything, unless the world does. -/
theorem registrations_undergo (s : Station (Observed (Enrolled δ)))
    (happening : Happening (Observed (Enrolled δ))) (h : ∀ f, happening ≠ .change f) :
    (s.undergo happening).devices.world.registrations = s.devices.world.registrations := by
  refine Station.keeps_devices (P := fun later : Observed (Enrolled δ) =>
    later.world.registrations = s.devices.world.registrations) (fun _ _ h => h) (fun _ _ h => h)
    ?_ (fun _ _ h => h) rfl fun f hf => absurd hf (h f)
  intro action world hsame
  cases action <;> exact hsame

end Enrolled

namespace Station

/-! ## The forms of a start -/

/-- What a start has dealt with the devices before it registers anything. -/
def opening (readings : Button → Reading) (stopped : Except TimerFault Unit) : List Dealing :=
  Button.all.map (fun button => .read button (readings button)) ++ [.disarmed .repeating stopped]

/-- What a start deals with the devices behind the registrations: the lamp is told, the
blink timer is armed, and if that works the start is reported. -/
def ignition (on : Bool) (lamp : Except LineFault Unit) (delay : Duration) (event : Event)
    (armed : Except TimerFault Unit) : List Dealing :=
  [.lit on lamp, .armed .blink (.once delay) armed] ++
    match armed with
    | .ok () => [.emitted event]
    | .error _ => []

/-- The registration of a source that has worked. -/
def enrolled (source : Source) : Registration := ⟨source, interestIn source, .ok ()⟩

/-- The forms that a start takes: what it answers, what it has dealt with the
devices by then, and what it has registered.  The first of the three steps that
fails ends it. -/
inductive Starts : Except Fault Unit → List Dealing → List Registration → Prop where
  /-- The repeat timer cannot be stopped. -/
  | stuck (readings : Button → Reading) (fault : TimerFault) :
      Starts (.error (.timer fault)) (opening readings (.error fault)) []
  /-- A source cannot be registered. -/
  | refused (readings : Button → Reading) {first rest : List Source} {source : Source}
      (hall : Source.all = first ++ source :: rest) (fault : QueueFault) :
      Starts (.error (.queue fault)) (opening readings (.ok ()))
        (first.map enrolled ++ [⟨source, interestIn source, .error fault⟩])
  /-- The blink timer cannot be armed. -/
  | lost (readings : Button → Reading) (on : Bool) (lamp : Except LineFault Unit)
      (delay : Duration) (fault : TimerFault) (event : Event) :
      Starts (.error (.timer fault))
        (opening readings (.ok ()) ++ ignition on lamp delay event (.error fault))
        (Source.all.map enrolled)
  | works (readings : Button → Reading) (on : Bool) (lamp : Except LineFault Unit)
      (delay : Duration) (event : Event) :
      Starts (.ok ()) (opening readings (.ok ()) ++ ignition on lamp delay event (.ok ()))
        (Source.all.map enrolled)

section

variable {δ : Type} [Devices δ]

/-- What the three buttons read when they are seeded, one behind the other. -/
def seedReadings (s : Station (Observed δ)) : Button → Reading
  | .k1 => (Devices.readLine .k1 s.devices.world).1
  | .k2 => (Devices.readLine .k2 (s.seeded .k1).devices.world).1
  | .k3 => (Devices.readLine .k3 ((s.seeded .k1).seeded .k2).devices.world).1

/-- The buttons are read, whatever comes of it, and then the repeat timer is
stopped or not. -/
theorem startPacer_dealt (s : Station (Observed δ)) :
    ∃ readings stopped, s.startPacer.1 = stopped.mapError Fault.timer ∧
      s.startPacer.2.devices.dealings = s.devices.dealings ++ opening readings stopped := by
  let read := ((s.seeded .k1).seeded .k2).seeded .k3
  have hread : read.devices.dealings =
      s.devices.dealings ++ Button.all.map fun button => .read button (s.seedReadings button) := by
    simp only [read, dealings_seeded, Button.all, List.map_cons, List.map_nil, List.append_assoc]
    rfl
  refine ⟨s.seedReadings, (Devices.disarm .repeating read.devices.world).1, ?_⟩
  rw [startPacer_eq]
  show (Devices.perform [.disarmRepeat .start] read.devices).1 = _ ∧
    (Devices.perform [.disarmRepeat .start] read.devices).2.dealings = _
  rw [opening, ← List.append_assoc, ← hread]
  simp only [Devices.perform, Devices.execute, Observed.disarm_eq]
  rcases Devices.disarm .repeating read.devices.world with ⟨fault | ⟨⟩, world⟩
  · exact ⟨rfl, rfl⟩
  · exact ⟨rfl, rfl⟩

theorem startBlinker_dealt (s : Station (Observed δ)) :
    ∃ on lamp delay event armed, s.startBlinker.1 = armed.mapError Fault.timer ∧
      s.startBlinker.2.devices.dealings =
        s.devices.dealings ++ ignition on lamp delay event armed := by
  let blinker := s.controller.blinker
  let phase := (Phase.first blinker.period blinker.duty).1
  let delay := (Phase.first blinker.period blinker.duty).2
  let told := (Devices.execute (.light phase.lit .start) s.devices).2
  have htold : told.dealings =
      s.devices.dealings ++ [.lit phase.lit (Devices.setLamp phase.lit s.devices.world).1] :=
    Observed.dealings_execute _ _
  refine ⟨phase.lit, (Devices.setLamp phase.lit s.devices.world).1, delay,
    .started blinker.period blinker.duty, (Devices.arm .blink (.once delay) told.world).1, ?_⟩
  show (Devices.perform (.light phase.lit .start :: _) s.devices).1 = _ ∧
    (Devices.perform (.light phase.lit .start :: _) s.devices).2.dealings = _
  rw [Devices.perform_cons_of_not_mayStop id]
  show (Devices.perform (.armBlink (.once delay) .start :: _) told).1 = _ ∧
    (Devices.perform (.armBlink (.once delay) .start :: _) told).2.dealings = _
  simp only [Devices.perform, Devices.execute, Observed.arm_eq]
  rcases Devices.arm .blink (.once delay) told.world with ⟨fault | ⟨⟩, world⟩
  · refine ⟨rfl, ?_⟩
    show told.dealings ++ _ = _
    rw [htold, List.append_assoc]
    rfl
  · refine ⟨rfl, ?_⟩
    show told.dealings ++ _ ++ _ = _
    rw [htold, List.append_assoc, List.append_assoc]
    rfl

end

section

variable {δ : Type} [Watched δ]

/-- A registration is written down, whatever comes of it, and nothing is dealt with
the devices. -/
theorem register_dealt (s : Station (Observed (Enrolled δ))) (source : Source) :
    ∃ result, (s.register source).1 = result.mapError Fault.queue ∧
      (s.register source).2.devices.dealings = s.devices.dealings ∧
      (s.register source).2.devices.world.registrations =
        s.devices.world.registrations ++ [⟨source, interestIn source, result⟩] := by
  let answer := Watched.register source (interestIn source) s.devices.world.world
  refine ⟨answer.1, ?_⟩
  have hregister : Watched.register source (interestIn source) s.devices =
      (answer.1, { s.devices with
        world := ⟨answer.2, s.devices.world.registrations ++
          [⟨source, interestIn source, answer.1⟩]⟩ }) := rfl
  unfold register
  rw [hregister]
  rcases answer with ⟨fault | ⟨⟩, world⟩
  · exact ⟨rfl, rfl, rfl⟩
  · exact ⟨rfl, rfl, rfl⟩

/-- The sources are registered one after the other, up to the first that cannot
be, and nothing is dealt with the devices. -/
theorem forAll_register (sources : List Source) (s : Station (Observed (Enrolled δ))) :
    (forAll register sources s).2.devices.dealings = s.devices.dealings ∧
      (((forAll register sources s).1 = .ok () ∧
          (forAll register sources s).2.devices.world.registrations =
            s.devices.world.registrations ++ sources.map enrolled) ∨
        ∃ first source rest fault, sources = first ++ source :: rest ∧
          (forAll register sources s).1 = .error (.queue fault) ∧
          (forAll register sources s).2.devices.world.registrations =
            s.devices.world.registrations ++
              (first.map enrolled ++ [⟨source, interestIn source, .error fault⟩])) := by
  induction sources generalizing s with
  | nil => exact ⟨rfl, .inl ⟨rfl, (List.append_nil _).symm⟩⟩
  | cons source rest ih =>
    obtain ⟨result, hresult, hdealings, hregistrations⟩ := s.register_dealt source
    have hcons : forAll register (source :: rest) s =
        andThen (s.register source) (forAll register rest) := rfl
    rw [hcons]
    rcases result with fault | ⟨⟩
    · rw [andThen_of_error hresult]
      exact ⟨hdealings, .inr ⟨[], source, rest, fault, rfl, rfl, hregistrations⟩⟩
    · rw [andThen_of_ok hresult]
      obtain ⟨hlater, hforms⟩ := ih (s.register source).2
      refine ⟨hlater.trans hdealings, ?_⟩
      rcases hforms with ⟨hworked, hall⟩ | ⟨first, refused, later, fault, hrest, hfailed, hsome⟩
      · refine .inl ⟨hworked, ?_⟩
        rw [hall, hregistrations, List.append_assoc]
        rfl
      · refine .inr ⟨source :: first, refused, later, fault, by rw [hrest]; rfl, hfailed, ?_⟩
        rw [hsome, hregistrations, List.append_assoc]
        rfl

/-- Every start takes one of the forms. -/
theorem starts_start {s : Station (Observed (Enrolled δ))} (hdealings : s.devices.dealings = [])
    (hregistrations : s.devices.world.registrations = []) :
    Starts s.start.1 s.start.2.devices.dealings s.start.2.devices.world.registrations := by
  obtain ⟨readings, stopped, hstopped, hopening⟩ := s.startPacer_dealt
  have hnone : s.startPacer.2.devices.world.registrations = [] :=
    (Enrolled.registrations_undergo s .startPacer (by simp)).trans hregistrations
  rw [hdealings, List.nil_append] at hopening
  unfold start
  rcases stopped with fault | ⟨⟩
  · rw [andThen_of_error hstopped]
    dsimp only
    rw [hopening, hnone]
    exact .stuck readings fault
  · rw [andThen_of_ok hstopped]
    obtain ⟨hquiet, hforms⟩ := forAll_register Source.all s.startPacer.2
    rw [hopening] at hquiet
    rw [hnone, List.nil_append] at hforms
    rcases hforms with ⟨hworked, hall⟩ | ⟨first, source, rest, fault, hsplit, hfailed, hsome⟩
    · rw [andThen_of_ok hworked]
      generalize (forAll register Source.all s.startPacer.2).2 = registered at hquiet hall ⊢
      obtain ⟨on, lamp, delay, event, armed, harmed, hignition⟩ := registered.startBlinker_dealt
      have hkept : registered.startBlinker.2.devices.world.registrations = Source.all.map enrolled :=
        (Enrolled.registrations_undergo registered .startBlinker (by simp)).trans hall
      rw [hquiet] at hignition
      rcases armed with fault | ⟨⟩
      · rw [andThen_of_error harmed]
        dsimp only
        rw [hignition, hkept]
        exact .lost readings on lamp delay fault event
      · rw [andThen_of_ok harmed]
        show Starts (.ok ()) registered.startBlinker.2.devices.dealings
          registered.startBlinker.2.devices.world.registrations
        rw [hignition, hkept]
        exact .works readings on lamp delay event
    · rw [andThen_of_error hfailed]
      dsimp only
      rw [hquiet, hsome, List.nil_append]
      exact .refused readings hsplit fault

end

namespace Starts

variable {result : Except Fault Unit} {dealt : List Dealing} {registered : List Registration}

theorem eq_ok_iff (h : Starts result dealt registered) :
    result = .ok () ↔ .disarmed .repeating (.ok ()) ∈ dealt ∧
      (∀ source, enrolled source ∈ registered) ∧
        ∃ delay, .armed .blink (.once delay) (.ok ()) ∈ dealt := by
  cases h with
  | stuck readings fault => simp [opening]
  | refused readings hall fault =>
    constructor
    · intro hok
      cases hok
    · rintro ⟨-, -, delay, hmem⟩
      simp [opening] at hmem
  | lost readings on lamp delay fault event => simp [opening, ignition]
  | works readings on lamp delay event =>
    have hall : ∀ source, enrolled source ∈ Source.all.map enrolled :=
      fun source => List.mem_map_of_mem source.mem_all
    simp [opening, ignition, hall]

/-- Before all sources are registered, nothing is done but to read the buttons and
to stop the repeat timer. -/
theorem opening_of_failed (h : Starts result dealt registered)
    (hfailed : (∃ fault, .disarmed .repeating (.error fault) ∈ dealt) ∨
      ∃ source interest fault, ⟨source, interest, .error fault⟩ ∈ registered) :
    ∀ dealing ∈ dealt, (∃ button reading, dealing = .read button reading) ∨
      ∃ stopped, dealing = .disarmed .repeating stopped := by
  have hopening : ∀ readings stopped, ∀ dealing ∈ opening readings stopped,
      (∃ button reading, dealing = .read button reading) ∨
        ∃ stopped, dealing = .disarmed .repeating stopped := by
    intro readings stopped dealing hmem
    rcases List.mem_append.mp hmem with hread | hstopped
    · obtain ⟨button, -, rfl⟩ := List.mem_map.mp hread
      exact .inl ⟨button, _, rfl⟩
    · exact .inr ⟨stopped, List.mem_singleton.mp hstopped⟩
  have hregistered : ∀ sources : List Source,
      ¬∃ source interest fault, ⟨source, interest, .error fault⟩ ∈ sources.map enrolled := by
    rintro sources ⟨source, interest, fault, hmem⟩
    obtain ⟨other, -, hother⟩ := List.mem_map.mp hmem
    cases hother
  cases h with
  | stuck readings fault => exact hopening readings _
  | refused readings hall fault => exact hopening readings _
  | lost readings on lamp delay fault event =>
    rcases hfailed with ⟨fault, hmem⟩ | hrefused
    · simp [opening, ignition] at hmem
    · exact absurd hrefused (hregistered _)
  | works readings on lamp delay event =>
    rcases hfailed with ⟨fault, hmem⟩ | hrefused
    · simp [opening, ignition] at hmem
    · exact absurd hrefused (hregistered _)

theorem not_reported_of_failed (h : Starts result dealt registered) {fault : Fault}
    (hfailed : result = .error fault) (event : Event) : .emitted event ∉ dealt := by
  cases h with
  | stuck => simp [opening]
  | refused => simp [opening]
  | lost => simp [opening, ignition]
  | works => cases hfailed

end Starts

/-! ## The forms of a round -/

section

variable {δ : Type} [Watched δ]

/-- A round whose wait fails is only a wait. -/
theorem runOnce_of_wait_failed {s : Station (Observed δ)} {fault : QueueFault}
    (h : (Watched.wait s.devices).1 = .error fault) :
    s.runOnce.1 = .error (.queue fault) ∧ s.runOnce.2.controller = s.controller ∧
      s.runOnce.2.devices.dealings = s.devices.dealings := by
  have hdealings : (Watched.wait s.devices).2.dealings = s.devices.dealings := rfl
  unfold runOnce
  generalize Watched.wait s.devices = answer at h hdealings ⊢
  obtain ⟨result, world⟩ := answer
  cases h
  exact ⟨rfl, rfl, hdealings⟩

/-- The station after a wait. -/
def woken (s : Station (Observed δ)) : Station (Observed δ) :=
  { s with devices := (Watched.wait s.devices).2 }

theorem runOnce_of_woken {s : Station (Observed δ)} {ready : List Source}
    (h : (Watched.wait s.devices).1 = .ok ready) :
    s.runOnce = ((forAll handle ready s.woken).1.map fun _ => ready.length,
      (forAll handle ready s.woken).2) := by
  unfold runOnce woken
  generalize Watched.wait s.devices = answer at h ⊢
  obtain ⟨result, world⟩ := answer
  cases h
  dsimp only
  rcases forAll handle ready { s with devices := world } with ⟨fault | ⟨⟩, last⟩
  · rfl
  · rfl

/-- A start works exactly if the repeat timer is stopped, every source is
registered and the blink timer is armed.  If one of the first two fails, nothing is done but to
read the buttons and to stop the repeat timer, and a start that fails reports
nothing.  A round fails exactly if its wait does, or if a source in its batch
loses the timing.  With a wait that fails nothing is handled.  Otherwise each
source is handled once and in order, all of them if the round works, and up to
the first that loses the timing if it fails; so a round works in which no
arming of the blink timer fails, whatever else does. -/
theorem fatal_failures_exact :
    (∀ (blinker pacer : Settings) (world : δ),
      let s := Station.mk (.ofTwo blinker pacer) (Observed.mk (Enrolled.mk world []) [])
      let dealt := s.start.2.devices.dealings
      let registered := s.start.2.devices.world.registrations
      (s.start.1 = .ok () ↔ .disarmed .repeating (.ok ()) ∈ dealt ∧
        (∀ source, enrolled source ∈ registered) ∧
          ∃ delay, .armed .blink (.once delay) (.ok ()) ∈ dealt) ∧
      (((∃ fault, .disarmed .repeating (.error fault) ∈ dealt) ∨
          ∃ source interest fault, ⟨source, interest, .error fault⟩ ∈ registered) →
        ∀ dealing ∈ dealt, (∃ button reading, dealing = .read button reading) ∨
          ∃ stopped, dealing = .disarmed .repeating stopped) ∧
      ∀ fault, s.start.1 = .error fault → ∀ event, .emitted event ∉ dealt) ∧
    ∀ s : Station (Observed δ),
      (∀ fault, (Watched.wait s.devices).1 = .error fault →
        s.runOnce.1 = .error (.queue fault) ∧ s.runOnce.2.controller = s.controller ∧
          s.runOnce.2.devices.dealings = s.devices.dealings) ∧
      ∀ ready, (Watched.wait s.devices).1 = .ok ready →
        ((∃ fault, s.runOnce.1 = .error fault) ↔
          ∃ before source after, ready = before ++ source :: after ∧
            (s.woken.handleAll before).LosesTiming source) ∧
        (∀ count, s.runOnce.1 = .ok count →
          count = ready.length ∧ s.runOnce.2 = s.woken.handleAll ready) ∧
        (∀ fault, s.runOnce.1 = .error fault → fault = .timer .arm ∧
          ∃ before source after, ready = before ++ source :: after ∧
            (∀ first other rest, before = first ++ other :: rest →
              ¬(s.woken.handleAll first).LosesTiming other) ∧
            (s.woken.handleAll before).LosesTiming source ∧
            s.runOnce.2 = s.woken.handleAll (before ++ [source])) ∧
        ((∀ delay fault, .armed .blink (.once delay) (.error fault) ∉
            s.runOnce.2.devices.dealings.drop s.devices.dealings.length) →
          s.runOnce.1 = .ok ready.length) := by
  refine ⟨?_, ?_⟩
  · intro blinker pacer world s dealt registered
    have hform : Starts s.start.1 dealt registered := starts_start rfl rfl
    exact ⟨hform.eq_ok_iff, hform.opening_of_failed,
      fun fault hfailed => hform.not_reported_of_failed hfailed⟩
  · intro s
    refine ⟨fun fault hwait => runOnce_of_wait_failed hwait, ?_⟩
    intro ready hwait
    have hround := runOnce_of_woken hwait
    rcases s.woken.forAll_handle ready with
      ⟨hnone, hall⟩ | ⟨before, source, after, hready, hearlier, hloses, hend⟩
    · rw [hall] at hround
      rw [hround]
      refine ⟨⟨?_, ?_⟩, ?_, ?_, fun _ => rfl⟩
      · rintro ⟨fault, hfailed⟩
        cases hfailed
      · rintro ⟨before, source, after, hready, hloses⟩
        exact absurd hloses (hnone before source after hready)
      · intro count hcount
        exact ⟨(Except.ok.inj hcount).symm, rfl⟩
      · intro fault hfailed
        cases hfailed
    · rw [hend] at hround
      rw [hround]
      refine ⟨⟨?_, ?_⟩, ?_, ?_, ?_⟩
      · exact fun _ => ⟨before, source, after, hready, hloses⟩
      · exact fun _ => ⟨_, rfl⟩
      · intro count hcount
        cases hcount
      · intro fault hfailed
        exact ⟨(Except.error.inj hfailed).symm,
          before, source, after, hready, hearlier, hloses, rfl⟩
      · intro hquiet
        obtain ⟨delay, fault, hmem⟩ := hloses.armed_mem
        exact absurd hmem (hquiet delay fault)

end

/-- With no line to be read and a lamp that refuses, a start works, and one in
which the reset button cannot be registered tells the lamp nothing and arms
nothing.  In a round whose second source is a blink timer that cannot be armed,
the third is not handled. -/
theorem fatal_failures_exact_lost :
    let blind : Bench :=
      { wiring := {}, levels := ⟨.unreadable, .garbled, .unreadable⟩, lampFails := true }
    let batch : Bench.Batch :=
      { blinkExpiries := 2, levels := [(.k1, .level true), (.k2, .level true)]
        ready := some [.button .k1, .timer .blink, .button .k2] }
    let weak : Bench := { wiring := {}, blink := { armFails := true }, batches := [batch] }
    let made (world : Bench) : Station (Observed (Enrolled Bench)) :=
      Station.mk (.ofTwo {} {}) (Observed.mk (Enrolled.mk world []) [])
    let refused := made { blind with refused := some (.button .k2) }
    let s : Station (Observed Bench) := Station.mk (.ofTwo {} {}) (Observed.mk weak [])
    (made blind).start.1 = .ok () ∧
      refused.start.1 = .error (.queue (.register (.button .k2))) ∧
      (∀ dealing ∈ refused.start.2.devices.dealings,
        (∃ button reading, dealing = .read button reading) ∨
          ∃ stopped, dealing = .disarmed .repeating stopped) ∧
      s.runOnce.1 = .error (.timer .arm) ∧
      s.runOnce.2 = s.woken.handleAll [.button .k1, .timer .blink] := by
  intro blind batch weak made refused s
  obtain ⟨hstarts, hrounds⟩ := @fatal_failures_exact Bench _
  obtain ⟨-, hnothing, -⟩ := hstarts {} {} { blind with refused := some (.button .k2) }
  obtain ⟨-, hround⟩ := hrounds s
  obtain ⟨-, -, hfailed, -⟩ := hround [.button .k1, .timer .blink, .button .k2] rfl
  have hnone : s.runOnce.1.toOption = none := by decide +kernel
  obtain ⟨fault, hresult⟩ : ∃ fault, s.runOnce.1 = .error fault := by
    cases hresult : s.runOnce.1 with
    | error fault => exact ⟨fault, rfl⟩
    | ok count =>
      rw [hresult] at hnone
      cases hnone
  obtain ⟨rfl, before, source, after, hready, -, hloses, hend⟩ := hfailed _ hresult
  refine ⟨rfl, rfl, hnothing (.inr ⟨.button .k2, .priority, .register (.button .k2), ?_⟩),
    hresult, ?_⟩
  · have hlast : refused.start.2.devices.world.registrations.getLast? =
        some ⟨.button .k2, .priority, .error (.register (.button .k2))⟩ := rfl
    exact List.mem_of_getLast? hlast
  · rw [hend]
    obtain ⟨rfl, -⟩ := hloses
    have hbefore : before = [.button .k1] := by
      rcases before with _ | ⟨first, _ | ⟨second, _ | ⟨third, later⟩⟩⟩
      · simp at hready
      · simp at hready
        exact congrArg (· :: []) hready.1.symm
      · simp at hready
      · simp at hready
    rw [hbefore]
    rfl

end Station

end Beacon
