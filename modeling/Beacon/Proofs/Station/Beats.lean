import Beacon.Proofs.Controller.Light

/-!
# Beats

A `Beat` is one entry into a phase.  The start makes one, and so does every
notification of the blink timer that is not stale; `Station.beats` reads them
off a session, with the period in force and the phase that is entered.

* `pulses_undergoAll`: all that a session asks of the lamp and of the blink
  timer is, beat for beat, one command and then one arming.
* `beats_undergoAll`: the phases are those that the duty wants, one after the
  other, and what the blinker knows of the lamp is the last of them.
-/

namespace Beacon

/-- One entry into a phase. -/
structure Beat where
  /-- The period in force at that moment. -/
  period : Duration
  /-- The phase that is entered. -/
  phase : Phase
deriving DecidableEq

/-- What is asked of the lamp and of the blink timer. -/
inductive Pulse where
  | command (on : Bool)
  | call (call : Bench.Call)

/-- What a dealing asked of the lamp or the blink timer, whether or not it worked. -/
def Dealing.pulse? : Dealing → Option Pulse
  | .lit on _ => some (.command on)
  | .armed .blink schedule _ => some (.call (.arm schedule))
  | .disarmed .blink _ => some (.call .disarm)
  | _ => none

/-- What an action asks of the lamp or the blink timer. -/
def Action.pulse? : Action → Option Pulse
  | .light on _ => some (.command on)
  | .armBlink schedule _ => some (.call (.arm schedule))
  | _ => none

theorem Devices.pulse?_dealing {δ : Type} [Devices δ] (world : δ) (action : Action) :
    (dealing? world action).bind Dealing.pulse? = action.pulse? := by
  cases action <;> rfl

theorem Action.IsTalk.no_pulse {action : Action} (h : action.IsTalk) : action.pulse? = none := by
  cases action with
  | note | emit => rfl
  | light | armBlink | armRepeat | disarmRepeat => cases h

theorem Action.IsPacing.no_pulse {action : Action} (h : action.IsPacing) :
    action.pulse? = none := by
  cases action with
  | armRepeat | disarmRepeat | note | emit => rfl
  | light | armBlink => cases h

namespace Beat

/-- How long the phase is to last. -/
def delay (duty : Duty) (beat : Beat) : Duration :=
  .ofNanos (beat.phase.exactNanos beat.period duty)

/-- The lamp is told of the phase, and then the blink timer is armed once for it. -/
def pulses (duty : Duty) (beat : Beat) : List Pulse :=
  [.command beat.phase.lit, .call (.arm (.once (beat.delay duty)))]

/-- The period of a beat is in the range of the settings, and its phase is one that
the duty wants. -/
structure Fits (settings : Settings) (beat : Beat) : Prop where
  shortest_le : settings.range.shortest ≤ beat.period
  le_longest : beat.period ≤ settings.range.longest
  phase : ∃ left, beat.phase = settings.duty.next left

end Beat

namespace Controller

variable {settings pacer : Settings} {c : Controller}

/-- The beat that a stimulus makes. -/
def beat? (c : Controller) (stimulus : Stimulus) : Option Beat :=
  if stimulus.isBeat then some ⟨c.blinker.period, (c.react stimulus).1.blinker.phase⟩ else none

/-- The light of a phase, after so many toggles. -/
def lightIn (phase : Phase) (toggles : UInt64) : Light := ⟨phase.lit, ⟨phase.lit⟩, toggles⟩

theorem phase_of_light {phase : Phase} {toggles : UInt64} (h : c.light = lightIn phase toggles) :
    c.blinker.phase = phase := by
  show Phase.ofLit c.light.lit = phase
  rw [h]
  exact Phase.ofLit_lit phase

section

variable (h : Ticks settings pacer c) (hvalid : settings.Valid)

include h hvalid

theorem light_begin :
    (c.react .begin).1.light = lightIn (settings.duty.next .off) c.blinker.toggles := by
  show (c.blink c.blinker.begin).1.light = _
  rw [Blinker.begin_eq (h.divides hvalid), h.made.duty]
  rfl

theorem light_blinkExpired {count : Count} (hcount : count ≠ .ok 0) :
    (c.react (.blinkExpired count)).1.light =
      lightIn (settings.duty.next c.blinker.phase) (c.blinker.toggles + 1) := by
  show (c.blink (c.blinker.expired count)).1.light = _
  rw [expired_of_ne_zero c.blinker hcount, Blinker.toggle_eq (h.divides hvalid), h.made.duty]
  rfl

/-- A beat has the period in force, and a phase that the duty wants. -/
theorem fits_beat {stimulus : Stimulus} {beat : Beat} (hbeat : c.beat? stimulus = some beat) :
    beat.Fits settings := by
  obtain ⟨hshortest, hlongest⟩ := h.bounds hvalid
  unfold beat? at hbeat
  split at hbeat
  · next hisBeat =>
    obtain rfl := Option.some.inj hbeat
    refine ⟨hshortest, hlongest, ?_⟩
    rcases Stimulus.isBeat_cases hisBeat with rfl | ⟨count, rfl, hcount⟩
    · exact ⟨_, phase_of_light (light_begin h hvalid)⟩
    · exact ⟨_, phase_of_light (light_blinkExpired h hvalid hcount)⟩
  · cases hbeat

/-- All that an answer asks of the lamp and the blink timer are the pulses of its
beat. -/
theorem pulses_react (stimulus : Stimulus) :
    (c.react stimulus).2.filterMap Action.pulse? =
      (c.beat? stimulus).toList.flatMap (Beat.pulses settings.duty) := by
  have hpacing : stimulus.IsPacing → (c.react stimulus).2.filterMap Action.pulse? = [] :=
    fun hpacing => List.filterMap_eq_nil_iff.mpr fun action hmem =>
      (c.pacing_react hpacing action hmem).no_pulse
  cases stimulus with
  | woke | edge | repeatExpired | reset => exact hpacing trivial
  | seed id reading =>
    obtain ⟨notice, hseed⟩ := c.seed_eq id reading
    rw [hseed]
    rfl
  | settle => rfl
  | begin =>
    have hbegin := Blinker.begin_eq (h.divides hvalid)
    rw [h.made.duty] at hbegin
    have hbeat : c.beat? .begin = some ⟨c.blinker.period, c.blinker.begin.1.phase⟩ := rfl
    show c.blinker.begin.2.filterMap Action.pulse? = _
    rw [hbeat, hbegin, Blinker.phase_enter]
    rfl
  | blinkExpired count =>
    by_cases hcount : count = .ok 0
    · subst hcount
      rfl
    · let next := settings.duty.next c.blinker.phase
      have hnext : Blinker.phase { c.blinker.enter next with toggles := c.blinker.toggles + 1 } =
          next := Phase.ofLit_lit next
      have htoggle := Blinker.toggle_eq (h.divides hvalid)
      rw [h.made.duty] at htoggle
      have hexpired := expired_of_ne_zero c.blinker hcount
      have hbeat : c.beat? (.blinkExpired count) =
          some ⟨c.blinker.period, (c.blinker.expired count).1.phase⟩ :=
        if_pos (Stimulus.isBeat_blinkExpired.mpr hcount)
      have hremarks : (Blinker.remarks count).filterMap Action.pulse? = [] :=
        List.filterMap_eq_nil_iff.mpr fun action hmem => (talk_remarks count action hmem).no_pulse
      show (c.blinker.expired count).2.filterMap Action.pulse? = _
      rw [hbeat, hexpired, List.filterMap_append, hremarks, htoggle]
      dsimp only
      rw [hnext]
      rfl

end

end Controller

namespace Station

section

variable {δ : Type} [Devices δ]

/-- The beat that a happening makes. -/
def beat? (s : Station δ) (happening : Happening δ) : Option Beat :=
  (s.told? happening).bind s.controller.beat?

/-- The beats of a session. -/
def beats (s : Station δ) : List (Happening δ) → List Beat
  | [] => []
  | happening :: rest => (s.beat? happening).toList ++ (s.undergo happening).beats rest

theorem beat?_of_told {s : Station δ} {happening : Happening δ} {stimulus : Stimulus}
    (h : s.told? happening = some stimulus) :
    s.beat? happening = s.controller.beat? stimulus := by
  unfold beat?
  rw [h]
  rfl

theorem beat?_of_not_told {s : Station δ} {happening : Happening δ}
    (h : s.told? happening = none) : s.beat? happening = none := by
  unfold beat?
  rw [h]
  rfl

variable {settings pacer : Settings}

theorem ticks_undergo {s : Station δ} (h : s.controller.Ticks settings pacer)
    (happening : Happening δ) : (s.undergo happening).controller.Ticks settings pacer :=
  keeps_undergo (fun _ stimulus hticks => hticks.react stimulus) h happening

theorem ticks_undergoAll {s : Station δ} (h : s.controller.Ticks settings pacer)
    (happenings : List (Happening δ)) :
    (s.undergoAll happenings).controller.Ticks settings pacer :=
  keeps_undergoAll (fun _ stimulus hticks => hticks.react stimulus) h happenings

end

variable {δ : Type} [Devices δ] {settings pacer : Settings} {s : Station (Observed δ)}

/-! ## The record -/

/-- A happening asks of the lamp and the blink timer what its beat does. -/
theorem pulses_undergo (h : s.controller.Ticks settings pacer) (hvalid : settings.Valid)
    (happening : Happening δ) :
    (s.undergo happening.observed).devices.dealings.filterMap Dealing.pulse? =
      s.devices.dealings.filterMap Dealing.pulse? ++
        (s.beat? happening.observed).toList.flatMap (Beat.pulses settings.duty) := by
  rcases htold : s.told? happening.observed with _ | stimulus
  · rw [beat?_of_not_told htold]
    rcases told?_eq_none htold with ⟨f, hchange⟩ | hstart
    · cases happening with
      | change f => exact (List.append_nil _).symm
      | startPacer | startBlinker | notify | edge | reset => cases hchange
    · cases happening with
      | startPacer => exact filterMap_startPacer Devices.pulse?_dealing (fun _ _ => rfl) s
      | change | startBlinker | notify | edge | reset => cases hstart
  · rw [beat?_of_told htold, ← Controller.pulses_react h hvalid]
    exact filterMap_undergo_of_told Devices.pulse?_dealing
      (fun _ htalk => htalk.no_pulse) (fun _ _ => rfl) (fun _ _ => rfl) htold

/-- All that a session asks of the lamp and the blink timer are the pulses of its
beats. -/
theorem pulses_undergoAll (h : s.controller.Ticks settings pacer) (hvalid : settings.Valid)
    (happenings : List (Happening δ)) :
    (s.undergoAll (happenings.map Happening.observed)).devices.dealings.filterMap Dealing.pulse? =
      s.devices.dealings.filterMap Dealing.pulse? ++
        (s.beats (happenings.map Happening.observed)).flatMap (Beat.pulses settings.duty) := by
  induction happenings generalizing s with
  | nil => exact (List.append_nil _).symm
  | cons happening rest ih =>
    rw [List.map_cons, undergoAll_cons, ih (ticks_undergo h _), pulses_undergo h hvalid, beats,
      List.flatMap_append, List.append_assoc]

/-! ## From beat to beat -/

theorem fits_of_mem_beats {s : Station δ} (h : s.controller.Ticks settings pacer)
    (hvalid : settings.Valid) {happenings : List (Happening δ)} {beat : Beat}
    (hmem : beat ∈ s.beats happenings) : beat.Fits settings := by
  induction happenings generalizing s with
  | nil => cases hmem
  | cons happening rest ih =>
    rcases List.mem_append.mp hmem with hfirst | hlater
    · obtain ⟨stimulus, -, hbeat⟩ := Option.bind_eq_some_iff.mp (Option.mem_toList.mp hfirst)
      exact Controller.fits_beat h hvalid hbeat
    · exact ih (ticks_undergo h happening) hlater

/-- What makes no beat leaves the light as it is. -/
theorem light_undergo_of_no_beat {happening : Happening (Observed δ)}
    (h : s.beat? happening = none) :
    (s.undergo happening).controller.light = s.controller.light := by
  rcases htold : s.told? happening with _ | stimulus
  · rcases told?_eq_none htold with ⟨f, rfl⟩ | rfl
    · rfl
    · show s.startPacer.2.controller.light = _
      rw [controller_startPacer]
      simp only [controller_seeded, Controller.light_heard]
  · rw [controller_undergo_of_told htold]
    refine Controller.light_react ?_
    rw [beat?_of_told htold, Controller.beat?] at h
    simpa using h

/-- A beat after the first enters the phase that the duty wants next, and counts
as a toggle. -/
theorem light_undergo_of_beat (h : s.controller.Ticks settings pacer) (hvalid : settings.Valid)
    {happening : Happening (Observed δ)} (hbegin : happening ≠ .startBlinker) {beat : Beat}
    (hbeat : s.beat? happening = some beat) :
    beat.phase = settings.duty.next s.controller.blinker.phase ∧
      (s.undergo happening).controller.light =
        Controller.lightIn beat.phase (s.controller.blinker.toggles + 1) := by
  obtain ⟨stimulus, htold, hmakes⟩ := Option.bind_eq_some_iff.mp hbeat
  rw [Controller.beat?] at hmakes
  split at hmakes
  · next hisBeat =>
    obtain rfl := Option.some.inj hmakes
    rcases Stimulus.isBeat_cases hisBeat with rfl | ⟨count, rfl, hcount⟩
    · rcases happening with f | _ | _ | ⟨⟨_ | _⟩ | button⟩ | edge | _
      case startBlinker => exact absurd rfl hbegin
      all_goals cases htold
    · have hlight := Controller.light_blinkExpired h hvalid hcount
      have hphase := Controller.phase_of_light hlight
      refine ⟨hphase, ?_⟩
      rw [controller_undergo_of_told htold, hlight, hphase]
  · cases hmakes

/-- From some phase on, the beats enter the phases that the duty wants, one after the
other, and what the blinker knows of the lamp is the last of them. -/
theorem beats_undergoAll (h : s.controller.Ticks settings pacer) (hvalid : settings.Valid)
    {happenings : List (Happening δ)} (hbegin : .startBlinker ∉ happenings) {entered : Nat}
    {toggles : UInt64}
    (hlight : s.controller.light = Controller.lightIn (settings.duty.phaseAfter entered) toggles) :
    let beats := s.beats (happenings.map Happening.observed)
    beats.map Beat.phase =
        (List.range' (entered + 1) beats.length).map settings.duty.phaseAfter ∧
      (s.undergoAll (happenings.map Happening.observed)).controller.light =
        Controller.lightIn (settings.duty.phaseAfter (entered + beats.length))
          (toggles + .ofNat beats.length) := by
  induction happenings generalizing s entered toggles with
  | nil => exact ⟨rfl, hlight.trans (congrArg (Controller.lightIn _) (UInt64.add_zero _).symm)⟩
  | cons happening rest ih =>
    rw [List.mem_cons, not_or] at hbegin
    have hticks := ticks_undergo h happening.observed
    rw [List.map_cons, undergoAll_cons, beats]
    cases hbeat : s.beat? happening.observed with
    | none =>
      have hsame := (light_undergo_of_no_beat hbeat).trans hlight
      exact ih hticks hbegin.2 hsame
    | some beat =>
      have hfirst : happening.observed ≠ .startBlinker := by
        intro hstart
        cases happening with
        | startBlinker => exact hbegin.1 rfl
        | change | startPacer | notify | edge | reset => cases hstart
      obtain ⟨hphase, hnext⟩ := light_undergo_of_beat h hvalid hfirst hbeat
      have hentered := Controller.phase_of_light hlight
      have htoggles : s.controller.blinker.toggles = toggles := congrArg Light.toggles hlight
      rw [hentered] at hphase
      have hlater : (s.undergo happening.observed).controller.light =
          Controller.lightIn (settings.duty.phaseAfter (entered + 1)) (toggles + 1) := by
        rw [hnext, hphase, htoggles]
        rfl
      obtain ⟨hphases, hlast⟩ := ih hticks hbegin.2 hlater
      let later := (s.undergo happening.observed).beats (rest.map Happening.observed)
      show (beat :: later).map Beat.phase = (List.range' _ (later.length + 1)).map _ ∧
        _ = Controller.lightIn (settings.duty.phaseAfter (entered + (later.length + 1)))
          (toggles + .ofNat (later.length + 1))
      constructor
      · rw [List.map_cons, hphases, hphase, List.range'_succ]
        rfl
      · have hcount : toggles + 1 + .ofNat later.length = toggles + .ofNat (later.length + 1) := by
          rw [UInt64.ofNat_add, UInt64.add_assoc, UInt64.add_comm 1]
          rfl
        rw [hlast, hcount, Nat.add_assoc entered, Nat.add_comm 1]

/-- A start enters the first phase that the duty wants, and from then on the phases
follow one another. -/
theorem beats_of_begin (h : s.controller.Ticks settings pacer) (hvalid : settings.Valid)
    {after : List (Happening δ)} (hafter : .startBlinker ∉ after) :
    let begun := s.undergo .startBlinker
    let later := begun.beats (after.map Happening.observed)
    let beats := s.beats ((.startBlinker :: after).map Happening.observed)
    beats.length = later.length + 1 ∧
      beats.map Beat.phase = (List.range beats.length).map settings.duty.phaseAfter ∧
      (begun.undergoAll (after.map Happening.observed)).controller.light =
        Controller.lightIn (settings.duty.phaseAfter later.length)
          (s.controller.blinker.toggles + .ofNat later.length) := by
  intro begun later beats
  have hlight : begun.controller.light =
      Controller.lightIn (settings.duty.phaseAfter 0) s.controller.blinker.toggles :=
    Controller.light_begin h hvalid
  have hticks : begun.controller.Ticks settings pacer := ticks_undergo h .startBlinker
  obtain ⟨hphases, hlast⟩ := beats_undergoAll hticks hvalid hafter hlight
  have hbeats : beats = ⟨s.controller.blinker.period, begun.controller.blinker.phase⟩ :: later :=
    rfl
  refine ⟨by rw [hbeats, List.length_cons], ?_, ?_⟩
  · rw [hbeats, List.map_cons, List.length_cons, hphases, Controller.phase_of_light hlight,
      List.range_eq_range', List.range'_succ]
    rfl
  · rw [hlast, Nat.zero_add]

end Station

end Beacon
