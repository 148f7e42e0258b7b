import Beacon.Proofs.RepeatTimer
import Beacon.Proofs.Station.Beats

/-!
# The pattern of the lamp

The lamp is commanded once for each beat, and the commands follow from the
duty alone: always dark, always lit, or in turns from the first phase on.
Neither a failed command nor a failed arming disturbs the pattern; a failed
command is only missing from what the lamp has taken.

* `Observed.commands` are the commands with what came of each.
* `Collects` is a world that shows what its lamp has taken, and `accepted` is
  what that has to be.
* `commands_undergoAll` and `taken_undergoAll` say what a session makes of
  both.
-/

namespace Beacon

/-- A command to the lamp, and what came of it. -/
def Dealing.command? : Dealing → Option (Bool × Except LineFault Unit)
  | .lit on result => some (on, result)
  | _ => none

/-- The commands to the lamp, in order. -/
def Observed.commands {δ : Type} (o : Observed δ) : List (Bool × Except LineFault Unit) :=
  o.dealings.filterMap Dealing.command?

/-- The commands that have worked. -/
def accepted (commands : List (Bool × Except LineFault Unit)) : List Bool :=
  (commands.filter fun command => command.2.isOk).map Prod.fst

/-- The command of a pulse, if it is one. -/
def Pulse.command? : Pulse → Option Bool
  | .command on => some on
  | .call _ => none

theorem Observed.fst_commands {δ : Type} (o : Observed δ) :
    o.commands.map Prod.fst = (o.dealings.filterMap Dealing.pulse?).filterMap Pulse.command? := by
  have hcommand : (fun dealing : Dealing => dealing.command?.map Prod.fst) =
      fun dealing => dealing.pulse?.bind Pulse.command? := by
    funext dealing
    rcases dealing with _ | _ | _ | ⟨_ | _⟩ | ⟨_ | _⟩ | _ <;> rfl
  rw [List.filterMap_filterMap, ← hcommand, commands, List.map_filterMap]

/-- A world that shows what its lamp has taken. -/
structure Devices.Collects {δ : Type} [Devices δ] (writes : δ → List Bool) : Prop where
  taken : ∀ on (world : δ), (Devices.setLamp on world).1 = .ok () →
    writes (Devices.setLamp on world).2 = writes world ++ [on]
  refused : ∀ on (world : δ) fault, (Devices.setLamp on world).1 = .error fault →
    writes (Devices.setLamp on world).2 = writes world
  readLine : ∀ button (world : δ), writes (Devices.readLine button world).2 = writes world
  arm : ∀ clock schedule (world : δ), writes (Devices.arm clock schedule world).2 = writes world
  disarm : ∀ clock (world : δ), writes (Devices.disarm clock world).2 = writes world
  counted : ∀ clock (world : δ), writes (Devices.expirations clock world).2 = writes world
  record : ∀ entry (world : δ), writes (Devices.record entry world) = writes world
  emit : ∀ event (world : δ), writes (Devices.emit event world) = writes world

/-! ## What the lamp has taken -/

/-- The command of a dealing, if it has worked. -/
def Dealing.taken? : Dealing → Option Bool
  | .lit on (.ok ()) => some on
  | _ => none

theorem Observed.accepted_dealt {δ : Type} (o : Observed δ) (world : δ) (dealing : Dealing) :
    accepted (o.dealt world dealing).commands = accepted o.commands ++ dealing.taken?.toList := by
  unfold accepted commands dealt
  rw [List.filterMap_append, List.filter_append, List.map_append]
  rcases dealing with _ | _ | ⟨on, fault | ⟨⟩⟩ | _ | _ | _ <;> rfl

/-- What the lamp has taken by now are the commands that have worked. -/
def Observed.Taken {δ : Type} (writes : δ → List Bool) (earlier : List Bool) (o : Observed δ) :
    Prop :=
  writes o.world = earlier ++ accepted o.commands

theorem Observed.Taken.dealt {δ : Type} {writes : δ → List Bool} {earlier : List Bool}
    {o : Observed δ} (h : o.Taken writes earlier) {world : δ} {dealing : Dealing}
    (hworld : writes world = writes o.world ++ dealing.taken?.toList) :
    (o.dealt world dealing).Taken writes earlier := by
  unfold Taken at h ⊢
  rw [accepted_dealt, ← List.append_assoc, ← h]
  exact hworld

section

variable {δ : Type} [Devices δ] {writes : δ → List Bool} {earlier : List Bool}

/-- A command adds to what the lamp has taken if it works. -/
theorem Devices.Collects.setLamp (h : Devices.Collects writes) (on : Bool) (world : δ) :
    writes (Devices.setLamp on world).2 =
      writes world ++ (Dealing.lit on (Devices.setLamp on world).1).taken?.toList := by
  rcases hresult : (Devices.setLamp on world).1 with fault | ⟨⟩
  · rw [h.refused on world fault hresult]
    exact (List.append_nil _).symm
  · rw [h.taken on world hresult]
    rfl

theorem Station.taken_undergo (h : Devices.Collects writes) {s : Station (Observed δ)}
    (hs : s.devices.Taken writes earlier) {happening : Happening δ}
    (hchange : ∀ f, happening = .change f → writes (f s.devices.world) = writes s.devices.world) :
    (s.undergo happening.observed).devices.Taken writes earlier := by
  have hquiet : ∀ {world : δ} {o : Observed δ} {dealing : Dealing}, dealing.taken? = none →
      writes world = writes o.world → writes world = writes o.world ++ dealing.taken?.toList := by
    intro world o dealing hnone hsame
    rw [hnone, hsame]
    exact (List.append_nil _).symm
  refine keeps_devices (P := Observed.Taken writes earlier) ?_ ?_ ?_ ?_ hs ?_
  · exact fun button o ho => ho.dealt (hquiet rfl (h.readLine button o.world))
  · exact fun clock o ho => ho.dealt (hquiet rfl (h.counted clock o.world))
  · intro action o ho
    cases action with
    | light on occasion => exact ho.dealt (h.setLamp on o.world)
    | armBlink schedule occasion => exact ho.dealt (hquiet rfl (h.arm .blink schedule o.world))
    | armRepeat schedule => exact ho.dealt (hquiet rfl (h.arm .repeating schedule o.world))
    | disarmRepeat occasion => exact ho.dealt (hquiet rfl (h.disarm .repeating o.world))
    | note notice => exact ho
    | emit event => exact ho.dealt (hquiet rfl (h.emit event o.world))
  · exact fun notice o ho => (h.record notice.entry o.world).trans ho
  · intro f hf
    cases happening with
    | change g =>
      obtain rfl := Happening.change.inj hf
      exact (hchange g rfl).trans hs
    | startPacer | startBlinker | notify | edge | reset => cases hf

/-- While the world only takes what it is told, the lamp has taken the commands
that have worked. -/
theorem Station.taken_undergoAll (h : Devices.Collects writes) {s : Station (Observed δ)}
    (hs : s.devices.Taken writes earlier) {happenings : List (Happening δ)}
    (hchanges : s.Changes (fun world later => writes later = writes world) happenings) :
    (s.undergoAll (happenings.map Happening.observed)).devices.Taken writes earlier := by
  induction happenings generalizing s with
  | nil => exact hs
  | cons happening rest ih => exact ih (taken_undergo h hs hchanges.1) hchanges.2

end

/-- A bench keeps a list of what its lamp has taken. -/
theorem Bench.collects_lampWrites : Devices.Collects Bench.lampWrites where
  taken := by
    intro on bench hworked
    change (bench.setLamp on).1 = .ok () at hworked
    show (bench.setLamp on).2.lampWrites = _
    unfold setLamp at hworked ⊢
    split at hworked
    · cases hworked
    · next hworks => rw [if_neg hworks]
  refused := by
    intro on bench fault hrefused
    change (bench.setLamp on).1 = .error fault at hrefused
    show (bench.setLamp on).2.lampWrites = _
    unfold setLamp at hrefused ⊢
    split at hrefused
    · next hfails => rw [if_pos hfails]
    · cases hrefused
  readLine := fun _ _ => rfl
  arm := by
    intro clock schedule bench
    cases clock <;> rfl
  disarm := by
    intro clock bench
    cases clock <;> rfl
  counted := by
    intro clock bench
    cases clock <;> rfl
  record := fun _ _ => rfl
  emit := fun _ _ => rfl

/-! ## The commands -/

namespace Station

variable {δ : Type} [Devices δ] {settings pacer : Settings} {s : Station (Observed δ)}

/-- The commands of a session are those of its beats. -/
theorem commands_undergoAll (h : s.controller.Ticks settings pacer) (hvalid : settings.Valid)
    (happenings : List (Happening δ)) :
    (s.undergoAll (happenings.map Happening.observed)).devices.commands.map Prod.fst =
      s.devices.commands.map Prod.fst ++
        (s.beats (happenings.map Happening.observed)).map fun beat => beat.phase.lit := by
  have hcommands : ∀ beats : List Beat,
      (beats.flatMap (Beat.pulses settings.duty)).filterMap Pulse.command? =
        beats.map fun beat => beat.phase.lit := by
    intro beats
    induction beats with
    | nil => rfl
    | cons beat rest ih =>
      rw [List.flatMap_cons, List.filterMap_append, ih]
      rfl
  rw [Observed.fst_commands, pulses_undergoAll h hvalid, List.filterMap_append, hcommands,
    ← Observed.fst_commands]

/-- Without a start and without news of the blink timer, nothing is commanded. -/
theorem beats_of_unblinking {happenings : List (Happening δ)}
    (hbegin : .startBlinker ∉ happenings) (hblink : .notify (.timer .blink) ∉ happenings) :
    s.beats (happenings.map Happening.observed) = [] ∧
      (s.undergoAll (happenings.map Happening.observed)).controller.light = s.controller.light := by
  induction happenings generalizing s with
  | nil => exact ⟨rfl, rfl⟩
  | cons happening rest ih =>
    rw [List.mem_cons, not_or] at hbegin hblink
    have hnone : s.beat? happening.observed = none := by
      rcases happening with f | _ | _ | ⟨⟨_ | _⟩ | button⟩ | edge | _
      case startBlinker => exact absurd rfl hbegin.1
      case notify.timer.blink => exact absurd rfl hblink.1
      all_goals rfl
    obtain ⟨hbeats, hlight⟩ := ih hbegin.2 hblink.2
    rw [List.map_cons, beats, hnone]
    exact ⟨hbeats, hlight.trans (light_undergo_of_no_beat hnone)⟩

/-- The blinking is started once, with settings that keep every rule, and nothing
blinks before.  Then the blinker and the lamp always agree, and there has been
one command for the start and one for each later beat, which is a notification
of the blink timer that is not stale.  The toggles are the number of these, as
far as 64 bits count.  The commands are all dark if the lamp is never lit, all
lit if it is never dark, and otherwise in turns, lit first; and the lamp is lit
whenever the toggles are even.  The lamp has taken those that have worked, in
order, if nobody else writes to it. -/
theorem lamp_pattern (settings pacer : Settings) (hvalid : settings.check = .ok ()) (world : δ)
    (before after : List (Happening δ))
    (hbefore : .startBlinker ∉ before ∧ .notify (.timer .blink) ∉ before)
    (hafter : .startBlinker ∉ after) :
    let fresh := Station.mk (.ofTwo settings pacer) (Observed.mk world [])
    let begun := (fresh.undergoAll (before.map Happening.observed)).undergo .startBlinker
    let s := begun.undergoAll (after.map Happening.observed)
    let later := (begun.beats (after.map Happening.observed)).length
    let blinker := s.controller.blinker
    let commands := s.devices.commands
    blinker.lit = blinker.lamp.on ∧
      blinker.toggles.toNat = later % UInt64.size ∧
      commands.length = later + 1 ∧
      (settings.dutyPercent = 0 →
        (∀ command ∈ commands, command.1 = false) ∧ blinker.lit = false) ∧
      (settings.dutyPercent = 100 →
        (∀ command ∈ commands, command.1 = true) ∧ blinker.lit = true) ∧
      (settings.dutyPercent ≠ 0 → settings.dutyPercent ≠ 100 →
        commands.map Prod.fst = (List.range (later + 1)).map (· % 2 == 0) ∧
          (blinker.lit = true ↔ blinker.toggles.toNat % 2 = 0)) ∧
      ∀ writes : δ → List Bool, Devices.Collects writes →
        fresh.Changes (fun world later => writes later = writes world)
          (before ++ .startBlinker :: after) →
        writes s.devices.world = writes world ++ accepted commands := by
  intro fresh begun s later blinker commands
  let waiting := fresh.undergoAll (before.map Happening.observed)
  have hrules : settings.Valid := Settings.check_eq_ok_iff.mp hvalid
  have hfresh := Controller.ticks_ofTwo settings pacer
  have hticks : waiting.controller.Ticks settings pacer := ticks_undergoAll hfresh _
  obtain ⟨hquiet, hdark⟩ := @beats_of_unblinking _ _ fresh _ hbefore.1 hbefore.2
  obtain ⟨hlength, hphases, hlight⟩ := beats_of_begin hticks hrules hafter
  have hsilent : waiting.devices.commands.map Prod.fst = [] := by
    rw [commands_undergoAll hfresh hrules, hquiet]
    rfl
  have hnone : waiting.controller.blinker.toggles = 0 := congrArg Light.toggles hdark
  rw [hnone, UInt64.zero_add] at hlight
  have htoggles : blinker.toggles.toNat = later % UInt64.size := by
    rw [show blinker.toggles = .ofNat later from congrArg Light.toggles hlight]
    exact UInt64.toNat_ofNat'
  have hcommands : commands.map Prod.fst =
      (List.range (later + 1)).map fun toggles => (settings.duty.phaseAfter toggles).lit := by
    have hbeats := commands_undergoAll hticks hrules (.startBlinker :: after)
    have hlit := congrArg (List.map Phase.lit) hphases
    rw [List.map_map, List.map_map, hlength] at hlit
    rw [hsilent, List.nil_append] at hbeats
    exact hbeats.trans hlit
  have hon : blinker.lit = (settings.duty.phaseAfter later).lit := congrArg Light.lit hlight
  have halways : ∀ on, (∀ toggles, (settings.duty.phaseAfter toggles).lit = on) →
      (∀ command ∈ commands, command.1 = on) ∧ blinker.lit = on := by
    intro on hphase
    refine ⟨fun command hmem => ?_, hon.trans (hphase _)⟩
    have hfst : command.1 ∈ commands.map Prod.fst := List.mem_map_of_mem hmem
    rw [hcommands] at hfst
    obtain ⟨toggles, -, hcommand⟩ := List.mem_map.mp hfst
    rw [← hcommand, hphase]
  have hpercent := hrules.percent_duty
  refine ⟨?_, htoggles, ?_, fun hzero => ?_, fun hfull => ?_, fun hzero hfull => ?_, ?_⟩
  · have hlamp : blinker.lamp.on = (settings.duty.phaseAfter later).lit :=
      congrArg (fun light : Light => light.lamp.on) hlight
    exact hon.trans hlamp.symm
  · have hcount := congrArg List.length hcommands
    rwa [List.length_map, List.length_map, List.length_range] at hcount
  · refine halways false fun toggles => ?_
    rw [Duty.phaseAfter_of_zero (hpercent.trans hzero)]
    rfl
  · refine halways true fun toggles => ?_
    rw [Duty.phaseAfter_of_hundred (hpercent.trans hfull)]
    rfl
  · rw [← hpercent] at hzero hfull
    have hturns := Duty.lit_phaseAfter hzero hfull
    refine ⟨by simpa only [hturns] using hcommands, ?_⟩
    have hsize : 2 ∣ UInt64.size := by decide
    have heven : blinker.toggles.toNat % 2 = later % 2 := by
      rw [htoggles, Nat.mod_mod_of_dvd later hsize]
    rw [hon, hturns, beq_iff_eq, heven]
  · intro writes hcollects hchanges
    have hfirst : fresh.devices.Taken writes (writes world) := (List.append_nil _).symm
    have hend := taken_undergoAll hcollects hfirst hchanges
    have hsession : fresh.undergoAll ((before ++ .startBlinker :: after).map Happening.observed) =
        s := by
      rw [List.map_append, undergoAll_append]
      rfl
    rw [hsession] at hend
    exact hend

/-- The second command fails and so does the arming behind it, then the timer
cannot be read, and then it is read once too often: there are four commands in
turns, of which the lamp has taken three. -/
theorem lamp_pattern_refused :
    let tick : Happening Bench := .change (·.expire .blink 1)
    let blink : Happening Bench := .notify (.timer .blink)
    let flip (weakness : Bench.Weakness) (fails : Bool) : Happening Bench :=
      .change (·.setFailing weakness fails)
    let after : List (Happening Bench) :=
      [flip .lamp true, flip .blinkArm true, tick, blink, flip .lamp false, flip .blinkRead true,
        blink, .edge Heading.faster.press, flip .blinkRead false, tick, blink, blink]
    let world : Bench := { wiring := {} }
    let fresh := Station.mk (.ofTwo {} {}) (Observed.mk world [])
    let s := (fresh.undergoAll ([.startPacer].map Happening.observed)).undergo .startBlinker
      |>.undergoAll (after.map Happening.observed)
    ({} : Settings).check = .ok () ∧ .startBlinker ∉ after ∧
      s.controller.blinker.toggles.toNat = 3 ∧ s.controller.blinker.lit = false ∧
      s.devices.commands.map Prod.fst = [true, false, true, false] ∧
      s.devices.world.lampWrites = [true, true, false] := by
  intro tick blink flip after world fresh s
  have hvalid : ({} : Settings).check = .ok () := rfl
  have hafter : .startBlinker ∉ after := by simp [after, tick, blink, flip]
  have htoggles : s.controller.blinker.toggles.toNat = 3 := by decide +kernel
  obtain ⟨-, -, -, -, -, hturns, hwrites⟩ := lamp_pattern {} {} hvalid world [.startPacer] after
    ⟨by simp, by simp⟩ hafter
  obtain ⟨hcommands, hlit⟩ := hturns (by decide) (by decide)
  have hchanges : fresh.Changes (fun world later => later.lampWrites = world.lampWrites)
      ([.startPacer] ++ .startBlinker :: after) := by
    refine Changes.of_forall (fun f hmem world => ?_) fresh
    simp only [after, tick, blink, flip, List.cons_append, List.nil_append, List.mem_cons,
      List.not_mem_nil, Happening.change.injEq, reduceCtorEq, false_or, or_false] at hmem
    rcases hmem with rfl | rfl | rfl | rfl | rfl | rfl | rfl <;> rfl
  refine ⟨hvalid, hafter, htoggles, ?_, ?_, ?_⟩
  · rw [← Bool.not_eq_true, hlit, htoggles]
    decide
  · rw [hcommands]
    decide +kernel
  · rw [hwrites _ Bench.collects_lampWrites hchanges]
    decide +kernel

end Station

end Beacon
