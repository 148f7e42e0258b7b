import Beacon.Proofs.Station.Beats

/-!
# The timing of the blinking

The blink timer is armed once for each entry into a phase, for as long as the
phase takes of the period that is in force at that moment, and nothing else
ever calls it.  So a change of the period shows with the next phase, and two
phases of an unchanged period take as long as the period, whatever fails.

* `Observed.blinkCalls` are the calls on the blink timer, read off the
  dealings.
* `Beat.Fits.delay_pos` and `Beat.nanos_delay`: a phase that is entered has a
  length, and nothing of it is cut off.
* `nanos_delay_add`: consecutive phases of one period share it without a rest.
-/

namespace Beacon

/-- What a dealing asked of the blink timer, whether or not it worked. -/
def Dealing.blinkCall? : Dealing → Option Bench.Call
  | .armed .blink schedule _ => some (.arm schedule)
  | .disarmed .blink _ => some .disarm
  | _ => none

/-- The calls on the blink timer, in order. -/
def Observed.blinkCalls {δ : Type} (o : Observed δ) : List Bench.Call :=
  o.dealings.filterMap Dealing.blinkCall?

/-- The call of a pulse, if it is one. -/
def Pulse.call? : Pulse → Option Bench.Call
  | .command _ => none
  | .call asked => some asked

theorem Observed.blinkCalls_eq {δ : Type} (o : Observed δ) :
    o.blinkCalls = (o.dealings.filterMap Dealing.pulse?).filterMap Pulse.call? := by
  have hcall : Dealing.blinkCall? = fun dealing => dealing.pulse?.bind Pulse.call? := by
    funext dealing
    rcases dealing with _ | _ | _ | ⟨_ | _⟩ | ⟨_ | _⟩ | _ <;> rfl
  rw [List.filterMap_filterMap, ← hcall]
  rfl

namespace Beat

variable {settings : Settings} {beat : Beat}

/-- The exact length of a phase fits a duration. -/
theorem nanos_delay (duty : Duty) (beat : Beat) :
    (beat.delay duty).nanos = beat.phase.exactNanos beat.period duty := by
  have hshare := Phase.exactNanos_le beat.period duty beat.phase
  have hmost := beat.period.nanos_le_longest
  rw [delay, Duration.nanos_ofNanos]
  omega

theorem Fits.delay_pos (h : beat.Fits settings) (hvalid : settings.Valid) :
    0 < (beat.delay settings.duty).nanos := by
  obtain ⟨left, hphase⟩ := h.phase
  rw [nanos_delay, hphase]
  exact Phase.exactNanos_next_pos (hvalid.divides h.shortest_le h.le_longest) _ _

theorem Fits.delay_le (h : beat.Fits settings) :
    beat.delay settings.duty ≤ settings.range.longest := by
  have hshare := Phase.exactNanos_le beat.period settings.duty beat.phase
  have hlongest := h.le_longest
  rw [Duration.le_def] at hlongest ⊢
  rw [nanos_delay]
  exact Nat.le_trans hshare hlongest

/-- Where the lamp is never lit or never dark, a phase takes the whole period. -/
theorem Fits.delay_of_undivided (h : beat.Fits settings)
    (hduty : settings.duty.percent = 0 ∨ settings.duty.percent = 100) :
    beat.delay settings.duty = beat.period := by
  obtain ⟨left, hphase⟩ := h.phase
  apply Duration.ext
  rw [nanos_delay, hphase, Duty.next]
  rcases hduty with hzero | hfull
  · rw [if_pos hzero, Phase.exactNanos_of_zero hzero, if_pos rfl]
  · rw [if_neg (by simp [hfull]), if_pos hfull, Phase.exactNanos_of_hundred hfull, if_pos rfl]

end Beat

namespace Station

variable {δ : Type} [Devices δ] {settings pacer : Settings}

/-- The calls of a session on the blink timer are the armings of its beats. -/
theorem blinkCalls_undergoAll {s : Station (Observed δ)}
    (h : s.controller.Ticks settings pacer) (hvalid : settings.Valid)
    (happenings : List (Happening δ)) :
    (s.undergoAll (happenings.map Happening.observed)).devices.blinkCalls =
      s.devices.blinkCalls ++ (s.beats (happenings.map Happening.observed)).map fun beat =>
        .arm (.once (beat.delay settings.duty)) := by
  have hcalls : ∀ beats : List Beat,
      (beats.flatMap (Beat.pulses settings.duty)).filterMap Pulse.call? =
        beats.map fun beat => .arm (.once (beat.delay settings.duty)) := by
    intro beats
    induction beats with
    | nil => rfl
    | cons beat rest ih =>
      rw [List.flatMap_cons, List.filterMap_append, ih]
      rfl
  rw [Observed.blinkCalls_eq, pulses_undergoAll h hvalid, List.filterMap_append, hcalls,
    ← Observed.blinkCalls_eq]

theorem phase_of_split {duty : Duty} {beats first rest : List Beat} {beat : Beat}
    (hphases : beats.map Beat.phase = (List.range beats.length).map duty.phaseAfter)
    (hbeats : beats = first ++ beat :: rest) : beat.phase = duty.phaseAfter first.length := by
  have hplace := congrArg (·[first.length]?) hphases
  simpa [hbeats] using hplace

/-- Two phases that follow one another share one period without a rest. -/
theorem nanos_delay_add {duty : Duty} {beats first rest : List Beat} {one next : Beat}
    (hphases : beats.map Beat.phase = (List.range beats.length).map duty.phaseAfter)
    (hbeats : beats = first ++ one :: next :: rest) (hzero : duty.percent ≠ 0)
    (hfull : duty.percent ≠ 100) (hperiod : one.period = next.period) :
    (one.delay duty).nanos + (next.delay duty).nanos = one.period.nanos := by
  have hone : one.phase = duty.phaseAfter first.length := phase_of_split hphases hbeats
  have hnext : next.phase = one.phase.opposite := by
    have hsplit : beats = (first ++ [one]) ++ next :: rest := by
      rw [hbeats, List.append_assoc]
      rfl
    rw [phase_of_split hphases hsplit, List.length_append, hone]
    exact Duty.next_of_divided hzero hfull _
  rw [Beat.nanos_delay, Beat.nanos_delay, ← hperiod, hnext]
  exact Phase.exactNanos_opposite _ _ _

/-- The blinking is started once, with settings that keep every rule, after
anything and before anything.  From then on the blink timer is armed for each
beat, to expire once, and never called otherwise.  The delay is the on-phase's
or the off-phase's share of the period that is in force at the beat, or the
whole period if the duty leaves only one phase; it is never zero, never longer
than the longest period, and never cut off.  Consecutive delays of one period
sum to the period. -/
theorem blink_timing_exact (settings pacer : Settings) (hvalid : settings.check = .ok ())
    (world : δ) (before after : List (Happening δ)) (hafter : .startBlinker ∉ after) :
    let waiting := (Station.mk (.ofTwo settings pacer) (Observed.mk world [])).undergoAll
      (before.map Happening.observed)
    let session := (.startBlinker :: after).map Happening.observed
    let beats := waiting.beats session
    let percent := settings.dutyPercent.toNat
    (waiting.undergoAll session).devices.blinkCalls =
        waiting.devices.blinkCalls ++
          beats.map (fun beat => .arm (.once (beat.delay settings.duty))) ∧
      (∀ beat ∈ beats,
        let delay := beat.delay settings.duty
        let share := beat.period.nanos * percent / 100
        (0 < percent → percent < 100 → delay.nanos =
          match beat.phase with
          | .on => share
          | .off => beat.period.nanos - share) ∧
        (percent = 0 ∨ percent = 100 → delay = beat.period) ∧
        .zero < delay ∧ delay ≤ settings.range.longest ∧ delay.nanos ≤ Phase.longestNanos) ∧
      (0 < percent → percent < 100 → ∀ first one next rest,
        beats = first ++ one :: next :: rest → one.period = next.period →
        (one.delay settings.duty).nanos + (next.delay settings.duty).nanos =
          one.period.nanos) := by
  intro waiting session beats percent
  have hrules : settings.Valid := Settings.check_eq_ok_iff.mp hvalid
  have hpercent : settings.duty.percent.toNat = percent := congrArg _ hrules.percent_duty
  have hticks : waiting.controller.Ticks settings pacer :=
    ticks_undergoAll (Controller.ticks_ofTwo settings pacer) _
  obtain ⟨-, hphases, -⟩ := beats_of_begin hticks hrules hafter
  refine ⟨blinkCalls_undergoAll hticks hrules (.startBlinker :: after), ?_, ?_⟩
  · intro beat hmem delay share
    have hfits : beat.Fits settings := fits_of_mem_beats hticks hrules hmem
    have hdivides := hrules.divides hfits.shortest_le hfits.le_longest
    have hnanos : delay.nanos = beat.phase.exactNanos beat.period settings.duty :=
      Beat.nanos_delay _ _
    refine ⟨fun _ _ => ?_, fun hduty => ?_, hfits.delay_pos hrules, hfits.delay_le, ?_⟩
    · rw [hnanos]
      cases beat.phase <;> simp only [Phase.exactNanos, hpercent, share]
    · refine hfits.delay_of_undivided ?_
      rcases hduty with hzero | hfull
      · exact .inl (UInt8.toNat_inj.mp (hpercent.trans hzero))
      · exact .inr (UInt8.toNat_inj.mp (hpercent.trans hfull))
    · rw [hnanos]
      exact Nat.le_trans (Phase.exactNanos_le _ _ _) hdivides.le_longest
  · intro hlow hhigh first one next rest hbeats hperiod
    refine nanos_delay_add hphases hbeats ?_ ?_ hperiod
    · intro hzero
      rw [hzero] at hpercent
      exact absurd hpercent (Nat.ne_of_lt hlow)
    · intro hfull
      rw [hfull] at hpercent
      exact absurd hpercent (Nat.ne_of_gt hhigh)

/-- A lamp that is lit for thirty percent.  The slower button is pressed in the
second phase, the timer then fails and is read once too often: the third phase
is the first of the longer period. -/
theorem blink_timing_exact_slower :
    let settings : Settings := { dutyPercent := 30 }
    let tick : Happening Bench := .change (·.expire .blink 1)
    let after : List (Happening Bench) :=
      [tick, .notify (.timer .blink), .edge Heading.slower.press,
        .change (·.setFailing .blinkArm true), tick, .notify (.timer .blink),
        .notify (.timer .blink)]
    let waiting := (Station.mk (.ofTwo settings settings)
      (Observed.mk ({ wiring := {} } : Bench) [])).undergoAll [.startPacer]
    let s := waiting.undergoAll ((.startBlinker :: after).map Happening.observed)
    let one : Beat := ⟨.ofMillis 500, .on⟩
    let next : Beat := ⟨.ofMillis 500, .off⟩
    settings.check = .ok () ∧ .startBlinker ∉ after ∧
      s.devices.blinkCalls =
        [.arm (.once (.ofMillis 150)), .arm (.once (.ofMillis 350)),
          .arm (.once (.ofMillis 165))] ∧
      (one.delay settings.duty).nanos + (next.delay settings.duty).nanos = one.period.nanos := by
  intro settings tick after waiting s one next
  have hvalid : settings.check = .ok () :=
    Settings.check_eq_ok_iff.mpr fun rule => by cases rule <;> decide +kernel
  have hafter : .startBlinker ∉ after := by simp [after, tick]
  obtain ⟨hcalls, -, hsum⟩ := blink_timing_exact settings settings hvalid
    ({ wiring := {} } : Bench) [.startPacer] after hafter
  refine ⟨hvalid, hafter, hcalls.trans (by decide +kernel), ?_⟩
  exact hsum (by decide) (by decide) [] one next [⟨.ofMillis 550, .on⟩] (by decide +kernel) rfl

end Station

end Beacon
