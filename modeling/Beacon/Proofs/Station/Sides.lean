import Beacon.Proofs.Controller.Light
import Beacon.Proofs.Station.Apart
import Beacon.Proofs.Station.Batches

/-!
# The two sides of a station

In a world whose parts have nothing to do with each other, a station has two
sides.  The pacer, the buttons and the repeat timer are on one, and what the
blinker knows of the lamp, the lamp and the blink timer are on the other.  Each
handler works on one side: what it does there depends on that side, and the
other stays as it is.

* `pacingSide_handle_congr` and `blinkingSide_handle` are about the handlers of
  the pacing side, and with `handleAll` for `handle` about any number of them.
* `pacingSide_handle_blink` and `blinkingSide_handle_blink_congr` are about the
  blink timer's.  It has to know the period, but only for the delay of the timer,
  which the blinking side does not show.
-/

namespace Beacon.Station

variable {δ α β γ : Type} {lines : δ → α} {timer : δ → β} {light : δ → γ}

/-- The pacer with the period, and what can be seen of the buttons and the repeat
timer. -/
def pacingSide (lines : δ → α) (timer : δ → β) (s : Station (Observed δ)) :
    Controller × (α × β) × List Dealing :=
  (s.controller.dark, s.devices.side (Devices.Apart.desk lines timer) Dealing.pacing?)

/-- What the blinker knows of the lamp, and what can be seen of the lamp and the blink
timer. -/
def blinkingSide (light : δ → γ) (s : Station (Observed δ)) : Light × γ × List Dealing :=
  (s.controller.light, s.devices.side light Dealing.blinking?)

/-- Which phase comes next does not depend on the period. -/
theorem nextPhase_congr {settings : Settings} (hvalid : settings.Valid) {s s' : Station δ}
    (hticks : s.controller.Ticks settings settings)
    (hticks' : s'.controller.Ticks settings settings)
    (hlight : s.controller.light = s'.controller.light) : s.nextPhase.1 = s'.nextPhase.1 := by
  have hlit : s.controller.blinker.lit = s'.controller.blinker.lit := congrArg Light.lit hlight
  unfold nextPhase Blinker.phase
  rw [Phase.following_eq (hticks.divides hvalid), Phase.following_eq (hticks'.divides hvalid),
    hticks.made.duty, hticks'.made.duty, hlit]

theorem light_toggle (s : Station δ) :
    (s.controller.blink s.controller.blinker.toggle).1.light =
      ⟨s.nextPhase.1.lit, ⟨s.nextPhase.1.lit⟩, s.controller.blinker.toggles + 1⟩ := rfl

variable [Devices δ]

section

variable (h : Devices.Apart lines timer light) {s s' : Station (Observed δ)}

include h

/-! ## The handlers of the pacing side -/

/-- Two stations with the same pacing side are told the same by a source that is not
the blink timer. -/
theorem told?_congr {source : Source} (hne : source ≠ .timer .blink)
    (hsame : s.pacingSide lines timer = s'.pacingSide lines timer) :
    ∃ stimulus : Stimulus, stimulus.IsPacing ∧
      s.told? (.notify source) = some stimulus ∧ s'.told? (.notify source) = some stimulus ∧
      (s.consulted (.notify source)).side (Devices.Apart.desk lines timer) Dealing.pacing? =
        (s'.consulted (.notify source)).side (Devices.Apart.desk lines timer) Dealing.pacing? := by
  have hside := congrArg Prod.snd hsame
  have hworld : Devices.Apart.desk lines timer s.devices.world =
      Devices.Apart.desk lines timer s'.devices.world := congrArg Prod.fst hside
  rcases source with ⟨_ | _⟩ | button
  · exact absurd rfl hne
  · obtain ⟨hcount, hafter⟩ := h.counted.uses.behind h.counted.spares _ _ hworld
    refine ⟨.repeatExpired (Devices.expirations .repeating s.devices.world).1, trivial, rfl, ?_, ?_⟩
    · rw [hcount]
      rfl
    · show (s.devices.dealt _ (.counted .repeating _)).side _ _ =
        (s'.devices.dealt _ (.counted .repeating _)).side _ _
      rw [hcount]
      exact Observed.side_dealt_congr hside hafter rfl
  · have hline := h.readLine button
    obtain ⟨hreading, hafter⟩ := hline.uses.beside hline.spares _ _ hworld
    refine ⟨.woke button (Devices.readLine button s.devices.world).1, trivial, rfl, ?_, ?_⟩
    · rw [hreading]
      rfl
    · show (s.devices.dealt _ (.read button _)).side _ _ =
        (s'.devices.dealt _ (.read button _)).side _ _
      rw [hreading]
      exact Observed.side_dealt_congr hside hafter rfl

theorem pacingSide_handle_congr {source : Source} (hne : source ≠ .timer .blink)
    (hsame : s.pacingSide lines timer = s'.pacingSide lines timer) :
    (s.handle source).2.pacingSide lines timer = (s'.handle source).2.pacingSide lines timer := by
  obtain ⟨stimulus, hpacing, htold, htold', hconsulted⟩ := told?_congr h hne hsame
  have hdark : s.controller.dark = s'.controller.dark := congrArg Prod.fst hsame
  have hreact := Controller.react_dark (c := s.controller) hpacing
  rw [hdark, Controller.react_dark hpacing] at hreact
  obtain ⟨hafter, hactions⟩ := Prod.mk.inj hreact
  show (s.undergo (.notify source)).pacingSide lines timer =
    (s'.undergo (.notify source)).pacingSide lines timer
  rw [undergo_of_told htold, undergo_of_told htold']
  refine Prod.ext hafter.symm ?_
  show Observed.side _ _ (Devices.perform (s.controller.react stimulus).2 _).2 =
    Observed.side _ _ (Devices.perform (s'.controller.react stimulus).2 _).2
  rw [hactions]
  exact h.side_perform_congr (s.controller.pacing_react hpacing) hconsulted

/-- The handlers of the pacing side leave the other side as it is. -/
theorem blinkingSide_handle {source : Source} (hne : source ≠ .timer .blink)
    (s : Station (Observed δ)) : (s.handle source).2.blinkingSide light = s.blinkingSide light := by
  obtain ⟨stimulus, hpacing, htold, -, -⟩ := told?_congr h hne (s := s) rfl
  have hbeat : stimulus.isBeat = false := by
    cases stimulus with
    | woke | edge | repeatExpired | reset => rfl
    | seed | settle | begin | blinkExpired => cases hpacing
  have hconsulted : (s.consulted (.notify source)).side light Dealing.blinking? =
      s.devices.side light Dealing.blinking? := by
    rcases source with ⟨_ | _⟩ | button
    · exact absurd rfl hne
    · exact Observed.side_dealt_of_none (h.counted.sparesThird _) rfl
    · exact Observed.side_dealt_of_none ((h.readLine button).sparesThird _) rfl
  show (s.undergo (.notify source)).blinkingSide light = _
  rw [undergo_of_told htold]
  refine Prod.ext (Controller.light_react hbeat) ?_
  exact (h.side_perform_of_pacing (s.controller.pacing_react hpacing) _).trans hconsulted

variable {sources : List Source} (hne : ∀ source ∈ sources, source ≠ .timer .blink)

include hne

theorem pacingSide_handleAll_congr
    (hsame : s.pacingSide lines timer = s'.pacingSide lines timer) :
    (s.handleAll sources).pacingSide lines timer =
      (s'.handleAll sources).pacingSide lines timer := by
  induction sources generalizing s s' with
  | nil => exact hsame
  | cons source rest ih =>
    obtain ⟨hfirst, hrest⟩ := List.forall_mem_cons.mp hne
    exact ih hrest (pacingSide_handle_congr h hfirst hsame)

theorem blinkingSide_handleAll (s : Station (Observed δ)) :
    (s.handleAll sources).blinkingSide light = s.blinkingSide light := by
  induction sources generalizing s with
  | nil => rfl
  | cons source rest ih =>
    obtain ⟨hfirst, hrest⟩ := List.forall_mem_cons.mp hne
    exact (ih hrest _).trans (blinkingSide_handle h hfirst s)

end

/-! ## The handler of the blinking side -/

section

variable (h : Devices.Apart lines timer light)

include h

/-- The blink timer's handler leaves the pacing side as it is. -/
theorem pacingSide_handle_blink (s : Station (Observed δ)) :
    (s.handle (.timer .blink)).2.pacingSide lines timer = s.pacingSide lines timer := by
  let count := (Devices.expirations .blink s.devices).1
  have hdark : (s.controller.react (.blinkExpired count)).1.dark = s.controller.dark := by
    show (s.controller.blink (s.controller.blinker.expired count)).1.dark = _
    by_cases hcount : count = .ok 0
    · rw [hcount]
      rfl
    · rw [Controller.expired_of_ne_zero _ hcount]
      rfl
  have hasked : (Devices.expirations .blink s.devices).2.side
      (Devices.Apart.desk lines timer) Dealing.pacing? = s.devices.side _ Dealing.pacing? :=
    Observed.side_dealt_of_none (h.blinkCounted.spares.both h.blinkCounted.sparesThird _) rfl
  refine Prod.ext hdark ?_
  have hblinking := s.controller.blinker.blinking_expired count
  exact (h.side_perform_of_blinking hblinking _).trans hasked

variable {settings : Settings} {s s' : Station (Observed δ)}

/-- Stations with the same blinking side get the same count of the blink timer. -/
theorem blinkCount_congr (hsame : s.blinkingSide light = s'.blinkingSide light) :
    (Devices.expirations .blink s.devices).1 = (Devices.expirations .blink s'.devices).1 ∧
      (Devices.expirations .blink s.devices).2.side light Dealing.blinking? =
        (Devices.expirations .blink s'.devices).2.side light Dealing.blinking? := by
  have hside := congrArg Prod.snd hsame
  obtain ⟨hcount, hafter⟩ := h.blinkCounted.uses _ _ (congrArg Prod.fst hside)
  refine ⟨hcount, ?_⟩
  show (s.devices.dealt _ (.counted .blink _)).side _ _ =
    (s'.devices.dealt _ (.counted .blink _)).side _ _
  rw [hcount]
  exact Observed.side_dealt_congr hside hafter rfl

variable (hvalid : settings.Valid) (hticks : s.controller.Ticks settings settings)
  (hticks' : s'.controller.Ticks settings settings)

include hvalid hticks hticks'

theorem side_shown_congr (hsame : s.blinkingSide light = s'.blinkingSide light) :
    s.shown.side light Dealing.blinking? = s'.shown.side light Dealing.blinking? := by
  have hasked := (blinkCount_congr h hsame).2
  have hphase := nextPhase_congr hvalid hticks hticks' (congrArg Prod.fst hsame)
  have hsaid : ∀ (count : Count) (o : Observed δ),
      (Devices.perform (Blinker.remarks count) o).2.side light Dealing.blinking? =
        o.side light Dealing.blinking? := fun count o =>
    h.side_perform_of_pacing
      (fun action hmem => (Controller.talk_remarks count action hmem).isPacing) o
  unfold shown
  dsimp only
  rw [hphase]
  exact h.side_light_congr _ _ ((hsaid _ _).trans (hasked.trans (hsaid _ _).symm))

/-- Where it does not matter how long the blink timer is to be armed for, the handler
works for all stations with the same blinking side if it does for one. -/
theorem handle_blink_of_same_side (hsame : s.blinkingSide light = s'.blinkingSide light)
    (hsteady : ∀ delay delay' world world', light world = light world' →
      (Devices.arm .blink (.once delay) world).1 = .ok () →
        (Devices.arm .blink (.once delay') world').1 = .ok ())
    (hok : (s.handle (.timer .blink)).1 = .ok ()) : (s'.handle (.timer .blink)).1 = .ok () := by
  have hcount := (blinkCount_congr h hsame).1
  by_cases hstale : (Devices.expirations .blink s'.devices).1 = .ok 0
  · rw [handle_blink_of_stale hstale]
  · have hshown := side_shown_congr h hvalid hticks hticks' hsame
    rw [handle_blink_of_expired (hcount ▸ hstale)] at hok
    rw [handle_blink_of_expired hstale]
    have harmed : (Devices.arm .blink (.once s.nextPhase.2) s.shown).1 = .ok () :=
      rearm_works_iff.mp hok
    exact rearm_works_iff.mpr (hsteady _ _ _ _ (congrArg Prod.fst hshown) harmed)

/-- Two blink timers' handlers that work do the same to the same blinking side. -/
theorem blinkingSide_handle_blink_congr (hsame : s.blinkingSide light = s'.blinkingSide light)
    (hok : (s.handle (.timer .blink)).1 = .ok ())
    (hok' : (s'.handle (.timer .blink)).1 = .ok ()) :
    (s.handle (.timer .blink)).2.blinkingSide light =
      (s'.handle (.timer .blink)).2.blinkingSide light := by
  obtain ⟨hcount, hasked⟩ := blinkCount_congr h hsame
  have hlight : s.controller.light = s'.controller.light := congrArg Prod.fst hsame
  by_cases hstale : (Devices.expirations .blink s'.devices).1 = .ok 0
  · rw [handle_blink_of_stale (hcount.trans hstale), handle_blink_of_stale hstale]
    exact Prod.ext hlight hasked
  · have hshown := side_shown_congr h hvalid hticks hticks' hsame
    have hphase := nextPhase_congr hvalid hticks hticks' hlight
    rw [handle_blink_of_expired (hcount ▸ hstale)] at hok ⊢
    rw [handle_blink_of_expired hstale] at hok' ⊢
    refine Prod.ext ?_ ?_
    · have htoggles : s.controller.blinker.toggles = s'.controller.blinker.toggles :=
        congrArg Light.toggles hlight
      show (s.controller.blink _).1.light = (s'.controller.blink _).1.light
      rw [light_toggle, light_toggle, hphase, htoggles]
    · show Observed.side _ _ (Devices.perform _ _).2 = Observed.side _ _ (Devices.perform _ _).2
      rw [Devices.perform_singleton, Devices.perform_singleton]
      exact h.side_armBlink_congr .running hshown (rearm_works_iff.mp hok) (rearm_works_iff.mp hok')

end

end Beacon.Station
