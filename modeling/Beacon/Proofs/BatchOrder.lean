import Beacon.Proofs.ResetErasesHistory
import Beacon.Proofs.Station.Beats
import Beacon.Proofs.Station.Sides
import Beacon.Proofs.StepBounds

/-!
# The order within a batch

Sources that have news at once are handled in whatever order they are listed.
Where the blink timer stands among them makes no difference but to the delay
that it is armed for, because it has a side of the station to itself.  The
repeat timer and the reset button share a side, and yet end the same: whatever
a repetition does before a reset is undone by it, and after it there is nothing
to repeat.

* `Alike` is what two orders have in common, and `alike_forAll` says that
  it does not matter where the blink timer stands.
* `atRest_of_reset` and `handle_repeating_of_idle` are the two halves of the
  other result.
-/

namespace Beacon.Station

variable {δ α β γ : Type} {lines : δ → α} {timer : δ → β} {light : δ → γ}

/-! ## Where the blink timer stands -/

/-- Two stations that cannot be told apart, except by how the dealings of the one side
stand among those of the other, by how long the blink timer was armed for, and by
when it was said that it expired late. -/
structure Alike (lines : δ → α) (timer : δ → β) (light : δ → γ) (s s' : Station (Observed δ)) :
    Prop where
  controller : s.controller = s'.controller
  buttonLines : lines s.devices.world = lines s'.devices.world
  repeatTimer : timer s.devices.world = timer s'.devices.world
  lampAndBlinkTimer : light s.devices.world = light s'.devices.world
  pacing : s.devices.dealings.filterMap Dealing.pacing? =
    s'.devices.dealings.filterMap Dealing.pacing?
  blinking : s.devices.dealings.filterMap Dealing.blinking? =
    s'.devices.dealings.filterMap Dealing.blinking?

theorem Alike.of_sides {s s' : Station (Observed δ)}
    (hpacing : s.pacingSide lines timer = s'.pacingSide lines timer)
    (hblinking : s.blinkingSide light = s'.blinkingSide light) : Alike lines timer light s s' := by
  have hdesk := congrArg (fun side => side.2.1) hpacing
  exact ⟨Controller.eq_of_dark_of_light (congrArg Prod.fst hpacing) (congrArg Prod.fst hblinking),
    congrArg Prod.fst hdesk, congrArg Prod.snd hdesk, congrArg (fun side => side.2.1) hblinking,
    congrArg (fun side => side.2.2) hpacing, congrArg (fun side => side.2.2) hblinking⟩

variable [Devices δ]

theorem ticks_handleAll {settings pacer : Settings} {s : Station δ}
    (h : s.controller.Ticks settings pacer) (sources : List Source) :
    (s.handleAll sources).controller.Ticks settings pacer := by
  induction sources generalizing s with
  | nil => exact h
  | cons source rest ih => exact ih (ticks_undergo h (.notify source))

section

variable (h : Devices.Apart lines timer light) {before after before' after' : List Source}

include h

/-- The pacing side of a batch is that of the batch without the blink timer. -/
theorem pacingSide_handleAll_blink (hne : ∀ source ∈ before ++ after, source ≠ .timer .blink)
    (s : Station (Observed δ)) :
    (s.handleAll (before ++ .timer .blink :: after)).pacingSide lines timer =
      (s.handleAll (before ++ after)).pacingSide lines timer := by
  obtain ⟨-, hafter⟩ := List.forall_mem_append.mp hne
  rw [handleAll_append, handleAll_append]
  exact pacingSide_handleAll_congr h hafter (pacingSide_handle_blink h _)

variable {settings : Settings} {s : Station (Observed δ)}
  (hne : ∀ source ∈ before ++ after, source ≠ .timer .blink)
  (hsame : before ++ after = before' ++ after')

include hne hsame

/-- The blink timer finds its side as it was, wherever it stands. -/
theorem blinkingSide_before_congr :
    (s.handleAll before).blinkingSide light = (s.handleAll before').blinkingSide light := by
  have hbefore := (List.forall_mem_append.mp hne).1
  have hbefore' := (List.forall_mem_append.mp (hsame ▸ hne)).1
  exact (blinkingSide_handleAll h hbefore s).trans (blinkingSide_handleAll h hbefore' s).symm

variable (hvalid : settings.Valid) (hticks : s.controller.Ticks settings settings)

include hvalid hticks

/-- Batches with the blink timer in different places end alike, if they work. -/
theorem alike_forAll
    (hok : (forAll handle (before ++ .timer .blink :: after) s).1 = .ok ())
    (hok' : (forAll handle (before' ++ .timer .blink :: after') s).1 = .ok ()) :
    Alike lines timer light (forAll handle (before ++ .timer .blink :: after) s).2
      (forAll handle (before' ++ .timer .blink :: after') s).2 := by
  have hne' := hsame ▸ hne
  have hafter := (List.forall_mem_append.mp hne).2
  have hafter' := (List.forall_mem_append.mp hne').2
  have hblinked := blinkingSide_handle_blink_congr h hvalid (ticks_handleAll hticks before)
    (ticks_handleAll hticks before') (blinkingSide_before_congr h hne hsame)
    ((forAll_handle_blink_works_iff hne).mp hok) ((forAll_handle_blink_works_iff hne').mp hok')
  rw [forAll_handle_snd hok, forAll_handle_snd hok']
  refine .of_sides ?_ ?_
  · rw [pacingSide_handleAll_blink h hne, hsame, pacingSide_handleAll_blink h hne']
  · rw [handleAll_append, handleAll_append]
    exact (blinkingSide_handleAll h hafter _).trans
      (hblinked.trans (blinkingSide_handleAll h hafter' _).symm)

/-- Where it does not matter how long the blink timer is to be armed for, one order
works if another does. -/
theorem forAll_of_moved
    (hsteady : ∀ delay delay' world world', light world = light world' →
      (Devices.arm .blink (.once delay) world).1 = .ok () →
        (Devices.arm .blink (.once delay') world').1 = .ok ())
    (hok : (forAll handle (before ++ .timer .blink :: after) s).1 = .ok ()) :
    (forAll handle (before' ++ .timer .blink :: after') s).1 = .ok () := by
  refine (forAll_handle_blink_works_iff (hsame ▸ hne)).mpr ?_
  exact handle_blink_of_same_side h hvalid (ticks_handleAll hticks before)
    (ticks_handleAll hticks before') (blinkingSide_before_congr h hne hsame) hsteady
    ((forAll_handle_blink_works_iff hne).mp hok)

end

/-! ## The repeat timer and the reset button -/

section

variable {settings : Settings} {world : δ} {history : List (Happening δ)} {s : Station (Observed δ)}
  (hsession : s = (Station.mk (.ofSettings settings) (Observed.mk world [])).undergoAll
    (history.map Happening.observed))

include hsession

/-- A line that reads pressed for a reset button that was not known to be confirms a
reset. -/
theorem confirmed?_reset (hup : (s.controller.pacer.button .k2).pressed = false)
    (hdown : (Devices.readLine .k2 s.devices).1 = .ok settings.wiring.buttonsActiveHigh) :
    s.confirmed? (.notify (.button .k2)) = some .reset := by
  have hmade : s.controller.MadeFrom settings settings := by
    rw [hsession]
    exact madeFrom_undergoAll (Controller.madeFrom_ofTwo settings settings) _
  let button := s.controller.pacer.button .k2
  have hhigh : button.activeHigh = settings.wiring.buttonsActiveHigh := hmade.activeHigh .k2
  have hpressed : ((s.controller.heard (.woke .k2 (.ok button.activeHigh))).pacer.button
      .k2).pressed = true := by
    simp [Controller.heard, PushButton.sync, PushButton.meansPressed, button]
  have hedge : button.edgeTo true = .reset := by
    unfold PushButton.edgeTo
    rw [show button.id = .k2 from hmade.id .k2]
    rfl
  show s.controller.confirmed? (.woke .k2 (Devices.readLine .k2 s.devices).1) = some .reset
  rw [hdown, ← hhigh]
  refine Controller.confirmed?_woke_eq_some_iff.mpr ⟨?_, ?_⟩
  · rw [hpressed, hup]
    decide
  · rw [hpressed]
    exact hedge.symm

/-- A reset leads to rest, if the repeat timer lets itself be stopped. -/
theorem atRest_of_reset (last : Happening δ) (hreset : s.confirmed? last.observed = some .reset)
    {dealt : List Dealing} (hdealt : dealt <+: s.devices.dealings)
    (hworked : ∀ dealing ∈ (s.undergo last.observed).devices.dealings.drop dealt.length,
      dealing.worked = true) : (s.undergo last.observed).AtRest settings := by
  refine .afterReset hsession hreset ?_
  obtain ⟨stimulus, htold, hconfirmed⟩ := Option.bind_eq_some_iff.mp hreset
  obtain ⟨rest, hactions, -⟩ := (s.controller.heard stimulus).reset_snd
  let asked := s.consulted last.observed
  let stopped : Dealing := .disarmed .repeating (Devices.disarm .repeating asked).1
  have hstop : asked.dealings ++ [stopped] <+: (s.undergo last.observed).devices.dealings := by
    rw [undergo_of_told htold]
    show _ <+: Observed.dealings (Devices.perform (s.controller.react stimulus).2 asked).2
    rw [Controller.react_of_confirmed hconfirmed, Controller.edge_reset, hactions,
      Devices.perform_cons_of_not_mayStop id]
    have hexecuted := Observed.dealings_execute (.disarmRepeat .running) asked
    exact hexecuted ▸ Observed.dealings_prefix_perform rest _
  obtain ⟨before, hbefore⟩ := hdealt.trans (s.dealings_prefix_consulted last.observed)
  obtain ⟨after, hafter⟩ := hstop
  refine Dealing.ok_of_worked (hworked stopped ?_)
  rw [← hafter, ← hbefore, List.append_assoc, List.append_assoc, List.drop_left]
  simp

end

/-- Where nothing drives, an expiry of the repeat timer does nothing, and a timer at
rest stays at rest. -/
theorem handle_repeating_of_idle {view : δ → TimerView} (hview : Devices.Honours view)
    {s : Station (Observed δ)} (hidle : s.controller.heading = none)
    (hrest : view s.devices.world = ⟨false, 0⟩) :
    (s.handle (.timer .repeating)).2.controller = s.controller ∧
      view (s.handle (.timer .repeating)).2.devices.world = ⟨false, 0⟩ := by
  let count := (Devices.expirations .repeating s.devices).1
  obtain ⟨hsame, htalk⟩ := s.controller.repeatExpired_of_idle count hidle
  obtain ⟨harmed, hpending⟩ := s.view_consulted hview (.notify (.timer .repeating))
  refine ⟨hsame, ?_⟩
  rw [hrest] at harmed hpending
  have hasked : view (s.consulted (.notify (.timer .repeating))).world = ⟨false, 0⟩ :=
    congr (congrArg TimerView.mk harmed) (Nat.le_zero.mp hpending)
  exact (Devices.view_perform_of_no_call hview.observed
    (fun action hmem => (htalk action hmem).no_call) _).trans hasked

section

variable {settings : Settings} {world : δ} {history : List (Happening δ)} {s : Station (Observed δ)}
  (hsession : s = (Station.mk (.ofSettings settings) (Observed.mk world [])).undergoAll
    (history.map Happening.observed))
  (hup : (s.controller.pacer.button .k2).pressed = false)
  (hdown : (Devices.readLine .k2 s.devices).1 = .ok settings.wiring.buttonsActiveHigh)

include hsession hup hdown

/-- A reset by its button, and then an expiry of the repeat timer that was still to be
handled. -/
theorem home_of_reset_repeat {view : δ → TimerView} (hview : Devices.Honours view)
    (hworked : ∀ dealing ∈ (s.handleAll [.button .k2, .timer .repeating]).devices.dealings.drop
      s.devices.dealings.length, dealing.worked = true) :
    let ended := s.handleAll [.button .k2, .timer .repeating]
    ended.controller.AtHome settings ∧ view ended.devices.world = ⟨false, 0⟩ := by
  intro ended
  let reset := s.undergo (.notify (.button .k2))
  have hreset : reset.AtRest settings := by
    refine atRest_of_reset hsession (.notify (.button .k2))
      (confirmed?_reset hsession hup hdown) List.prefix_rfl ?_
    intro dealing hmem
    obtain ⟨later, hlater⟩ := reset.dealings_prefix_handleAll [.timer .repeating]
    refine hworked dealing ?_
    show dealing ∈ (reset.handleAll [.timer .repeating]).devices.dealings.drop _
    rw [← hlater, List.drop_append]
    exact List.mem_append_left _ hmem
  have hhome := hreset.atHome
  obtain ⟨hsame, hrest⟩ := handle_repeating_of_idle hview hhome.idle (hreset.view_eq hview)
  refine ⟨?_, hrest⟩
  show (reset.handle (.timer .repeating)).2.controller.AtHome settings
  rw [hsame]
  exact hhome

/-- An expiry of the repeat timer, and then a reset by its button. -/
theorem home_of_repeat_reset (hapart : Devices.Apart lines timer light)
    (hworked : ∀ dealing ∈ (s.handleAll [.timer .repeating, .button .k2]).devices.dealings.drop
      s.devices.dealings.length, dealing.worked = true) :
    (s.handleAll [.timer .repeating, .button .k2]).AtRest settings := by
  let expiry : Happening δ := .notify (.timer .repeating)
  let expired := s.undergo expiry.observed
  let stimulus : Stimulus := .repeatExpired (Devices.expirations .repeating s.devices).1
  have hpacing : stimulus.IsPacing := trivial
  have hlines : lines expired.devices.world = lines s.devices.world :=
    (hapart.lines_perform_of_pacing (s.controller.pacing_react hpacing) _).trans
      (hapart.counted.spares s.devices.world)
  have hbutton : expired.controller.pacer.button .k2 = s.controller.pacer.button .k2 :=
    s.controller.button_react .k2 stimulus
  have hexpired : expired = (Station.mk (.ofSettings settings) (Observed.mk world [])).undergoAll
      ((history ++ [expiry]).map Happening.observed) := by
    rw [List.map_append, undergoAll_append, ← hsession]
    rfl
  have hreading :
      (Devices.readLine .k2 expired.devices).1 = .ok settings.wiring.buttonsActiveHigh :=
    ((hapart.readLine .k2).uses _ _ hlines).1.trans hdown
  have hreset := confirmed?_reset hexpired (hbutton ▸ hup) hreading
  exact atRest_of_reset hexpired (.notify (.button .k2)) hreset
    (s.dealings_prefix_handleAll [.timer .repeating]) hworked

end

/-- Where the blink timer stands in a batch of distinct sources makes no difference,
as long as it can be armed again: the controller, the buttons, the repeat timer, the
lamp and the blink timer are the same in the end, and so is what the batch adds to the
dealings on either side, but for the delay that the blink timer is armed for.  If it
does not matter to the blink timer how long it is to be armed for, it can be armed
again in every order or in none.

The repeat timer and the reset button can be handled in either order as well: if
that button has gone down and no call on the repeat timer fails, both orders lead
home, with the repeat timer stopped and nothing pending. -/
theorem batch_order_irrelevant {settings : Settings} (hvalid : settings.check = .ok ())
    (hapart : Devices.Apart lines timer light) (world : δ) (history : List (Happening δ)) :
    let s := (Station.mk (.ofSettings settings) (Observed.mk world [])).undergoAll
      (history.map Happening.observed)
    (∀ before after before' after',
      (before ++ .timer .blink :: after).Nodup → before ++ after = before' ++ after' →
        let batch := forAll handle (before ++ .timer .blink :: after) s
        let moved := forAll handle (before' ++ .timer .blink :: after') s
        (batch.1 = .ok () → moved.1 = .ok () →
          Alike lines timer light batch.2 moved.2 ∧
            s.devices.dealings <+: batch.2.devices.dealings ∧
            s.devices.dealings <+: moved.2.devices.dealings) ∧
        ((∀ delay delay' world world', light world = light world' →
            (Devices.arm .blink (.once delay) world).1 = .ok () →
              (Devices.arm .blink (.once delay') world').1 = .ok ()) →
          (batch.1 = .ok () ↔ moved.1 = .ok ()))) ∧
    ∀ view, Devices.Honours view → (s.controller.pacer.button .k2).pressed = false →
      (Devices.readLine .k2 s.devices).1 = .ok settings.wiring.buttonsActiveHigh →
      ∀ batch, batch = [.timer .repeating, .button .k2] ∨
          batch = [.button .k2, .timer .repeating] →
        let ended := (forAll handle batch s).2
        (∀ dealing ∈ ended.devices.dealings.drop s.devices.dealings.length,
          dealing.worked = true) →
        (forAll handle batch s).1 = .ok () ∧
          ended.controller.blinker.period = settings.period ∧
          ended.controller.pacer.ramp.period = settings.period ∧
          ended.controller.heading = none ∧
          (∀ heading : Heading, ended.controller.pacer.isHeld heading.button = false) ∧
          view ended.devices.world = ⟨false, 0⟩ := by
  intro s
  have hrules : settings.Valid := settings.check_eq_ok_iff.mp hvalid
  have hticks : s.controller.Ticks settings settings :=
    ticks_undergoAll (Controller.ticks_ofTwo settings settings) _
  refine ⟨?_, ?_⟩
  · intro before after before' after' hnodup hsame batch moved
    have hne : ∀ source ∈ before ++ after, source ≠ .timer .blink := by
      rintro source hmem rfl
      exact (List.nodup_cons.mp (List.perm_middle.nodup_iff.mp hnodup)).1 hmem
    have hne' := hsame ▸ hne
    have hprefix : ∀ {sources}, (forAll handle sources s).1 = .ok () →
        s.devices.dealings <+: (forAll handle sources s).2.devices.dealings := by
      intro sources hok
      rw [forAll_handle_snd hok]
      exact s.dealings_prefix_handleAll sources
    refine ⟨fun hok hok' => ⟨?_, hprefix hok, hprefix hok'⟩, fun hsteady => ⟨?_, ?_⟩⟩
    · exact alike_forAll hapart hne hsame hrules hticks hok hok'
    · exact forAll_of_moved hapart hne hsame hrules hticks hsteady
    · exact forAll_of_moved hapart hne' hsame.symm hrules hticks hsteady
  · intro view hview hup hdown batch hbatch ended hworked
    have hne : ∀ source ∈ batch, source ≠ .timer .blink := by
      rcases hbatch with rfl | rfl <;> simp
    have hall := forAll_handle_of_ne_blink hne s
    have hended : ended = s.handleAll batch := congrArg Prod.snd hall
    have hhome : ended.controller.AtHome settings ∧ view ended.devices.world = ⟨false, 0⟩ := by
      rw [hended] at hworked ⊢
      rcases hbatch with rfl | rfl
      · have hrest := home_of_repeat_reset rfl hup hdown hapart hworked
        exact ⟨hrest.atHome, hrest.view_eq hview⟩
      · exact home_of_reset_repeat rfl hup hdown hview hworked
    obtain ⟨hhome, hview⟩ := hhome
    refine ⟨congrArg Prod.fst hall, hhome.period.trans hrules.home_eq,
      hhome.rampPeriod.trans hrules.home_eq, hhome.idle, ?_, hview⟩
    intro heading
    rw [Pacer.isHeld_button]
    exact hhome.held heading

/-- While the faster button is held, the blink timer and the repeat timer expire at the
same time, and the reset button goes down.  Either timer may be handled first; only
the phase that begins is longer if the blink timer is.  The repeat timer and the reset
button may change places as well. -/
theorem batch_order_irrelevant_coincident :
    let history : List (Happening VirtualClock) :=
      [.startPacer, .startBlinker, .edge Heading.faster.press, .change (·.upTo (.ofMillis 500)),
        .change (·.move ⟨.ofMillis 500, .k2, true⟩)]
    let s := (Station.mk (.ofSettings {}) (Observed.mk ({} : VirtualClock) [])).undergoAll
      (history.map Happening.observed)
    let ended (batch : List Source) := (forAll handle batch s).2
    ({} : Settings).check = .ok () ∧
      Alike VirtualClock.wires VirtualClock.repeatPart VirtualClock.blinkPart
        (ended [.timer .blink, .timer .repeating]) (ended [.timer .repeating, .timer .blink]) ∧
      (ended [.timer .repeating, .timer .blink]).devices.world.blink.deadline =
        some (.ofMillis 700) ∧
      (ended [.timer .blink, .timer .repeating]).devices.world.blink.deadline =
        some (.ofMillis 725) ∧
      s.controller.blinker.period = .ofMillis 450 ∧
      ∀ batch, batch = [.timer .repeating, .button .k2] ∨
          batch = [.button .k2, .timer .repeating] →
        (ended batch).controller.blinker.period = .ofMillis 500 ∧
          (ended batch).devices.world.repeatView = ⟨false, 0⟩ := by
  intro history s ended
  have hvalid : ({} : Settings).check = .ok () := rfl
  obtain ⟨hmoved, hreset⟩ := batch_order_irrelevant hvalid VirtualClock.apart {} history
  obtain ⟨halike, -⟩ := hmoved [] [.timer .repeating] [.timer .repeating] [] (by decide) rfl
  refine ⟨hvalid, ?_, by decide +kernel, by decide +kernel, by decide +kernel, ?_⟩
  · have hworks : ∀ {result : Except Fault Unit}, result.isOk = true → result = .ok () := by
      rintro (fault | ⟨⟩) hok
      · cases hok
      · rfl
    exact (halike (hworks (by decide +kernel)) (hworks (by decide +kernel))).1
  · intro batch hbatch
    have hworked : ∀ dealing ∈ (ended batch).devices.dealings.drop s.devices.dealings.length,
        dealing.worked = true := by
      rcases hbatch with rfl | rfl <;> decide +kernel
    obtain ⟨-, hperiod, -, -, -, hview⟩ := hreset _ VirtualClock.honours_repeatView
      (by decide +kernel) rfl batch hbatch hworked
    exact ⟨hperiod, hview⟩

end Beacon.Station
