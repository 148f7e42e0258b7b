import Beacon.Proofs.Controller.Home
import Beacon.Proofs.Controller.Light
import Beacon.Proofs.NoRunaway
import Beacon.Proofs.RepeatTimer
import Beacon.Proofs.Station.Dealings
import Beacon.Proofs.Station.Script

/-!
# A reset erases the history

After a reset that stops the repeat timer, nothing is left of what has
happened before but what is known of the buttons.  A station that has just
started up is in the same state.

* `Controller.AtHome` is what a reset and a start leave behind.
* Two controllers at home that know the same of the buttons are one in the
  dark: `AtHome.dark_eq`.
* `Station.AtRest` lists the two ways to come to rest, and
  `outward_followAll` is what one run shows of a script.
-/

namespace Beacon

namespace Controller

variable {settings : Settings} {c c' : Controller}

theorem AtHome.dark_eq (h : c.AtHome settings) (h' : c'.AtHome settings)
    (hpacer : c.pacer = c'.pacer) : c.dark = c'.dark := by
  have hblinker : c.dark.blinker = c'.dark.blinker :=
    Blinker.ext (h.period.trans h'.period.symm) (h.made.range.trans h'.made.range.symm)
      (h.made.duty.trans h'.made.duty.symm) rfl rfl rfl
  exact Controller.ext hblinker hpacer

end Controller

/-! ## What a station shows -/

/-- What a dealing shows to the outside: an event, or a call on the repeat timer. -/
def Dealing.outward? : Dealing → Option (Event ⊕ Bench.Call)
  | .emitted event => some (.inl event)
  | dealing => dealing.repeatCall?.map .inr

/-- What an action shows to the outside. -/
def Action.outward? : Action → Option (Event ⊕ Bench.Call)
  | .emit event => some (.inl event)
  | action => action.repeatCall?.map .inr

/-- What a record shows to the outside, in order. -/
def Observed.outward {δ : Type} (o : Observed δ) : List (Event ⊕ Bench.Call) :=
  o.dealings.filterMap Dealing.outward?

theorem Devices.outward?_dealing {δ : Type} [Devices δ] (world : δ) (action : Action) :
    (dealing? world action).bind Dealing.outward? = action.outward? := by
  cases action <;> rfl

/-- What follows a stop that works leaves the timer stopped, if it asks nothing
more of it. -/
theorem Devices.view_perform_of_stop {δ : Type} [Devices δ] {view : δ → TimerView}
    (h : Honours view) {occasion : Occasion} {rest : List Action}
    (hrest : ∀ action ∈ rest, action.repeatCall? = none) {world : δ}
    (hstopped : (disarm .repeating world).1 = .ok ()) :
    view (perform (.disarmRepeat occasion :: rest) world).2 = ⟨false, 0⟩ := by
  have hdisarm := h.disarm world hstopped
  simp only [perform, execute]
  generalize disarm .repeating world = answer at hstopped hdisarm ⊢
  obtain ⟨result, world'⟩ := answer
  cases hstopped
  exact (view_perform_of_no_call h hrest world').trans hdisarm

theorem Devices.stopped_of_settled {δ : Type} [Devices δ] {world : δ}
    (h : (perform [.disarmRepeat .start] world).1 = .ok ()) :
    (disarm .repeating world).1 = .ok () := by
  simp only [perform, execute] at h
  generalize disarm .repeating world = answer at h ⊢
  obtain ⟨fault | ⟨⟩, world'⟩ := answer
  · cases h
  · rfl

namespace Station

section

variable {δ : Type} [Devices δ]

/-- What a script for the pacer shows is what its stimuli make the controller do,
whatever fails and whatever the world does in between. -/
theorem outward_followAll (s : Station (Observed δ)) {cues : List (Cue δ)}
    (h : ∀ stimulus ∈ cues.filterMap Cue.told?, stimulus.IsPacing) :
    (s.followAll cues).devices.outward =
      s.devices.outward ++
        (s.controller.run (cues.filterMap Cue.told?)).2.filterMap Action.outward? := by
  induction cues generalizing s with
  | nil => exact (List.append_nil _).symm
  | cons cue rest ih =>
    cases cue with
    | change f => exact ih (s.follow (.change f)) h
    | tell stimulus =>
      obtain ⟨hfirst, hrest⟩ := List.forall_mem_cons.mp h
      have hstop : ∀ action ∈ (s.controller.react stimulus).2.dropLast, ¬action.MayStop :=
        fun action hmem => s.controller.not_mayStop_react hfirst action (List.dropLast_subset _ hmem)
      have hanswer : (s.follow (.tell stimulus)).devices.outward =
          s.devices.outward ++ (s.controller.react stimulus).2.filterMap Action.outward? :=
        Observed.filterMap_perform Devices.outward?_dealing hstop s.devices
      rw [followAll_cons, ih _ hrest, hanswer, List.append_assoc, ← List.filterMap_append]
      rfl

/-! ## Stations at rest -/

/-- A station at rest: it has just been reset after any session, or it has just
started up after it was made, and the repeat timer has been stopped. -/
inductive AtRest (settings : Settings) : Station (Observed δ) → Prop where
  | afterReset {world : δ} {history : List (Happening δ)} {last : Happening δ}
      {s : Station (Observed δ)}
      (hsession : s = (Station.mk (.ofSettings settings) (Observed.mk world [])).undergoAll
        (history.map Happening.observed))
      (hreset : s.confirmed? last.observed = some .reset)
      (hstopped : (Devices.disarm .repeating (s.consulted last.observed)).1 = .ok ()) :
      AtRest settings (s.undergo last.observed)
  | afterStart {world : δ} {s : Station (Observed δ)}
      (hmade : s = Station.mk (.ofSettings settings) (Observed.mk world []))
      (hstarted : s.startPacer.1 = .ok ()) :
      AtRest settings (s.undergo .startPacer)

variable {settings : Settings} {s : Station (Observed δ)}

theorem AtRest.atHome (h : s.AtRest settings) : s.controller.AtHome settings := by
  cases h with
  | @afterReset world history last s hsession hreset =>
    obtain ⟨stimulus, htold, hconfirmed⟩ := Option.bind_eq_some_iff.mp hreset
    have hmade : s.controller.MadeFrom settings settings := by
      rw [hsession]
      exact madeFrom_undergoAll (Controller.madeFrom_ofTwo settings settings) _
    rw [controller_undergo_of_told htold, Controller.react_of_confirmed hconfirmed]
    exact Controller.atHome_reset (hmade.heard stimulus)
  | @afterStart world s hmade =>
    subst hmade
    have hseeded := controller_started settings settings world
    refine ⟨madeFrom_started settings settings world, ?_, ?_, ?_, ?_⟩
    · show (started settings settings world).controller.blinker.period = _
      rw [hseeded]
      simp only [seededAll, controller_seeded, Controller.blinker_heard]
      rfl
    · show (started settings settings world).controller.pacer.ramp.period = _
      rw [hseeded]
      simp only [seededAll, controller_seeded, Controller.ramp_heard]
      rfl
    · show (started settings settings world).controller.heading = _
      rw [hseeded]
      exact heading_seededAll settings settings world
    · intro heading
      show (started settings settings world).controller.pacer.held heading = _
      rw [hseeded]
      exact held_seededAll settings settings world heading

/-- The repeat timer of a station at rest is stopped, and nothing is pending. -/
theorem AtRest.view_eq (h : s.AtRest settings) {view : δ → TimerView}
    (hview : Devices.Honours view) : view s.devices.world = ⟨false, 0⟩ := by
  cases h with
  | @afterReset world history last s hsession hreset hstopped =>
    obtain ⟨stimulus, htold, hconfirmed⟩ := Option.bind_eq_some_iff.mp hreset
    obtain ⟨rest, hactions, htalk⟩ := (s.controller.heard stimulus).reset_snd
    rw [undergo_of_told htold]
    show view (Observed.world (Devices.perform (s.controller.react stimulus).2 _).2) = _
    rw [Controller.react_of_confirmed hconfirmed, Controller.edge_reset, hactions]
    exact Devices.view_perform_of_stop hview.observed
      (fun action hmem => (htalk action hmem).no_call) hstopped
  | @afterStart world s hmade hstarted =>
    have hsettled : (Devices.perform [.disarmRepeat .start]
        (((s.seeded .k1).seeded .k2).seeded .k3).devices).1 = .ok () := by
      rw [startPacer_eq] at hstarted
      exact hstarted
    show view (Observed.world s.startPacer.2.devices) = _
    rw [startPacer_eq]
    exact Devices.view_perform_of_stop hview.observed (by simp)
      (Devices.stopped_of_settled hsettled)

end

variable {δ₁ δ₂ : Type} [Devices δ₁] [Devices δ₂]

/-- Two stations at rest that were made from the same settings and know the
same of their buttons are in the same state, whatever has happened to either.
The pacer, the period and the repeat timer are as they would be after a start.
So both answer every script for the pacer alike: they show the same events and
calls, and have the same period after each part of it.  Another reset only
stops the repeat timer once more. -/
theorem reset_erases_history {settings : Settings} {s₁ : Station (Observed δ₁)}
    {s₂ : Station (Observed δ₂)} (h₁ : s₁.AtRest settings) (h₂ : s₂.AtRest settings)
    (hpressed : ∀ id, (s₁.controller.pacer.button id).pressed =
      (s₂.controller.pacer.button id).pressed) :
    s₁.controller.pacer = s₂.controller.pacer ∧
      s₁.controller.blinker.period = s₂.controller.blinker.period ∧
      (∀ (view₁ : δ₁ → TimerView) (view₂ : δ₂ → TimerView), Devices.Honours view₁ →
        Devices.Honours view₂ →
          view₁ s₁.devices.world = ⟨false, 0⟩ ∧ view₂ s₂.devices.world = ⟨false, 0⟩) ∧
      (∀ (cues₁ : List (Cue δ₁)) (cues₂ : List (Cue δ₂)),
        cues₁.filterMap Cue.told? = cues₂.filterMap Cue.told? →
        (∀ stimulus ∈ cues₁.filterMap Cue.told?, stimulus.IsPacing) →
          let end₁ := s₁.followAll cues₁
          let end₂ := s₂.followAll cues₂
          end₁.controller.pacer = end₂.controller.pacer ∧
            end₁.controller.blinker.period = end₂.controller.blinker.period ∧
            ∃ later, end₁.devices.outward = s₁.devices.outward ++ later ∧
              end₂.devices.outward = s₂.devices.outward ++ later) ∧
      ∀ again, again = .edge .reset ∨ again = .reset →
        (s₁.undergo again).controller = s₁.controller ∧
          ∃ result, (s₁.undergo again).devices.dealings =
            s₁.devices.dealings ++ [.disarmed .repeating result] := by
  have hhome₁ := h₁.atHome
  have hhome₂ := h₂.atHome
  have hpacer := hhome₁.pacer_eq hhome₂ hpressed
  have hdark := hhome₁.dark_eq hhome₂ hpacer
  refine ⟨hpacer, hhome₁.period.trans hhome₂.period.symm, ?_, ?_, ?_⟩
  · intro view₁ view₂ hview₁ hview₂
    exact ⟨h₁.view_eq hview₁, h₂.view_eq hview₂⟩
  · intro cues₁ cues₂ hsame hpacing end₁ end₂
    have hrun := Controller.run_dark (c := s₁.controller) hpacing
    rw [hdark, Controller.run_dark hpacing] at hrun
    obtain ⟨hend, hactions⟩ := Prod.ext_iff.mp hrun
    have hend₁ : end₁.controller = _ := controller_followAll s₁ cues₁
    have hend₂ : end₂.controller = _ := controller_followAll s₂ cues₂
    have hout₁ := s₁.outward_followAll hpacing
    have hout₂ := s₂.outward_followAll (hsame ▸ hpacing)
    rw [← hsame] at hend₂ hout₂
    rw [← hactions] at hout₁
    rw [hend₁, hend₂]
    exact ⟨congrArg (fun c => c.pacer) hend.symm, congrArg (fun c => c.blinker.period) hend.symm,
      _, hout₁, hout₂⟩
  · intro again hagain
    have hagain : s₁.undergo again = ⟨s₁.controller, (Devices.perform
        [.disarmRepeat .running, .note (.restored settings.home)] s₁.devices).2⟩ := by
      have hreset : (s₁.feed .reset).2 = ⟨s₁.controller.reset.1,
          (Devices.perform s₁.controller.reset.2 s₁.devices).2⟩ := rfl
      rw [hhome₁.reset_eq] at hreset
      rcases hagain with rfl | rfl
      · exact hreset
      · exact hreset
    rw [hagain]
    refine ⟨rfl, (Devices.disarm .repeating s₁.devices.world).1, ?_⟩
    rw [Devices.perform_cons_of_not_mayStop id]
    exact Observed.dealings_execute (.disarmRepeat .running) s₁.devices

/-- The reset button goes down while a hold is under way and the period has
moved.  From then on the station does what one does that starts up with that
button down, even if the repeat timer of one of them cannot be armed. -/
theorem reset_erases_history_hold :
    let low : Bench := { wiring := {} }
    let high : Bench := low.setLevel .k2 (.level true)
    let history : List (Happening Bench) :=
      [.edge Heading.faster.press, .change (·.expire .repeating 1), .notify (.timer .repeating),
        .change (·.setLevel .k2 (.level true))]
    let last : Happening Bench := .notify (.button .k2)
    let held := (Station.mk (.ofSettings {}) (Observed.mk low [])).undergoAll
      (history.map Happening.observed)
    let s₁ := held.undergo last.observed
    let s₂ := (Station.mk (.ofSettings {}) (Observed.mk high [])).undergo .startPacer
    let press : Cue Bench := .tell (.woke .k3 (.ok true))
    held.controller.blinker.period ≠ ({} : Settings).home ∧ held.controller.heading ≠ none ∧
      s₁.AtRest {} ∧ s₂.AtRest {} ∧ s₁.controller.pacer = s₂.controller.pacer ∧
      ∃ later, (s₁.followAll [press]).devices.outward = s₁.devices.outward ++ later ∧
        (s₂.followAll [.change (·.setFailing .repeatArm true), press]).devices.outward =
          s₂.devices.outward ++ later := by
  intro low high history last held s₁ s₂ press
  have hworks : ∀ {ε : Type} {result : Except ε Unit}, result.isOk = true → result = .ok () := by
    rintro ε (fault | ⟨⟩) hok
    · cases hok
    · rfl
  have h₁ : s₁.AtRest {} :=
    .afterReset rfl (by decide +kernel) (hworks (by decide +kernel))
  have h₂ : s₂.AtRest {} := .afterStart rfl (hworks (by decide +kernel))
  have hpressed : ∀ id, (s₁.controller.pacer.button id).pressed =
      (s₂.controller.pacer.button id).pressed := by
    intro id
    cases id <;> decide +kernel
  have hpacing : ∀ stimulus ∈ [press].filterMap Cue.told?, stimulus.IsPacing := by
    intro stimulus hmem
    obtain rfl := List.mem_singleton.mp hmem
    trivial
  obtain ⟨hpacer, -, -, hcues, -⟩ := reset_erases_history h₁ h₂ hpressed
  obtain ⟨-, -, hlater⟩ :=
    hcues [press] [.change (·.setFailing .repeatArm true), press] rfl hpacing
  exact ⟨by decide +kernel, by decide +kernel, h₁, h₂, hpacer, hlater⟩

end Station

end Beacon
