import Beacon.Proofs.Station.Dealings

/-!
# The discipline of the repeat timer

After any session, the last call on the repeat timer armed it if a button
drives, and stopped it if none does; whether the calls work makes no
difference, since the controller never hears of it.  Where they do work and
the timer keeps its contract, it is armed or has something pending exactly
while a button drives, so nothing of an earlier hold is left for a later one.

* `Observed.lastCall` is the last call, read off the dealings.
* `lastCall_feed_of_sets` and `view_feed_of_sets` say what one answer makes of
  the last call and of the timer: both rest on `Controller.Paces`.
* `Changes` says of which kind the changes in a session are: that each of them
  leaves the repeat timer to its contract, or that none lets it expire.
* `keeps_worked` is the induction over a session whose calls work.
-/

namespace Beacon

/-- What a dealing asked of the repeat timer, whether or not it worked. -/
def Dealing.repeatCall? : Dealing → Option Bench.Call
  | .armed .repeating schedule _ => some (.arm schedule)
  | .disarmed .repeating _ => some .disarm
  | _ => none

theorem Devices.repeatCall?_dealing {δ : Type} [Devices δ] (world : δ) (action : Action) :
    (dealing? world action).bind Dealing.repeatCall? = action.repeatCall? := by
  cases action <;> rfl

namespace Observed

variable {δ : Type}

/-- The last call on the repeat timer. -/
def lastCall (o : Observed δ) : Option Bench.Call :=
  (o.dealings.filterMap Dealing.repeatCall?).getLast?

variable [Devices δ]

theorem lastCall_perform_of_no_call {actions : List Action}
    (hcalls : ∀ action ∈ actions, action.repeatCall? = none) (o : Observed δ) :
    (Devices.perform actions o).2.lastCall = o.lastCall := by
  unfold lastCall
  rw [filterMap_dealings_perform]
  intro action hmem world
  rw [Devices.repeatCall?_dealing]
  exact hcalls action hmem

theorem lastCall_execute {action : Action} {call : Bench.Call}
    (hcall : action.repeatCall? = some call) (o : Observed δ) :
    (Devices.execute action o).2.lastCall = some call := by
  have hdealing := Devices.repeatCall?_dealing o.world action
  rw [hcall] at hdealing
  obtain ⟨dealing, hdealt, hasked⟩ := Option.bind_eq_some_iff.mp hdealing
  rw [lastCall, dealings_execute, hdealt]
  simp [hasked]

end Observed

theorem Devices.Honours.observed {δ : Type} [Devices δ] {view : δ → TimerView}
    (h : Devices.Honours view) : Devices.Honours fun o : Observed δ => view o.world where
  arm := fun schedule o => h.arm schedule o.world
  disarm := fun o => h.disarm o.world
  counted := fun o => h.counted o.world
  uncounted := fun o => h.uncounted o.world
  readLine := fun button o => h.readLine button o.world
  setLamp := fun on o => h.setLamp on o.world
  armBlink := fun schedule o => h.armBlink schedule o.world
  blinkCounted := fun o => h.blinkCounted o.world
  record := fun entry o => h.record entry o.world
  emit := fun event o => h.emit event o.world

namespace Station

variable {δ : Type} [Devices δ]

/-! ## One answer -/

theorem lastCall_feed_of_leaves {s : Station (Observed δ)} {stimulus : Stimulus}
    (h : s.controller.Leaves (s.controller.react stimulus)) :
    (s.feed stimulus).2.devices.lastCall = s.devices.lastCall :=
  Observed.lastCall_perform_of_no_call h.calls s.devices

/-- The last call of an answer that makes one is the one that is due. -/
theorem lastCall_feed_of_sets {s : Station (Observed δ)} {stimulus : Stimulus}
    (h : Controller.Sets (s.controller.react stimulus)) :
    (s.feed stimulus).2.devices.lastCall = some (s.feed stimulus).2.controller.due := by
  obtain ⟨before, action, rest, hcall, hrest, hdevices⟩ := Devices.perform_of_sets h s.devices
  show (Devices.perform (s.controller.react stimulus).2 s.devices).2.lastCall = _
  rw [hdevices, Observed.lastCall_perform_of_no_call hrest]
  exact Observed.lastCall_execute hcall before

theorem view_feed_of_leaves {view : δ → TimerView} (hview : Devices.Honours view)
    {s : Station (Observed δ)} {stimulus : Stimulus}
    (h : s.controller.Leaves (s.controller.react stimulus)) :
    view (s.feed stimulus).2.devices.world = view s.devices.world :=
  Devices.view_perform_of_no_call hview.observed h.calls s.devices

/-- The timer after an answer whose call works is as the call makes it. -/
theorem view_feed_of_sets {view : δ → TimerView} (hview : Devices.Honours view)
    {s : Station (Observed δ)} {stimulus : Stimulus}
    (h : Controller.Sets (s.controller.react stimulus))
    (hworked : ∀ dealing ∈ (s.feed stimulus).2.devices.dealings, dealing.worked = true) :
    view (s.feed stimulus).2.devices.world = (s.feed stimulus).2.controller.due.outcome := by
  obtain ⟨before, action, rest, hcall, hrest, hperform⟩ := Devices.perform_of_sets h s.devices
  have hdevices : (s.feed stimulus).2.devices =
      (Devices.perform rest (Devices.execute action before).2).2 := hperform
  rw [hdevices] at hworked ⊢
  rw [Devices.view_perform_of_no_call hview.observed hrest]
  refine Devices.view_execute_of_call hview.observed hcall fun dealing hdealing => ?_
  have hmem := Observed.mem_dealings_execute hdealing
  exact hworked dealing ((Observed.dealings_prefix_perform rest _).subset hmem)

/-! ## One happening -/

/-- Once a session has started, the world changes or the controller is told
something, and never again to stop the timer first. -/
theorem told?_observed (s : Station (Observed δ)) {happening : Happening δ}
    (hstart : happening ≠ .startPacer) :
    (∃ f, happening = .change f) ∨
      ∃ stimulus, s.told? happening.observed = some stimulus ∧ stimulus ≠ .settle := by
  rcases happening with f | _ | _ | ⟨⟨_ | _⟩ | button⟩ | edge | _
  · exact .inl ⟨f, rfl⟩
  · exact absurd rfl hstart
  all_goals exact .inr ⟨_, rfl, by simp⟩

theorem lastCall_consulted (s : Station (Observed δ)) (happening : Happening (Observed δ)) :
    Observed.lastCall (s.consulted happening) = s.devices.lastCall := by
  unfold Observed.lastCall
  rw [filterMap_consulted (fun _ _ => rfl) fun _ _ => rfl]

/-- The last call on the repeat timer is the one that is due. -/
structure Paced (blinker pacer : Settings) (s : Station (Observed δ)) : Prop where
  made : s.controller.MadeFrom blinker pacer
  last : s.devices.lastCall = some s.controller.due

/-- Starting up stops the timer, and nothing drives yet. -/
theorem paced_started (blinker pacer : Settings) (world : δ) :
    Paced blinker pacer (started blinker pacer world) := by
  refine ⟨madeFrom_started blinker pacer world, ?_⟩
  rw [started_eq]
  exact lastCall_feed_of_sets (Controller.sets_settle (heading_seededAll blinker pacer world))

theorem Paced.undergo {blinker pacer : Settings} {s : Station (Observed δ)}
    (h : Paced blinker pacer s) {happening : Happening δ} (hstart : happening ≠ .startPacer) :
    Paced blinker pacer (s.undergo happening.observed) := by
  have hmade := madeFrom_undergo h.made happening.observed
  refine ⟨hmade, ?_⟩
  rcases s.told?_observed hstart with ⟨f, rfl⟩ | ⟨stimulus, htold, hsettle⟩
  · exact h.last
  · rw [undergo_of_told htold] at hmade ⊢
    rcases Controller.paces_react fun hsame => absurd hsame hsettle with hleaves | hsets
    · have hdue := Controller.due_congr hleaves.heading
        (hmade.interval.trans h.made.interval.symm)
      show _ = some (s.controller.react stimulus).1.due
      rw [lastCall_feed_of_leaves hleaves, hdue]
      exact (s.lastCall_consulted happening.observed).trans h.last
    · exact lastCall_feed_of_sets hsets

theorem paced_undergoAll {blinker pacer : Settings} {s : Station (Observed δ)}
    (h : Paced blinker pacer s) {happenings : List (Happening δ)}
    (hstart : .startPacer ∉ happenings) :
    Paced blinker pacer (s.undergoAll (happenings.map Happening.observed)) := by
  refine keeps_observed (fun s happening hmem hpaced => ?_) h
  exact hpaced.undergo fun heq => hstart (heq ▸ hmem)

/-! ## Sessions in which the calls work -/

/-- Every change in a session is of some kind. -/
def Changes (kind : δ → δ → Prop) (s : Station (Observed δ)) : List (Happening δ) → Prop
  | [] => True
  | happening :: rest =>
    (∀ f, happening = .change f → kind s.devices.world (f s.devices.world)) ∧
      (s.undergo happening.observed).Changes kind rest

/-- Changes that are of a kind wherever they happen. -/
theorem Changes.of_forall {kind : δ → δ → Prop} {happenings : List (Happening δ)}
    (h : ∀ f, .change f ∈ happenings → ∀ world, kind world (f world))
    (s : Station (Observed δ)) : s.Changes kind happenings := by
  induction happenings generalizing s with
  | nil => trivial
  | cons happening rest ih =>
    refine ⟨?_, ih (fun f hmem => h f (List.mem_cons_of_mem happening hmem)) _⟩
    rintro f rfl
    exact h f List.mem_cons_self _

theorem Changes.split {kind : δ → δ → Prop} {s : Station (Observed δ)}
    {first second : List (Happening δ)} (h : s.Changes kind (first ++ second)) :
    s.Changes kind first ∧
      (s.undergoAll (first.map Happening.observed)).Changes kind second := by
  induction first generalizing s with
  | nil => exact ⟨trivial, h⟩
  | cons happening rest ih =>
    obtain ⟨hchange, hrest⟩ := h
    obtain ⟨hfirst, hsecond⟩ := ih hrest
    exact ⟨⟨hchange, hfirst⟩, hsecond⟩

theorem Changes.and {kind other : δ → δ → Prop} {s : Station (Observed δ)}
    {happenings : List (Happening δ)} (h : s.Changes kind happenings)
    (hother : s.Changes other happenings) :
    s.Changes (fun world later => kind world later ∧ other world later) happenings := by
  induction happenings generalizing s with
  | nil => trivial
  | cons happening rest ih =>
    exact ⟨fun f hf => ⟨h.1 f hf, hother.1 f hf⟩, ih h.2 hother.2⟩

theorem dealings_subset_undergo (s : Station (Observed δ)) {happening : Happening δ}
    (hstart : happening ≠ .startPacer) :
    s.devices.dealings ⊆ (s.undergo happening.observed).devices.dealings := by
  rcases s.told?_observed hstart with ⟨f, rfl⟩ | ⟨stimulus, htold, -⟩
  · exact List.Subset.refl _
  · exact (dealings_prefix_of_told htold).subset

theorem dealings_subset_undergoAll (s : Station (Observed δ)) {happenings : List (Happening δ)}
    (hstart : .startPacer ∉ happenings) :
    s.devices.dealings ⊆
      (s.undergoAll (happenings.map Happening.observed)).devices.dealings := by
  let Kept (later : Station (Observed δ)) : Prop := s.devices.dealings ⊆ later.devices.dealings
  have hstep : ∀ later, ∀ happening ∈ happenings, Kept later →
      Kept (later.undergo happening.observed) := fun later happening hmem hkept =>
    List.Subset.trans hkept (later.dealings_subset_undergo fun heq => hstart (heq ▸ hmem))
  exact keeps_observed hstep (List.Subset.refl _)

/-- What every happening keeps whose calls work, a session keeps whose calls
work. -/
theorem keeps_worked {kind : δ → δ → Prop} {P : Station (Observed δ) → Prop}
    (hstep : ∀ (s : Station (Observed δ)) (happening : Happening δ), happening ≠ .startPacer →
      (∀ f, happening = .change f → kind s.devices.world (f s.devices.world)) →
      (∀ dealing ∈ (s.undergo happening.observed).devices.dealings, dealing.worked = true) →
      P s → P (s.undergo happening.observed))
    {s : Station (Observed δ)} {happenings : List (Happening δ)}
    (hstart : .startPacer ∉ happenings) (hchanges : s.Changes kind happenings)
    (hworked : ∀ dealing ∈ (s.undergoAll (happenings.map Happening.observed)).devices.dealings,
      dealing.worked = true) (h : P s) :
    P (s.undergoAll (happenings.map Happening.observed)) := by
  induction happenings generalizing s with
  | nil => exact h
  | cons happening rest ih =>
    obtain ⟨hchange, hrest⟩ := hchanges
    have hfirst : happening ≠ .startPacer := fun heq => hstart (heq ▸ List.mem_cons_self)
    have hlater : .startPacer ∉ rest := fun hmem => hstart (List.mem_cons_of_mem _ hmem)
    refine ih hlater hrest hworked (hstep s happening hfirst hchange ?_ h)
    intro dealing hmem
    exact hworked dealing (dealings_subset_undergoAll _ hlater hmem)

variable {view : δ → TimerView}

/-- Asking the world can only lose expirations, and only those of the timer
that is asked. -/
theorem view_consulted (hview : Devices.Honours view) (s : Station (Observed δ))
    (happening : Happening (Observed δ)) :
    (view (s.consulted happening).world).armed = (view s.devices.world).armed ∧
      (view (s.consulted happening).world).pending ≤ (view s.devices.world).pending := by
  rcases happening with f | _ | _ | ⟨⟨_ | _⟩ | button⟩ | edge | _
  case notify.timer.blink =>
    have hsame := hview.observed.blinkCounted s.devices
    exact ⟨congrArg TimerView.armed hsame, Nat.le_of_eq (congrArg TimerView.pending hsame)⟩
  case notify.timer.repeating =>
    rcases hcount : (Devices.expirations .repeating s.devices).1 with fault | count
    · exact hview.observed.uncounted s.devices fault hcount
    · have hcleared : view (s.consulted (.notify (.timer .repeating))).world =
          { view s.devices.world with pending := 0 } :=
        (hview.observed.counted s.devices count hcount).2
      rw [hcleared]
      exact ⟨rfl, Nat.zero_le _⟩
  case notify.button =>
    have hsame := hview.observed.readLine button s.devices
    exact ⟨congrArg TimerView.armed hsame, Nat.le_of_eq (congrArg TimerView.pending hsame)⟩
  all_goals exact ⟨rfl, Nat.le_refl _⟩

/-- Where an answer leaves the timer alone, asking the world has not made an
idle timer of a busy one: what was pending would have been answered. -/
theorem busy_consulted (hview : Devices.Honours view) {s : Station (Observed δ)}
    {happening : Happening (Observed δ)} {stimulus : Stimulus}
    (htold : s.told? happening = some stimulus)
    (hleaves : s.controller.Leaves (s.controller.react stimulus))
    (hbusy : (view s.devices.world).Busy ↔ s.controller.heading ≠ none) :
    (view (s.consulted happening).world).Busy ↔ s.controller.heading ≠ none := by
  obtain ⟨harmed, hpending⟩ := s.view_consulted hview happening
  constructor
  · intro hstill
    refine hbusy.mp ?_
    rcases hstill with hstill | hstill
    · exact .inl (harmed ▸ hstill)
    · exact .inr (Nat.lt_of_lt_of_le hstill hpending)
  · intro hdrives
    have hbefore := hbusy.mpr hdrives
    rcases happening with f | _ | _ | ⟨⟨_ | _⟩ | button⟩ | edge | _
    case notify.timer.repeating =>
      obtain rfl := Option.some.inj htold
      rcases Controller.Leaves.idle_or_zero hleaves with hidle | hzero
      · exact absurd hidle hdrives
      · obtain ⟨hnone, -⟩ := hview.observed.counted s.devices 0 hzero
        rcases hbefore with hbefore | hbefore
        · exact .inl (harmed.trans hbefore)
        · exact absurd hbefore (by rw [← hnone]; simp)
    case notify.timer.blink =>
      show (view _).Busy
      rw [show view (s.consulted (.notify (.timer .blink))).world = _ from
        hview.observed.blinkCounted s.devices]
      exact hbefore
    case notify.button =>
      rw [show view (s.consulted (.notify (.button button))).world = _ from
        hview.observed.readLine button s.devices]
      exact hbefore
    case change => cases htold
    case startPacer => cases htold
    all_goals exact hbefore

/-- While the calls work, the timer is busy exactly while a button drives. -/
theorem busy_undergo (hview : Devices.Honours view) (s : Station (Observed δ))
    (happening : Happening δ) (hstart : happening ≠ .startPacer)
    (hchange : ∀ f, happening = .change f →
      (view s.devices.world).Elapses (view (f s.devices.world)))
    (hworked : ∀ dealing ∈ (s.undergo happening.observed).devices.dealings, dealing.worked = true)
    (h : (view s.devices.world).Busy ↔ s.controller.heading ≠ none) :
    (view (s.undergo happening.observed).devices.world).Busy ↔
      (s.undergo happening.observed).controller.heading ≠ none := by
  rcases s.told?_observed hstart with ⟨f, rfl⟩ | ⟨stimulus, htold, hsettle⟩
  · exact (hchange f rfl).busy_iff.trans h
  · rw [undergo_of_told htold] at hworked ⊢
    rcases Controller.paces_react fun hsame => absurd hsame hsettle with hleaves | hsets
    · rw [view_feed_of_leaves hview hleaves]
      show _ ↔ (s.controller.react stimulus).1.heading ≠ none
      rw [hleaves.heading]
      exact busy_consulted hview htold hleaves h
    · rw [view_feed_of_sets hview hsets hworked]
      exact Controller.busy_due _

/-- While the calls work, nothing gets pending unless the timer expires. -/
theorem pending_undergo (hview : Devices.Honours view) (s : Station (Observed δ))
    (happening : Happening δ) (hstart : happening ≠ .startPacer)
    (hchange : ∀ f, happening = .change f →
      (view s.devices.world).Elapses (view (f s.devices.world)) ∧
        ¬(view s.devices.world).Fires (view (f s.devices.world)))
    (hworked : ∀ dealing ∈ (s.undergo happening.observed).devices.dealings, dealing.worked = true)
    (h : (view s.devices.world).pending = 0) :
    (view (s.undergo happening.observed).devices.world).pending = 0 := by
  rcases s.told?_observed hstart with ⟨f, rfl⟩ | ⟨stimulus, htold, hsettle⟩
  · obtain ⟨hsame | hfires, hquiet⟩ := hchange f rfl
    · exact (congrArg TimerView.pending hsame).trans h
    · exact absurd hfires hquiet
  · obtain ⟨-, hpending⟩ := s.view_consulted hview happening.observed
    rw [undergo_of_told htold] at hworked ⊢
    rcases Controller.paces_react fun hsame => absurd hsame hsettle with hleaves | hsets
    · rw [view_feed_of_leaves hview hleaves]
      exact Nat.le_zero.mp (h ▸ hpending)
    · rw [view_feed_of_sets hview hsets hworked]
      exact Bench.Call.pending_outcome _

/-- Once the stop at the start has worked, the timer is as idle as the
controller. -/
theorem busy_started (hview : Devices.Honours view) {blinker pacer : Settings} {world : δ}
    (hworked : ∀ dealing ∈ (started blinker pacer world).devices.dealings, dealing.worked = true) :
    (view (started blinker pacer world).devices.world).Busy ↔
      (started blinker pacer world).controller.heading ≠ none := by
  have hsets := Controller.sets_settle (heading_seededAll blinker pacer world)
  rw [started_eq] at hworked ⊢
  rw [view_feed_of_sets hview hsets hworked]
  exact Controller.busy_due _

theorem busy_session (hview : Devices.Honours view) {blinker pacer : Settings} {world : δ}
    {happenings : List (Happening δ)} (hstart : .startPacer ∉ happenings)
    (hchanges : (started blinker pacer world).Changes
      (fun world later => (view world).Elapses (view later)) happenings)
    (hworked : ∀ dealing ∈ ((started blinker pacer world).undergoAll
      (happenings.map Happening.observed)).devices.dealings, dealing.worked = true) :
    (view ((started blinker pacer world).undergoAll
        (happenings.map Happening.observed)).devices.world).Busy ↔
      ((started blinker pacer world).undergoAll
        (happenings.map Happening.observed)).controller.heading ≠ none := by
  let Fits (s : Station (Observed δ)) : Prop :=
    (view s.devices.world).Busy ↔ s.controller.heading ≠ none
  have hfirst : Fits (started blinker pacer world) := busy_started hview fun dealing hmem =>
    hworked dealing (dealings_subset_undergoAll _ hstart hmem)
  have hlast : Fits ((started blinker pacer world).undergoAll
      (happenings.map Happening.observed)) :=
    keeps_worked (busy_undergo hview) hstart hchanges hworked hfirst
  exact hlast

/-- Where nothing is pending, a repeat notification that can be read makes no
step. -/
theorem asked?_of_nothing_pending (hview : Devices.Honours view) {s : Station (Observed δ)}
    {count : UInt64} (hpending : (view s.devices.world).pending = 0)
    (hcount : (Devices.expirations .repeating s.devices).1 = .ok count) :
    s.asked? (.notify (.timer .repeating)) = none := by
  obtain ⟨hread, -⟩ := hview.observed.counted s.devices count hcount
  have hzero : count = 0 := UInt64.toNat_inj.mp (hread.trans hpending)
  show s.controller.repeated? (Devices.expirations .repeating s.devices).1 = none
  rw [hcount, hzero]
  rfl

/-- After a start and any session, whatever fails, the last call on the repeat
timer armed it to expire once if a button drives and stopped it if none does.
If the calls work and the timer keeps its contract, it is busy exactly while a
button drives; and if it has not expired since some moment at which none did,
nothing is pending, so a repetition that reads its count makes no step. -/
theorem repeat_timer_discipline (blinker pacer : Settings) (world : δ)
    (happenings : List (Happening δ)) (hstart : .startPacer ∉ happenings) :
    let start := started blinker pacer world
    let s := start.undergoAll (happenings.map Happening.observed)
    (s.devices.lastCall = some (.arm (.once pacer.repeatInterval)) ↔ s.controller.heading ≠ none) ∧
      (s.devices.lastCall = some .disarm ↔ s.controller.heading = none) ∧
      ∀ view : δ → TimerView, Devices.Honours view →
        start.Changes (fun world later => (view world).Elapses (view later)) happenings →
        (∀ dealing ∈ s.devices.dealings, dealing.worked = true) →
        ((view s.devices.world).Busy ↔ s.controller.heading ≠ none) ∧
          ∀ before after, happenings = before ++ after →
            (start.undergoAll (before.map Happening.observed)).controller.heading = none →
            (start.undergoAll (before.map Happening.observed)).Changes
              (fun world later => ¬(view world).Fires (view later)) after →
            (view s.devices.world).pending = 0 ∧
              ∀ count, (Devices.expirations .repeating s.devices).1 = .ok count →
                s.asked? (.notify (.timer .repeating)) = none := by
  intro start s
  have hpaced : Paced blinker pacer s :=
    paced_undergoAll (paced_started blinker pacer world) hstart
  have hlast := hpaced.last
  rw [Controller.due, hpaced.made.interval] at hlast
  refine ⟨?_, ?_, ?_⟩
  · by_cases hheading : s.controller.heading = none
    · simp [hlast, hheading]
    · simp [hlast, hheading]
  · by_cases hheading : s.controller.heading = none
    · simp [hlast, hheading]
    · simp [hlast, hheading]
  · intro view hview hchanges hworked
    refine ⟨busy_session hview hstart hchanges hworked, ?_⟩
    rintro before after rfl hidle hquiet
    obtain ⟨hfirst, hsecond⟩ := hchanges.split
    rw [List.mem_append, not_or] at hstart
    let mid := start.undergoAll (before.map Happening.observed)
    have hsplit : s = mid.undergoAll (after.map Happening.observed) := by
      show start.undergoAll _ = _
      rw [List.map_append, undergoAll_append]
    rw [hsplit] at hworked ⊢
    have hbusy := busy_session hview hstart.1 hfirst fun dealing hmem =>
      hworked dealing (dealings_subset_undergoAll mid hstart.2 hmem)
    have hcleared : (view mid.devices.world).pending = 0 :=
      Nat.eq_zero_of_not_pos fun hpending => hbusy.mp (.inr hpending) hidle
    have hpending : (view (mid.undergoAll
        (after.map Happening.observed)).devices.world).pending = 0 :=
      keeps_worked (P := fun s => (view s.devices.world).pending = 0) (pending_undergo hview)
        hstart.2 (hsecond.and hquiet) hworked hcleared
    exact ⟨hpending, fun count hcount => asked?_of_nothing_pending hview hpending hcount⟩

/-- The faster button repeats once and is released with its timer armed, and then
the slower one is pressed: it drives, with the timer armed for it and nothing
of the first hold pending. -/
theorem repeat_timer_discipline_second_hold :
    let hold : List (Happening VirtualClock) :=
      [.edge Heading.faster.press, .change (·.upTo (.ofMillis 200)), .notify (.timer .repeating),
        .edge Heading.faster.release]
    let session : List (Happening VirtualClock) := hold ++ [.edge Heading.slower.press]
    let world : VirtualClock := {}
    let s := (started {} {} world).undergoAll (session.map Happening.observed)
    .startPacer ∉ session ∧
      (started {} {} world).Changes (fun world later =>
        world.repeatView.Elapses later.repeatView) session ∧
      (∀ dealing ∈ s.devices.dealings, dealing.worked = true) ∧
      s.controller.heading ≠ none ∧
      s.devices.lastCall = some (.arm (.once (Settings.repeatInterval {}))) ∧
      s.devices.world.repeatView.Busy ∧ s.devices.world.repeatView.pending = 0 := by
  intro hold session world
  have hstart : .startPacer ∉ session := by simp [session, hold]
  have hchanges : (started {} {} world).Changes (fun world later =>
      world.repeatView.Elapses later.repeatView) session := by
    refine ⟨?_, ?_, ?_, ?_, ?_, trivial⟩
    case refine_2 =>
      intro f hf
      obtain rfl := Happening.change.inj hf
      exact VirtualClock.elapses_upTo (by decide +kernel) (by decide +kernel) _
    all_goals
      intro f hf
      cases hf
  have hworked : ∀ dealing ∈ ((started {} {} world).undergoAll
      (session.map Happening.observed)).devices.dealings, dealing.worked = true := by
    decide +kernel
  have hdrives : ((started {} {} world).undergoAll
      (session.map Happening.observed)).controller.heading ≠ none := by
    decide +kernel
  have hquiet : ((started {} {} world).undergoAll (hold.map Happening.observed)).Changes
      (fun world later => ¬world.repeatView.Fires later.repeatView)
      [.edge Heading.slower.press] := by
    refine ⟨?_, trivial⟩
    intro f hf
    cases hf
  have hidle : ((started {} {} world).undergoAll
      (hold.map Happening.observed)).controller.heading = none := by
    decide +kernel
  obtain ⟨harmed, -, hcontract⟩ := repeat_timer_discipline {} {} world session hstart
  obtain ⟨hbusy, hcleared⟩ := hcontract _ VirtualClock.honours_repeatView hchanges hworked
  obtain ⟨hpending, -⟩ := hcleared hold [.edge Heading.slower.press] rfl hidle hquiet
  exact ⟨hstart, hchanges, hworked, hdrives, harmed.mpr hdrives, hbusy.mpr hdrives, hpending⟩

end Station

end Beacon
