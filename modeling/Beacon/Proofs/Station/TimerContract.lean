import Beacon.VirtualClock
import Beacon.Proofs.Controller.RepeatCalls
import Beacon.Proofs.Station.Session

/-!
# The contract of the repeat timer

What the repeat timer promises, in terms of what a world shows of it: whether
it is armed, and how many expirations nobody has asked for yet.

* `Honours`: arming replaces whatever was pending, stopping discards it, a
  count is what is pending and clears it, and nothing else that a station
  does touches the timer.  Nothing is promised of an arming or a stop that
  fails, and a count that fails can only lose expirations.
* `Fires`: the one thing that a timer may do by itself if it is armed to expire
  once.
* `view_perform_of_no_call` and `view_execute_of_call` say what a list of
  actions makes of the timer.

`VirtualClock` honours the contract.
-/

namespace Beacon

/-- What a world shows of its repeat timer. -/
structure TimerView where
  armed : Bool
  /-- The expirations that nobody has asked for yet. -/
  pending : Nat
deriving DecidableEq

namespace TimerView

/-- The timer is armed, or has expirations that nobody has asked for. -/
def Busy (v : TimerView) : Prop := v.armed = true ∨ 0 < v.pending

/-- A timer that is to expire once expires: it has to be armed, and is not any
more. -/
def Fires (v after : TimerView) : Prop := v.armed = true ∧ after = ⟨false, v.pending + 1⟩

/-- What time can do to the timer. -/
def Elapses (v after : TimerView) : Prop := after = v ∨ v.Fires after

theorem Elapses.busy_iff {v after : TimerView} (h : v.Elapses after) : after.Busy ↔ v.Busy := by
  rcases h with rfl | ⟨harmed, rfl⟩
  · exact Iff.rfl
  · simp [Busy, harmed]

end TimerView

/-- The timer after a call that worked. -/
def Bench.Call.outcome : Bench.Call → TimerView
  | .arm _ => ⟨true, 0⟩
  | .disarm => ⟨false, 0⟩

theorem Bench.Call.pending_outcome (call : Bench.Call) : call.outcome.pending = 0 := by
  cases call <;> rfl

theorem Controller.busy_due (c : Controller) : c.due.outcome.Busy ↔ c.heading ≠ none := by
  unfold Controller.due
  split
  · next hidle => simp [hidle, Bench.Call.outcome, TimerView.Busy]
  · next hdrives => simp [hdrives, Bench.Call.outcome, TimerView.Busy]

namespace Devices

variable {δ : Type} [Devices δ]

/-- A world in which the repeat timer, as it is shown, keeps its contract. -/
structure Honours (view : δ → TimerView) : Prop where
  arm : ∀ schedule (world : δ), (Devices.arm .repeating schedule world).1 = .ok () →
    view (Devices.arm .repeating schedule world).2 = ⟨true, 0⟩
  disarm : ∀ world : δ, (Devices.disarm .repeating world).1 = .ok () →
    view (Devices.disarm .repeating world).2 = ⟨false, 0⟩
  counted : ∀ (world : δ) count, (Devices.expirations .repeating world).1 = .ok count →
    count.toNat = (view world).pending ∧
      view (Devices.expirations .repeating world).2 = { view world with pending := 0 }
  uncounted : ∀ (world : δ) fault, (Devices.expirations .repeating world).1 = .error fault →
    (view (Devices.expirations .repeating world).2).armed = (view world).armed ∧
      (view (Devices.expirations .repeating world).2).pending ≤ (view world).pending
  readLine : ∀ button (world : δ), view (Devices.readLine button world).2 = view world
  setLamp : ∀ on (world : δ), view (Devices.setLamp on world).2 = view world
  armBlink : ∀ schedule (world : δ), view (Devices.arm .blink schedule world).2 = view world
  blinkCounted : ∀ world : δ, view (Devices.expirations .blink world).2 = view world
  record : ∀ entry (world : δ), view (Devices.record entry world) = view world
  emit : ∀ event (world : δ), view (Devices.emit event world) = view world

/-! ## What actions make of the timer -/

theorem view_execute_of_no_call {view : δ → TimerView} (h : Honours view) {action : Action}
    (hcall : action.repeatCall? = none) (world : δ) :
    view (execute action world).2 = view world := by
  cases action with
  | light on occasion =>
    have hlamp := h.setLamp on world
    simp only [execute]
    generalize setLamp on world = answer at hlamp ⊢
    obtain ⟨fault | ⟨⟩, world'⟩ := answer
    · exact (h.record _ world').trans hlamp
    · exact hlamp
  | armBlink schedule occasion =>
    have harm := h.armBlink schedule world
    simp only [execute]
    generalize arm .blink schedule world = answer at harm ⊢
    obtain ⟨fault | ⟨⟩, world'⟩ := answer
    · exact (h.record _ world').trans harm
    · exact harm
  | armRepeat schedule => cases hcall
  | disarmRepeat occasion => cases hcall
  | note notice => exact h.record _ world
  | emit event => exact h.emit event world

theorem view_perform_of_no_call {view : δ → TimerView} (h : Honours view) {actions : List Action}
    (hcalls : ∀ action ∈ actions, action.repeatCall? = none) (world : δ) :
    view (perform actions world).2 = view world := by
  induction actions generalizing world with
  | nil => rfl
  | cons action rest ih =>
    have hfirst := view_execute_of_no_call h (hcalls action List.mem_cons_self) world
    have hrest := ih fun later hmem => hcalls later (List.mem_cons_of_mem action hmem)
    unfold perform
    generalize execute action world = answer at hfirst ⊢
    obtain ⟨fault | ⟨⟩, world'⟩ := answer
    · exact hfirst
    · exact (hrest world').trans hfirst

end Devices

/-- Whether a dealing is anything but a failed call on the repeat timer. -/
def Dealing.worked : Dealing → Bool
  | .armed .repeating _ (.error _) | .disarmed .repeating (.error _) => false
  | _ => true

theorem Dealing.ok_of_worked {result : Except TimerFault Unit}
    (h : (Dealing.disarmed .repeating result).worked = true) : result = .ok () := by
  rcases result with fault | ⟨⟩
  · cases h
  · rfl

namespace Devices

variable {δ : Type} [Devices δ]

theorem view_execute_of_call {view : δ → TimerView} (h : Honours view) {action : Action}
    {call : Bench.Call} (hcall : action.repeatCall? = some call) {world : δ}
    (hworked : ∀ dealing, dealing? world action = some dealing → dealing.worked = true) :
    view (execute action world).2 = call.outcome := by
  cases action with
  | armRepeat schedule =>
    obtain rfl := Option.some.inj hcall
    have harm := h.arm schedule world
    have hok := hworked _ rfl
    simp only [execute]
    generalize arm .repeating schedule world = answer at harm hok ⊢
    obtain ⟨fault | ⟨⟩, world'⟩ := answer
    · cases hok
    · exact harm rfl
  | disarmRepeat occasion =>
    obtain rfl := Option.some.inj hcall
    have hdisarm := h.disarm world
    have hok := hworked _ rfl
    simp only [execute]
    generalize disarm .repeating world = answer at hdisarm hok ⊢
    obtain ⟨fault | ⟨⟩, world'⟩ := answer
    · cases hok
    · exact hdisarm rfl
  | light | armBlink | note | emit => cases hcall

/-- What only tells something is always carried out. -/
theorem perform_append_of_talk {first : List Action} (h : ∀ action ∈ first, action.IsTalk)
    (rest : List Action) (world : δ) :
    perform (first ++ rest) world = perform rest (perform first world).2 := by
  induction first generalizing world with
  | nil => rfl
  | cons action later ih =>
    have hlater := ih fun other hmem => h other (List.mem_cons_of_mem action hmem)
    have haction := h action List.mem_cons_self
    cases action with
    | note notice => exact hlater _
    | emit event => exact hlater _
    | light | armBlink | armRepeat | disarmRepeat => cases haction

theorem perform_cons (action : Action) (rest : List Action) (world : δ) :
    (perform (action :: rest) world).2 = (execute action world).2 ∨
      (perform (action :: rest) world).2 = (perform rest (execute action world).2).2 := by
  simp only [perform]
  rcases execute action world with ⟨fault | ⟨⟩, world'⟩
  · exact .inl rfl
  · exact .inr rfl

/-- An answer that sets the timer makes its call somewhere on the way, and from
then on only tells something: what follows a failed call is left out. -/
theorem perform_of_sets {answer : Controller × List Action} (h : Controller.Sets answer)
    (world : δ) :
    ∃ (before : δ) (action : Action) (rest : List Action),
      action.repeatCall? = some answer.1.due ∧ (∀ other ∈ rest, other.repeatCall? = none) ∧
        (perform answer.2 world).2 = (perform rest (execute action before).2).2 := by
  obtain ⟨first, action, rest, hactions, hfirst, hrest, hcall⟩ := h
  rw [hactions, perform_append_of_talk hfirst]
  rcases perform_cons action rest (perform first world).2 with hlast | hlast
  · exact ⟨_, action, [], hcall, by simp, hlast⟩
  · exact ⟨_, action, rest, hcall, fun other hmem => (hrest other hmem).no_call, hlast⟩

end Devices

/-! ## The virtual clock keeps the contract -/

namespace VirtualClock

/-- What a virtual clock shows of its repeat timer. -/
def repeatView (world : VirtualClock) : TimerView :=
  ⟨world.repeating.deadline.isSome, world.repeating.count.toNat⟩

theorem honours_repeatView : Devices.Honours repeatView where
  arm := fun _ _ _ => rfl
  disarm := fun _ _ => rfl
  counted := by
    intro world count hcount
    cases hcount
    exact ⟨rfl, rfl⟩
  uncounted := by
    intro world fault hcount
    cases hcount
  readLine := fun _ _ => rfl
  setLamp := fun _ _ => rfl
  armBlink := fun _ _ => rfl
  blinkCounted := fun _ => rfl
  record := fun _ _ => rfl
  emit := fun _ _ => rfl

/-- The repeat timer of a virtual clock does nothing but expire, as far as its
counter goes, if it is to expire once. -/
theorem elapses_upTo {world : VirtualClock} (honce : world.repeating.interval = none)
    (hcount : world.repeating.count.toNat + 1 < UInt64.size) (now : Duration) :
    world.repeatView.Elapses (world.upTo now).repeatView := by
  have hrepeating : (world.upTo now).repeating = world.repeating.upTo now :=
    world.alarm_upTo now .repeating
  simp only [repeatView, hrepeating, Alarm.upTo]
  cases hdeadline : world.repeating.deadline with
  | none => exact .inl (by simp [hdeadline])
  | some deadline =>
    by_cases hdue : deadline ≤ now
    · have hsum : (world.repeating.count + 1).toNat = world.repeating.count.toNat + 1 := by
        rw [UInt64.toNat_add]
        exact Nat.mod_eq_of_lt hcount
      exact .inr ⟨rfl, by simp [hdue, hsum, honce]⟩
    · exact .inl (by simp [hdue, hdeadline])

end VirtualClock

end Beacon
