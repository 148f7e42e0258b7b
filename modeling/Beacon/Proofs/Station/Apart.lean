import Beacon.Bench
import Beacon.Proofs.Station.Dealings
import Beacon.VirtualClock

/-!
# Worlds in parts

The buttons and the repeat timer have nothing to do with the lamp and the blink
timer: in most worlds a call on the ones neither moves the others nor depends on
them.

* `Devices.Uses` and `Devices.Spares` say what one operation has to do with a
  part of the world, and `Devices.Apart` is a world of three such parts.
* `Dealing.pacing?` and `Dealing.blinking?` divide the record alike, and
  `Observed.side` is what can be seen from one side.
* `side_perform_congr`: what the pacer's actions make of its side depends on
  that side alone.  `side_perform_of_pacing` and `side_perform_of_blinking`:
  neither the pacer nor the blinker touches the other's side.

Two worlds are shown to be in parts.  On a `Bench` every device can fail and a
line can be unreadable or garbled; in `VirtualClock` nothing fails, and time
passes.
-/

namespace Beacon

/-! ## Worlds in parts -/

namespace Devices

section

variable {δ ρ α β : Type}

/-- An operation whose result, and what it makes of a part of the world, depend on
that part alone. -/
def Uses (part : δ → α) (operation : δ → ρ × δ) : Prop :=
  ∀ world world', part world = part world' →
    (operation world).1 = (operation world').1 ∧
      part (operation world).2 = part (operation world').2

/-- An operation that leaves a part of the world as it is. -/
def Spares (part : δ → α) (operation : δ → ρ × δ) : Prop :=
  ∀ world, part (operation world).2 = part world

/-- An operation on one part of the world, which leaves two others as they are. -/
structure WorksOn {γ : Type} (part : δ → α) (other : δ → β) (third : δ → γ)
    (operation : δ → ρ × δ) : Prop where
  uses : Uses part operation
  spares : Spares other operation
  sparesThird : Spares third operation

variable {part : δ → α} {other : δ → β} {operation : δ → ρ × δ}

theorem Uses.beside (h : Uses part operation) (hother : Spares other operation) :
    Uses (fun world => (part world, other world)) operation := by
  intro world world' hsame
  obtain ⟨hpart, hrest⟩ := Prod.mk.inj hsame
  obtain ⟨hresult, hafter⟩ := h world world' hpart
  exact ⟨hresult, Prod.ext hafter ((hother world).trans (hrest.trans (hother world').symm))⟩

theorem Uses.behind (h : Uses other operation) (hpart : Spares part operation) :
    Uses (fun world => (part world, other world)) operation := by
  intro world world' hsame
  obtain ⟨hrest, hother⟩ := Prod.mk.inj hsame
  obtain ⟨hresult, hafter⟩ := h world world' hother
  exact ⟨hresult, Prod.ext ((hpart world).trans (hrest.trans (hpart world').symm)) hafter⟩

theorem Spares.both (hpart : Spares part operation) (hother : Spares other operation) :
    Spares (fun world => (part world, other world)) operation :=
  fun world => Prod.ext (hpart world) (hother world)

end

/-- A world of three parts that have nothing to do with each other: the lines of
the buttons, the repeat timer, and the lamp with the blink timer.  The last part
does not show how long the blink timer is armed for.  No part shows what is
written to the journal or reported. -/
structure Apart {δ α β γ : Type} [Devices δ] (lines : δ → α) (timer : δ → β) (light : δ → γ) :
    Prop where
  readLine : ∀ button, WorksOn lines timer light (Devices.readLine button)
  arm : ∀ schedule, WorksOn timer lines light (Devices.arm .repeating schedule)
  disarm : WorksOn timer lines light (Devices.disarm .repeating)
  counted : WorksOn timer lines light (Devices.expirations .repeating)
  setLamp : ∀ on, WorksOn light lines timer (Devices.setLamp on)
  blinkCounted : WorksOn light lines timer (Devices.expirations .blink)
  blinkArm : ∀ schedule, Spares lines (Devices.arm .blink schedule) ∧
    Spares timer (Devices.arm .blink schedule)
  blinkArmed : ∀ delay delay' world world', light world = light world' →
    (Devices.arm .blink (.once delay) world).1 = .ok () →
    (Devices.arm .blink (.once delay') world').1 = .ok () →
    light (Devices.arm .blink (.once delay) world).2 =
      light (Devices.arm .blink (.once delay') world').2
  record : ∀ entry world, lines (Devices.record entry world) = lines world ∧
    timer (Devices.record entry world) = timer world ∧
    light (Devices.record entry world) = light world
  emit : ∀ event world, lines (Devices.emit event world) = lines world ∧
    timer (Devices.emit event world) = timer world ∧
    light (Devices.emit event world) = light world

end Devices

/-! ## Records by side -/

/-- A dealing on the pacing side: with a button or the repeat timer, or a report of
anything but late news of the blink timer. -/
def Dealing.pacing? : Dealing → Option Dealing
  | .read button reading => some (.read button reading)
  | .counted .repeating count => some (.counted .repeating count)
  | .armed .repeating schedule result => some (.armed .repeating schedule result)
  | .disarmed .repeating result => some (.disarmed .repeating result)
  | .emitted (.overran (.timer .blink) _) => none
  | .emitted event => some (.emitted event)
  | .counted .blink _ | .lit _ _ | .armed .blink _ _ | .disarmed .blink _ => none

/-- A dealing on the blinking side: with the lamp or the blink timer.  It does not
show how long the timer is armed for. -/
def Dealing.blinking? : Dealing → Option Dealing
  | .counted .blink count => some (.counted .blink count)
  | .lit on result => some (.lit on result)
  | .armed .blink schedule result => some (.armed .blink ⟨.zero, schedule.again⟩ result)
  | .disarmed .blink result => some (.disarmed .blink result)
  | .read _ _ | .counted .repeating _ | .armed .repeating _ _ | .disarmed .repeating _
  | .emitted _ => none

/-- What the blinker does: it switches the lamp, arms its timer, and tells of an
expiry that was late. -/
def Action.IsBlinking : Action → Prop
  | .light _ _ | .armBlink _ _ | .note _ => True
  | .emit event => ∃ count, event = .overran (.timer .blink) count
  | .armRepeat _ | .disarmRepeat _ => False

theorem Blinker.blinking_remarks (count : Count) :
    ∀ action ∈ Blinker.remarks count, action.IsBlinking := by
  unfold Blinker.remarks
  split
  · split
    · simp
    · simp [Action.IsBlinking]
  · simp [Action.IsBlinking]

theorem Blinker.blinking_expired (blinker : Blinker) (count : Count) :
    ∀ action ∈ (blinker.expired count).2, action.IsBlinking := by
  by_cases hcount : count = .ok 0
  · subst hcount
    exact fun action hmem => absurd hmem List.not_mem_nil
  · rw [Controller.expired_of_ne_zero blinker hcount]
    intro action hmem
    rcases List.mem_append.mp hmem with hremark | htoggle
    · exact Blinker.blinking_remarks count action hremark
    · rcases List.mem_cons.mp htoggle with rfl | hlast
      · trivial
      · obtain rfl := List.mem_singleton.mp hlast
        trivial

namespace Observed

variable {δ α : Type}

/-- What can be seen from one side: a part of the world, and the dealings of a kind. -/
def side (part : δ → α) (kind : Dealing → Option Dealing) (o : Observed δ) : α × List Dealing :=
  (part o.world, o.dealings.filterMap kind)

variable {part : δ → α} {kind : Dealing → Option Dealing}

theorem side_dealt_congr {o o' : Observed δ} (h : o.side part kind = o'.side part kind)
    {world world' : δ} (hworld : part world = part world') {dealing dealing' : Dealing}
    (hkind : kind dealing = kind dealing') :
    (o.dealt world dealing).side part kind = (o'.dealt world' dealing').side part kind := by
  have hdealings : o.dealings.filterMap kind = o'.dealings.filterMap kind := congrArg Prod.snd h
  have hlast : [dealing].filterMap kind = [dealing'].filterMap kind := by
    simp only [List.filterMap_cons, hkind]
  refine Prod.ext hworld ?_
  show (o.dealings ++ [dealing]).filterMap kind = (o'.dealings ++ [dealing']).filterMap kind
  rw [List.filterMap_append, List.filterMap_append, hdealings, hlast]

theorem side_dealt_of_none {o : Observed δ} {world : δ} (hworld : part world = part o.world)
    {dealing : Dealing} (hother : kind dealing = none) :
    (o.dealt world dealing).side part kind = o.side part kind := by
  unfold side dealt
  rw [List.filterMap_append, hworld]
  simp [hother]

variable [Devices δ]

/-- A side that notices do not reach sees of an action what its call does. -/
theorem side_execute (hrecord : ∀ entry world, part (Devices.record entry world) = part world)
    (action : Action) (o : Observed δ) :
    (Devices.execute action o).2.side part kind = (Devices.called o action).side part kind := by
  rcases Devices.execute_snd action o with hsnd | ⟨notice, hsnd⟩
  · rw [hsnd]
  · rw [hsnd]
    exact Prod.ext (hrecord notice.entry _) rfl

end Observed

namespace Devices.Apart

variable {δ α β γ : Type} [Devices δ] {lines : δ → α} {timer : δ → β} {light : δ → γ}

/-- What the world shows of the buttons and the repeat timer. -/
def desk (lines : δ → α) (timer : δ → β) (world : δ) : α × β := (lines world, timer world)

section

variable (h : Apart lines timer light)

include h

theorem record_desk (entry : Journal.Entry) (world : δ) :
    desk lines timer (Devices.record entry world) = desk lines timer world :=
  Prod.ext (h.record entry world).1 (h.record entry world).2.1

theorem emit_desk (event : Event) (world : δ) :
    desk lines timer (Devices.emit event world) = desk lines timer world :=
  Prod.ext (h.emit event world).1 (h.emit event world).2.1

/-! ### Calls of the pacer -/

/-- What a call of the pacer makes of the pacing side depends on that side alone. -/
theorem side_called_congr {action : Action} (hpacing : action.IsPacing) {o o' : Observed δ}
    (hsame : o.side (desk lines timer) Dealing.pacing? =
      o'.side (desk lines timer) Dealing.pacing?) :
    (called o action).side (desk lines timer) Dealing.pacing? =
      (called o' action).side (desk lines timer) Dealing.pacing? := by
  have hworld : desk lines timer o.world = desk lines timer o'.world := congrArg Prod.fst hsame
  cases action with
  | light | armBlink => cases hpacing
  | armRepeat schedule =>
    obtain ⟨hresult, hafter⟩ :=
      (h.arm schedule).uses.behind (h.arm schedule).spares o.world o'.world hworld
    show ((Devices.arm .repeating schedule o).2).side _ _ =
      ((Devices.arm .repeating schedule o').2).side _ _
    rw [Observed.arm_eq, Observed.arm_eq, hresult]
    exact Observed.side_dealt_congr hsame hafter rfl
  | disarmRepeat occasion =>
    obtain ⟨hresult, hafter⟩ := h.disarm.uses.behind h.disarm.spares o.world o'.world hworld
    show ((Devices.disarm .repeating o).2).side _ _ = ((Devices.disarm .repeating o').2).side _ _
    rw [Observed.disarm_eq, Observed.disarm_eq, hresult]
    exact Observed.side_dealt_congr hsame hafter rfl
  | note notice => exact hsame
  | emit event =>
    exact Observed.side_dealt_congr hsame
      ((h.emit_desk event o.world).trans (hworld.trans (h.emit_desk event o'.world).symm)) rfl

theorem side_perform_congr {actions : List Action} (hpacing : ∀ action ∈ actions, action.IsPacing)
    {o o' : Observed δ}
    (hsame : o.side (desk lines timer) Dealing.pacing? =
      o'.side (desk lines timer) Dealing.pacing?) :
    (perform actions o).2.side (desk lines timer) Dealing.pacing? =
      (perform actions o').2.side (desk lines timer) Dealing.pacing? := by
  induction actions generalizing o o' with
  | nil => exact hsame
  | cons action rest ih =>
    have hfirst := hpacing action List.mem_cons_self
    rw [perform_cons_of_not_mayStop hfirst.not_mayStop,
      perform_cons_of_not_mayStop hfirst.not_mayStop]
    refine ih (fun later hmem => hpacing later (List.mem_cons_of_mem action hmem)) ?_
    rw [Observed.side_execute h.record_desk, Observed.side_execute h.record_desk]
    exact h.side_called_congr hfirst hsame

/-- The pacer does not touch the blinking side. -/
theorem side_perform_of_pacing {actions : List Action}
    (hpacing : ∀ action ∈ actions, action.IsPacing) (o : Observed δ) :
    (perform actions o).2.side light Dealing.blinking? = o.side light Dealing.blinking? := by
  refine keeps_perform (P := fun later : Observed δ =>
    later.side light Dealing.blinking? = o.side light Dealing.blinking?) ?_ ?_ rfl
  · intro action hmem later hsame
    refine Eq.trans ?_ hsame
    have hfirst := hpacing action hmem
    cases action with
    | light | armBlink => cases hfirst
    | armRepeat schedule => exact Observed.side_dealt_of_none ((h.arm schedule).sparesThird _) rfl
    | disarmRepeat occasion => exact Observed.side_dealt_of_none (h.disarm.sparesThird _) rfl
    | note notice => rfl
    | emit event => exact Observed.side_dealt_of_none (h.emit event _).2.2 rfl
  · intro notice later hsame
    have hnoted : (note notice later).side light Dealing.blinking? =
        later.side light Dealing.blinking? := Prod.ext (h.record notice.entry later.world).2.2 rfl
    exact hnoted.trans hsame

/-- The pacer only ever touches the repeat timer of its side. -/
theorem lines_perform_of_pacing {actions : List Action}
    (hpacing : ∀ action ∈ actions, action.IsPacing) (o : Observed δ) :
    lines (perform actions o).2.world = lines o.world := by
  refine keeps_perform (P := fun later : Observed δ => lines later.world = lines o.world) ?_ ?_ rfl
  · intro action hmem later hsame
    refine Eq.trans ?_ hsame
    have hfirst := hpacing action hmem
    cases action with
    | light | armBlink => cases hfirst
    | armRepeat schedule => exact (h.arm schedule).spares later.world
    | disarmRepeat occasion => exact h.disarm.spares later.world
    | note notice => rfl
    | emit event => exact (h.emit event later.world).1
  · exact fun notice later hsame => (h.record notice.entry later.world).1.trans hsame

/-! ### Calls of the blinker -/

/-- The blinker does not touch the pacing side. -/
theorem side_perform_of_blinking {actions : List Action}
    (hblinking : ∀ action ∈ actions, action.IsBlinking) (o : Observed δ) :
    (perform actions o).2.side (desk lines timer) Dealing.pacing? =
      o.side (desk lines timer) Dealing.pacing? := by
  refine keeps_perform (P := fun later : Observed δ =>
    later.side (desk lines timer) Dealing.pacing? = o.side (desk lines timer) Dealing.pacing?)
    ?_ ?_ rfl
  · intro action hmem later hsame
    refine Eq.trans ?_ hsame
    have hfirst := hblinking action hmem
    cases action with
    | armRepeat | disarmRepeat => cases hfirst
    | light on occasion =>
      have hdesk := (h.setLamp on).spares.both (h.setLamp on).sparesThird
      exact Observed.side_dealt_of_none (hdesk _) rfl
    | armBlink schedule occasion =>
      exact Observed.side_dealt_of_none ((h.blinkArm schedule).1.both (h.blinkArm schedule).2 _) rfl
    | note notice => rfl
    | emit event =>
      obtain ⟨count, rfl⟩ := hfirst
      exact Observed.side_dealt_of_none (h.emit_desk _ later.world) rfl
  · intro notice later hsame
    have hnoted : (note notice later).side (desk lines timer) Dealing.pacing? =
        later.side (desk lines timer) Dealing.pacing? :=
      Prod.ext (h.record_desk notice.entry later.world) rfl
    exact hnoted.trans hsame

theorem side_light_congr (on : Bool) (occasion : Occasion) {o o' : Observed δ}
    (hsame : o.side light Dealing.blinking? = o'.side light Dealing.blinking?) :
    (execute (.light on occasion) o).2.side light Dealing.blinking? =
      (execute (.light on occasion) o').2.side light Dealing.blinking? := by
  have hrecord := fun entry world => (h.record entry world).2.2
  obtain ⟨hresult, hafter⟩ := (h.setLamp on).uses _ _ (congrArg Prod.fst hsame)
  rw [Observed.side_execute hrecord, Observed.side_execute hrecord]
  show ((Devices.setLamp on o).2).side _ _ = ((Devices.setLamp on o').2).side _ _
  rw [Observed.setLamp_eq, Observed.setLamp_eq, hresult]
  exact Observed.side_dealt_congr hsame hafter rfl

/-- How long the blink timer is armed for cannot be seen, as long as it can be armed. -/
theorem side_armBlink_congr {delay delay' : Duration} (occasion : Occasion) {o o' : Observed δ}
    (hsame : o.side light Dealing.blinking? = o'.side light Dealing.blinking?)
    (hok : (Devices.arm .blink (.once delay) o).1 = .ok ())
    (hok' : (Devices.arm .blink (.once delay') o').1 = .ok ()) :
    (execute (.armBlink (.once delay) occasion) o).2.side light Dealing.blinking? =
      (execute (.armBlink (.once delay') occasion) o').2.side light Dealing.blinking? := by
  have hrecord := fun entry world => (h.record entry world).2.2
  have hafter := h.blinkArmed delay delay' _ _ (congrArg Prod.fst hsame) hok hok'
  rw [Observed.side_execute hrecord, Observed.side_execute hrecord]
  show ((Devices.arm .blink (.once delay) o).2).side _ _ =
    ((Devices.arm .blink (.once delay') o').2).side _ _
  rw [Observed.arm_eq] at hok hok' ⊢
  rw [Observed.arm_eq, hok, hok']
  exact Observed.side_dealt_congr hsame hafter rfl

end

end Devices.Apart

/-! ## The bench is in parts -/

namespace Bench

/-- A call without the delay that it arms for. -/
def Call.undelayed : Call → Call
  | .arm schedule => .arm ⟨.zero, schedule.again⟩
  | .disarm => .disarm

/-- A timer whose record does not show for how long it was armed. -/
def Timer.undelayed (timer : Timer) : Timer :=
  { timer with calls := timer.calls.map Call.undelayed }

theorem Timer.arm_of_ok {timer : Timer} {schedule : Schedule}
    (hok : (timer.arm schedule).1 = .ok ()) :
    (timer.arm schedule).2 =
      { timer with calls := timer.calls ++ [.arm schedule], armed := true, pending := 0 } := by
  unfold Timer.arm at hok ⊢
  dsimp only at hok ⊢
  split at hok
  · cases hok
  · next hworks => rw [if_neg hworks]

/-- Two timers that can be armed are alike afterwards, but for the delays. -/
theorem Timer.undelayed_arm {timer timer' : Timer} (hsame : timer.undelayed = timer'.undelayed)
    {delay delay' : Duration} (hok : (timer.arm (.once delay)).1 = .ok ())
    (hok' : (timer'.arm (.once delay')).1 = .ok ()) :
    (timer.arm (.once delay)).2.undelayed = (timer'.arm (.once delay')).2.undelayed := by
  simp only [Timer.undelayed, Timer.mk.injEq] at hsame
  rw [arm_of_ok hok, arm_of_ok hok']
  simp [Timer.undelayed, hsame, Call.undelayed, Schedule.once]

/-- What asking a timer answers does not show for how long it was armed. -/
theorem Timer.undelayed_consume {timer timer' : Timer}
    (hsame : timer.undelayed = timer'.undelayed) :
    timer.consume.1 = timer'.consume.1 ∧
      timer.consume.2.undelayed = timer'.consume.2.undelayed := by
  simp only [Timer.undelayed, Timer.mk.injEq] at hsame
  obtain ⟨hcalls, harmed, hpending, harmFails, hdisarmFails, hreadFails⟩ := hsame
  unfold Timer.consume
  rw [hreadFails]
  split <;> simp [Timer.undelayed, *]

/-- The lines of the buttons: what they read as, and their numbers, which a failed
reading tells. -/
def wires (bench : Bench) : PerButton Level × (Button → UInt32) :=
  (bench.levels, bench.wiring.buttonLine)

/-- The lamp and the blink timer, which does not show for how long it was armed. -/
def lampPart (bench : Bench) : (UInt32 × Bool) × List Bool × Timer :=
  ((bench.wiring.lamp, bench.lampFails), bench.lampWrites, bench.blink.undelayed)

/-- What is done to the repeat timer alone has nothing to do with the rest. -/
theorem worksOn_repeating {ρ : Type} (call : Timer → ρ × Timer) :
    Devices.WorksOn Bench.repeating wires lampPart fun bench =>
      ((call bench.repeating).1, { bench with repeating := (call bench.repeating).2 }) where
  uses := fun _ _ hsame =>
    ⟨congrArg (fun timer => (call timer).1) hsame, congrArg (fun timer => (call timer).2) hsame⟩
  spares := fun _ => rfl
  sparesThird := fun _ => rfl

theorem apart : Devices.Apart wires Bench.repeating lampPart where
  readLine := fun button =>
    { uses := by
        intro bench bench' hsame
        obtain ⟨hlevels, hlines⟩ := Prod.mk.inj hsame
        exact ⟨by simp only [Devices.readLine, hlevels, hlines], hsame⟩
      spares := fun _ => rfl
      sparesThird := fun _ => rfl }
  arm := fun schedule => worksOn_repeating (·.arm schedule)
  disarm := worksOn_repeating Timer.disarm
  counted := worksOn_repeating Timer.consume
  setLamp := fun on =>
    { uses := by
        intro bench bench' hsame
        simp only [lampPart, Prod.mk.injEq] at hsame
        obtain ⟨⟨hline, hfails⟩, hwrites, htimer⟩ := hsame
        by_cases hfail : bench'.lampFails <;>
          simp [Devices.setLamp, setLamp, lampPart, hline, hfails, hwrites, htimer, hfail]
      spares := fun bench => by
        show wires (bench.setLamp on).2 = wires bench
        unfold setLamp
        split <;> rfl
      sparesThird := fun bench => by
        show (bench.setLamp on).2.repeating = bench.repeating
        unfold setLamp
        split <;> rfl }
  blinkCounted :=
    { uses := by
        intro bench bench' hsame
        obtain ⟨hlamp, hrest⟩ := Prod.mk.inj hsame
        obtain ⟨hwrites, htimer⟩ := Prod.mk.inj hrest
        obtain ⟨hcount, hafter⟩ := Timer.undelayed_consume htimer
        exact ⟨hcount, Prod.ext hlamp (Prod.ext hwrites hafter)⟩
      spares := fun _ => rfl
      sparesThird := fun _ => rfl }
  blinkArm := fun _ => ⟨fun _ => rfl, fun _ => rfl⟩
  blinkArmed := by
    intro delay delay' bench bench' hsame hok hok'
    obtain ⟨hlamp, hrest⟩ := Prod.mk.inj hsame
    obtain ⟨hwrites, htimer⟩ := Prod.mk.inj hrest
    exact Prod.ext hlamp (Prod.ext hwrites (Timer.undelayed_arm htimer hok hok'))
  record := fun _ _ => ⟨rfl, rfl, rfl⟩
  emit := fun _ _ => ⟨rfl, rfl, rfl⟩

end Bench

/-! ## The virtual clock is in parts -/

namespace VirtualClock

def wires (world : VirtualClock) : PerButton Bool × PerButton Bool :=
  (world.levels, world.changed)

def repeatPart (world : VirtualClock) : Duration × Alarm := (world.now, world.repeating)

/-- The blink timer shows whether it is armed, and not for when. -/
def blinkPart (world : VirtualClock) : Duration × List (Duration × Bool) × Bool × UInt64 :=
  (world.now, world.lampWrites, world.blink.deadline.isSome, world.blink.count)

theorem apart : Devices.Apart wires repeatPart blinkPart where
  readLine := fun button =>
    { uses := by
        intro world world' hsame
        simp only [wires, Prod.mk.injEq] at hsame
        simp [Devices.readLine, wires, hsame]
      spares := fun _ => rfl
      sparesThird := fun _ => rfl }
  arm := fun schedule =>
    { uses := by
        intro world world' hsame
        simp only [repeatPart, Prod.mk.injEq] at hsame
        simp [Devices.arm, repeatPart, setAlarm, hsame]
      spares := fun _ => rfl
      sparesThird := fun _ => rfl }
  disarm :=
    { uses := by
        intro world world' hsame
        simp only [repeatPart, Prod.mk.injEq] at hsame
        simp [Devices.disarm, repeatPart, setAlarm, hsame]
      spares := fun _ => rfl
      sparesThird := fun _ => rfl }
  counted :=
    { uses := by
        intro world world' hsame
        simp only [repeatPart, Prod.mk.injEq] at hsame
        simp [Devices.expirations, repeatPart, alarm, setAlarm, hsame]
      spares := fun _ => rfl
      sparesThird := fun _ => rfl }
  setLamp := fun on =>
    { uses := by
        intro world world' hsame
        simp only [blinkPart, Prod.mk.injEq] at hsame
        simp [Devices.setLamp, blinkPart, hsame]
      spares := fun _ => rfl
      sparesThird := fun _ => rfl }
  blinkCounted :=
    { uses := by
        intro world world' hsame
        simp only [blinkPart, Prod.mk.injEq] at hsame
        simp [Devices.expirations, blinkPart, alarm, setAlarm, hsame]
      spares := fun _ => rfl
      sparesThird := fun _ => rfl }
  blinkArm := fun _ => ⟨fun _ => rfl, fun _ => rfl⟩
  blinkArmed := by
    intro delay delay' world world' hsame _ _
    simp only [blinkPart, Prod.mk.injEq] at hsame
    simp [Devices.arm, blinkPart, setAlarm, hsame]
  record := fun _ _ => ⟨rfl, rfl, rfl⟩
  emit := fun _ _ => ⟨rfl, rfl, rfl⟩

end VirtualClock

end Beacon
