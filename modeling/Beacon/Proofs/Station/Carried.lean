import Beacon.Proofs.Station.Session

/-!
# One world in the place of another

Some changes of a world make no difference to the work that is done in it:
the work may as well be done first and the world changed then.  Older
dealings in its record are such a change, and so is anything that only shows
when a line is read.

`Devices.Carries` is such a change of worlds, with the record as a part of
the world.  `Carries.perform` says that all actions are carried out alike,
and `Carries.feed` that a station goes the same way as long as its controller
answers the same.
-/

namespace Beacon.Devices

/-- A change of worlds that the lamp, the timers and the reports do not notice. -/
structure Carries {δ ε : Type} [Devices δ] [Devices ε] (carry : δ → ε) : Prop where
  setLamp : ∀ on world,
    setLamp on (carry world) = ((setLamp on world).1, carry (setLamp on world).2)
  arm : ∀ clock schedule world, arm clock schedule (carry world) =
    ((arm clock schedule world).1, carry (arm clock schedule world).2)
  disarm : ∀ clock world,
    disarm clock (carry world) = ((disarm clock world).1, carry (disarm clock world).2)
  record : ∀ entry world, record entry (carry world) = carry (record entry world)
  emit : ∀ event world, emit event (carry world) = carry (emit event world)

namespace Carries

variable {δ ε : Type} [Devices δ] [Devices ε] {carry : δ → ε} (h : Carries carry)

include h

theorem execute (action : Action) (world : δ) :
    Devices.execute action (carry world) =
      ((Devices.execute action world).1, carry (Devices.execute action world).2) := by
  have hnote : ∀ notice world, note notice (carry world) = carry (note notice world) := by
    intro notice world
    exact h.record notice.entry world
  cases action with
  | light on occasion =>
    simp only [Devices.execute, h.setLamp]
    rcases Devices.setLamp on world with ⟨fault | ⟨⟩, world⟩
    · simp only [hnote]
    · rfl
  | armBlink schedule occasion =>
    simp only [Devices.execute, h.arm]
    rcases Devices.arm .blink schedule world with ⟨fault | ⟨⟩, world⟩
    · simp only [hnote]
    · rfl
  | armRepeat schedule =>
    simp only [Devices.execute, h.arm]
    rcases Devices.arm .repeating schedule world with ⟨fault | ⟨⟩, world⟩
    · simp only [hnote]
    · rfl
  | disarmRepeat occasion =>
    simp only [Devices.execute, h.disarm]
    rcases Devices.disarm .repeating world with ⟨fault | ⟨⟩, world⟩
    · cases occasion with
      | start => rfl
      | running => simp only [hnote]
    · rfl
  | note notice => exact congrArg (Prod.mk _) (hnote notice world)
  | emit event => exact congrArg (Prod.mk _) (h.emit event world)

theorem perform (actions : List Action) (world : δ) :
    Devices.perform actions (carry world) =
      ((Devices.perform actions world).1, carry (Devices.perform actions world).2) := by
  induction actions generalizing world with
  | nil => rfl
  | cons action rest ih =>
    simp only [Devices.perform, h.execute]
    rcases Devices.execute action world with ⟨fault | ⟨⟩, world⟩
    · rfl
    · exact ih world

/-- Where two controllers answer the same, two stations do the same. -/
theorem feed {c c' : Controller} {stimulus stimulus' : Stimulus} (world : δ)
    (hanswer : (c'.react stimulus').2 = (c.react stimulus).2) :
    (Station.mk c' (carry world)).feed stimulus' =
      (((Station.mk c world).feed stimulus).1,
        ⟨(c'.react stimulus').1, carry ((Station.mk c world).feed stimulus).2.devices⟩) := by
  unfold Station.feed
  simp only [hanswer, h.perform]

end Carries

end Beacon.Devices
