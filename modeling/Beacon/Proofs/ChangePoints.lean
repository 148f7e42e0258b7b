import Beacon.Proofs.Controller.Polarity
import Beacon.Proofs.Station.Carried

/-!
# Changes of what is read

A button reports where its line has come to mean something else, and nothing
besides; and it is all the same which level means what.

* `PushButton.Call` is one call of a button with the reading that it makes,
  and `lastLevel` what calls have read last.  `afterAll_eq` says that a button
  knows just that, whatever calls there have been and however many of them
  have failed.  `answer_eq_edge_iff` says which call answers an edge.
* `Rewired` is a world whose lines read the other level, inside which another
  world does the work.  `undergoAll_rewired`: a station in it whose buttons
  have the other polarity goes the same way, dealing by dealing.
-/

namespace Beacon

/-! ## Calls of a button -/

namespace PushButton

/-- One call of a button.  A call reads the line once. -/
inductive Call where
  | sync (reading : Reading)
  | reconcile (reading : Reading)

/-- What came of a call. -/
inductive Answer where
  /-- The state that was taken over. -/
  | state (pressed : Bool)
  | edge (edge : Edge)
  /-- The button has not moved. -/
  | stale
  | failed (fault : LineFault)

def Call.reading : Call → Reading
  | .sync reading => reading
  | .reconcile reading => reading

/-- The level that a call read, if it could read one. -/
def Call.level? (call : Call) : Option Bool := call.reading.toOption

/-- What a call answers, and the button that it leaves behind. -/
def answer (button : PushButton) : Call → Answer × PushButton
  | .sync reading =>
    match button.sync reading with
    | (.ok pressed, button) => (.state pressed, button)
    | (.error fault, button) => (.failed fault, button)
  | .reconcile reading =>
    match button.reconcile reading with
    | (.ok (some edge), button) => (.edge edge, button)
    | (.ok none, button) => (.stale, button)
    | (.error fault, button) => (.failed fault, button)

/-- The button after a sequence of calls. -/
def afterAll (button : PushButton) (calls : List Call) : PushButton :=
  calls.foldl (fun button call => (button.answer call).2) button

/-- The level at the last call that could read one. -/
def lastLevel (calls : List Call) : Option Bool := (calls.filterMap Call.level?).getLast?

/-- A button whose line has not been read yet. -/
def unread (id : Button) (activeHigh : Bool) : PushButton := { id, activeHigh }

theorem lastLevel_cons (call : Call) (rest : List Call) :
    lastLevel (call :: rest) = (lastLevel rest).or call.level? := by
  unfold lastLevel
  cases hlevel : call.level? with
  | none => simp [hlevel]
  | some level => simp [hlevel, List.getLast?_cons, Option.or_some]

variable {button : PushButton} {call : Call}

/-- Either call teaches a button what its reading shows, and nothing else. -/
theorem answer_snd (button : PushButton) (call : Call) :
    (button.answer call).2 =
      { button with pressed := call.level?.elim button.pressed button.meansPressed } := by
  cases call with
  | sync reading => cases reading <;> rfl
  | reconcile reading =>
    have hanswer : (button.answer (.reconcile reading)).2 = (button.reconcile reading).2 := by
      unfold answer
      simp only
      split <;> next heq => rw [heq]
    rw [hanswer, reconcile_snd]
    cases reading <;> rfl

/-- A button knows the last level that could be read, and before there is one
what it knew at first. -/
theorem afterAll_eq (button : PushButton) (calls : List Call) :
    button.afterAll calls =
      { button with pressed := (lastLevel calls).elim button.pressed button.meansPressed } := by
  induction calls generalizing button with
  | nil => rfl
  | cons call rest ih =>
    show (button.answer call).2.afterAll rest = _
    rw [ih, answer_snd, lastLevel_cons]
    cases lastLevel rest with
    | some level => rfl
    | none => rfl

/-- Only a notification answers an edge, and only where the level that it read
means another state than is known. -/
theorem answer_eq_edge_iff {edge : Edge} :
    (button.answer call).1 = .edge edge ↔
      ∃ level, call = .reconcile (.ok level) ∧ button.meansPressed level ≠ button.pressed ∧
        edge = button.edgeTo (button.meansPressed level) := by
  cases call with
  | sync reading => cases reading <;> simp [answer, sync]
  | reconcile reading =>
    have hanswer : (button.answer (.reconcile reading)).1 = .edge edge ↔
        (button.reconcile reading).1 = .ok (some edge) := by
      unfold answer
      simp only
      split <;> next heq => simp [heq]
    rw [hanswer, reconcile_fst_eq_some_iff]
    cases reading with
    | error fault => simp [sync]
    | ok level => simp [sync]

theorem answer_of_error {fault : LineFault} (h : call.reading = .error fault) :
    button.answer call = (.failed fault, button) := by
  cases call with
  | sync reading =>
    cases h
    rfl
  | reconcile reading =>
    cases h
    rfl

end PushButton

/-! ## Worlds wired the other way -/

/-- The dealing, with the other level read. -/
def Dealing.inverted : Dealing → Dealing
  | .read button reading => .read button (Reading.inverted reading)
  | .counted clock count => .counted clock count
  | .lit on result => .lit on result
  | .armed clock schedule result => .armed clock schedule result
  | .disarmed clock result => .disarmed clock result
  | .emitted event => .emitted event

/-- A world whose lines read the other level.  Another world does the work. -/
structure Rewired (δ : Type) where
  world : δ

instance {δ : Type} [Devices δ] : Devices (Rewired δ) where
  readLine button r :=
    let (reading, world) := Devices.readLine button r.world
    (Reading.inverted reading, ⟨world⟩)
  setLamp on r :=
    let (result, world) := Devices.setLamp on r.world
    (result, ⟨world⟩)
  arm clock schedule r :=
    let (result, world) := Devices.arm clock schedule r.world
    (result, ⟨world⟩)
  disarm clock r :=
    let (result, world) := Devices.disarm clock r.world
    (result, ⟨world⟩)
  expirations clock r :=
    let (count, world) := Devices.expirations clock r.world
    (count, ⟨world⟩)
  record entry r := ⟨Devices.record entry r.world⟩
  emit event r := ⟨Devices.emit event r.world⟩

/-- A happening of a world, when its lines read the other level. -/
def Happening.rewired {δ : Type} : Happening δ → Happening (Rewired δ)
  | .change f => .change fun r => ⟨f r.world⟩
  | .startPacer => .startPacer
  | .startBlinker => .startBlinker
  | .notify source => .notify source
  | .edge confirmed => .edge confirmed
  | .reset => .reset

namespace Observed

variable {δ : Type}

/-- The record that would have been, had the lines read the other level. -/
def rewired (o : Observed δ) : Observed (Rewired δ) :=
  ⟨⟨o.world⟩, o.dealings.map Dealing.inverted⟩

theorem rewired_dealt (o : Observed δ) (world : δ) (dealing : Dealing) :
    o.rewired.dealt ⟨world⟩ dealing.inverted = (o.dealt world dealing).rewired := by
  simp [rewired, dealt]

theorem carries_rewired [Devices δ] :
    Devices.Carries (rewired : Observed δ → Observed (Rewired δ)) where
  setLamp on o := congrArg (Prod.mk _) (o.rewired_dealt _ (.lit on _))
  arm clock schedule o := congrArg (Prod.mk _) (o.rewired_dealt _ (.armed clock schedule _))
  disarm clock o := congrArg (Prod.mk _) (o.rewired_dealt _ (.disarmed clock _))
  record _ _ := rfl
  emit event o := o.rewired_dealt _ (.emitted event)

end Observed

namespace Station

variable {δ : Type} [Devices δ]

/-- The station whose buttons have the other polarity, among lines that read the
other level. -/
def rewired (s : Station (Observed δ)) : Station (Observed (Rewired δ)) :=
  ⟨s.controller.flipped, s.devices.rewired⟩

theorem feed_rewired (s : Station (Observed δ)) (stimulus : Stimulus) :
    s.rewired.feed stimulus.inverted = ((s.feed stimulus).1, (s.feed stimulus).2.rewired) := by
  have hreact := s.controller.react_flipped stimulus
  have hanswer : (s.controller.flipped.react stimulus.inverted).2 =
      (s.controller.react stimulus).2 := by
    rw [hreact]
  have hfeed := Observed.carries_rewired.feed s.devices hanswer
  rw [hreact] at hfeed
  exact hfeed

/-- A station may be told what has just been read, and both may be of the other
level. -/
theorem feed_dealt_rewired (s : Station (Observed δ)) (world : δ) (dealing : Dealing)
    (stimulus : Stimulus) :
    Station.feed ⟨s.controller.flipped, s.devices.rewired.dealt ⟨world⟩ dealing.inverted⟩
        stimulus.inverted =
      ((Station.feed ⟨s.controller, s.devices.dealt world dealing⟩ stimulus).1,
        (Station.feed ⟨s.controller, s.devices.dealt world dealing⟩ stimulus).2.rewired) := by
  rw [Observed.rewired_dealt]
  exact feed_rewired ⟨s.controller, s.devices.dealt world dealing⟩ stimulus

theorem handle_rewired (source : Source) (s : Station (Observed δ)) :
    s.rewired.handle source = ((s.handle source).1, (s.handle source).2.rewired) := by
  rcases source with ⟨_ | _⟩ | button
  · exact feed_dealt_rewired s _ (.counted .blink _) (.blinkExpired _)
  · exact feed_dealt_rewired s _ (.counted .repeating _) (.repeatExpired _)
  · exact feed_dealt_rewired s _ (.read button _) (.woke button _)

theorem seeded_rewired (s : Station (Observed δ)) (button : Button) :
    s.rewired.seeded button = (s.seeded button).rewired :=
  congrArg Prod.snd (feed_dealt_rewired s _ (.read button _) (.seed button _))

theorem undergo_rewired (s : Station (Observed δ)) (happening : Happening δ) :
    s.rewired.undergo happening.rewired.observed = (s.undergo happening.observed).rewired := by
  cases happening with
  | change f => rfl
  | startPacer =>
    show s.rewired.startPacer.2 = s.startPacer.2.rewired
    rw [startPacer_eq, startPacer_eq, seeded_rewired, seeded_rewired, seeded_rewired]
    exact congrArg Prod.snd (feed_rewired _ .settle)
  | startBlinker => exact congrArg Prod.snd (feed_rewired s .begin)
  | notify source => exact congrArg Prod.snd (handle_rewired source s)
  | edge confirmed => exact congrArg Prod.snd (feed_rewired s (.edge confirmed))
  | reset => exact congrArg Prod.snd (feed_rewired s .reset)

theorem undergoAll_rewired (s : Station (Observed δ)) (happenings : List (Happening δ)) :
    s.rewired.undergoAll (happenings.map fun happening => happening.rewired.observed) =
      (s.undergoAll (happenings.map Happening.observed)).rewired := by
  induction happenings generalizing s with
  | nil => rfl
  | cons happening rest ih =>
    rw [List.map_cons, List.map_cons, undergoAll_cons, undergoAll_cons, undergo_rewired, ih]

end Station

/-- After any calls a button knows what the last level that could be read means,
and is taken for released until there is one.  A call answers an edge exactly if
it is a notification that reads a level of the other meaning; a call that cannot
read its line changes nothing.

Which level has which meaning is no more than a name.  Settings of the other
polarity and lines that read the other level make the same of every session,
whatever its last step: the same lamp commands, calls of the timers and events,
with the same results, the same journal, and the same controller but for the
polarity of its buttons. -/
theorem edges_are_changes_in_either_polarity {δ : Type} [Devices δ] :
    (∀ (id : Button) (activeHigh : Bool) (calls : List PushButton.Call),
      let button := (PushButton.unread id activeHigh).afterAll calls
      let known := (PushButton.lastLevel calls).elim false (· == activeHigh)
      button.pressed = known ∧
        (∀ call edge, (button.answer call).1 = .edge edge ↔
          ∃ level, call = .reconcile (.ok level) ∧ (level == activeHigh) ≠ known ∧
            edge = ⟨id, if level == activeHigh then .pressed else .released⟩) ∧
        ∀ call fault, call.reading = .error fault →
          button.answer call = (.failed fault, button)) ∧
      ∀ (blinker pacer : Settings) (world : δ) (happenings : List (Happening δ)),
        let s := (Station.mk (.ofTwo blinker pacer) (Observed.mk world [])).undergoAll
          (happenings.map Happening.observed)
        let s' := (Station.mk (.ofTwo blinker.flipped pacer.flipped)
          (Observed.mk (Rewired.mk world) [])).undergoAll
            (happenings.map fun happening => happening.rewired.observed)
        s'.controller.blinker = s.controller.blinker ∧
          s'.controller.pacer = s.controller.pacer.flipped ∧
          s'.devices.world.world = s.devices.world ∧
          s'.devices.dealings = s.devices.dealings.map Dealing.inverted := by
  constructor
  · intro id activeHigh calls button known
    have hbutton : button = ⟨id, activeHigh, known⟩ :=
      PushButton.afterAll_eq (PushButton.unread id activeHigh) calls
    rw [hbutton]
    refine ⟨rfl, ?_, ?_⟩
    · intro call edge
      exact PushButton.answer_eq_edge_iff
    · intro call fault hfailed
      exact PushButton.answer_of_error hfailed
  · intro blinker pacer world happenings s s'
    have hsession : s' = s.rewired := by
      show Station.undergoAll ⟨.ofTwo blinker.flipped pacer.flipped, _⟩ _ = _
      rw [Controller.ofTwo_flipped]
      exact Station.undergoAll_rewired ⟨.ofTwo blinker pacer, ⟨world, []⟩⟩ happenings
    rw [hsession]
    exact ⟨rfl, rfl, rfl, rfl⟩

/-- A button whose line is low while it is pressed: a press, a reading that
fails, and the release is an edge all the same.  And a session with a press goes
the same way on a bench wired like that. -/
theorem edges_are_changes_in_either_polarity_press :
    let calls : List PushButton.Call := [.sync (.ok false), .reconcile (.error ⟨.read, 3⟩)]
    let button := (PushButton.unread .k3 false).afterAll calls
    let world : Bench := { wiring := {} }
    let session : List (Happening Bench) :=
      [.startPacer, .startBlinker, .change (·.setLevel .k1 (.level true)), .notify (.button .k1)]
    let s := (Station.mk (.ofTwo {} {}) (Observed.mk world [])).undergoAll
      (session.map Happening.observed)
    let s' := (Station.mk (.ofTwo (Settings.flipped {}) (Settings.flipped {}))
      (Observed.mk (Rewired.mk world) [])).undergoAll
        (session.map fun happening => happening.rewired.observed)
    (button.answer (.reconcile (.ok true))).1 = .edge ⟨.k3, .released⟩ ∧
      button.answer (.sync (.error ⟨.read, 3⟩)) = (.failed ⟨.read, 3⟩, button) ∧
      s.controller.heading = some .faster ∧
      s'.controller.pacer = s.controller.pacer.flipped ∧
      s'.devices.world.world = s.devices.world := by
  intro calls button world session
  obtain ⟨hcalls, hsessions⟩ := edges_are_changes_in_either_polarity (δ := Bench)
  obtain ⟨-, hedge, hfailed⟩ := hcalls .k3 false calls
  obtain ⟨-, hpacer, hworld, -⟩ := hsessions {} {} world session
  refine ⟨?_, ?_, by decide +kernel, hpacer, hworld⟩
  · exact (hedge _ _).mpr ⟨true, rfl, by decide, rfl⟩
  · exact hfailed _ _ rfl

end Beacon
