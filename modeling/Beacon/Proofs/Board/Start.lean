import Mathlib.Tactic.SplitIfs
import Beacon.Proofs.Board.Attempts
import Beacon.Proofs.Station.Dealings

/-!
# What a board leaves alone behind the opening of its lines

Behind the opening of the lines of a board its timers and its queue are made, and
a station is started on it.  None of this writes a file as a whole or exchanges a
line, and none of it fails for a line.

* `Station.Upholds` is what every part of a start answers, and `Station.keeps_start`
  puts the parts together for a start on any devices.
* `Board.Keeps` relates a board to a later one that still has its lines.
  `Board.keeps_start` is the start of a station on a board.
* `Board.createSources_cases` says what making the timers and the queue leaves, as it
  works or fails.
-/

namespace Beacon

/-! ## A start -/

namespace Devices

variable {δ : Type} [Devices δ]

theorem execute_ne_line (action : Action) (world : δ) (fault : LineFault) :
    (execute action world).1 ≠ .error (.line fault) := by
  by_cases hstop : action.MayStop
  · cases action with
    | armBlink schedule occasion =>
      simp only [execute]
      rcases arm .blink schedule world with ⟨failure | ⟨⟩, later⟩ <;> simp
    | disarmRepeat occasion =>
      simp only [execute]
      rcases disarm .repeating world with ⟨failure | ⟨⟩, later⟩
      · cases occasion <;> simp
      · simp
    | light | armRepeat | note | emit => exact hstop.elim
  · rw [execute_of_not_mayStop hstop world]
    simp

theorem perform_ne_line (actions : List Action) (world : δ) (fault : LineFault) :
    (perform actions world).1 ≠ .error (.line fault) := by
  induction actions generalizing world with
  | nil => simp [perform]
  | cons action rest ih =>
    unfold perform
    have hfirst := execute_ne_line action world fault
    generalize execute action world = answer at hfirst ⊢
    rcases answer with ⟨failure | ⟨⟩, later⟩
    · exact hfirst
    · exact ih later

end Devices

namespace Station

section

variable {σ : Type} {Q : Except Fault Unit × σ → Prop}

theorem keeps_andThen {first : Except Fault Unit × σ} {next : σ → Except Fault Unit × σ}
    (hfirst : Q first) (hnext : ∀ state, Q (.ok (), state) → Q (next state)) :
    Q (andThen first next) := by
  obtain ⟨fault | ⟨⟩, state⟩ := first
  · exact hfirst
  · exact hnext state hfirst

theorem keeps_forAll {α : Type} {act : α → σ → Except Fault Unit × σ}
    (hact : ∀ a state, Q (.ok (), state) → Q (act a state)) (items : List α) {state : σ}
    (h : Q (.ok (), state)) : Q (forAll act items state) := by
  induction items generalizing state with
  | nil => exact h
  | cons a rest ih => exact keeps_andThen (hact a state h) fun _ hnext => ih hnext

end

theorem feed_ne_line {δ : Type} [Devices δ] (s : Station δ) (stimulus : Stimulus)
    (fault : LineFault) : (s.feed stimulus).1 ≠ .error (.line fault) :=
  Devices.perform_ne_line (s.controller.react stimulus).2 s.devices fault

/-- A part of a start, as it works or fails: the devices have kept what they should, and no line
has failed. -/
structure Upholds {δ : Type} (P : δ → Prop) (answer : Except Fault Unit × Station δ) : Prop where
  kept : P answer.2.devices
  no_line : ∀ fault, answer.1 ≠ .error (.line fault)

/-- What the devices keep, whatever they are asked, a start keeps; and no start fails for
a line. -/
theorem keeps_start {δ : Type} [Watched δ] {P : δ → Prop}
    (hread : ∀ button world, P world → P (Devices.readLine button world).2)
    (hcount : ∀ clock world, P world → P (Devices.expirations clock world).2)
    (hcalled : ∀ action world, P world → P (Devices.called world action))
    (hnote : ∀ notice world, P world → P (Devices.note notice world))
    (hregister : ∀ source interest world, P world → P (Watched.register source interest world).2)
    {s : Station δ} (h : P s.devices) : Upholds P s.start := by
  have hundergo : ∀ (s : Station δ) happening, (∀ f, happening ≠ .change f) → P s.devices →
      P (s.undergo happening).devices := fun s happening hquiet hs =>
    keeps_devices hread hcount hcalled hnote hs fun f hf => absurd hf (hquiet f)
  have hpacer : Upholds P s.startPacer := by
    refine ⟨hundergo s .startPacer (by simp) h, fun fault => ?_⟩
    rw [startPacer_eq]
    exact feed_ne_line _ _ fault
  have hsource : ∀ source (s : Station δ), Upholds P (.ok (), s) →
      Upholds P (s.register source) := by
    intro source s hs
    have hworld := hregister source (interestIn source) s.devices hs.kept
    unfold register
    generalize Watched.register source (interestIn source) s.devices = answer at hworld ⊢
    rcases answer with ⟨fault | ⟨⟩, world⟩
    · exact ⟨hworld, by simp⟩
    · exact ⟨hworld, by simp⟩
  refine keeps_andThen hpacer fun paced hpaced => ?_
  refine keeps_andThen (keeps_forAll hsource Source.all hpaced) fun watched hwatched => ?_
  have hlit : Upholds P watched.startBlinker :=
    ⟨hundergo watched .startBlinker (by simp) hwatched.kept, feed_ne_line watched .begin⟩
  exact keeps_andThen hlit fun lit hlit => ⟨hnote _ _ hlit.kept, by simp⟩

end Station

/-! ## Requests that write no file as a whole -/

namespace Host

variable (host : Host)

theorem adds_setTimer (clock : Clock) (timer : KernelTimer) :
    Adds [] host (host.setTimer clock timer) := by
  cases clock with
  | blink => exact ⟨(List.append_nil _).symm, rfl⟩
  | repeating => exact ⟨(List.append_nil _).symm, rfl⟩

theorem adds_ask {α ε : Type} (fault : ε) (severity : Severity) (complaint : String)
    {serve : Host → Except SystemFault α × Host} (h : ∀ host, Adds [] host (serve host).2) :
    Adds [] host (host.ask fault severity complaint serve).2 := by
  unfold ask
  have hquiet := adds_request h host
  generalize host.request serve = answer at hquiet ⊢
  rcases answer with ⟨refusal | answer, after⟩
  · exact hquiet.record _ _
  · exact hquiet

theorem adds_createTimer (clock : Clock) : Adds [] host (host.createTimer clock).2 :=
  adds_ask host _ _ _ fun host => host.adds_setTimer clock {}

theorem adds_arm (clock : Clock) (schedule : Schedule) :
    Adds [] host (host.arm clock schedule).2 := by
  refine adds_ask host _ _ _ fun host => ?_
  rcases KernelTimer.arm? schedule with _ | timer
  · exact .refl
  · exact host.adds_setTimer clock timer

theorem adds_disarm (clock : Clock) : Adds [] host (host.disarm clock).2 :=
  adds_ask host _ _ _ fun host => host.adds_setTimer clock {}

theorem adds_expirations (clock : Clock) : Adds [] host (host.expirations clock).2 :=
  adds_ask host _ _ _ fun host => host.adds_setTimer clock (host.timer clock).read

theorem adds_createQueue : Adds [] host host.createQueue.2 :=
  adds_ask host _ _ _ fun _ => ⟨(List.append_nil _).symm, rfl⟩

theorem adds_register (descriptor : Descriptor) (watchable : Bool) (source : Source)
    (interest : Interest) :
    Adds [] host (host.register descriptor watchable source interest).2 := by
  refine adds_ask host _ _ _ fun host => ?_
  split_ifs
  · exact .refl
  · exact .refl
  · exact ⟨(List.append_nil _).symm, rfl⟩

theorem adds_readLine (line : Gpio.Line) : Adds [] host (host.readLine line).2 := by
  unfold readLine readFirst
  generalize hanswer : host.request _ = answer
  have hquiet : Adds [] host answer.2 := hanswer ▸ adds_request (fun _ => .refl) host
  rcases answer with ⟨fault | _ | byte, after⟩
  · exact hquiet.record _ _
  · exact hquiet
  · dsimp only
    split_ifs <;> exact hquiet

theorem adds_writeLine (line : Gpio.Line) (high : Bool) :
    Adds [] host (host.writeLine line high).2 := by
  unfold writeLine writeFirst
  generalize hanswer : host.request _ = answer
  have hquiet : Adds [] host answer.2 :=
    hanswer ▸ adds_request (fun _ => ⟨(List.append_nil _).symm, rfl⟩) host
  rcases answer with ⟨fault | ⟨⟩, after⟩
  · exact hquiet.record _ _
  · exact hquiet

end Host

/-! ## The board -/

namespace Board

/-- On the way from one board to another no file is written as a whole, and the lines stay the
same. -/
structure Keeps (before after : Board) : Prop where
  adds : Host.Adds [] before.host after.host
  lamp : after.lamp = before.lamp
  buttons : after.buttons = before.buttons

namespace Keeps

variable {board before after : Board}

theorem refl : Keeps board board := ⟨.refl, rfl, rfl⟩

theorem trans (h : Keeps board before) (hlater : Keeps before after) : Keeps board after :=
  ⟨h.adds.then_nothing hlater.adds, hlater.lamp.trans h.lamp, hlater.buttons.trans h.buttons⟩

theorem onHost (h : Keeps board before) {α : Type} {act : Host → α × Host}
    (hact : ∀ host, Host.Adds [] host (act host).2) : Keeps board (before.onHost act).2 :=
  ⟨h.adds.then_nothing (hact before.host), h.lamp, h.buttons⟩

theorem record (h : Keeps board before) (entry : Journal.Entry) :
    Keeps board (Devices.record entry before) :=
  ⟨h.adds.record _ _, h.lamp, h.buttons⟩

theorem lines (h : Keeps before after) : after.lines = before.lines := by
  unfold Board.lines
  rw [h.lamp, h.buttons]

end Keeps

/-- A start leaves the lines alone, and does not fail for one. -/
theorem keeps_start (s : Station Board) : Station.Upholds (Keeps s.devices) s.start := by
  refine Station.keeps_start ?_ ?_ ?_ (fun _ _ h => h.record _) ?_ .refl
  · exact fun button world h => h.onHost fun host => host.adds_readLine (world.buttons.get button)
  · exact fun clock _ h => h.onHost fun host => host.adds_expirations clock
  · intro action world h
    cases action with
    | light on occasion => exact h.onHost fun host => host.adds_writeLine world.lamp on
    | armBlink schedule occasion => exact h.onHost fun host => host.adds_arm .blink schedule
    | armRepeat schedule => exact h.onHost fun host => host.adds_arm .repeating schedule
    | disarmRepeat occasion => exact h.onHost fun host => host.adds_disarm .repeating
    | note notice => exact h
    | emit event => exact h.record event.entry
  · intro source interest world h
    cases source with
    | timer clock => exact h.onHost fun host => host.adds_register _ _ _ _
    | button button => exact h.onHost fun host => host.adds_register _ _ _ _

/-- The lines are closed in an order that depends on how far it went. -/
theorem createSources_cases (board : Board) :
    (∃ after, board.createSources = .ok after ∧ Keeps board after) ∨
      ∃ fault after lines, board.createSources = .error (fault, after.host.closeAll lines) ∧
        Keeps board after ∧ lines.Perm board.lines ∧ ∀ lineFault, fault ≠ .line lineFault := by
  have hblink := (Keeps.refl : Keeps board board).onHost fun host => host.adds_createTimer .blink
  unfold createSources
  generalize board.onHost (Host.createTimer .blink) = answer at hblink ⊢
  rcases answer with ⟨fault | ⟨⟩, blinking⟩
  · exact .inr ⟨_, blinking, _, rfl, hblink, hblink.lines ▸ .refl _, by simp⟩
  have hrepeat := hblink.onHost fun host => host.adds_createTimer .repeating
  dsimp only
  generalize blinking.onHost (Host.createTimer .repeating) = answer at hrepeat ⊢
  rcases answer with ⟨fault | ⟨⟩, repeating⟩
  · refine .inr ⟨_, repeating, _, rfl, hrepeat, ?_, by simp⟩
    rw [← hrepeat.lines]
    exact List.perm_append_singleton repeating.lamp [_, _, _]
  have hqueue := hrepeat.onHost fun host => host.adds_createQueue
  dsimp only
  generalize repeating.onHost Host.createQueue = answer at hqueue ⊢
  rcases answer with ⟨fault | ⟨⟩, queueing⟩
  · refine .inr ⟨_, queueing, _, rfl, hqueue, ?_, by simp⟩
    rw [← hqueue.lines]
    exact List.perm_append_singleton queueing.lamp [_, _, _]
  · exact .inl ⟨queueing, rfl, hqueue⟩

end Board

end Beacon
