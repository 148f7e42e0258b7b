import Beacon.Board

/-!
# What opening and closing lines attempts to write

A host keeps every attempt to write a file as a whole, and lines are exported,
unexported and set up by such attempts only.  This module tells what each
operation on lines adds to them.

There are four groups.

* The kinds of attempts.  `Attempt.unexporting`, `Attempt.exporting` and
  `Attempt.setting` are told apart, and tell the line that they are about.
* What is added.  `Host.Adds` relates two states of a host, and every operation
  on one line has a lemma that lists the attempts it adds.
* Opening a line.  A `Plan` says how a line is to be set up, so that one
  function, `Host.openPlanned`, opens lines of both directions.  `Opening` lists
  the forms that it takes, and `opening_openPlanned` says that there are no
  others.
* One line after the other.  `Closing` is what is attempted when lines are closed,
  and `Opened` when they are opened and all of it works.  `Host.openEach` follows a
  list of plans, and `Board.openEach_plans` says that the lines of a board are opened
  so.
-/

namespace Beacon

/-! ## Plans -/

namespace Gpio

/-- The files of a line that are written when it is opened. -/
inductive Attribute where
  | direction
  | edge
deriving DecidableEq

namespace Attribute

def name : Attribute → String
  | direction => "direction"
  | edge => "edge"

/-- What is wrong with a line if the file cannot be written. -/
def cause : Attribute → LineFault.Cause
  | direction => .direction
  | edge => .edge

theorem cause_ne_exporting (file : Attribute) : file.cause ≠ .exporting := by
  cases file <;> simp [cause]

@[simp] theorem name_inj {file other : Attribute} : file.name = other.name ↔ file = other := by
  cases file <;> cases other <;> simp [name]

end Attribute

/-- A file of a line and the text that is written to it. -/
structure Setup where
  file : Attribute
  text : String

/-- How a line is to be opened. -/
structure Plan where
  line : UInt32
  setups : List Setup
  writable : Bool

def Plan.output (line : UInt32) : Plan := ⟨line, [⟨.direction, "out"⟩], true⟩

def Plan.input (line : UInt32) (trigger : Trigger) : Plan :=
  ⟨line, [⟨.direction, "in"⟩, ⟨.edge, trigger.word⟩], false⟩

theorem toString_inj {line other : UInt32} : toString line = toString other ↔ line = other := by
  refine ⟨fun h => ?_, congrArg toString⟩
  have htext : String.ofList (Nat.toDigits 10 line.toNat) =
      String.ofList (Nat.toDigits 10 other.toNat) := h
  have hdigits := String.ofList_injective htext
  refine UInt32.toNat_inj.mp ?_
  calc line.toNat = Nat.ofDigitChars 10 (Nat.toDigits 10 line.toNat) 0 :=
        Nat.ofDigitChars_ten_toDigits.symm
    _ = other.toNat := by rw [hdigits, Nat.ofDigitChars_ten_toDigits]

theorem attributePath_inj {root : Path} {line other : UInt32} {name name' : String} :
    attributePath root line name = attributePath root other name' ↔
      line = other ∧ name = name' := by
  simp [attributePath, toString_inj]

end Gpio

/-! ## The kinds of attempts -/

namespace Host.Attempt

/-- An attempt to undo the export of a line. -/
def unexporting (root : Path) (line : UInt32) (worked : Bool) : Attempt :=
  ⟨root ++ ["unexport"], toString line, worked⟩

def exporting (root : Path) (line : UInt32) (worked : Bool) : Attempt :=
  ⟨root ++ ["export"], toString line, worked⟩

/-- An attempt to write a file of a line. -/
def setting (root : Path) (line : UInt32) (setup : Gpio.Setup) (worked : Bool) : Attempt :=
  ⟨Gpio.attributePath root line setup.file.name, setup.text, worked⟩

variable {root : Path} {line other : UInt32} {setup : Gpio.Setup} {worked worked' : Bool}

@[simp] theorem unexporting_inj :
    unexporting root line worked = unexporting root other worked' ↔
      line = other ∧ worked = worked' := by
  simp [unexporting, Gpio.toString_inj]

@[simp] theorem exporting_inj :
    exporting root line worked = exporting root other worked' ↔
      line = other ∧ worked = worked' := by
  simp [exporting, Gpio.toString_inj]

@[simp] theorem unexporting_ne_exporting :
    unexporting root line worked ≠ exporting root other worked' := by
  simp [unexporting, exporting]

@[simp] theorem exporting_ne_unexporting :
    exporting root line worked ≠ unexporting root other worked' := by
  simp [unexporting, exporting]

@[simp] theorem setting_ne_unexporting :
    setting root line setup worked ≠ unexporting root other worked' := by
  simp [setting, unexporting, Gpio.attributePath]

@[simp] theorem setting_ne_exporting :
    setting root line setup worked ≠ exporting root other worked' := by
  simp [setting, exporting, Gpio.attributePath]

@[simp] theorem unexporting_ne_setting :
    unexporting root line worked ≠ setting root other setup worked' :=
  setting_ne_unexporting.symm

@[simp] theorem exporting_ne_setting :
    exporting root line worked ≠ setting root other setup worked' :=
  setting_ne_exporting.symm

end Host.Attempt

/-! ## What is added -/

namespace Host

open Gpio (Line Plan Setup)
open Attempt (unexporting exporting setting)

/-- On the way from one state of a host to another, these attempts have been made. -/
structure Adds (made : List Attempt) (before after : Host) : Prop where
  attempts : after.attempts = before.attempts ++ made
  root : after.root = before.root

namespace Adds

variable {made later : List Attempt} {host after final : Host}

theorem refl : Adds [] host host := ⟨(List.append_nil _).symm, rfl⟩

theorem trans (h : Adds made host after) (hlater : Adds later after final) :
    Adds (made ++ later) host final :=
  ⟨by rw [hlater.attempts, h.attempts, List.append_assoc], hlater.root.trans h.root⟩

theorem then_nothing (h : Adds made host after) (hlater : Adds [] after final) :
    Adds made host final := by
  simpa using h.trans hlater

theorem record (h : Adds made host after) (severity : Severity) (text : String) :
    Adds made host (after.record severity text) := ⟨h.attempts, h.root⟩

end Adds

/-- A refusal adds nothing. -/
theorem adds_request {α : Type} {serve : Host → Except SystemFault α × Host}
    (h : ∀ host, Adds [] host (serve host).2) (host : Host) : Adds [] host (host.request serve).2 := by
  unfold request
  split
  · exact h host
  · next rest _ =>
    have hserved := h { host with refusals := rest }
    exact ⟨hserved.attempts, hserved.root⟩
  · exact ⟨(List.append_nil _).symm, rfl⟩

theorem writeFile_cases (path : Path) (text : String) (host : Host) :
    (∃ after, host.writeFile path text = (.ok (), after) ∧ Adds [⟨path, text, true⟩] host after) ∨
      ∃ fault after, host.writeFile path text = (.error fault, after) ∧
        Adds [⟨path, text, false⟩] host after := by
  unfold writeFile
  generalize hanswer : host.request _ = answer
  have hquiet : Adds [] host answer.2 :=
    hanswer ▸ adds_request (fun _ => ⟨(List.append_nil _).symm, rfl⟩) host
  obtain ⟨result, after⟩ := answer
  have hsame : after.attempts = host.attempts := by simpa using hquiet.attempts
  rcases result with fault | ⟨⟩
  · exact .inr ⟨fault, _, rfl, congrArg (· ++ _) hsame, hquiet.root⟩
  · exact .inl ⟨_, rfl, congrArg (· ++ _) hsame, hquiet.root⟩

/-! ## One line -/

variable (line : UInt32) (host : Host)

theorem unexportLine_cases :
    ∃ result worked after, host.unexportLine line = (result, after) ∧
      Adds [unexporting host.root line worked] host after := by
  unfold unexportLine
  rcases host.writeFile_cases (host.root ++ ["unexport"]) (toString line) with
    ⟨after, hwrite, hadds⟩ | ⟨fault, after, hwrite, hadds⟩
  · rw [hwrite]
    exact ⟨_, true, after, rfl, hadds⟩
  · rw [hwrite]
    exact ⟨_, false, after, rfl, hadds⟩

theorem clearExport_cases :
    ∃ cleared, Adds [unexporting host.root line cleared] host (host.clearExport line) := by
  obtain ⟨result, cleared, after, hundo, hadds⟩ := host.unexportLine_cases line
  refine ⟨cleared, ?_⟩
  unfold clearExport
  rw [hundo]
  rcases result with fault | ⟨⟩
  · exact hadds
  · exact hadds.record _ _

/-- Exporting a line first tries to undo an export that is left over. -/
theorem exportLine_cases :
    ∃ cleared, (∃ after, host.exportLine line = (.ok (), after) ∧
        Adds [unexporting host.root line cleared, exporting host.root line true] host after) ∨
      ∃ after, host.exportLine line = (.error ⟨.exporting, line⟩, after) ∧
        Adds [unexporting host.root line cleared, exporting host.root line false] host after := by
  obtain ⟨cleared, hready⟩ := host.clearExport_cases line
  refine ⟨cleared, ?_⟩
  unfold exportLine
  generalize host.clearExport line = ready at hready ⊢
  rcases ready.writeFile_cases (ready.root ++ ["export"]) (toString line) with
    ⟨after, hwrite, hadds⟩ | ⟨fault, after, hwrite, hadds⟩
  · dsimp only
    rw [hwrite]
    exact .inl ⟨after, rfl, hready.trans (hready.root ▸ hadds)⟩
  · dsimp only
    rw [hwrite]
    exact .inr ⟨_, rfl, (hready.trans (hready.root ▸ hadds)).record _ _⟩

theorem writeAttribute_cases (setup : Setup) :
    (∃ after, host.writeAttribute line setup.file.name setup.text setup.file.cause =
        (.ok (), after) ∧ Adds [setting host.root line setup true] host after) ∨
      ∃ after, host.writeAttribute line setup.file.name setup.text setup.file.cause =
        (.error ⟨setup.file.cause, line⟩, after) ∧
          Adds [setting host.root line setup false] host after := by
  unfold writeAttribute
  rcases host.writeFile_cases (Gpio.attributePath host.root line setup.file.name) setup.text with
    ⟨after, hwrite, hadds⟩ | ⟨fault, after, hwrite, hadds⟩
  · rw [hwrite]
    exact .inl ⟨after, rfl, hadds⟩
  · rw [hwrite]
    exact .inr ⟨_, rfl, hadds.record _ _⟩

theorem openValue_cases (writable : Bool) :
    (∃ opened after, host.openValue line writable = (.ok opened, after) ∧ opened.number = line ∧
        Adds [] host after) ∨
      ∃ after, host.openValue line writable = (.error ⟨.opening, line⟩, after) ∧
        Adds [] host after := by
  unfold openValue openFile
  generalize hanswer : host.request _ = answer
  have hquiet : Adds [] host answer.2 := hanswer ▸ adds_request (fun _ => .refl) host
  obtain ⟨fault | value, after⟩ := answer
  · exact .inr ⟨_, rfl, hquiet.record _ _⟩
  · exact .inl ⟨_, after, rfl, rfl, hquiet⟩

/-! ## Opening a line -/

/-- Writes files of a line, up to the first that cannot be written. -/
def setUp (line : UInt32) : List Setup → Host → Except LineFault Unit × Host
  | [], host => (.ok (), host)
  | setup :: rest, host =>
    match host.writeAttribute line setup.file.name setup.text setup.file.cause with
    | (.error fault, host) => (.error fault, host)
    | (.ok (), host) => setUp line rest host

/-- Opens a line as planned. -/
def openPlanned (plan : Plan) (host : Host) : Except LineFault Line × Host :=
  match host.exportLine plan.line with
  | (.error fault, host) => (.error fault, host)
  | (.ok (), host) =>
    match host.setUp plan.line plan.setups with
    | (.error fault, host) => (.error fault, host)
    | (.ok (), host) => host.openValue plan.line plan.writable

theorem openOutput_eq : host.openOutput line = host.openPlanned (.output line) := by
  simp only [openOutput, openPlanned, Plan.output, setUp, Gpio.Attribute.name, Gpio.Attribute.cause]
  rcases host.exportLine line with ⟨fault | ⟨⟩, exported⟩
  · rfl
  · dsimp only
    rcases exported.writeAttribute line "direction" "out" .direction with ⟨fault | ⟨⟩, directed⟩
    · rfl
    · rfl

theorem openInput_eq (trigger : Gpio.Trigger) :
    host.openInput line trigger = host.openPlanned (.input line trigger) := by
  simp only [openInput, openPlanned, Plan.input, setUp, Gpio.Attribute.name, Gpio.Attribute.cause]
  rcases host.exportLine line with ⟨fault | ⟨⟩, exported⟩
  · rfl
  · dsimp only
    rcases exported.writeAttribute line "direction" "in" .direction with ⟨fault | ⟨⟩, directed⟩
    · rfl
    · dsimp only
      rcases directed.writeAttribute line "edge" trigger.word .edge with ⟨fault | ⟨⟩, triggered⟩
      · rfl
      · rfl

theorem setUp_cases (setups : List Setup) :
    (∃ after, host.setUp line setups = (.ok (), after) ∧
        Adds (setups.map (setting host.root line · true)) host after) ∨
      ∃ done setup rest after, setups = done ++ setup :: rest ∧
        host.setUp line setups = (.error ⟨setup.file.cause, line⟩, after) ∧
        Adds (done.map (setting host.root line · true) ++ [setting host.root line setup false])
          host after := by
  induction setups generalizing host with
  | nil => exact .inl ⟨host, rfl, .refl⟩
  | cons setup rest ih =>
    unfold setUp
    rcases host.writeAttribute_cases line setup with
      ⟨written, hwrite, hadds⟩ | ⟨after, hwrite, hadds⟩
    · rw [hwrite]
      dsimp only
      rcases ih written with ⟨after, hworked, hlater⟩ | ⟨done, failed, later, after, rfl, hfailed, hlater⟩
      · rw [hadds.root] at hlater
        exact .inl ⟨after, hworked, hadds.trans hlater⟩
      · rw [hadds.root] at hlater
        exact .inr ⟨setup :: done, failed, later, after, rfl, hfailed, hadds.trans hlater⟩
    · rw [hwrite]
      exact .inr ⟨[], setup, rest, after, rfl, rfl, hadds⟩

/-- What is attempted when a line is opened and all of it works, except perhaps to undo
an export that is left over. -/
def openingAttempts (root : Path) (plan : Plan) (cleared : Bool) : List Attempt :=
  unexporting root plan.line cleared :: exporting root plan.line true ::
    plan.setups.map (setting root plan.line · true)

/-- The forms that opening a line takes: what it answers and what it attempts. -/
inductive Opening (root : Path) (plan : Plan) : Except LineFault Line → List Attempt → Prop where
  /-- The line cannot be exported. -/
  | refused (cleared : Bool) :
      Opening root plan (.error ⟨.exporting, plan.line⟩)
        [unexporting root plan.line cleared, exporting root plan.line false]
  /-- A file of the line cannot be written. -/
  | unfinished (cleared : Bool) {done rest : List Setup} {setup : Setup}
      (hall : plan.setups = done ++ setup :: rest) :
      Opening root plan (.error ⟨setup.file.cause, plan.line⟩)
        (unexporting root plan.line cleared :: exporting root plan.line true ::
          (done.map (setting root plan.line · true) ++ [setting root plan.line setup false]))
  /-- The level of the line cannot be opened. -/
  | shut (cleared : Bool) :
      Opening root plan (.error ⟨.opening, plan.line⟩) (openingAttempts root plan cleared)
  | works (cleared : Bool) {line : Line} (hnumber : line.number = plan.line) :
      Opening root plan (.ok line) (openingAttempts root plan cleared)

/-- Opening a line takes one of the forms. -/
theorem opening_openPlanned (plan : Plan) :
    ∃ made, Adds made host (host.openPlanned plan).2 ∧
      Opening host.root plan (host.openPlanned plan).1 made := by
  unfold openPlanned
  obtain ⟨cleared, hexport⟩ := host.exportLine_cases plan.line
  rcases hexport with ⟨exported, hexport, hexported⟩ | ⟨after, hexport, hadds⟩
  · rw [hexport]
    dsimp only
    rcases exported.setUp_cases plan.line plan.setups with
      ⟨ready, hsetup, hready⟩ | ⟨done, setup, rest, after, hall, hsetup, hadds⟩
    · rw [hsetup]
      dsimp only
      rw [hexported.root] at hready
      rcases ready.openValue_cases plan.line plan.writable with
        ⟨line, after, hopen, hnumber, hquiet⟩ | ⟨after, hopen, hquiet⟩
      · rw [hopen]
        exact ⟨_, (hexported.trans hready).then_nothing hquiet, .works cleared hnumber⟩
      · rw [hopen]
        exact ⟨_, (hexported.trans hready).then_nothing hquiet, .shut cleared⟩
    · rw [hsetup]
      rw [hexported.root] at hadds
      exact ⟨_, hexported.trans hadds, .unfinished cleared hall⟩
  · rw [hexport]
    exact ⟨_, hadds, .refused cleared⟩

/-! ## Closing -/

theorem close_cases (line : Line) :
    ∃ worked, Adds [unexporting host.root line.number worked] host (host.close line) := by
  unfold close
  obtain ⟨result, worked, after, hundo, hadds⟩ := host.unexportLine_cases line.number
  refine ⟨worked, ?_⟩
  rw [hundo]
  rcases result with fault | ⟨⟩
  · exact hadds.record _ _
  · exact hadds

/-- What is attempted when lines are closed. -/
inductive Closing (root : Path) : List Line → List Attempt → Prop where
  | nil : Closing root [] []
  | cons (line : Line) (worked : Bool) {rest : List Line} {made : List Attempt}
      (h : Closing root rest made) :
      Closing root (line :: rest) (unexporting root line.number worked :: made)

theorem closing_closeAll (lines : List Line) :
    ∃ made, Adds made host (host.closeAll lines) ∧ Closing host.root lines made := by
  induction lines generalizing host with
  | nil => exact ⟨[], .refl, .nil⟩
  | cons line rest ih =>
    obtain ⟨worked, hadds⟩ := host.close_cases line
    obtain ⟨made, hlater, hclosing⟩ := ih (host.close line)
    rw [hadds.root] at hclosing
    exact ⟨_, hadds.trans hlater, .cons line worked hclosing⟩

/-! ## Opening one line after the other -/

/-- Opens lines as planned, one after the other. If one cannot be opened, those that are open by
then are closed, the last one first. -/
def openEach : List Plan → List Line → Host → Except LineFault (List Line) × Host
  | [], opened, host => (.ok opened, host)
  | plan :: rest, opened, host =>
    match host.openPlanned plan with
    | (.error fault, host) => (.error fault, host.closeAll opened)
    | (.ok line, host) => openEach rest (line :: opened) host

/-- What is attempted when lines are opened and all of it works. -/
inductive Opened (root : Path) : List Plan → List Attempt → Prop where
  | nil : Opened root [] []
  | cons (plan : Plan) (cleared : Bool) {rest : List Plan} {made : List Attempt}
      (h : Opened root rest made) :
      Opened root (plan :: rest) (openingAttempts root plan cleared ++ made)

theorem opened_openEach {plans : List Plan} {opened lines : List Line} {host after : Host}
    (h : host.openEach plans opened = (.ok lines, after)) :
    ∃ made, Adds made host after ∧ Opened host.root plans made ∧
      lines.map (·.number) = (plans.map (·.line)).reverse ++ opened.map (·.number) := by
  induction plans generalizing opened host with
  | nil =>
    cases h
    exact ⟨[], .refl, .nil, rfl⟩
  | cons plan rest ih =>
    unfold openEach at h
    obtain ⟨made, hadds, hopening⟩ := host.opening_openPlanned plan
    generalize host.openPlanned plan = answer at h hadds hopening
    obtain ⟨fault | line, later⟩ := answer
    · cases h
    · cases hopening with
      | works cleared hnumber =>
        obtain ⟨more, hlater, hopened, hlines⟩ := ih h
        rw [hadds.root] at hopened
        refine ⟨_, hadds.trans hlater, .cons plan cleared hopened, ?_⟩
        simp [hlines, hnumber]

end Host

/-! ## The lines of a board -/

namespace Wiring

/-- How the lines of a board are to be opened. -/
def plans (wiring : Wiring) : List Gpio.Plan :=
  [.output wiring.lamp, .input wiring.k1 .both, .input wiring.k2 .both, .input wiring.k3 .both]

/-- The numbers of the lines in the order in which they are opened. -/
def lines (wiring : Wiring) : List UInt32 := [wiring.lamp, wiring.k1, wiring.k2, wiring.k3]

theorem lines_plans (wiring : Wiring) : wiring.plans.map (·.line) = wiring.lines := rfl

end Wiring

namespace Board

variable {wiring : Wiring} {host after : Host} {board : Board}

/-- The lines of a board are opened one after the other. -/
theorem openEach_plans (wiring : Wiring) (host : Host) :
    host.openEach wiring.plans [] =
      ((openLines wiring host).1.map fun board => board.lines.reverse,
        (openLines wiring host).2) := by
  simp only [Wiring.plans, Host.openEach, openLines, openButton, Host.openOutput_eq,
    Host.openInput_eq]
  rcases host.openPlanned (.output wiring.lamp) with ⟨fault | lamp, host⟩
  · rfl
  dsimp only
  rcases host.openPlanned (.input wiring.k1 .both) with ⟨fault | k1, host⟩
  · rfl
  dsimp only
  rcases host.openPlanned (.input wiring.k2 .both) with ⟨fault | k2, host⟩
  · rfl
  dsimp only
  rcases host.openPlanned (.input wiring.k3 .both) with ⟨fault | k3, host⟩
  · rfl
  · rfl

theorem host_of_openLines (h : openLines wiring host = (.ok board, after)) :
    board.host = after := by
  revert h
  unfold openLines
  rcases host.openOutput wiring.lamp with ⟨fault | lamp, host⟩
  · simp
  dsimp only
  rcases openButton wiring.k1 [lamp] host with ⟨fault | k1, host⟩
  · simp
  dsimp only
  rcases openButton wiring.k2 [k1, lamp] host with ⟨fault | k2, host⟩
  · simp
  dsimp only
  rcases openButton wiring.k3 [k2, k1, lamp] host with ⟨fault | k3, host⟩
  · simp
  · rintro ⟨⟩
    rfl

/-- What has been attempted on a host when the lines of a board are open. -/
theorem opened_openLines (h : openLines wiring host = (.ok board, after)) :
    ∃ made, Host.Adds made host board.host ∧ Host.Opened host.root wiring.plans made ∧
      board.lines.map (·.number) = wiring.lines := by
  have hplans := openEach_plans wiring host
  rw [h] at hplans
  obtain ⟨made, hadds, hopened, hlines⟩ := Host.opened_openEach hplans
  rw [← host_of_openLines h] at hadds
  refine ⟨made, hadds, hopened, ?_⟩
  rw [wiring.lines_plans] at hlines
  simpa using congrArg List.reverse hlines

end Board

end Beacon
