import Beacon.Proofs.Board.Start

/-!
# What a bring-up leaves set up

Opening a line begins with undoing its export and exporting it anew, whoever has
opened it before.  So what the lines of a board are set up as, when all of them are
open, depends on which of their numbers are the same; the settings may name one line
twice.

* `Host.lastWritten?` is the last text that was written to a file, and
  `lastWritten?_opened` tells it of the files of lines that were opened one after the
  other: the last plan for the line decides.
* `Host.Undisturbed` says that no line is exported or unexported again once it is
  being set up, and `undisturbed_opened_iff` that this holds just if the lines are
  distinct.
* `Board.wired_of_open` is what this makes of a board.
-/

namespace Beacon

/-- The text that a file of the line is to have. -/
def Gpio.Plan.text? (plan : Plan) (file : Attribute) : Option String :=
  (plan.setups.filter (·.file = file)).getLast?.map (·.text)

namespace Host

open Gpio (Attribute Plan Setup attributePath)
open Attempt (unexporting exporting setting)

/-! ## What was written last -/

/-- The last text that was written to a file as a whole, if any was. -/
def lastWritten? (attempts : List Attempt) (path : Path) : Option String :=
  (attempts.filter fun attempt => attempt.path = path ∧ attempt.worked).getLast?.map (·.text)

section

variable {root : Path} {made later : List Attempt} {line : UInt32} {file : Attribute}

theorem lastWritten?_append (path : Path) :
    lastWritten? (made ++ later) path = (lastWritten? later path).or (lastWritten? made path) := by
  simp [lastWritten?, Option.map_or]

/-- What has been written before does not matter where something is written. -/
theorem lastWritten?_append_of_some {path : Path} {text : String}
    (h : lastWritten? later path = some text) : lastWritten? (made ++ later) path = some text := by
  rw [lastWritten?_append, h]
  rfl

theorem lastWritten?_openingAttempts (plan : Plan) (cleared : Bool) :
    lastWritten? (openingAttempts root plan cleared) (attributePath root line file.name) =
      if plan.line = line then plan.text? file else none := by
  have hundo : (unexporting root plan.line cleared).path ≠ attributePath root line file.name := by
    simp [unexporting, attributePath]
  have hexport : (exporting root plan.line true).path ≠ attributePath root line file.name := by
    simp [exporting, attributePath]
  have hset : ∀ setup, (setting root plan.line setup true).path =
      attributePath root line file.name ↔ plan.line = line ∧ setup.file = file := by
    simp [setting, Gpio.attributePath_inj]
  have hworked : ∀ setup, (setting root plan.line setup true).worked = true := fun _ => rfl
  have htext : ∀ setup, (setting root plan.line setup true).text = setup.text := fun _ => rfl
  unfold lastWritten? openingAttempts Plan.text?
  rw [List.filter_cons_of_neg (by simp [hundo]), List.filter_cons_of_neg (by simp [hexport]),
    List.filter_map]
  split
  · next hline =>
    subst hline
    simp [Function.comp_def, hset, hworked, htext]
  · next hline => simp [Function.comp_def, hset, hline]

/-- Of the plans for a line the last one that writes a file decides what is in it. -/
theorem lastWritten?_opened {plans : List Plan} (h : Opened root plans made) :
    lastWritten? made (attributePath root line file.name) =
      plans.reverse.findSome? fun plan => if plan.line = line then plan.text? file else none := by
  induction h with
  | nil => rfl
  | cons plan cleared _ ih =>
    rw [lastWritten?_append, ih, lastWritten?_openingAttempts, List.reverse_cons,
      List.findSome?_append]
    congr 1
    simp

end

/-! ## What is exported again -/

/-- An attempt to export a line or to undo its export. -/
def Attempt.Disturbs (attempt : Attempt) (root : Path) (line : UInt32) : Prop :=
  ∃ worked, attempt = unexporting root line worked ∨ attempt = exporting root line worked

/-- Once a file of a line has been written, the line is neither exported nor unexported. -/
def Undisturbed (root : Path) (attempts : List Attempt) : Prop :=
  attempts.Pairwise fun earlier later =>
    ∀ line setup, earlier = setting root line setup true → ¬later.Disturbs root line

section

variable {root : Path} {made : List Attempt} {line : UInt32}

@[simp] theorem Attempt.disturbs_unexporting {other : UInt32} {worked : Bool} :
    (unexporting root other worked).Disturbs root line ↔ other = line := by
  simp [Attempt.Disturbs]

@[simp] theorem Attempt.disturbs_exporting {other : UInt32} {worked : Bool} :
    (exporting root other worked).Disturbs root line ↔ other = line := by
  simp [Attempt.Disturbs]

@[simp] theorem Attempt.not_disturbs_setting {other : UInt32} {setup : Setup} {worked : Bool} :
    ¬(setting root other setup worked).Disturbs root line := by
  simp [Attempt.Disturbs]

theorem disturbs_openingAttempts (plan : Plan) (cleared : Bool) :
    (∃ attempt ∈ openingAttempts root plan cleared, attempt.Disturbs root line) ↔
      plan.line = line := by
  simp [openingAttempts]

theorem disturbs_opened {plans : List Plan} (h : Opened root plans made) :
    (∃ attempt ∈ made, attempt.Disturbs root line) ↔ line ∈ plans.map (·.line) := by
  induction h with
  | nil => simp
  | cons plan cleared _ ih =>
    simp only [List.mem_append, or_and_right, exists_or, ih, disturbs_openingAttempts,
      List.map_cons, List.mem_cons, eq_comm]

/-- A plan sets its own line up and no other. -/
theorem line_of_setting_mem {plan : Plan} {cleared : Bool} {setup : Setup}
    (h : setting root line setup true ∈ openingAttempts root plan cleared) : plan.line = line := by
  simp only [openingAttempts, List.mem_cons, Attempt.setting_ne_unexporting,
    Attempt.setting_ne_exporting, false_or, List.mem_map] at h
  obtain ⟨own, -, hsame⟩ := h
  exact (Gpio.attributePath_inj.mp (congrArg Attempt.path hsame)).1

theorem undisturbed_openingAttempts (plan : Plan) (cleared : Bool) :
    Undisturbed root (openingAttempts root plan cleared) := by
  simp [Undisturbed, openingAttempts, List.pairwise_map, List.pairwise_of_forall]

/-- Lines that are opened one after the other stay undisturbed if, and only if, they are
distinct. -/
theorem undisturbed_opened_iff {plans : List Plan} (h : Opened root plans made)
    (hsetups : ∀ plan ∈ plans, plan.setups ≠ []) :
    Undisturbed root made ↔ (plans.map (·.line)).Nodup := by
  induction h with
  | nil => simp [Undisturbed]
  | @cons plan cleared rest made hopened ih =>
    have hrest := ih fun later hmem => hsetups later (List.mem_cons_of_mem plan hmem)
    obtain ⟨setup, hsetup⟩ := List.exists_mem_of_ne_nil _ (hsetups plan List.mem_cons_self)
    have hcross : (∀ earlier ∈ openingAttempts root plan cleared, ∀ later ∈ made,
        ∀ line setup, earlier = setting root line setup true → ¬later.Disturbs root line) ↔
          plan.line ∉ rest.map (·.line) := by
      rw [← disturbs_opened hopened]
      constructor
      · rintro hquiet ⟨later, hlater, hdisturbs⟩
        have hmem : setting root plan.line setup true ∈ openingAttempts root plan cleared := by
          simpa [openingAttempts] using ⟨setup, hsetup, rfl⟩
        exact hquiet _ hmem later hlater plan.line setup rfl hdisturbs
      · rintro hquiet earlier hearlier later hlater line setup rfl hdisturbs
        obtain rfl := line_of_setting_mem hearlier
        exact hquiet ⟨later, hlater, hdisturbs⟩
    rw [List.map_cons, List.nodup_cons, ← hrest, ← hcross]
    unfold Undisturbed
    rw [List.pairwise_append]
    have hplan : Undisturbed root (openingAttempts root plan cleared) :=
      undisturbed_openingAttempts plan cleared
    exact ⟨fun ⟨_, hlater, hboth⟩ => ⟨hboth, hlater⟩, fun ⟨hboth, hlater⟩ => ⟨hplan, hlater, hboth⟩⟩

end

end Host

/-! ## Bringing up a board -/

namespace Board

open Gpio (Attribute Plan attributePath)
open Host (Attempt lastWritten? Undisturbed)

variable {settings : Settings} {wiring : Wiring} {host : Host}

section

variable {root : Path} {made : List Attempt}

theorem lastWritten?_plans (h : Host.Opened root wiring.plans made) (line : UInt32)
    (file : Attribute) :
    lastWritten? made (attributePath root line file.name) =
      if wiring.k3 = line ∨ wiring.k2 = line ∨ wiring.k1 = line then
        (Plan.input line .both).text? file
      else if wiring.lamp = line then (Plan.output line).text? file else none := by
  have hplans : wiring.plans.reverse = [.input wiring.k3 .both, .input wiring.k2 .both,
      .input wiring.k1 .both, .output wiring.lamp] := rfl
  obtain ⟨text, htext⟩ : ∃ text, ∀ number, (Plan.input number .both).text? file = some text := by
    cases file with
    | direction => exact ⟨"in", fun _ => rfl⟩
    | edge => exact ⟨"both", fun _ => rfl⟩
  have hinput : ∀ number, (Plan.input number .both).line = number := fun _ => rfl
  have houtput : ∀ number, (Plan.output number).line = number := fun _ => rfl
  rw [Host.lastWritten?_opened h, hplans]
  by_cases h3 : wiring.k3 = line
  · simp [hinput, h3, htext]
  by_cases h2 : wiring.k2 = line
  · simp [hinput, h3, h2, htext]
  by_cases h1 : wiring.k1 = line
  · simp [hinput, h3, h2, h1, htext]
  by_cases hlamp : wiring.lamp = line
  · subst hlamp
    simp [hinput, houtput, h3, h2, h1]
  · simp [hinput, houtput, h3, h2, h1, hlamp]

/-- Whatever has been written before, a button's line is an input that reports both edges. -/
theorem button_of_opened (h : Host.Opened root wiring.plans made) (earlier : List Attempt)
    (button : Button) :
    lastWritten? (earlier ++ made) (attributePath root (wiring.buttonLine button) "direction") =
        some "in" ∧
      lastWritten? (earlier ++ made) (attributePath root (wiring.buttonLine button) "edge") =
        some "both" := by
  have hmem : wiring.k3 = wiring.buttonLine button ∨ wiring.k2 = wiring.buttonLine button ∨
      wiring.k1 = wiring.buttonLine button := by
    cases button <;> simp [Wiring.buttonLine]
  have hfile := lastWritten?_plans h (wiring.buttonLine button)
  have hdirection := hfile .direction
  have hedge := hfile .edge
  rw [if_pos hmem] at hdirection hedge
  exact ⟨Host.lastWritten?_append_of_some hdirection, Host.lastWritten?_append_of_some hedge⟩

/-- The lamp's line is an output unless a button has taken it. -/
theorem lamp_of_opened (h : Host.Opened root wiring.plans made) (earlier : List Attempt) :
    lastWritten? (earlier ++ made) (attributePath root wiring.lamp "direction") = some "out" ↔
      ∀ button, wiring.buttonLine button ≠ wiring.lamp := by
  have hdirection := lastWritten?_plans h wiring.lamp .direction
  rw [if_pos rfl] at hdirection
  have htaken : (∀ button, wiring.buttonLine button ≠ wiring.lamp) ↔
      ¬(wiring.k3 = wiring.lamp ∨ wiring.k2 = wiring.lamp ∨ wiring.k1 = wiring.lamp) := by
    simp only [not_or]
    constructor
    · exact fun hall => ⟨hall .k3, hall .k2, hall .k1⟩
    · rintro ⟨h3, h2, h1⟩ button
      cases button
      · exact h1
      · exact h2
      · exact h3
  rw [htaken]
  by_cases hmem : wiring.k3 = wiring.lamp ∨ wiring.k2 = wiring.lamp ∨ wiring.k1 = wiring.lamp
  · rw [if_pos hmem] at hdirection
    have hin : lastWritten? (earlier ++ made) (attributePath root wiring.lamp "direction") =
        some "in" := Host.lastWritten?_append_of_some hdirection
    simp [hin, hmem]
  · rw [if_neg hmem] at hdirection
    have hout : lastWritten? (earlier ++ made) (attributePath root wiring.lamp "direction") =
        some "out" := Host.lastWritten?_append_of_some hdirection
    simp [hout, hmem]

theorem undisturbed_of_opened (h : Host.Opened root wiring.plans made) :
    Undisturbed root made ↔ wiring.lines.Nodup := by
  rw [Host.undisturbed_opened_iff h (by simp [Wiring.plans, Plan.output, Plan.input]),
    wiring.lines_plans]

end

/-- A station that is about to be started has a board whose lines have been opened and left
alone. -/
theorem keeps_assemble {station : Station Board} (h : assemble settings host = .ok station) :
    ∃ board, openLines settings.wiring host = (.ok board, board.host) ∧
      Keeps board station.devices := by
  revert h
  unfold assemble
  rcases settings.check with reason | ⟨⟩
  · rintro ⟨⟩
  rcases hlines : openLines settings.wiring host with ⟨fault | board, after⟩
  · rintro ⟨⟩
  obtain rfl := host_of_openLines hlines
  dsimp only
  rcases board.createSources_cases with ⟨ready, hsources, hkeeps⟩ | ⟨fault, ready, lines, hsources, -⟩
  · rw [hsources]
    rintro ⟨⟩
    exact ⟨board, rfl, hkeeps⟩
  · rw [hsources]
    rintro ⟨⟩

/-- A station that is about to be started does not fail for a line any more. -/
theorem ne_line_of_assemble {station : Station Board} (h : assemble settings host = .ok station)
    (fault : LineFault) (left : Host) : bringUp settings host ≠ .error (.line fault, left) := by
  unfold bringUp
  rw [h]
  dsimp only
  have hstart := (keeps_start station).no_line fault
  generalize station.start = answer at hstart ⊢
  rcases answer with ⟨failure | ⟨⟩, after⟩
  · rintro hfailed
    cases hfailed
    exact hstart rfl
  · simp

/-- Settings are valid, and a bring-up does not fail at a line.  When the station is about to be
started, the buttons' lines are inputs that report both edges; the lamp's line is an output just
if no button has the same; and no line was exported or unexported again just if the four are
distinct. -/
theorem wired_of_open (hvalid : settings.check = .ok ())
    (hopen : ∀ fault left, bringUp settings host ≠ .error (.line fault, left)) :
    ∃ board made, openLines settings.wiring host = (.ok board, board.host) ∧
      (∀ station, assemble settings host = .ok station →
        station.devices.host.attempts = board.host.attempts) ∧
      board.host.attempts = host.attempts ++ made ∧
      (∀ button,
        lastWritten? board.host.attempts
            (attributePath host.root (settings.wiring.buttonLine button) "direction") =
              some "in" ∧
          lastWritten? board.host.attempts
            (attributePath host.root (settings.wiring.buttonLine button) "edge") = some "both") ∧
      (lastWritten? board.host.attempts
          (attributePath host.root settings.wiring.lamp "direction") = some "out" ↔
        ∀ button, settings.wiring.buttonLine button ≠ settings.wiring.lamp) ∧
      (Undisturbed host.root made ↔ settings.wiring.lines.Nodup) := by
  rcases hlines : openLines settings.wiring host with ⟨fault | board, after⟩
  · refine absurd ?_ (hopen fault after)
    simp [bringUp, assemble, hvalid, hlines]
  obtain rfl := host_of_openLines hlines
  obtain ⟨made, hadds, hopened, -⟩ := opened_openLines hlines
  refine ⟨board, made, rfl, ?_, hadds.attempts, ?_, ?_, ?_⟩
  · intro station hassemble
    obtain ⟨other, hother, hkeeps⟩ := keeps_assemble hassemble
    obtain rfl : other = board := by
      rw [hlines] at hother
      cases hother
      rfl
    simpa using hkeeps.adds.attempts
  · rw [hadds.attempts]
    exact button_of_opened hopened host.attempts
  · rw [hadds.attempts]
    exact lamp_of_opened hopened host.attempts
  · exact undisturbed_of_opened hopened

/-- The default wiring on a host whose buttons can be watched: everything is in place. -/
theorem wired_of_open_default :
    let watched : FileTree.Content := .device .pollable
    let tree := (((FileTree.empty.place ["gpio10", "value"] (.bytes [0x30])).place
      ["gpio0", "value"] watched).place ["gpio2", "value"] watched).place ["gpio3", "value"] watched
    let settings : Settings := {}
    let host : Host := { tree }
    settings.check = .ok () ∧
      (∀ fault left, bringUp settings host ≠ .error (.line fault, left)) ∧
      ∃ station board made, bringUp settings host = .ok station ∧
        openLines settings.wiring host = (.ok board, board.host) ∧
        board.host.attempts = host.attempts ++ made ∧
        lastWritten? board.host.attempts (attributePath host.root 10 "direction") = some "out" ∧
        lastWritten? board.host.attempts (attributePath host.root 3 "edge") = some "both" ∧
        Undisturbed host.root made := by
  intro watched tree settings host
  have hvalid : settings.check = .ok () :=
    Settings.check_eq_ok_iff.mpr fun rule => by cases rule <;> decide +kernel
  obtain ⟨station, hup⟩ : ∃ station, bringUp settings host = .ok station := by
    have hok : (bringUp settings host).isOk = true := by decide +kernel
    rcases hup : bringUp settings host with left | station
    · rw [hup] at hok
      cases hok
    · exact ⟨station, rfl⟩
  have hopen : ∀ fault left, bringUp settings host ≠ .error (.line fault, left) := by
    intro fault left hfailed
    rw [hup] at hfailed
    cases hfailed
  obtain ⟨board, made, hlines, -, hmade, hbuttons, hlamp, hundisturbed⟩ :=
    wired_of_open hvalid hopen
  have hlast := hlamp.mpr fun button => by cases button <;> decide
  exact ⟨hvalid, hopen, station, board, made, hup, hlines, hmade, hlast, (hbuttons .k3).2,
    hundisturbed.mpr (by decide)⟩

/-- The lamp and a button on one line: the settings are valid and all lines can be opened, but the
lamp's line is an input in the end, exported anew behind its first set-up. -/
theorem lamp_taken_by_button :
    let tree := ((FileTree.empty.place ["gpio0", "value"] (.bytes [0x30])).place
      ["gpio2", "value"] (.bytes [0x30])).place ["gpio3", "value"] (.bytes [0x30])
    let settings : Settings := { wiring := { lamp := 0 } }
    let host : Host := { tree }
    settings.check = .ok () ∧
      (∀ fault left, bringUp settings host ≠ .error (.line fault, left)) ∧
      ∃ station, assemble settings host = .ok station ∧
        lastWritten? station.devices.host.attempts
          (attributePath host.root settings.wiring.lamp "direction") = some "in" ∧
        ¬Undisturbed host.root station.devices.host.attempts := by
  intro tree settings host
  have hvalid : settings.check = .ok () :=
    Settings.check_eq_ok_iff.mpr fun rule => by cases rule <;> decide +kernel
  have hlast : ((assemble settings host).map fun station => lastWritten?
      station.devices.host.attempts (attributePath host.root settings.wiring.lamp "direction")).toOption
        = some (some "in") := by decide +kernel
  rcases hassemble : assemble settings host with left | station
  · rw [hassemble] at hlast
    cases hlast
  rw [hassemble] at hlast
  refine ⟨hvalid, ne_line_of_assemble hassemble, station, rfl, Option.some.inj hlast, ?_⟩
  obtain ⟨board, hlines, hkeeps⟩ := keeps_assemble hassemble
  obtain ⟨made, hadds, hopened, -⟩ := opened_openLines hlines
  have hall : station.devices.host.attempts = made := by
    rw [hkeeps.adds.attempts, hadds.attempts, List.append_nil]
    rfl
  rw [hall, undisturbed_of_opened hopened]
  decide

end Board

end Beacon
