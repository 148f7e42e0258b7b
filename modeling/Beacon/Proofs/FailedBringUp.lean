import Mathlib.Tactic.Tauto
import Beacon.Proofs.Board.Start

/-!
# What a failed bring-up leaves exported

When a board cannot be brought up, the lines that are open by then are closed, and
closing a line undoes its export.  A line whose own opening fails behind its export
is not open yet: nobody undoes that export, unless a line of the same number was
opened before.

* `Host.LeftExported` says that a line has been exported and that no attempt to undo
  this was made afterwards.
* `Host.leftExported_openEach` is the case of lines that are opened one after the
  other, by induction on the lines still to be opened: an export is undone if the
  line has been opened, and only then.
* `Board.leftExported_of_failed` puts a bring-up together: the one line that can be
  left exported is the one that the fault names.
-/

namespace Beacon

namespace Host

open Gpio (Line Plan)
open Attempt (unexporting exporting setting)

/-! ## Lines that stay exported -/

/-- There is an attempt to undo the export of a line, whatever came of it. -/
def Undoes (root : Path) (attempts : List Attempt) (line : UInt32) : Prop :=
  ∃ worked, unexporting root line worked ∈ attempts

/-- A line has been exported, and behind its last export there is no attempt to undo it. -/
def LeftExported (root : Path) (attempts : List Attempt) (line : UInt32) : Prop :=
  ∃ before after, attempts = before ++ exporting root line true :: after ∧
    ¬Undoes root after line

section

variable {root : Path} {made later : List Attempt} {attempt : Attempt} {line : UInt32}

@[simp] theorem undoes_nil : ¬Undoes root [] line := by simp [Undoes]

@[simp] theorem undoes_cons :
    Undoes root (attempt :: later) line ↔
      (∃ worked, unexporting root line worked = attempt) ∨ Undoes root later line := by
  simp only [Undoes, List.mem_cons, exists_or]

@[simp] theorem undoes_append :
    Undoes root (made ++ later) line ↔ Undoes root made line ∨ Undoes root later line := by
  simp only [Undoes, List.mem_append, exists_or]

@[simp] theorem not_leftExported_nil : ¬LeftExported root [] line := by
  simp [LeftExported]

@[simp] theorem leftExported_cons :
    LeftExported root (attempt :: later) line ↔
      (exporting root line true = attempt ∧ ¬Undoes root later line) ∨
        LeftExported root later line := by
  constructor
  · rintro ⟨before, after, hsplit, hkept⟩
    cases before with
    | nil =>
      obtain ⟨rfl, rfl⟩ := List.cons.inj hsplit
      exact .inl ⟨rfl, hkept⟩
    | cons first before =>
      obtain ⟨rfl, rfl⟩ := List.cons.inj hsplit
      exact .inr ⟨before, after, rfl, hkept⟩
  · rintro (⟨rfl, hkept⟩ | ⟨before, after, rfl, hkept⟩)
    · exact ⟨[], later, rfl, hkept⟩
    · exact ⟨attempt :: before, after, rfl, hkept⟩

/-- What is attempted later comes on top, and undoes what it undoes. -/
theorem leftExported_append :
    LeftExported root (made ++ later) line ↔
      LeftExported root later line ∨ (LeftExported root made line ∧ ¬Undoes root later line) := by
  induction made with
  | nil => simp
  | cons attempt rest ih =>
    rw [List.cons_append, leftExported_cons, leftExported_cons, ih, undoes_append, not_or]
    tauto

end

/-! ## Opening and closing -/

section

variable {root : Path} {plan : Plan} {made : List Attempt} {line : UInt32}

@[simp] theorem not_undoes_settings (setups : List Gpio.Setup) (number : UInt32) :
    ¬Undoes root (setups.map (setting root number · true)) line := by
  simp [Undoes]

@[simp] theorem not_leftExported_settings (setups : List Gpio.Setup) (number : UInt32) :
    ¬LeftExported root (setups.map (setting root number · true)) line := by
  rintro ⟨before, after, hsplit, -⟩
  have hmem : exporting root line true ∈ setups.map (setting root number · true) := by
    simp [hsplit]
  simp at hmem

theorem undoes_openingAttempts (cleared : Bool) :
    Undoes root (openingAttempts root plan cleared) line ↔ line = plan.line := by
  simp [openingAttempts]

theorem leftExported_openingAttempts (cleared : Bool) :
    LeftExported root (openingAttempts root plan cleared) line ↔ line = plan.line := by
  simp [openingAttempts]

namespace Opening

variable {result : Except LineFault Line}

theorem undoes_iff (h : Opening root plan result made) :
    Undoes root made line ↔ line = plan.line := by
  cases h with
  | refused | unfinished => simp
  | shut cleared | works cleared => exact undoes_openingAttempts cleared

theorem fault_line {fault : LineFault} (h : Opening root plan (.error fault) made) :
    fault.line = plan.line := by
  cases h <;> rfl

/-- A line whose opening fails behind its export is left exported. -/
theorem leftExported_iff {fault : LineFault} (h : Opening root plan (.error fault) made) :
    LeftExported root made line ↔ line = fault.line ∧ fault.cause ≠ .exporting := by
  cases h with
  | refused => simp
  | @unfinished _ _ _ setup => simp [leftExported_append, setup.file.cause_ne_exporting]
  | shut cleared => simp [leftExported_openingAttempts]

end Opening

theorem Closing.undoes_iff {lines : List Line} (h : Closing root lines made) :
    Undoes root made line ↔ line ∈ lines.map (·.number) := by
  induction h with
  | nil => simp
  | cons closed worked _ ih => simp [ih, eq_comm]

theorem Closing.not_leftExported {lines : List Line} (h : Closing root lines made) :
    ¬LeftExported root made line := by
  induction h with
  | nil => simp
  | cons closed worked _ ih => simp [ih]

theorem Opened.undoes_iff {plans : List Plan} (h : Opened root plans made) :
    Undoes root made line ↔ line ∈ plans.map (·.line) := by
  induction h with
  | nil => simp
  | cons plan cleared _ ih => simp [undoes_openingAttempts, ih]

/-- Lines that have all been opened are all exported. -/
theorem Opened.leftExported_iff {plans : List Plan} (h : Opened root plans made) :
    LeftExported root made line ↔ line ∈ plans.map (·.line) := by
  induction h with
  | nil => simp
  | cons plan cleared hrest ih =>
    rw [leftExported_append, ih, leftExported_openingAttempts, hrest.undoes_iff, List.map_cons,
      List.mem_cons]
    tauto

end

/-- Of lines that are opened one after the other, the one that cannot be opened is left
exported if it has been exported, unless the number has been opened before. -/
theorem leftExported_openEach {plans : List Plan} {opened : List Line} {host left : Host}
    {fault : LineFault} (h : host.openEach plans opened = (.error fault, left)) :
    ∃ before rest made, plans.map (·.line) = before ++ fault.line :: rest ∧
      Adds made host left ∧ (∀ line ∈ opened.map (·.number), Undoes host.root made line) ∧
      ∀ line, LeftExported host.root made line ↔ line = fault.line ∧ fault.cause ≠ .exporting ∧
        line ∉ opened.map (·.number) ∧ line ∉ before := by
  induction plans generalizing opened host with
  | nil => cases h
  | cons plan rest ih =>
    unfold openEach at h
    obtain ⟨made, hadds, hopening⟩ := host.opening_openPlanned plan
    generalize host.openPlanned plan = answer at h hadds hopening
    obtain ⟨failure | line, later⟩ := answer
    · cases h
      have hline := hopening.fault_line
      obtain ⟨more, hclosed, hclosing⟩ := later.closing_closeAll opened
      rw [hadds.root] at hclosing
      refine ⟨[], rest.map (·.line), _, by simp [hline], hadds.trans hclosed, ?_, ?_⟩
      · exact fun line hmem => undoes_append.mpr (.inr (hclosing.undoes_iff.mpr hmem))
      · intro line
        rw [leftExported_append, hopening.leftExported_iff, hclosing.undoes_iff]
        simp [hclosing.not_leftExported, and_assoc]
    · cases hopening with
      | works cleared hnumber =>
        obtain ⟨before, after, more, hplans, hlater, hundone, hleft⟩ := ih h
        rw [hadds.root] at hundone hleft
        refine ⟨plan.line :: before, after, _, by simp [hplans], hadds.trans hlater, ?_, ?_⟩
        · exact fun line hmem => undoes_append.mpr (.inr (hundone line (by simp [hmem])))
        · intro other
          have hclosed : other = plan.line → Undoes host.root more other := by
            rintro rfl
            exact hundone _ (by simp [hnumber])
          rw [leftExported_append, hleft, leftExported_openingAttempts]
          simp only [List.map_cons, List.mem_cons, hnumber]
          tauto

end Host

/-! ## Bringing up a board -/

namespace Board

open Host (Adds Undoes LeftExported)

variable {settings : Settings} {wiring : Wiring} {host left : Host} {board : Board}

theorem leftExported_openLines {fault : LineFault}
    (h : openLines wiring host = (.error fault, left)) :
    ∃ before rest made, wiring.lines = before ++ fault.line :: rest ∧ Adds made host left ∧
      ∀ line, LeftExported host.root made line ↔
        line = fault.line ∧ fault.cause ≠ .exporting ∧ line ∉ before := by
  have hplans := openEach_plans wiring host
  rw [h] at hplans
  obtain ⟨before, rest, made, hlines, hadds, -, hleft⟩ := Host.leftExported_openEach hplans
  refine ⟨before, rest, made, hlines, hadds, fun line => ?_⟩
  rw [hleft]
  simp

/-- If all lines could be opened and are closed again, none is left exported. -/
theorem not_leftExported_closeAll {opened : Host}
    (h : openLines wiring host = (.ok board, opened)) {after : Board} (hkeeps : Keeps board after)
    {lines : List Gpio.Line} (hperm : lines.Perm board.lines) :
    ∃ made, Adds made host (after.host.closeAll lines) ∧
      ∀ line, ¬LeftExported host.root made line := by
  obtain ⟨made, hadds, hopened, hnumbers⟩ := opened_openLines h
  obtain ⟨more, hclosed, hclosing⟩ := after.host.closing_closeAll lines
  have hbefore := hadds.then_nothing hkeeps.adds
  rw [hbefore.root] at hclosing
  refine ⟨_, hbefore.trans hclosed, fun line => ?_⟩
  have hmem : line ∈ lines.map (·.number) ↔ line ∈ wiring.lines := by
    rw [← hnumbers]
    exact (hperm.map _).mem_iff
  rw [Host.leftExported_append, hopened.leftExported_iff, hclosing.undoes_iff, hmem,
    wiring.lines_plans]
  simp [hclosing.not_leftExported]

/-- The ways in which a bring-up fails: at the settings, at a line, or with all lines open, which
are then closed. -/
theorem failed_cases {fault : Fault} (h : bringUp settings host = .error (fault, left)) :
    (∃ reason, fault = .settings reason ∧ left = host) ∨
      (∃ lineFault, fault = .line lineFault ∧
        openLines settings.wiring host = (.error lineFault, left)) ∨
      ∃ board opened after lines, openLines settings.wiring host = (.ok board, opened) ∧
        Keeps board after ∧ lines.Perm board.lines ∧ left = after.host.closeAll lines ∧
        ∀ lineFault, fault ≠ .line lineFault := by
  revert h
  unfold bringUp assemble
  rcases settings.check with reason | ⟨⟩
  · rintro ⟨⟩
    exact .inl ⟨reason, rfl, rfl⟩
  rcases hlines : openLines settings.wiring host with ⟨lineFault | board, opened⟩
  · rintro ⟨⟩
    exact .inr (.inl ⟨lineFault, rfl, rfl⟩)
  dsimp only
  rcases board.createSources_cases with
    ⟨ready, hsources, hready⟩ | ⟨failure, after, lines, hsources, hkeeps, hperm, hfault⟩
  · rw [hsources]
    dsimp only
    have hstart := keeps_start { controller := .ofSettings settings, devices := ready }
    generalize @Station.start Board _ _ = answer at hstart ⊢
    rcases answer with ⟨failure | ⟨⟩, station⟩
    · rintro ⟨⟩
      have hkeeps := hready.trans hstart.kept
      exact .inr (.inr ⟨board, opened, station.devices, _, rfl, hkeeps, hkeeps.lines ▸ .refl _, rfl,
        fun lineFault hline => hstart.no_line lineFault (congrArg Except.error hline)⟩)
    · rintro ⟨⟩
  · rw [hsources]
    rintro ⟨⟩
    exact .inr (.inr ⟨board, opened, after, lines, rfl, hkeeps, hperm, rfl, hfault⟩)

/-- A bring-up that fails leaves no line exported but one: the line whose own files could not be
written or opened behind its export, unless the number was opened before.  If it fails for
anything but a line, it leaves none. -/
theorem leftExported_of_failed {fault : Fault} (h : bringUp settings host = .error (fault, left)) :
    ∃ made, left.attempts = host.attempts ++ made ∧
      ((∃ before cause line rest, settings.wiring.lines = before ++ line :: rest ∧
          fault = .line ⟨cause, line⟩ ∧
          ∀ other, LeftExported host.root made other ↔
            other = line ∧ cause ≠ .exporting ∧ other ∉ before) ∨
        (∀ lineFault, fault ≠ .line lineFault) ∧ ∀ line, ¬LeftExported host.root made line) := by
  rcases failed_cases h with ⟨reason, rfl, rfl⟩ | ⟨⟨cause, line⟩, rfl, hlines⟩ |
    ⟨board, opened, after, lines, hlines, hkeeps, hperm, rfl, hfault⟩
  · exact ⟨[], (List.append_nil _).symm, .inr ⟨by simp, by simp⟩⟩
  · obtain ⟨before, rest, made, hwiring, hadds, hleft⟩ := leftExported_openLines hlines
    exact ⟨made, hadds.attempts, .inl ⟨before, cause, line, rest, hwiring, rfl, hleft⟩⟩
  · obtain ⟨made, hadds, hleft⟩ := not_leftExported_closeAll hlines hkeeps hperm
    exact ⟨made, hadds.attempts, .inr ⟨hfault, hleft⟩⟩

/-- A directory in which nothing is there for the lamp's line: the line is exported, its
direction cannot be written, and the export stays. -/
theorem leftExported_of_failed_lamp :
    let host : Host := { tree := FileTree.empty.makeDirectory ["unexport"] }
    ∃ left made, bringUp {} host = .error (.line ⟨.direction, 10⟩, left) ∧
      left.attempts = host.attempts ++ made ∧ LeftExported host.root made 10 := by
  intro host
  obtain ⟨left, hfailed⟩ : ∃ left, bringUp {} host = .error (.line ⟨.direction, 10⟩, left) :=
    ⟨_, rfl⟩
  obtain ⟨made, hmade, ⟨before, cause, line, rest, hwiring, hfault, hleft⟩ | ⟨hnone, -⟩⟩ :=
    leftExported_of_failed hfailed
  · cases hfault
    refine ⟨left, made, hfailed, hmade, (hleft 10).mpr ⟨rfl, by decide, ?_⟩⟩
    cases before with
    | nil => exact List.not_mem_nil
    | cons first before =>
      obtain ⟨-, hwiring⟩ := List.cons.inj hwiring
      have hmem : (10 : UInt32) ∈ [(0 : UInt32), 2, 3] := by simp [hwiring]
      exact absurd hmem (by decide)
  · exact absurd rfl (hnone _)

end Board

end Beacon
