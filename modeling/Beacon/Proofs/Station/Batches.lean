import Beacon.Proofs.Station.Dealings

/-!
# Batches

A batch is handled one source after the other, up to the first failure.  Of all
the handlers only the blink timer's can fail, and that only if the timer cannot
be armed again.

* `handleAll` is the station after some handlers, whatever has failed.
* `LosesTiming` is the one way in which the answer to a source can fail, and
  `forAll_handle` says how a batch ends: at the first source that loses the
  timing, or else behind the last one.
-/

namespace Beacon.Station

/-! ## One part after the other -/

section

variable {σ : Type} {first : Except Fault Unit × σ} {next : σ → Except Fault Unit × σ}

theorem andThen_of_ok (h : first.1 = .ok ()) : andThen first next = next first.2 := by
  obtain ⟨result, state⟩ := first
  cases h
  rfl

theorem andThen_of_error {fault : Fault} (h : first.1 = .error fault) :
    andThen first next = (.error fault, first.2) := by
  obtain ⟨result, state⟩ := first
  cases h
  rfl

theorem andThen_eq_ok_iff {sure : σ → σ} :
    (andThen first fun state => (.ok (), sure state)).1 = .ok () ↔ first.1 = .ok () := by
  obtain ⟨fault | ⟨⟩, state⟩ := first <;> simp [andThen]

theorem forAll_append {α : Type} (act : α → σ → Except Fault Unit × σ) (before after : List α)
    (state : σ) :
    forAll act (before ++ after) state = andThen (forAll act before state) (forAll act after) := by
  induction before generalizing state with
  | nil => rfl
  | cons a rest ih =>
    show andThen (act a state) (forAll act (rest ++ after)) =
      andThen (andThen (act a state) (forAll act rest)) (forAll act after)
    obtain ⟨fault | ⟨⟩, next⟩ := act a state
    · rfl
    · exact ih next

end

/-! ## The handlers -/

section

variable {δ : Type} [Devices δ]

/-- The station after the handlers of some sources, each run once and in order. -/
def handleAll (s : Station δ) (sources : List Source) : Station δ :=
  sources.foldl (fun s source => (s.handle source).2) s

theorem handleAll_append (s : Station δ) (first second : List Source) :
    s.handleAll (first ++ second) = (s.handleAll first).handleAll second :=
  List.foldl_append

/-- The blink timer has expired or does not say so, the next phase is entered, and
the timer cannot be armed for it. -/
def LosesTiming (s : Station (Observed δ)) (source : Source) : Prop :=
  source = .timer .blink ∧ (Devices.expirations .blink s.devices).1 ≠ .ok 0 ∧
    ∃ dealt delay fault, (s.handle source).2.devices.dealings =
      s.devices.dealings ++ dealt ++ [.armed .blink (.once delay) (.error fault)]

/-- What the pacer answers is carried out whole. -/
theorem feed_of_pacing (s : Station δ) {stimulus : Stimulus} (h : stimulus.IsPacing) :
    (s.feed stimulus).1 = .ok () :=
  Devices.perform_of_not_mayStop (s.controller.not_mayStop_react h) s.devices

/-- Only the blink timer's handler can fail. -/
theorem handle_of_ne_blink (s : Station δ) {source : Source} (h : source ≠ .timer .blink) :
    (s.handle source).1 = .ok () := by
  rcases source with ⟨_ | _⟩ | button
  · exact absurd rfl h
  · let counted := Devices.expirations .repeating s.devices
    have hpacing : (Stimulus.repeatExpired counted.1).IsPacing := trivial
    exact feed_of_pacing { s with devices := counted.2 } hpacing
  · let answer := Devices.readLine button s.devices
    have hpacing : (Stimulus.woke button answer.1).IsPacing := trivial
    exact feed_of_pacing { s with devices := answer.2 } hpacing

/-! ## The blink timer's handler -/

/-- The phase that the blinker enters next, and how long it is to last. -/
def nextPhase (s : Station δ) : Phase × Duration :=
  s.controller.blinker.phase.following s.controller.blinker.period s.controller.blinker.duty

/-- The world once the handler of a blink timer that has expired has said and shown
all it has to, and is about to arm the timer again. -/
def shown (s : Station δ) : δ :=
  let (count, asked) := Devices.expirations .blink s.devices
  let said := (Devices.perform (Blinker.remarks count) asked).2
  (Devices.execute (.light s.nextPhase.1.lit .running) said).2

/-- A timer that has not expired is left alone. -/
theorem handle_blink_of_stale {s : Station δ}
    (hcount : (Devices.expirations .blink s.devices).1 = .ok 0) :
    s.handle (.timer .blink) = (.ok (), ⟨s.controller, (Devices.expirations .blink s.devices).2⟩) := by
  show feed _ (.blinkExpired (Devices.expirations .blink s.devices).1) = _
  rw [hcount]
  rfl

/-- A toggle is told and shown first, and then the blink timer is armed. -/
theorem handle_blink_of_expired {s : Station δ}
    (hcount : (Devices.expirations .blink s.devices).1 ≠ .ok 0) :
    let armed := Devices.perform [.armBlink (.once s.nextPhase.2) .running] s.shown
    s.handle (.timer .blink) =
      (armed.1, ⟨(s.controller.blink s.controller.blinker.toggle).1, armed.2⟩) := by
  intro armed
  let asked := Devices.expirations .blink s.devices
  have hreact : s.controller.react (.blinkExpired asked.1) =
      s.controller.blink (s.controller.blinker.toggle.1,
        Blinker.remarks asked.1 ++ s.controller.blinker.toggle.2) := by
    rw [← Controller.expired_of_ne_zero _ hcount]
    rfl
  have hperform : Devices.perform (Blinker.remarks asked.1 ++ s.controller.blinker.toggle.2) asked.2 =
      armed := by
    rw [Devices.perform_append_of_talk (Controller.talk_remarks asked.1)]
    exact Devices.perform_cons_of_not_mayStop id _ _
  show feed ⟨s.controller, asked.2⟩ (.blinkExpired asked.1) = _
  unfold feed
  rw [hreact]
  dsimp only [Controller.blink]
  rw [hperform]

/-- Arming the blink timer again works if the timer can be armed. -/
theorem perform_rearm_fst (delay : Duration) (world : δ) :
    (Devices.perform [.armBlink (.once delay) .running] world).1 =
      (Devices.arm .blink (.once delay) world).1.mapError fun _ => Fault.timer .arm := by
  simp only [Devices.perform, Devices.execute]
  rcases Devices.arm .blink (.once delay) world with ⟨fault | ⟨⟩, armed⟩ <;> rfl

theorem rearm_works_iff {delay : Duration} {world : δ} :
    (Devices.perform [.armBlink (.once delay) .running] world).1 = .ok () ↔
      (Devices.arm .blink (.once delay) world).1 = .ok () := by
  rw [perform_rearm_fst]
  rcases (Devices.arm .blink (.once delay) world).1 with fault | ⟨⟩
  · constructor <;> intro h <;> cases h
  · exact ⟨fun _ => rfl, fun _ => rfl⟩

/-- The blink timer's handler does nothing for a timer that has not expired.  Else
its last dealing is to arm the timer again, and it fails if that does. -/
theorem handle_blink (s : Station (Observed δ)) :
    ((Devices.expirations .blink s.devices).1 = .ok 0 ∧
        (s.handle (.timer .blink)).1 = .ok ()) ∨
      ((Devices.expirations .blink s.devices).1 ≠ .ok 0 ∧ ∃ dealt delay armed,
        (s.handle (.timer .blink)).1 = armed.mapError (fun _ => Fault.timer .arm) ∧
        (s.handle (.timer .blink)).2.devices.dealings =
          s.devices.dealings ++ dealt ++ [.armed .blink (.once delay) armed]) := by
  by_cases hcount : (Devices.expirations .blink s.devices).1 = .ok 0
  · exact .inl ⟨hcount, congrArg Prod.fst (handle_blink_of_stale hcount)⟩
  · refine .inr ⟨hcount, ?_⟩
    have hshown : s.devices.dealings <+: s.shown.dealings := by
      let asked := Devices.expirations .blink s.devices
      have hasked : s.devices.dealings <+: asked.2.dealings := List.prefix_append _ _
      have hsaid := Observed.dealings_prefix_perform (Blinker.remarks asked.1) asked.2
      refine (hasked.trans hsaid).trans ?_
      show _ <+: Observed.dealings (Devices.execute _ _).2
      rw [Observed.dealings_execute]
      exact List.prefix_append _ _
    obtain ⟨dealt, hdealt⟩ := hshown
    refine ⟨dealt, s.nextPhase.2, (Devices.arm .blink (.once s.nextPhase.2) s.shown.world).1, ?_⟩
    rw [handle_blink_of_expired hcount]
    refine ⟨perform_rearm_fst _ _, ?_⟩
    show Observed.dealings (Devices.perform _ _).2 = _
    rw [Devices.perform_singleton, Observed.dealings_execute, hdealt]
    rfl

/-! ## Batches -/

/-- A handler works unless it loses the timing, and then it fails for that. -/
theorem handle_fst (s : Station (Observed δ)) (source : Source) :
    (¬s.LosesTiming source ∧ (s.handle source).1 = .ok ()) ∨
      (s.LosesTiming source ∧ (s.handle source).1 = .error (.timer .arm)) := by
  by_cases hblink : source = .timer .blink
  · subst hblink
    rcases s.handle_blink with ⟨hstale, hok⟩ | ⟨hcount, dealt, delay, armed, harmed, hdealings⟩
    · exact .inl ⟨fun hloses => hloses.2.1 hstale, hok⟩
    · rcases armed with fault | ⟨⟩
      · exact .inr ⟨⟨rfl, hcount, dealt, delay, fault, hdealings⟩, harmed⟩
      · refine .inl ⟨?_, harmed⟩
        rintro ⟨-, -, other, otherDelay, fault, hother⟩
        rw [hdealings] at hother
        have hlast := (List.append_inj' hother rfl).2
        simp at hlast
  · exact .inl ⟨fun hloses => hblink hloses.1, s.handle_of_ne_blink hblink⟩

/-- What holds of the first place of a list and of all later ones holds of every
place. -/
theorem forall_split_cons {α : Type} {P : List α → α → Prop} {first : α} {rest : List α}
    (hfirst : P [] first)
    (hrest : ∀ before a after, rest = before ++ a :: after → P (first :: before) a)
    (before : List α) (a : α) (after : List α) (h : first :: rest = before ++ a :: after) :
    P before a := by
  cases before with
  | nil =>
    obtain ⟨rfl, -⟩ := List.cons.inj h
    exact hfirst
  | cons other before =>
    obtain ⟨rfl, hlater⟩ := List.cons.inj h
    exact hrest before a after hlater

/-- A batch ends at the first source that loses the timing, or else behind the last
one. -/
theorem forAll_handle (ready : List Source) (s : Station (Observed δ)) :
    ((∀ before source after, ready = before ++ source :: after →
          ¬(s.handleAll before).LosesTiming source) ∧
        forAll handle ready s = (.ok (), s.handleAll ready)) ∨
      ∃ before source after, ready = before ++ source :: after ∧
        (∀ first other rest, before = first ++ other :: rest →
          ¬(s.handleAll first).LosesTiming other) ∧
        (s.handleAll before).LosesTiming source ∧
        forAll handle ready s = (.error (.timer .arm), s.handleAll (before ++ [source])) := by
  induction ready generalizing s with
  | nil => exact .inl ⟨by simp, rfl⟩
  | cons first rest ih =>
    have hcons : forAll handle (first :: rest) s = andThen (s.handle first) (forAll handle rest) :=
      rfl
    rw [hcons]
    rcases s.handle_fst first with ⟨hkeeps, hok⟩ | ⟨hloses, hfailed⟩
    · rw [andThen_of_ok hok]
      rcases ih (s.handle first).2 with
        ⟨hnone, hall⟩ | ⟨before, source, after, hrest, hearlier, hlast, hend⟩
      · exact .inl ⟨forall_split_cons (P := fun before source =>
          ¬(s.handleAll before).LosesTiming source) hkeeps hnone, hall⟩
      · refine .inr ⟨first :: before, source, after, by rw [hrest]; rfl, ?_, hlast, hend⟩
        exact forall_split_cons (P := fun before source =>
          ¬(s.handleAll before).LosesTiming source) hkeeps hearlier
    · rw [andThen_of_error hfailed]
      exact .inr ⟨[], first, rest, rfl, by simp, hloses, rfl⟩

/-- A batch without the blink timer always works. -/
theorem forAll_handle_of_ne_blink {sources : List Source}
    (hne : ∀ source ∈ sources, source ≠ .timer .blink) (s : Station δ) :
    forAll handle sources s = (.ok (), s.handleAll sources) := by
  induction sources generalizing s with
  | nil => rfl
  | cons source rest ih =>
    obtain ⟨hfirst, hrest⟩ := List.forall_mem_cons.mp hne
    exact (andThen_of_ok (s.handle_of_ne_blink hfirst)).trans (ih hrest _)

/-- A batch with the blink timer once works if that one handler does. -/
theorem forAll_handle_blink {before after : List Source}
    (hne : ∀ source ∈ before ++ after, source ≠ .timer .blink) (s : Station δ) :
    forAll handle (before ++ .timer .blink :: after) s =
      andThen ((s.handleAll before).handle (.timer .blink)) fun s => (.ok (), s.handleAll after) := by
  obtain ⟨hbefore, hafter⟩ := List.forall_mem_append.mp hne
  rw [forAll_append, forAll_handle_of_ne_blink hbefore]
  have hrest : forAll handle after = fun s : Station δ => (.ok (), s.handleAll after) :=
    funext (forAll_handle_of_ne_blink hafter)
  show andThen ((s.handleAll before).handle (.timer .blink)) (forAll handle after) = _
  rw [hrest]

theorem forAll_handle_blink_works_iff {before after : List Source}
    (hne : ∀ source ∈ before ++ after, source ≠ .timer .blink) {s : Station δ} :
    (forAll handle (before ++ .timer .blink :: after) s).1 = .ok () ↔
      ((s.handleAll before).handle (.timer .blink)).1 = .ok () := by
  rw [forAll_handle_blink hne, andThen_eq_ok_iff]

/-- A batch that works is handled to its end. -/
theorem forAll_handle_snd {ready : List Source} {s : Station (Observed δ)}
    (h : (forAll handle ready s).1 = .ok ()) : (forAll handle ready s).2 = s.handleAll ready := by
  rcases s.forAll_handle ready with ⟨-, hall⟩ | ⟨_, _, _, -, -, -, hend⟩
  · rw [hall]
  · rw [hend] at h
    cases h

/-- What the handlers deal comes behind what was dealt before. -/
theorem dealings_prefix_handleAll (s : Station (Observed δ)) (sources : List Source) :
    s.devices.dealings <+: (s.handleAll sources).devices.dealings := by
  induction sources generalizing s with
  | nil => exact List.prefix_rfl
  | cons source rest ih =>
    have hfirst : s.devices.dealings <+: (s.handle source).2.devices.dealings := by
      obtain ⟨stimulus, htold⟩ : ∃ stimulus, s.told? (.notify source) = some stimulus := by
        rcases source with ⟨_ | _⟩ | button <;> exact ⟨_, rfl⟩
      exact dealings_prefix_of_told htold
    exact hfirst.trans (ih _)

/-- The arming that fails is the last dealing of the handler that fails for it. -/
theorem LosesTiming.armed_mem {s : Station (Observed δ)} {before : List Source} {source : Source}
    (h : (s.handleAll before).LosesTiming source) :
    ∃ delay fault, .armed .blink (.once delay) (.error fault) ∈
      (s.handleAll (before ++ [source])).devices.dealings.drop s.devices.dealings.length := by
  obtain ⟨-, -, dealt, delay, fault, hdealt⟩ := h
  obtain ⟨earlier, hearlier⟩ := s.dealings_prefix_handleAll before
  have hlast : s.handleAll (before ++ [source]) = ((s.handleAll before).handle source).2 :=
    s.handleAll_append before [source]
  refine ⟨delay, fault, ?_⟩
  rw [hlast, hdealt, ← hearlier, List.append_assoc, List.append_assoc, List.drop_left]
  simp

end

end Beacon.Station
