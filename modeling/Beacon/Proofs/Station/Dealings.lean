import Beacon.Proofs.Station.TimerContract

/-!
# What an answer adds to the record

Carrying out an answer stops at a fatal failure, and then the record lacks
the dealings of the actions behind it.  Only two kinds of action can stop an
answer, and nearly every answer has none of them before its end.

* `Action.MayStop` names the two kinds.
* `filterMap_perform`: where only the last action may stop an answer, the
  record gets one dealing for each action, whatever fails.
* `Stimulus.IsPacing` tells the stimuli that only the pacer answers.  No
  action of such an answer may stop it, by `not_mayStop_react`, and of the
  other answers only the first phase of all is not `carried_react`.
-/

namespace Beacon

/-- An action whose failure keeps the actions behind it from being carried out. -/
def Action.MayStop : Action → Prop
  | .armBlink _ _ | .disarmRepeat .start => True
  | _ => False

theorem Action.IsTalk.not_mayStop {action : Action} (h : action.IsTalk) : ¬action.MayStop := by
  cases action with
  | note | emit => exact id
  | light | armBlink | armRepeat | disarmRepeat => cases h

/-! ## Carrying out -/

/-- The world after the call that an action makes, before anything is said about
it. -/
def Devices.called {δ : Type} [Devices δ] (world : δ) : Action → δ
  | .light on _ => (setLamp on world).2
  | .armBlink schedule _ => (arm .blink schedule world).2
  | .armRepeat schedule => (arm .repeating schedule world).2
  | .disarmRepeat _ => (disarm .repeating world).2
  | .note _ => world
  | .emit event => emit event world

/-- An action is its call, and a notice if there is something to say. -/
theorem Devices.execute_snd {δ : Type} [Devices δ] (action : Action) (world : δ) :
    (execute action world).2 = called world action ∨
      ∃ notice, (execute action world).2 = note notice (called world action) := by
  cases action with
  | light on occasion =>
    simp only [execute, called]
    rcases setLamp on world with ⟨fault | ⟨⟩, world'⟩
    · exact .inr ⟨_, rfl⟩
    · exact .inl rfl
  | armBlink schedule occasion =>
    simp only [execute, called]
    rcases arm .blink schedule world with ⟨fault | ⟨⟩, world'⟩
    · exact .inr ⟨_, rfl⟩
    · exact .inl rfl
  | armRepeat schedule =>
    simp only [execute, called]
    rcases arm .repeating schedule world with ⟨fault | ⟨⟩, world'⟩
    · exact .inr ⟨_, rfl⟩
    · exact .inl rfl
  | disarmRepeat occasion =>
    simp only [execute, called]
    rcases disarm .repeating world with ⟨fault | ⟨⟩, world'⟩
    · cases occasion with
      | start => exact .inl rfl
      | running => exact .inr ⟨_, rfl⟩
    · exact .inl rfl
  | note notice => exact .inr ⟨notice, rfl⟩
  | emit event => exact .inl rfl

/-- What the calls of actions keep, and notices keep, carrying them out keeps. -/
theorem Devices.keeps_perform {δ : Type} [Devices δ] {P : δ → Prop} {actions : List Action}
    (hcalled : ∀ action ∈ actions, ∀ world, P world → P (called world action))
    (hnote : ∀ notice world, P world → P (note notice world)) {world : δ} (h : P world) :
    P (perform actions world).2 := by
  induction actions generalizing world with
  | nil => exact h
  | cons action rest ih =>
    have hfirst : P (execute action world).2 := by
      have hcall := hcalled action List.mem_cons_self world h
      rcases execute_snd action world with hsnd | ⟨notice, hsnd⟩
      · rw [hsnd]
        exact hcall
      · rw [hsnd]
        exact hnote notice _ hcall
    have hrest := fun later hmem => hcalled later (List.mem_cons_of_mem action hmem)
    rcases perform_cons action rest world with hlast | hlast
    · rw [hlast]
      exact hfirst
    · rw [hlast]
      exact ih hrest hfirst

theorem Devices.execute_of_not_mayStop {δ : Type} [Devices δ] {action : Action}
    (h : ¬action.MayStop) (world : δ) : (execute action world).1 = .ok () := by
  cases action with
  | light on occasion =>
    simp only [execute]
    rcases setLamp on world with ⟨fault | ⟨⟩, world'⟩ <;> rfl
  | armBlink schedule occasion => exact absurd trivial h
  | armRepeat schedule =>
    simp only [execute]
    rcases arm .repeating schedule world with ⟨fault | ⟨⟩, world'⟩ <;> rfl
  | disarmRepeat occasion =>
    cases occasion with
    | start => exact absurd trivial h
    | running =>
      simp only [execute]
      rcases disarm .repeating world with ⟨fault | ⟨⟩, world'⟩ <;> rfl
  | note notice => rfl
  | emit event => rfl

theorem Devices.perform_cons_of_not_mayStop {δ : Type} [Devices δ] {action : Action}
    (h : ¬action.MayStop) (rest : List Action) (world : δ) :
    perform (action :: rest) world = perform rest (execute action world).2 := by
  have hworked := execute_of_not_mayStop h world
  unfold perform
  generalize execute action world = answer at hworked ⊢
  obtain ⟨result, world'⟩ := answer
  cases hworked
  cases rest <;> rfl

theorem Devices.perform_of_not_mayStop {δ : Type} [Devices δ] {actions : List Action}
    (h : ∀ action ∈ actions, ¬action.MayStop) (world : δ) :
    (perform actions world).1 = .ok () := by
  induction actions generalizing world with
  | nil => rfl
  | cons action rest ih =>
    rw [perform_cons_of_not_mayStop (h action List.mem_cons_self)]
    exact ih (fun later hmem => h later (List.mem_cons_of_mem action hmem)) _

theorem Devices.perform_singleton {δ : Type} [Devices δ] (action : Action) (world : δ) :
    (perform [action] world).2 = (execute action world).2 := by
  unfold perform
  rcases execute action world with ⟨fault | ⟨⟩, world'⟩ <;> rfl

namespace Observed

/-- What is dealt is written behind what was. -/
theorem dealings_prefix_perform {δ : Type} [Devices δ] (actions : List Action) (o : Observed δ) :
    o.dealings <+: (Devices.perform actions o).2.dealings := by
  refine Devices.keeps_perform (P := fun later : Observed δ => o.dealings <+: later.dealings) ?_
    (fun _ _ h => h) List.prefix_rfl
  intro action _ world h
  cases action with
  | note notice => exact h
  | light | armBlink | armRepeat | disarmRepeat | emit =>
    exact h.trans (List.prefix_append _ _)

variable {δ β : Type} [Devices δ] {kind : Dealing → Option β} {asked : Action → Option β}

/-- One action adds what its dealing tells. -/
theorem filterMap_execute
    (h : ∀ (world : δ) action, (Devices.dealing? world action).bind kind = asked action)
    (action : Action) (o : Observed δ) :
    (Devices.execute action o).2.dealings.filterMap kind =
      o.dealings.filterMap kind ++ (asked action).toList := by
  rw [dealings_execute, List.filterMap_append, ← h o.world action]
  cases Devices.dealing? o.world action with
  | none => rfl
  | some dealing =>
    cases hkind : kind dealing with
    | none => simp [hkind]
    | some told => simp [hkind]

theorem filterMap_asked_cons (action : Action) (rest : List Action) :
    (action :: rest).filterMap asked = (asked action).toList ++ rest.filterMap asked := by
  cases hasked : asked action <;> simp [hasked]

/-- Where only the last action may stop an answer, the record gets what every
action asks for, whether or not it works. -/
theorem filterMap_perform
    (h : ∀ (world : δ) action, (Devices.dealing? world action).bind kind = asked action)
    {actions : List Action} (hstop : ∀ action ∈ actions.dropLast, ¬action.MayStop)
    (o : Observed δ) :
    (Devices.perform actions o).2.dealings.filterMap kind =
      o.dealings.filterMap kind ++ actions.filterMap asked := by
  induction actions generalizing o with
  | nil => simp [Devices.perform]
  | cons action rest ih =>
    rw [filterMap_asked_cons, ← List.append_assoc, ← filterMap_execute h action o]
    cases rest with
    | nil => rw [Devices.perform_singleton, List.filterMap_nil, List.append_nil]
    | cons next later =>
      rw [List.dropLast_cons_cons] at hstop
      rw [Devices.perform_cons_of_not_mayStop (hstop action List.mem_cons_self)]
      exact ih (fun other hmem => hstop other (List.mem_cons_of_mem action hmem)) _

/-- Where an action that may stop an answer has only talk behind it, the record
gets all that the actions ask for but talk. -/
theorem filterMap_perform_of_talk
    (h : ∀ (world : δ) action, (Devices.dealing? world action).bind kind = asked action)
    (htalk : ∀ action : Action, action.IsTalk → asked action = none) {actions : List Action}
    (hstop : actions.Pairwise fun action later => action.MayStop → later.IsTalk)
    (o : Observed δ) :
    (Devices.perform actions o).2.dealings.filterMap kind =
      o.dealings.filterMap kind ++ actions.filterMap asked := by
  induction actions generalizing o with
  | nil => simp [Devices.perform]
  | cons action rest ih =>
    obtain ⟨hfirst, hrest⟩ := List.pairwise_cons.mp hstop
    rw [filterMap_asked_cons, ← List.append_assoc, ← filterMap_execute h action o]
    by_cases hmay : action.MayStop
    · have hnone : ∀ later ∈ rest, asked later = none :=
        fun later hmem => htalk later (hfirst later hmem hmay)
      rw [List.filterMap_eq_nil_iff.mpr hnone, List.append_nil]
      rcases Devices.perform_cons action rest o with hlast | hlast
      · rw [hlast]
      · rw [hlast, filterMap_dealings_perform kind]
        exact fun later hmem world => (h world later).trans (hnone later hmem)
    · rw [Devices.perform_cons_of_not_mayStop hmay, ih hrest]

/-- In any case the record gets what the first actions ask for, up to some point. -/
theorem filterMap_perform_part
    (h : ∀ (world : δ) action, (Devices.dealing? world action).bind kind = asked action)
    (actions : List Action) (o : Observed δ) :
    ∃ done, done <+: actions ∧
      (Devices.perform actions o).2.dealings.filterMap kind =
        o.dealings.filterMap kind ++ done.filterMap asked := by
  induction actions generalizing o with
  | nil => exact ⟨[], List.prefix_rfl, (List.append_nil _).symm⟩
  | cons action rest ih =>
    rcases Devices.perform_cons action rest o with hlast | hlast
    · refine ⟨[action], ⟨rest, rfl⟩, ?_⟩
      rw [hlast, filterMap_execute h, filterMap_asked_cons]
      simp
    · obtain ⟨done, hpart, hdone⟩ := ih (Devices.execute action o).2
      refine ⟨action :: done, List.cons_prefix_cons.mpr ⟨rfl, hpart⟩, ?_⟩
      rw [hlast, hdone, filterMap_execute h, filterMap_asked_cons, List.append_assoc]

end Observed

namespace Station

variable {δ : Type} [Devices δ]

theorem dealings_prefix_consulted (s : Station (Observed δ))
    (happening : Happening (Observed δ)) :
    s.devices.dealings <+: (s.consulted happening).dealings := by
  rcases happening with f | _ | _ | ⟨clock | button⟩ | edge | _
  case notify.timer => exact List.prefix_append _ _
  case notify.button => exact List.prefix_append _ _
  all_goals exact List.prefix_rfl

/-- A happening that the controller is told of only adds to the record. -/
theorem dealings_prefix_of_told {s : Station (Observed δ)} {happening : Happening (Observed δ)}
    {stimulus : Stimulus} (h : s.told? happening = some stimulus) :
    s.devices.dealings <+: (s.undergo happening).devices.dealings := by
  rw [undergo_of_told h]
  exact (s.dealings_prefix_consulted happening).trans (Observed.dealings_prefix_perform _ _)

end Station

/-! ## Answers that are carried out whole -/

/-- A stimulus that only the pacer answers: news of a button or of the repeat
timer, an edge that is handed over, or a reset. -/
def Stimulus.IsPacing : Stimulus → Prop
  | .woke _ _ | .edge _ | .repeatExpired _ | .reset => True
  | .seed _ _ | .settle | .begin | .blinkExpired _ => False

/-- What the pacer does once it has started: it calls the repeat timer, and tells
something. -/
def Action.IsPacing : Action → Prop
  | .armRepeat _ | .disarmRepeat .running | .note _ | .emit _ => True
  | _ => False

theorem Action.IsTalk.isPacing {action : Action} (h : action.IsTalk) : action.IsPacing := by
  cases action with
  | note | emit => trivial
  | light | armBlink | armRepeat | disarmRepeat => cases h

theorem Action.IsPacing.not_mayStop {action : Action} (h : action.IsPacing) :
    ¬action.MayStop := by
  cases action with
  | disarmRepeat occasion =>
    cases occasion with
    | start => cases h
    | running => exact id
  | light | armBlink => cases h
  | armRepeat | note | emit => exact id

namespace Controller

variable (c : Controller)

theorem pacing_press (heading : Heading) :
    ∀ action ∈ (c.press heading).2, action.IsPacing := by
  unfold press
  split
  · simp
  · dsimp only
    split
    · simp [Action.IsPacing]
    · intro action hmem
      rcases List.mem_append.mp hmem with hsaid | harm
      · rcases List.mem_append.mp hsaid with hturned | hstepped
        · exact (talk_turn _ _ action hturned).isPacing
        · exact (talk_step _ _ action hstepped).isPacing
      · obtain rfl := List.mem_singleton.mp harm
        trivial

theorem pacing_release (heading : Heading) :
    ∀ action ∈ (c.release heading).2, action.IsPacing := by
  unfold release
  split
  · dsimp only
    split
    · intro action hmem
      rcases List.mem_cons.mp hmem with rfl | hturned
      · trivial
      · exact (talk_turn _ _ action hturned).isPacing
    · simp
  · simp

/-- A reset stops the repeat timer first, and from then on only tells something. -/
theorem reset_snd :
    ∃ rest, c.reset.2 = .disarmRepeat .running :: rest ∧ ∀ action ∈ rest, action.IsTalk := by
  refine ⟨_, rfl, ?_⟩
  intro action hmem
  rcases List.mem_append.mp hmem with hmem | hmem
  · rcases List.mem_append.mp hmem with hturned | hchanged
    · exact talk_turn _ none action hturned
    · split at hchanged
      · simp at hchanged
      · obtain rfl := List.mem_singleton.mp hchanged
        trivial
  · obtain rfl := List.mem_singleton.mp hmem
    trivial

theorem pacing_edge (edge : Edge) : ∀ action ∈ (c.edge edge).2, action.IsPacing := by
  rcases edge.cases with ⟨heading, rfl⟩ | ⟨heading, rfl⟩ | rfl | rfl
  · rw [edge_press]
    exact c.pacing_press heading
  · rw [edge_release]
    exact c.pacing_release heading
  · rw [edge_reset]
    obtain ⟨rest, hactions, htalk⟩ := c.reset_snd
    rw [hactions]
    intro action hmem
    rcases List.mem_cons.mp hmem with rfl | hlater
    · trivial
    · exact (htalk action hlater).isPacing
  · simp

theorem pacing_repeatExpired (count : Count) :
    ∀ action ∈ (c.repeatExpired count).2, action.IsPacing := by
  by_cases hdrives : c.heading = none
  · intro action hmem
    exact ((c.repeatExpired_of_idle count hdrives).2 action hmem).isPacing
  · by_cases hcount : count = .ok 0
    · subst hcount
      simp [repeatExpired]
    · rw [c.repeatExpired_of_driving hcount hdrives]
      intro action hmem
      rcases List.mem_append.mp hmem with hsaid | harm
      · rcases List.mem_append.mp hsaid with hremark | hstepped
        · exact (talk_repeatRemarks count action hremark).isPacing
        · exact (talk_step _ _ action hstepped).isPacing
      · obtain rfl := List.mem_singleton.mp harm
        trivial

/-- The pacer does nothing but that. -/
theorem pacing_react {stimulus : Stimulus} (h : stimulus.IsPacing) :
    ∀ action ∈ (c.react stimulus).2, action.IsPacing := by
  cases c.answers stimulus with
  | edge _ hreact =>
    rw [hreact]
    exact pacing_edge _ _
  | stale _ hreact =>
    rw [hreact]
    simp [Action.IsPacing]
  | repeatExpired count => exact c.pacing_repeatExpired count
  | seed | settle | begin | blinkExpired => cases h

/-- Nothing that the pacer does may stop its answer. -/
theorem not_mayStop_react {stimulus : Stimulus} (h : stimulus.IsPacing) :
    ∀ action ∈ (c.react stimulus).2, ¬action.MayStop :=
  fun action hmem => (c.pacing_react h action hmem).not_mayStop

/-- Only the arming of the blink timer may stop a toggle, and it comes last. -/
theorem not_mayStop_expired (blinker : Blinker) (count : Count) :
    ∀ action ∈ (blinker.expired count).2.dropLast, ¬action.MayStop := by
  by_cases hcount : count = .ok 0
  · subst hcount
    simp [Blinker.expired]
  · have htoggle : blinker.toggle.2 ≠ [] := List.cons_ne_nil _ _
    rw [expired_of_ne_zero blinker hcount]
    simp only [List.dropLast_append_of_ne_nil htoggle]
    intro action hmem
    rcases List.mem_append.mp hmem with hremark | hlight
    · exact (talk_remarks count action hremark).not_mayStop
    · obtain rfl := List.mem_singleton.mp hlight
      exact id

/-- Only the answer that enters the first phase can be stopped before its end. -/
theorem carried_react {stimulus : Stimulus} (h : stimulus ≠ .begin) :
    ∀ action ∈ (c.react stimulus).2.dropLast, ¬action.MayStop := by
  cases c.answers stimulus with
  | edge _ hreact =>
    rw [hreact]
    exact fun action hmem => (pacing_edge _ _ action (List.dropLast_subset _ hmem)).not_mayStop
  | seed hreact =>
    rw [hreact]
    simp
  | stale _ hreact =>
    rw [hreact]
    simp
  | settle => exact fun action hmem => absurd hmem (by simp [react])
  | begin => exact absurd rfl h
  | blinkExpired count => exact not_mayStop_expired c.blinker count
  | repeatExpired count =>
    exact fun action hmem =>
      (c.pacing_repeatExpired count action (List.dropLast_subset _ hmem)).not_mayStop

/-- Nothing but talk follows an action that may stop an answer. -/
theorem talk_after_stop (stimulus : Stimulus) :
    (c.react stimulus).2.Pairwise fun action later => action.MayStop → later.IsTalk := by
  by_cases hbegin : stimulus = .begin
  · subst hbegin
    show c.blinker.begin.2.Pairwise _
    simp [Blinker.begin, Action.MayStop, Action.IsTalk]
  · have hcarried := c.carried_react hbegin
    generalize (c.react stimulus).2 = actions at hcarried
    induction actions with
    | nil => exact List.Pairwise.nil
    | cons action rest ih =>
      cases rest with
      | nil => simp
      | cons next later =>
        rw [List.dropLast_cons_cons] at hcarried
        have hfirst := hcarried action List.mem_cons_self
        have hrest := fun other hmem => hcarried other (List.mem_cons_of_mem action hmem)
        exact List.pairwise_cons.mpr ⟨fun _ _ hmay => absurd hmay hfirst, ih hrest⟩

end Controller

/-! ## What a happening adds -/

/-- What the devices keep, whatever they are asked, a happening keeps. -/
theorem Station.keeps_devices {δ : Type} [Devices δ] {P : δ → Prop}
    (hread : ∀ button world, P world → P (Devices.readLine button world).2)
    (hcount : ∀ clock world, P world → P (Devices.expirations clock world).2)
    (hcalled : ∀ action world, P world → P (Devices.called world action))
    (hnote : ∀ notice world, P world → P (Devices.note notice world))
    {s : Station δ} (h : P s.devices) {happening : Happening δ}
    (hchange : ∀ f, happening = .change f → P (f s.devices)) :
    P (s.undergo happening).devices := by
  have hfeed : ∀ (s : Station δ) stimulus, P s.devices → P (s.feed stimulus).2.devices :=
    fun s stimulus hs => Devices.keeps_perform (fun action _ => hcalled action) hnote hs
  have hseed : ∀ (s : Station δ) button, P s.devices → P (s.seeded button).devices :=
    fun s button hs => hfeed { s with devices := _ } (.seed button _) (hread button _ hs)
  rcases happening with f | _ | _ | ⟨clock | button⟩ | edge | _
  · exact hchange f rfl
  · show P s.startPacer.2.devices
    rw [startPacer_eq]
    exact hfeed _ .settle (hseed _ .k3 (hseed _ .k2 (hseed s .k1 h)))
  · exact hfeed s .begin h
  · cases clock with
    | blink => exact hfeed { s with devices := _ } (.blinkExpired _) (hcount .blink _ h)
    | repeating => exact hfeed { s with devices := _ } (.repeatExpired _) (hcount .repeating _ h)
  · exact hfeed { s with devices := _ } (.woke button _) (hread button _ h)
  · exact hfeed s (.edge edge) h
  · exact hfeed s .reset h

namespace Station

variable {δ β : Type} [Devices δ] {kind : Dealing → Option β} {asked : Action → Option β}

/-- What the controller is told of adds what the answer asks for but talk. -/
theorem filterMap_undergo_of_told
    (h : ∀ (world : δ) action, (Devices.dealing? world action).bind kind = asked action)
    (htalk : ∀ action : Action, action.IsTalk → asked action = none)
    (hread : ∀ button reading, kind (.read button reading) = none)
    (hcounted : ∀ clock count, kind (.counted clock count) = none)
    {s : Station (Observed δ)} {happening : Happening (Observed δ)} {stimulus : Stimulus}
    (htold : s.told? happening = some stimulus) :
    (s.undergo happening).devices.dealings.filterMap kind =
      s.devices.dealings.filterMap kind ++ (s.controller.react stimulus).2.filterMap asked := by
  rw [undergo_of_told htold]
  show (Observed.dealings (Devices.perform (s.controller.react stimulus).2 _).2).filterMap kind = _
  rw [Observed.filterMap_perform_of_talk h htalk (s.controller.talk_after_stop stimulus),
    filterMap_consulted hread hcounted]

/-- A first reading is a dealing with that button. -/
theorem dealings_seeded (s : Station (Observed δ)) (button : Button) :
    (s.seeded button).devices.dealings =
      s.devices.dealings ++ [.read button (Devices.readLine button s.devices.world).1] := by
  obtain ⟨notice, hfeed⟩ := s.feedReading_seed button
  unfold seeded
  rw [hfeed]
  rfl

/-- Starting the pacer reads the buttons, and adds at most what a stop of the repeat
timer asks for. -/
theorem filterMap_startPacer
    (h : ∀ (world : δ) action, (Devices.dealing? world action).bind kind = asked action)
    (hread : ∀ button reading, kind (.read button reading) = none) (s : Station (Observed δ)) :
    s.startPacer.2.devices.dealings.filterMap kind =
      s.devices.dealings.filterMap kind ++ (asked (.disarmRepeat .start)).toList := by
  have hseeded : ∀ (s : Station (Observed δ)) button,
      (s.seeded button).devices.dealings.filterMap kind = s.devices.dealings.filterMap kind := by
    intro s button
    rw [dealings_seeded, List.filterMap_append]
    simp [hread]
  rw [startPacer_eq]
  show (Observed.dealings (Devices.perform [.disarmRepeat .start] _).2).filterMap kind = _
  rw [Devices.perform_singleton, Observed.filterMap_execute h, hseeded, hseeded, hseeded]

end Station

end Beacon
