import DisplayServer.Proofs.Decompose

/-!
# What the events of one operation say together

At the end of an operation no matter is open. What an operation says of joining and of becoming
unique is final as well: a screen that joined a group is still in one at the end, and the
screens that became unique are the ones that the operation was asked to make unique.
`Accounted` holds the three together, for every operation (`accounted_outcome`).
-/

namespace DisplayServer

open TopologyEvent

namespace Draft

open DisplayServer.Topology

variable {d : Draft}

/-! ## Making screens unique -/

/-- A live screen is made unique: it leaves its group, turns where the rotation is locked, and is
reported with the number of a display that is drawn for it. -/
theorem makeUniqueStep_of_live (h : Sound d.topology) (turn : UniqueRotation) {x : ScreenId}
    {s : Screen} (hs : d.topology.screen? x = some s) :
    makeUniqueStep turn x d =
      (.ok ⟨(d.leave x .madeUnique).topology.displayIds.peek⟩,
        ⟨{ (d.leave x .madeUnique).topology.putScreen (turn.apply (s.within none)) with
            displayIds := (d.leave x .madeUnique).topology.displayIds.advance },
          (d.leave x .madeUnique).events ++
            [.becameUnique (turn.apply (s.within none)).report
              ⟨(d.leave x .madeUnique).topology.displayIds.peek⟩]⟩) := by
  have hs' : (d.leave x .madeUnique).topology.screen? x = some (s.within none) := by
    rw [screen?_leave h, if_pos rfl, hs]
    rfl
  unfold makeUniqueStep
  simp only [hs']
  rfl

/-- Only the screen that is made unique is found changed. -/
theorem screen?_makeUniqueStep (h : Sound d.topology) (turn : UniqueRotation) {x : ScreenId}
    {s : Screen} (hs : d.topology.screen? x = some s) (y : ScreenId) :
    (makeUniqueStep turn x d).2.topology.screen? y =
      if y = x then some (turn.apply (s.within none)) else d.topology.screen? y := by
  rw [makeUniqueStep_of_live h turn hs]
  refine (screen?_putScreen _ y (turn.apply (s.within none))).trans ?_
  rw [UniqueRotation.apply_id, Screen.within_id, h.screen_id x s hs, screen?_leave h]
  split <;> rfl

/-- The screen departs from its group, and that it is unique is told. -/
theorem makeUniqueStep_events (h : Sound d.topology) (turn : UniqueRotation) {x : ScreenId}
    {s : Screen} (hs : d.topology.screen? x = some s) :
    ∃ es display, (makeUniqueStep turn x d).1 = .ok display ∧
      (makeUniqueStep turn x d).2.events =
        d.events ++ (es ++ [.becameUnique (turn.apply (s.within none)).report display]) ∧
      Departure x .madeUnique es ∧
      ∀ y, ((makeUniqueStep turn x d).2.topology.screen? y).isSome =
        (d.topology.screen? y).isSome := by
  obtain ⟨es, hes, hdeparture⟩ := events_leave h x .madeUnique
  have hstep := makeUniqueStep_of_live h turn hs
  refine ⟨es, _, congrArg Prod.fst hstep, ?_, hdeparture, fun y => ?_⟩
  · rw [hstep]
    show (d.leave x .madeUnique).events ++ _ = _
    rw [hes, List.append_assoc]
  · rw [screen?_makeUniqueStep h turn hs]
    split
    · rename_i hy
      rw [hy, hs]
      rfl
    · rfl

/-- What is told while the listed screens are made unique. -/
structure Singled (xs : List ScreenId) (es : List TopologyEvent) : Prop where
  /-- Every matter is closed. -/
  settled : unsettled es = []
  /-- Nobody joins a group. -/
  unjoined : ∀ s g, .joinedGroup s g ∉ es
  /-- The screens that became unique are the listed ones. -/
  single : ∀ x, (∃ s display, .becameUnique s display ∈ es ∧ s.id = x) ↔ x ∈ xs

theorem singled_cons {x : ScreenId} {xs : List ScreenId} {es fs : List TopologyEvent}
    (hes : Departure x .madeUnique es) {s : ScreenReport} (hid : s.id = x) (display : DisplayId)
    (h : Singled xs fs) :
    Singled (x :: xs) ((es ++ [.becameUnique s display]) ++ fs) := by
  have hcases : ∀ {e}, e ∈ (es ++ [.becameUnique s display]) ++ fs →
      e.composed? = none ∨ e = .becameUnique s display ∨ e ∈ fs := by
    intro e he
    rcases List.mem_append.mp he with he | he
    · rcases List.mem_append.mp he with he | he
      · exact .inl (composed?_of_departure hes he)
      · exact .inr (.inl (List.mem_singleton.mp he))
    · exact .inr (.inr he)
  exact {
    settled := by
      have hclose : ∀ ys, settle ys (.becameUnique s display) = ys.filter (· ≠ x) := by
        intro ys
        rw [← hid]
        rfl
      rw [unsettled_append (unsettled_departure hes hclose)]
      exact h.settled
    unjoined := by
      intro s' g hmem
      rcases hcases hmem with he | he | he
      · cases he
      · cases he
      · exact h.unjoined s' g he
    single := by
      -- the screen at the head became unique, and the others did in what follows
      intro y
      rw [List.mem_cons, ← h.single y]
      constructor
      · rintro ⟨s', display', hmem, hy⟩
        rcases hcases hmem with he | he | he
        · cases he
        · cases he
          exact .inl (hy.symm.trans hid)
        · exact .inr ⟨s', display', he, hy⟩
      · rintro (rfl | ⟨s', display', hmem, hy⟩)
        · exact ⟨s, display, by simp, hid⟩
        · exact ⟨s', display', List.mem_append_right _ hmem, hy⟩ }

/-- The first screen is made unique, and then the rest. -/
theorem makeUniqueSteps_of_ok {turn : UniqueRotation} {x : ScreenId} {rest : List ScreenId}
    {display : DisplayId} {displays : List DisplayId}
    (hok : (makeUniqueStep turn x d).1 = .ok display)
    (hok' : (makeUniqueSteps turn rest (makeUniqueStep turn x d).2).1 = .ok displays) :
    makeUniqueSteps turn (x :: rest) d =
      (.ok (display :: displays), (makeUniqueSteps turn rest (makeUniqueStep turn x d).2).2) := by
  have hstep : makeUniqueStep turn x d = (.ok display, (makeUniqueStep turn x d).2) :=
    Prod.ext hok rfl
  have hsteps : makeUniqueSteps turn rest (makeUniqueStep turn x d).2 =
      (.ok displays, (makeUniqueSteps turn rest (makeUniqueStep turn x d).2).2) :=
    Prod.ext hok' rfl
  rw [makeUniqueSteps, hstep]
  simp only
  rw [hsteps]

/-- Live screens are made unique one after the other, and none is refused. -/
theorem makeUniqueSteps_events (turn : UniqueRotation) (xs : List ScreenId) {d : Draft}
    (h : Sound d.topology) (hlive : ∀ x ∈ xs, ∃ s, d.topology.screen? x = some s) :
    ∃ es displays, (makeUniqueSteps turn xs d).1 = .ok displays ∧
      (makeUniqueSteps turn xs d).2.events = d.events ++ es ∧ Singled xs es := by
  induction xs generalizing d with
  | nil =>
    refine ⟨[], [], rfl, (List.append_nil _).symm, rfl, fun _ _ he => List.not_mem_nil he, ?_⟩
    simp
  | cons x rest ih =>
    obtain ⟨s, hs⟩ := hlive x List.mem_cons_self
    obtain ⟨es, display, hok, hes, hdeparture, hstay⟩ := makeUniqueStep_events h turn hs
    have h' := (extends_makeUniqueStep h turn x).sound h
    -- no screen disappears, so none of the rest is refused
    have hrest : ∀ y ∈ rest, ∃ s, (makeUniqueStep turn x d).2.topology.screen? y = some s := by
      intro y hy
      rw [← Option.isSome_iff_exists, hstay, Option.isSome_iff_exists]
      exact hlive y (List.mem_cons_of_mem x hy)
    obtain ⟨fs, displays, hok', hfs, hsingled⟩ := ih h' hrest
    have hall := makeUniqueSteps_of_ok hok hok'
    have hid : (turn.apply (s.within none)).report.id = x := by
      show (turn.apply (s.within none)).id = x
      rw [UniqueRotation.apply_id]
      exact h.screen_id x s hs
    refine ⟨_, display :: displays, congrArg Prod.fst hall, ?_,
      singled_cons hdeparture hid display hsingled⟩
    rw [hall]
    show (makeUniqueSteps turn rest (makeUniqueStep turn x d).2).2.events = _
    rw [hfs, hes, List.append_assoc]

/-! ## Erasing a screen -/

theorem unsettled_erase (h : Sound d.topology) (x : ScreenId) :
    ∃ es, (d.erase x).events = d.events ++ es ∧ unsettled es = [] := by
  obtain ⟨es, hes, hquiet⟩ := (writes_stopMirrorsOf (P := Quiet) (fun _ => trivial)
    (fun _ _ => rfl) d x).events
  obtain ⟨fs, hfs, hdeparture⟩ := events_leave ((extends_stopMirrorsOf h x).1.sound h) x .destroyed
  -- mirrors stop quietly; the screen departs, and that it is gone closes its matter
  refine ⟨es ++ (fs ++ [.disconnected x]), ?_, ?_⟩
  · show ((d.stopMirrorsOf x).leave x .destroyed).events ++ [.disconnected x] = _
    rw [hfs, hes, List.append_assoc, List.append_assoc]
  · rw [unsettled_append (unsettled_of_each fun e he => settle_of_quiet (hquiet e he))]
    exact unsettled_departure hdeparture fun xs => rfl

end Draft

namespace Topology

open Draft

/-- The command was granted, and it makes the screen unique. -/
def Command.singles (t : Topology) (x : ScreenId) : Command → Prop
  | makeUnique ids turn => x ∈ ids ∧ (t.makeUnique ids turn).result.isOk
  | _ => False

/-- What the events of an operation say together is so. -/
structure Accounted (t : Topology) (c : Command) : Prop where
  /-- Every matter is closed. -/
  settled : unsettled (c.outcome t).events = []
  /-- A screen that joined a group is in one. -/
  joined : ∀ s g, .joinedGroup s g ∈ (c.outcome t).events →
    ((c.outcome t).topology.parent? s.id).isSome
  /-- The screens that became unique are those that the operation makes unique. -/
  single : ∀ x, (∃ s display, .becameUnique s display ∈ (c.outcome t).events ∧ s.id = x) ↔
    c.singles t x

variable {t : Topology} {c : Command}

theorem accounted_of_gathers (hc : ∀ x, ¬ c.singles t x)
    (h : (Draft.begin t).Gathers ⟨(c.outcome t).topology, (c.outcome t).events⟩) :
    Accounted t c := by
  obtain ⟨es, hes, htold⟩ := h.told
  have hes : (c.outcome t).events = es := hes
  exact {
    settled := by
      rw [hes]
      refine unsettled_of_each fun e he => ?_
      -- a quiet event opens nothing, and joining a group only closes
      obtain hquiet | ⟨s, g, rfl, -⟩ := htold e he
      · exact settle_of_quiet hquiet
      · rfl
    joined := by
      intro s g hmem
      rw [hes] at hmem
      obtain hquiet | ⟨s', g', heq, hp⟩ := htold _ hmem
      · cases composed?_of_quiet hquiet
      · cases heq
        exact hp
    single := by
      refine fun x => iff_of_false ?_ (hc x)
      rintro ⟨s, display, hmem, -⟩
      rw [hes] at hmem
      obtain hquiet | ⟨s', g', heq, -⟩ := htold _ hmem
      · cases composed?_of_quiet hquiet
      · cases heq }

theorem accounted_of_quiet (hc : ∀ x, ¬ c.singles t x)
    (h : ∀ e ∈ (c.outcome t).events, e.Quiet) : Accounted t c := by
  exact {
    settled := by
      exact unsettled_of_each fun e he => settle_of_quiet (h e he)
    joined := by
      intro s g hmem
      cases composed?_of_quiet (h _ hmem)
    single := by
      refine fun x => iff_of_false ?_ (hc x)
      rintro ⟨s, display, hmem, -⟩
      cases composed?_of_quiet (h _ hmem) }

/-- An operation that only writes quietly. -/
theorem accounted_of_writes (hc : ∀ x, ¬ c.singles t x)
    (h : Writes Quiet (.begin t) ⟨(c.outcome t).topology, (c.outcome t).events⟩) :
    Accounted t c := by
  obtain ⟨es, hes, hquiet⟩ := h.events
  have hes : (c.outcome t).events = es := hes
  exact accounted_of_quiet hc (hes ▸ hquiet)

/-- A refusal says nothing. -/
theorem accounted_of_silent (hc : ∀ x, ¬ c.singles t x) (h : (c.outcome t).events = []) :
    Accounted t c :=
  accounted_of_quiet hc fun e he => by
    rw [h] at he
    cases he

/-- A screen is connected and joins a group. -/
theorem accounted_of_arrival (hc : ∀ x, ¬ c.singles t x) {s s' : ScreenReport} {g : GroupReport}
    (hevents : (c.outcome t).events = [.connected s, .joinedGroup s' g]) (hid : s'.id = s.id)
    (hp : ((c.outcome t).topology.parent? s'.id).isSome) : Accounted t c := by
  exact {
    settled := by
      have hopen : ∀ x ∈ settle [] (.connected s), x = s.id := by
        intro x hx
        simp only [settle] at hx
        split at hx
        · exact List.mem_singleton.mp hx
        · cases hx
      rw [hevents]
      refine List.filter_eq_nil_iff.mpr fun x hx => ?_
      rw [hopen x hx, hid]
      simp
    joined := by
      intro s'' g' hmem
      rw [hevents] at hmem
      rcases List.mem_cons.mp hmem with he | he
      · cases he
      · cases List.mem_singleton.mp he
        exact hp
    single := by
      refine fun x => iff_of_false ?_ (hc x)
      rintro ⟨s'', display, hmem, -⟩
      rw [hevents] at hmem
      rcases List.mem_cons.mp hmem with he | he
      · cases he
      · cases List.mem_singleton.mp he }

/-! ## The operations -/

theorem accounted_connect (h : Sound t) (r : RenderId) (panel : PanelDescription)
    (hcount : (t.connect r panel).topology.screenIds.count ≤ 2 ^ 64) :
    Accounted t (.connect r panel) := by
  obtain ⟨e, hd⟩ | ⟨s, g, m, u, hd, -, hu, -⟩ := changes_connect h r panel hcount
  · exact accounted_of_silent (fun _ => id) (congrArg Outcome.events (congrArg Outcome.void hd))
  · have houtcome := congrArg Outcome.void hd
    refine accounted_of_arrival (fun _ => id) (congrArg Outcome.events houtcome) rfl ?_
    show ((t.connect r panel).void.topology.parent? s.id).isSome
    rw [houtcome]
    show (u.parent? s.id).isSome
    rw [parent?_of_screen? hu]
    rfl

theorem accounted_erase (h : Sound t) {x : ScreenId} (hc : ∀ y, ¬ c.singles t y)
    (hd : (c.outcome t).events = ((Draft.begin t).erase x).events) : Accounted t c := by
  obtain ⟨es, hes, hsettled⟩ := unsettled_erase (d := .begin t) h x
  obtain ⟨fs, hfs, hnone⟩ := (writes_erase (P := fun e => e.composed? = none)
    (fun _ => rfl) (fun _ _ => rfl) (fun _ _ => rfl) (fun _ => rfl) (.begin t) x).events
  have hes : ((Draft.begin t).erase x).events = es := hes
  have hfs : ((Draft.begin t).erase x).events = fs := hfs
  exact {
    settled := by
      rw [hd, hes]
      exact hsettled
    joined := by
      intro s g hmem
      rw [hd, hfs] at hmem
      cases hnone _ hmem
    single := by
      refine fun y => iff_of_false ?_ (hc y)
      rintro ⟨s, display, hmem, -⟩
      rw [hd, hfs] at hmem
      cases hnone _ hmem }

theorem accounted_makeUnique (h : Sound t) (ids : List ScreenId) (turn : UniqueRotation) :
    Accounted t (.makeUnique ids turn) := by
  obtain ⟨e, hd⟩ | ⟨hlive, hd⟩ := makeUnique_cases t ids turn
  · refine accounted_of_silent ?_ (congrArg Outcome.events (congrArg Outcome.void hd))
    rintro x ⟨-, hok⟩
    rw [hd] at hok
    cases hok
  · obtain ⟨es, displays, hok, hes, hsingled⟩ :=
      makeUniqueSteps_events turn (distinct ids) (d := .begin t) h hlive
    have hevents : ((Command.makeUnique ids turn).outcome t).events = es :=
      (congrArg Outcome.events (congrArg Outcome.void hd)).trans hes
    exact {
      settled := by
        rw [hevents]
        exact hsingled.settled
      joined := by
        intro s g hmem
        rw [hevents] at hmem
        exact absurd hmem (hsingled.unjoined s g)
      single := by
        intro x
        rw [hevents, hsingled.single, mem_distinct]
        refine ⟨fun hx => ⟨hx, ?_⟩, And.left⟩
        rw [hd, hok]
        rfl }

theorem accounted_stop (combination : Combination) (ids : List ScreenId)
    (hc : ∀ x, ¬ c.singles t x) (hd : c.outcome t = t.stop combination ids) : Accounted t c := by
  refine accounted_of_writes hc ?_
  rw [hd]
  exact writes_stop (fun _ => trivial) (fun _ _ => rfl) t combination ids

/-- **What the events of an operation say together is so**, for every operation on a sound
topology. -/
theorem accounted_outcome (h : Sound t) (c : Command)
    (hcount : (c.outcome t).topology.screenIds.count ≤ 2 ^ 64) : Accounted t c := by
  cases c with
  | connect r panel => exact accounted_connect h r panel hcount
  | disconnect r =>
    obtain ⟨e, hd⟩ | ⟨x, -, hd⟩ := disconnect_cases t r
    · exact accounted_of_silent (fun _ => id) (congrArg Outcome.events (congrArg Outcome.void hd))
    · exact accounted_erase h (fun _ => id) (congrArg Outcome.events (congrArg Outcome.void hd))
  | create request =>
    obtain ⟨e, hd⟩ | ⟨s, hs, -, hd⟩ := create_cases t request
    · exact accounted_of_silent (fun _ => id) (congrArg Outcome.events (congrArg Outcome.void hd))
    · have hevents : ((Command.create request).outcome t).events = [.connected s.report] :=
        congrArg Outcome.events (congrArg Outcome.void hd)
      refine accounted_of_quiet (fun _ => id) ?_
      rw [hevents, hs]
      intro e he
      rw [List.mem_singleton.mp he]
      exact ScreenKind.noConfusion
  | destroy x =>
    obtain ⟨e, hd⟩ | ⟨s, -, -, hd⟩ := destroy_cases t x
    · exact accounted_of_silent (fun _ => id) (congrArg Outcome.events hd)
    · exact accounted_erase h (fun _ => id) (congrArg Outcome.events hd)
  | setSurface x surface =>
    obtain ⟨e, hd⟩ | hd := setSurface_cases t x surface
    · exact accounted_of_silent (fun _ => id) (congrArg Outcome.events hd)
    · exact accounted_of_silent (fun _ => id) (congrArg Outcome.events hd)
  | mirror main ids =>
    exact accounted_of_gathers (fun _ => id) (arranges_mirror h main ids hcount).gathers
  | expand ids starts =>
    exact accounted_of_gathers (fun _ => id) (arranges_expand h ids starts hcount).gathers
  | makeUnique ids turn => exact accounted_makeUnique h ids turn
  | stopMirror ids => exact accounted_stop .mirror ids (fun _ => id) rfl
  | stopExpand ids => exact accounted_stop .expand ids (fun _ => id) rfl
  | ungroup ids =>
    exact accounted_of_writes (fun _ => id)
      (Writes.foldl (writes_ungroupStep (fun _ => trivial) (fun _ _ => rfl)) ids _)
  | rotate x rotation =>
    obtain ⟨e, hd⟩ | hd | ⟨s, -, -, hd⟩ := rotate_cases t x rotation
    · exact accounted_of_silent (fun _ => id) (congrArg Outcome.events hd)
    · exact accounted_of_silent (fun _ => id) (congrArg Outcome.events hd)
    · refine accounted_of_quiet (fun _ => id) ?_
      rw [show ((Command.rotate x rotation).outcome t).events = _ from congrArg Outcome.events hd]
      intro e he
      rw [List.mem_singleton.mp he]
      trivial
  | setMode x index =>
    obtain ⟨e, hd⟩ | hd | ⟨s, -, -, -, hd⟩ := setMode_cases t x index
    · exact accounted_of_silent (fun _ => id) (congrArg Outcome.events hd)
    · exact accounted_of_silent (fun _ => id) (congrArg Outcome.events hd)
    · refine accounted_of_quiet (fun _ => id) ?_
      rw [show ((Command.setMode x index).outcome t).events = _ from congrArg Outcome.events hd]
      intro e he
      rw [List.mem_singleton.mp he]
      trivial
  | setPower x power => exact accounted_of_silent (fun _ => id) rfl
  | setPanelPower power => exact accounted_of_silent (fun _ => id) rfl

end Topology

end DisplayServer
