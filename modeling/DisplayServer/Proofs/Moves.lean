import DisplayServer.Proofs.Sound

/-!
# The moves that operations are made of

A screen leaves its group, a screen joins one, a screen opens one: on a sound topology each of
these steps of a draft is one change, reported where it happens. `Draft.Extends d d'` says that
`d'` carries on from `d` by changes and by nothing else, with the reports of these changes added
at the end. Beside that each move gets the answers of the look-ups after it, which is all that a
loop over several screens needs to know of the rounds before.

A group that is opened for a screen is empty until the screen has left its old group. That it
was opened first makes no difference (`leave_openGroup`), so an empty group is never a state of
its own here.
-/

namespace DisplayServer

namespace Draft

open DisplayServer.Topology

/-- The second draft carries on from the first by changes and their reports. -/
def Extends (d d' : Draft) : Prop :=
  ∃ es, d'.events = d.events ++ es ∧ Changes d.topology es d'.topology

variable {d d' d'' : Draft}

theorem Extends.refl (d : Draft) : Extends d d := ⟨[], (List.append_nil _).symm, .refl _⟩

theorem Extends.trans (h : Extends d d') (h' : Extends d' d'') : Extends d d'' := by
  obtain ⟨es, hes, hc⟩ := h
  obtain ⟨fs, hfs, hc'⟩ := h'
  refine ⟨es ++ fs, ?_, hc.trans hc'⟩
  rw [hfs, hes, List.append_assoc]

theorem Extends.of_change {t u : Topology} {es : List TopologyEvent} (h : Change t es u)
    (events : List TopologyEvent) : Extends ⟨t, events⟩ ⟨u, events ++ es⟩ :=
  ⟨es, rfl, h.changes⟩

theorem Extends.sound (h : Extends d d') (hs : Sound d.topology) : Sound d'.topology := by
  obtain ⟨es, -, hc⟩ := h
  exact sound_changes hc hs

/-! ## Leaving a group -/

/-- A screen is unlinked from the live group that lists it. -/
theorem detach_eq {s : Screen} {g : ScreenGroup} (hs : d.topology.screen? s.id = some s)
    (hp : s.parent = some g.id) (hg : d.topology.group? g.id = some g)
    (hmem : s.id ∈ g.composition.children) (reason : LeaveReason) :
    d.detach s.id reason =
      (⟨d.topology.unlink s g,
        d.events ++ [.leftGroup (s.within none).report (g.without s.id).membership reason]⟩,
        some g.id) := by
  have hne := screen_ne_group hs (screen?_eq_none_of_group? hg)
  have hparent : d.topology.parent? s.id = some g.id := by
    rw [parent?_of_screen? hs, hp]
  -- the two updates, and what is read back for the report
  have hput : d.topology.modifyScreen s.id (fun s => { s with parent := none }) =
      d.topology.putScreen (s.within none) :=
    modifyScreen_eq hs rfl
  have hgroup : (d.topology.putScreen (s.within none)).group? g.id = some g := by
    rw [group?_putScreen, Screen.within_id, if_neg (Ne.symm hne)]
    exact hg
  have hlink : (d.topology.putScreen (s.within none)).modifyGroup g.id (fun c => c.remove s.id) =
      d.topology.unlink s g :=
    modifyGroup_eq hgroup rfl
  have hscreen : (d.topology.unlink s g).screen? s.id = some (s.within none) := by
    rw [screen?_unlink hs hg, if_pos rfl]
  have hgroup' : (d.topology.unlink s g).group? g.id = some (g.without s.id) := by
    rw [group?_unlink hs, if_pos rfl]
  have hcontains := (g.composition.contains_iff s.id).mpr hmem
  simp only [detach, hparent, edit, hput, hgroup, hcontains, if_true, hlink,
    report?_of_screen? hscreen, membership?_of_group? hgroup', emit]

/-- Leaving is unlinking while others stay in the group. -/
theorem leave_eq_of_stay {s : Screen} {g : ScreenGroup} (hs : d.topology.screen? s.id = some s)
    (hp : s.parent = some g.id) (hg : d.topology.group? g.id = some g)
    (hmem : s.id ∈ g.composition.children)
    (hstay : (g.without s.id).composition.children ≠ []) (reason : LeaveReason) :
    d.leave s.id reason = (d.detach s.id reason).1 := by
  have hgroup : (d.topology.unlink s g).group? g.id = some (g.without s.id) := by
    rw [group?_unlink hs, if_pos rfl]
  unfold leave
  rw [detach_eq hs hp hg hmem]
  simp only [dissolveIfEmpty, hgroup]
  rw [if_neg]
  rw [Composition.isEmpty_iff]
  exact hstay

/-- The group dissolves when its last child leaves. -/
theorem leave_eq_of_last {s : Screen} {g : ScreenGroup} (hs : d.topology.screen? s.id = some s)
    (hp : s.parent = some g.id) (hg : d.topology.group? g.id = some g)
    (hmem : s.id ∈ g.composition.children)
    (hlast : (g.without s.id).composition.children = []) (reason : LeaveReason) :
    d.leave s.id reason =
      ⟨(d.topology.unlink s g).dropGroup g.id,
        d.events ++ [.leftGroup (s.within none).report (g.without s.id).membership reason,
          .groupDissolved g.id]⟩ := by
  have hgroup : (d.topology.unlink s g).group? g.id = some (g.without s.id) := by
    rw [group?_unlink hs, if_pos rfl]
  unfold leave
  rw [detach_eq hs hp hg hmem]
  simp only [dissolveIfEmpty, hgroup]
  rw [if_pos ((Composition.isEmpty_iff _).mpr hlast)]
  simp only [edit, emit, dropGroup, List.append_assoc, List.cons_append, List.nil_append]

/-- A screen that leaves is in no group, in a group where others stay, or the last in its
group. -/
theorem leave_cases (h : Sound d.topology) (x : ScreenId) (reason : LeaveReason) :
    (d.topology.parent? x = none ∧ d.leave x reason = d) ∨
      ∃ s g, s.id = x ∧ d.topology.screen? s.id = some s ∧ s.parent = some g.id ∧
        d.topology.group? g.id = some g ∧
        (((g.without s.id).composition.children ≠ [] ∧
          d.leave x reason =
            ⟨d.topology.unlink s g,
            d.events ++ [.leftGroup (s.within none).report (g.without s.id).membership reason]⟩) ∨
        ((g.without s.id).composition.children = [] ∧
          d.leave x reason =
            ⟨(d.topology.unlink s g).dropGroup g.id,
            d.events ++ [.leftGroup (s.within none).report (g.without s.id).membership reason,
              .groupDissolved g.id]⟩)) := by
  cases hparent : d.topology.parent? x with
  | none => exact .inl ⟨rfl, by simp only [leave, detach, hparent]⟩
  | some p =>
    obtain ⟨s, hs, hp⟩ := parent?_eq_some_iff.mp hparent
    obtain ⟨g, hg, hmem⟩ := h.listed x s p hs hp
    obtain rfl := h.screen_id x s hs
    obtain rfl := h.group_id p g hg
    refine .inr ⟨s, g, rfl, hs, hp, hg, ?_⟩
    by_cases hlast : (g.without s.id).composition.children = []
    · exact .inr ⟨hlast, leave_eq_of_last hs hp hg hmem hlast reason⟩
    · refine .inl ⟨hlast, ?_⟩
      rw [leave_eq_of_stay hs hp hg hmem hlast, detach_eq hs hp hg hmem]

theorem extends_leave (h : Sound d.topology) (x : ScreenId) (reason : LeaveReason) :
    Extends d (d.leave x reason) := by
  obtain ⟨-, hd⟩ | ⟨s, g, -, hs, hp, hg, ⟨hstay, hd⟩ | ⟨hlast, hd⟩⟩ := leave_cases h x reason
  · rw [hd]
    exact Extends.refl d
  · rw [hd]
    exact Extends.of_change (Change.leave d.topology s g reason hs hp hg hstay) d.events
  · rw [hd]
    exact Extends.of_change (Change.leaveLast d.topology s g reason hs hp hg hlast) d.events

/-! ### What is found after leaving -/

/-- Only the screen itself is found changed: it names no group. -/
theorem screen?_leave (h : Sound d.topology) (x y : ScreenId) (reason : LeaveReason) :
    (d.leave x reason).topology.screen? y =
      if y = x then (d.topology.screen? x).map fun s => s.within none
      else d.topology.screen? y := by
  obtain ⟨hp, hd⟩ | ⟨s, g, rfl, hs, hp, hg, hd⟩ := leave_cases h x reason
  · rw [hd]
    split
    · rename_i hy
      rw [hy]
      -- a screen in no group is found as it was, if it is found at all
      cases hs : d.topology.screen? x with
      | none => rfl
      | some s =>
        rw [parent?_of_screen? hs] at hp
        rw [Option.map_some, Screen.within_self hp]
    · rfl
  · rw [hs]
    obtain ⟨-, hd⟩ | ⟨-, hd⟩ := hd
    · rw [hd]
      exact screen?_unlink hs hg y
    · rw [hd]
      exact screen?_unlink_dropGroup hs hg y

theorem parent?_leave (h : Sound d.topology) (x y : ScreenId) (reason : LeaveReason) :
    (d.leave x reason).topology.parent? y = if y = x then none else d.topology.parent? y := by
  unfold parent?
  rw [screen?_leave h]
  split
  · cases d.topology.screen? x <;> rfl
  · rfl

/-- Groups other than the one that was left are found unchanged. -/
theorem group?_leave_of_ne (h : Sound d.topology) {x g : ScreenId} (reason : LeaveReason)
    (hne : d.topology.parent? x ≠ some g) :
    (d.leave x reason).topology.group? g = d.topology.group? g := by
  obtain ⟨-, hd⟩ | ⟨s, grp, rfl, hs, hp, hg, hd⟩ := leave_cases h x reason
  · rw [hd]
  · have hgne : g ≠ grp.id := by
      intro he
      rw [parent?_of_screen? hs, hp, he] at hne
      exact hne rfl
    obtain ⟨-, hd⟩ | ⟨-, hd⟩ := hd
    · rw [hd]
      exact (group?_unlink hs g).trans (if_neg hgne)
    · rw [hd]
      exact (group?_unlink_dropGroup hs grp g).trans (if_neg hgne)

/-- A group that is still found composes what it did, and has the main screen it had. -/
theorem group?_leave_kept (h : Sound d.topology) {x g : ScreenId} {reason : LeaveReason}
    {grp : ScreenGroup} (hg : (d.leave x reason).topology.group? g = some grp) :
    ∃ old, d.topology.group? g = some old ∧
      grp.composition.combination = old.composition.combination ∧
      grp.composition.main = old.composition.main := by
  -- only the group that was left is rewritten, and that only if others stay
  by_cases hne : d.topology.parent? x = some g
  · obtain ⟨hp, -⟩ | ⟨s, old, rfl, hs, hp, hold, hd⟩ := leave_cases h x reason
    · rw [hp] at hne
      cases hne
    · rw [parent?_of_screen? hs, hp] at hne
      obtain rfl := Option.some.inj hne
      obtain ⟨-, hd⟩ | ⟨-, hd⟩ := hd
      · rw [hd, group?_unlink hs, if_pos rfl] at hg
        rw [← Option.some.inj hg]
        exact ⟨old, hold, rfl, rfl⟩
      · rw [hd, group?_unlink_dropGroup hs, if_pos rfl] at hg
        cases hg
  · rw [group?_leave_of_ne h reason hne] at hg
    exact ⟨grp, hg, rfl, rfl⟩

/-! ## Joining a group -/

/-- A live screen is linked to a live group. -/
theorem attach_eq {s : Screen} {g : ScreenGroup} (hs : d.topology.screen? s.id = some s)
    (hg : d.topology.group? g.id = some g) (start : Point) :
    d.attach s.id g.id start =
      ⟨d.topology.join s g start,
        d.events ++
          [.joinedGroup (s.within (some g.id)).report (g.placing s.id start).membership]⟩ := by
  have hfree := screen?_eq_none_of_group? hg
  have hne := screen_ne_group hs hfree
  have hplace : d.topology.modifyGroup g.id (fun c => c.place s.id start) =
      d.topology.putGroup (g.placing s.id start) :=
    modifyGroup_eq hg rfl
  have hscreen : (d.topology.putGroup (g.placing s.id start)).screen? s.id = some s := by
    rw [screen?_putGroup, ScreenGroup.placing_id, if_neg hne]
    exact hs
  -- here the group is written first, in `join` the screen; they stand under two numbers
  have hname : (d.topology.putGroup (g.placing s.id start)).modifyScreen s.id
      (fun s => { s with parent := some g.id }) = d.topology.join s g start := by
    refine (modifyScreen_eq hscreen rfl).trans ?_
    exact congrArg (fun nodes => ({ d.topology with nodes } : Topology))
      (Table.insert_comm d.topology.nodes (Ne.symm hne) (.group (g.placing s.id start))
        (.leaf (s.within (some g.id))))
  have hscreen' : (d.topology.join s g start).screen? s.id = some (s.within (some g.id)) := by
    rw [screen?_join hs hfree, if_pos rfl]
  have hgroup' : (d.topology.join s g start).group? g.id = some (g.placing s.id start) := by
    rw [group?_join hs, if_pos rfl]
  simp only [attach, hg, edit, hplace, hname, report?_of_screen? hscreen',
    membership?_of_group? hgroup', emit]

/-- A screen leaves its group and joins another. -/
def move (d : Draft) (x g : ScreenId) (start : Point) : Draft :=
  (d.leave x .detached).attach x g start

section Moving

variable (h : Sound d.topology) {x g : ScreenId} {s : Screen} {grp : ScreenGroup}
  (hs : d.topology.screen? x = some s) (hg : d.topology.group? g = some grp)
  (hne : d.topology.parent? x ≠ some g) (start : Point)

include h hs hg hne

/-- Moving to a live group is leaving and then joining it as it is. -/
theorem move_eq :
    (d.leave x .detached).topology.screen? (s.within none).id = some (s.within none) ∧
      (d.leave x .detached).topology.group? grp.id = some grp ∧
      d.move x g start =
        ⟨(d.leave x .detached).topology.join (s.within none) grp start,
          (d.leave x .detached).events ++ [.joinedGroup (s.within (some grp.id)).report
            (grp.placing s.id start).membership]⟩ := by
  obtain rfl := h.screen_id x s hs
  obtain rfl := h.group_id g grp hg
  have hs' : (d.leave s.id .detached).topology.screen? (s.within none).id =
      some (s.within none) := by
    rw [Screen.within_id, screen?_leave h, if_pos rfl, hs]
    rfl
  have hg' : (d.leave s.id .detached).topology.group? grp.id = some grp := by
    rw [group?_leave_of_ne h .detached hne]
    exact hg
  exact ⟨hs', hg', attach_eq hs' hg' start⟩

theorem extends_move : Extends d (d.move x g start) := by
  obtain ⟨hs', hg', hd⟩ := move_eq h hs hg hne start
  rw [hd]
  -- two changes: the screen leaves, and then it joins
  exact (extends_leave h x .detached).trans (Extends.of_change
    (Change.join _ (s.within none) grp start hs' rfl hg') _)

/-- Only the screen itself is found changed: it names the group that it moved to. -/
theorem screen?_move (y : ScreenId) :
    (d.move x g start).topology.screen? y =
      if y = x then some (s.within (some g)) else d.topology.screen? y := by
  obtain ⟨hs', hg', hd⟩ := move_eq h hs hg hne start
  rw [hd, screen?_join hs' (screen?_eq_none_of_group? hg'), Screen.within_id,
    h.screen_id x s hs, h.group_id g grp hg]
  split
  · rfl
  · rename_i hy
    rw [screen?_leave h, if_neg hy]

theorem group?_move_self :
    (d.move x g start).topology.group? g = some (grp.placing x start) := by
  obtain ⟨hs', hg', hd⟩ := move_eq h hs hg hne start
  rw [hd, group?_join hs', Screen.within_id, h.screen_id x s hs, h.group_id g grp hg, if_pos rfl]

end Moving

/-! ## Opening a group -/

/-- Opening a group and unlinking a screen from another may be exchanged. -/
theorem unlink_openGroup {t : Topology} {s : Screen} {g : ScreenGroup}
    (hs : t.nextScreenId ≠ s.id) (hg : t.nextScreenId ≠ g.id) (combination : Combination)
    (main : Option ScreenId) :
    (t.openGroup combination main).unlink s g = (t.unlink s g).openGroup combination main := by
  have hnodes : ((t.openGroup combination main).unlink s g).nodes =
      ((t.unlink s g).openGroup combination main).nodes := by
    show ((t.nodes.insert t.nextScreenId _).insert s.id _).insert g.id _ =
      ((t.nodes.insert s.id _).insert g.id _).insert t.nextScreenId _
    rw [Table.insert_comm t.nodes hs, Table.insert_comm _ hg]
    rfl
  exact congrArg (fun nodes => { t.drawScreenId with nodes }) hnodes

/-- Opening a group and dropping another may be exchanged. -/
theorem dropGroup_openGroup {t : Topology} {g : ScreenId} (hg : t.nextScreenId ≠ g)
    (combination : Combination) (main : Option ScreenId) :
    (t.openGroup combination main).dropGroup g =
      (t.dropGroup g).openGroup combination main := by
  have hnodes : ((t.openGroup combination main).dropGroup g).nodes =
      ((t.dropGroup g).openGroup combination main).nodes :=
    Table.erase_insert_comm t.nodes hg _
  exact congrArg (fun nodes => { (t.dropGroup g).drawScreenId with nodes }) hnodes

/-- That a group was opened before makes no difference to a screen that leaves another. -/
theorem leave_openGroup (h : Sound d.topology) (hcount : d.topology.screenIds.count < 2 ^ 64)
    (combination : Combination) (main : Option ScreenId) (x : ScreenId) (reason : LeaveReason) :
    (d.edit fun t => t.openGroup combination main).leave x reason =
      (d.leave x reason).edit fun t => t.openGroup combination main := by
  obtain ⟨hfree, hfree'⟩ := get?_eq_none_iff.mp (h.free hcount)
  obtain ⟨hp, hd⟩ | ⟨s, g, rfl, hs, hp, hg, hd⟩ := leave_cases h x reason
  · rw [hd]
    have hparent : (d.topology.openGroup combination main).parent? x = none := by
      unfold parent?
      rw [screen?_openGroup]
      split
      · rfl
      · exact hp
    simp only [leave, detach, edit, hparent]
  · -- the new number is neither the screen's nor its group's, so the writes may be exchanged
    have hns : d.topology.nextScreenId ≠ s.id := Ne.symm (screen_ne_group hs hfree)
    have hng : d.topology.nextScreenId ≠ g.id := by
      intro he
      rw [he, hg] at hfree'
      cases hfree'
    have hs' : (d.edit fun t => t.openGroup combination main).topology.screen? s.id = some s := by
      show (d.topology.openGroup combination main).screen? s.id = some s
      rw [screen?_openGroup, if_neg (Ne.symm hns)]
      exact hs
    have hg' : (d.edit fun t => t.openGroup combination main).topology.group? g.id = some g := by
      show (d.topology.openGroup combination main).group? g.id = some g
      rw [group?_openGroup, if_neg (Ne.symm hng)]
      exact hg
    have hmem : s.id ∈ g.composition.children := by
      rw [← h.parent?_eq_some_iff hg, parent?_of_screen? hs, hp]
    obtain ⟨hstay, hd⟩ | ⟨hlast, hd⟩ := hd
    · rw [leave_eq_of_stay hs' hp hg' hmem hstay, detach_eq hs' hp hg' hmem, hd]
      simp only [edit, unlink_openGroup hns hng]
    · rw [leave_eq_of_last hs' hp hg' hmem hlast, hd]
      simp only [edit, unlink_openGroup hns hng]
      rw [dropGroup_openGroup]
      exact hng

theorem screenIds_leave (h : Sound d.topology) (x : ScreenId) (reason : LeaveReason) :
    (d.leave x reason).topology.screenIds = d.topology.screenIds := by
  obtain ⟨-, hd⟩ | ⟨s, g, -, -, -, -, ⟨-, hd⟩ | ⟨-, hd⟩⟩ := leave_cases h x reason
  · rw [hd]
  · rw [hd]
    rfl
  · rw [hd]
    rfl

/-- A screen in no group joins the group that was opened for it. -/
theorem attach_opened_eq {s : Screen} (hs : d.topology.screen? s.id = some s)
    (hfree : d.topology.screen? d.topology.nextScreenId = none) (combination : Combination)
    (main : ScreenId) (home : Option ScreenId) (start : Point) :
    (d.edit fun t => (t.openGroup combination (some main)).setHome home).attach s.id
        d.topology.nextScreenId start =
      ⟨(d.topology.drawScreenId.join s
          (emptyGroup d.topology.nextScreenId combination (some main)) start).setHome home,
        d.events ++ [.joinedGroup (s.within (some d.topology.nextScreenId)).report
          ((emptyGroup d.topology.nextScreenId combination (some main)).placing s.id
            start).membership]⟩ := by
  have hne := screen_ne_group hs hfree
  have hs' : (d.edit fun t =>
      (t.openGroup combination (some main)).setHome home).topology.screen? s.id = some s := by
    show (d.topology.openGroup combination (some main)).screen? s.id = some s
    rw [screen?_openGroup, if_neg hne]
    exact hs
  have hg' : (d.edit fun t =>
      (t.openGroup combination (some main)).setHome home).topology.group?
        d.topology.nextScreenId =
      some (emptyGroup d.topology.nextScreenId combination (some main)) := by
    show (d.topology.openGroup combination (some main)).group? d.topology.nextScreenId = _
    rw [group?_openGroup, if_pos rfl]
    rfl
  refine (attach_eq (g := emptyGroup d.topology.nextScreenId combination (some main)) hs' hg'
    start).trans ?_
  -- the group is written twice, and the later write stands
  have hnodes : ((d.topology.nodes.insert d.topology.nextScreenId
        (.group (emptyGroup d.topology.nextScreenId combination (some main)))).insert s.id
          (.leaf (s.within (some d.topology.nextScreenId)))).insert d.topology.nextScreenId
            (.group ((emptyGroup d.topology.nextScreenId combination (some main)).placing s.id
              start)) =
      (d.topology.nodes.insert s.id (.leaf (s.within (some d.topology.nextScreenId)))).insert
        d.topology.nextScreenId
          (.group ((emptyGroup d.topology.nextScreenId combination (some main)).placing s.id
            start)) := by
    rw [Table.insert_comm d.topology.nodes (Ne.symm hne), Table.insert_insert]
  exact congrArg (fun nodes => (⟨{ d.topology.drawScreenId.setHome home with nodes }, _⟩ : Draft))
    hnodes

theorem extends_attach_opened {s : Screen} (hs : d.topology.screen? s.id = some s)
    (hp : s.parent = none) (hfree : d.topology.nodes.get? d.topology.nextScreenId = none)
    {combination : Combination} {main : ScreenId} {home : Option ScreenId}
    (hhome : (combination ≠ .alone ∧ home = d.topology.defaultGroup) ∨
      (combination = .alone ∧ d.topology.defaultGroup = none ∧ main = s.id ∧
        home = some d.topology.nextScreenId))
    (start : Point) :
    Extends d ((d.edit fun t => (t.openGroup combination (some main)).setHome home).attach s.id
      d.topology.nextScreenId start) := by
  rw [attach_opened_eq hs (get?_eq_none_iff.mp hfree).1]
  exact Extends.of_change
    (Change.found d.topology s combination main start home hs hp hfree hhome) d.events

section Opening

variable (h : Sound d.topology) (hcount : d.topology.screenIds.count < 2 ^ 64) {x : ScreenId}
  {s : Screen} (hs : d.topology.screen? x = some s) (combination : Combination)
  (main : ScreenId) (start : Point)

include h hcount hs

/-- Moving to a group opened for it is leaving, and then opening the group. -/
theorem move_opened_eq :
    (d.leave x .detached).topology.screen? (s.within none).id = some (s.within none) ∧
      (d.leave x .detached).topology.nodes.get?
        (d.leave x .detached).topology.nextScreenId = none ∧
      (d.leave x .detached).topology.nextScreenId = d.topology.nextScreenId ∧
      (d.edit fun t => t.openGroup combination (some main)).move x d.topology.nextScreenId start =
        ((d.leave x .detached).edit fun t =>
          (t.openGroup combination (some main)).setHome
            (d.leave x .detached).topology.defaultGroup).attach (s.within none).id
          (d.leave x .detached).topology.nextScreenId start := by
  obtain rfl := h.screen_id x s hs
  have hids := screenIds_leave h s.id .detached
  -- leaving draws no number, so the group gets the number it had been opened under
  have hnext : (d.leave s.id .detached).topology.nextScreenId = d.topology.nextScreenId := by
    rw [nextScreenId, hids]
    rfl
  refine ⟨?_, ?_, hnext, ?_⟩
  · rw [Screen.within_id, screen?_leave h, if_pos rfl, hs]
    rfl
  · refine ((extends_leave h s.id .detached).sound h).free ?_
    rw [hids]
    exact hcount
  · rw [hnext, move, leave_openGroup h hcount]
    rfl

theorem extends_move_opened (hcombination : combination ≠ .alone) :
    Extends d ((d.edit fun t => t.openGroup combination (some main)).move x
      d.topology.nextScreenId start) := by
  obtain ⟨hs', hfree, -, hd⟩ :=
    move_opened_eq h hcount hs combination main start
  rw [hd]
  exact (extends_leave h x .detached).trans
    (extends_attach_opened hs' rfl hfree (.inl ⟨hcombination, rfl⟩) start)

/-- Only the screen itself is found changed: it names the group that was opened. -/
theorem screen?_move_opened (y : ScreenId) :
    ((d.edit fun t => t.openGroup combination (some main)).move x d.topology.nextScreenId
        start).topology.screen? y =
      if y = x then some (s.within (some d.topology.nextScreenId)) else d.topology.screen? y := by
  obtain ⟨hs', hfree, hnext, hd⟩ :=
    move_opened_eq h hcount hs combination main start
  have hfree' := (get?_eq_none_iff.mp hfree).1
  have hjoin := screen?_join (t := (d.leave x .detached).topology.drawScreenId)
    (g := emptyGroup (d.leave x .detached).topology.nextScreenId combination (some main))
    hs' hfree' start y
  rw [hd, attach_opened_eq hs' hfree', screen?_setHome, hjoin, Screen.within_id,
    h.screen_id x s hs]
  split
  · rw [← hnext]
    rfl
  · rename_i hy
    show (d.leave x .detached).topology.screen? y = d.topology.screen? y
    rw [screen?_leave h, if_neg hy]

theorem group?_move_opened_self :
    ((d.edit fun t => t.openGroup combination (some main)).move x d.topology.nextScreenId
        start).topology.group? d.topology.nextScreenId =
      some ((emptyGroup d.topology.nextScreenId combination (some main)).placing x start) := by
  obtain ⟨hs', hfree, hnext, hd⟩ :=
    move_opened_eq h hcount hs combination main start
  have hs'' : (d.leave x .detached).topology.drawScreenId.screen? (s.within none).id =
      some (s.within none) := hs'
  rw [hd, attach_opened_eq hs' (get?_eq_none_iff.mp hfree).1, group?_setHome, group?_join hs'',
    hnext, if_pos, Screen.within_id, h.screen_id x s hs]
  rfl

end Opening

end Draft

end DisplayServer
