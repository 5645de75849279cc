import DisplayServer.Proofs.Lookup
import DisplayServer.Topology.Operations

/-!
# Single changes of the topology

An operation edits the topology in many small writes, but what it does can be cut into a few
kinds of change, each of which leaves screens and groups in order and reports itself completely.
`Change t es u` says that `u` is `t` after one of them, with the reports `es`. Every constructor
names all that the change needs and all that it writes, so a law about runs is proved once for
each kind of change.

`Sound` is what every change preserves: screens and groups stand under their own numbers, a
screen names the group that lists it and no other, no group is empty, the group that panels join
is live, and the index of the render engine leads to live screens.
-/

namespace DisplayServer

namespace Composition

@[simp] theorem combination_place (c : Composition) (x : ScreenId) (start : Point) :
    (c.place x start).combination = c.combination := by
  unfold place
  split <;> rfl

@[simp] theorem main_place (c : Composition) (x : ScreenId) (start : Point) :
    (c.place x start).main = c.main := by
  unfold place
  split <;> rfl

theorem isEmpty_iff (c : Composition) : c.isEmpty ↔ c.children = [] := by
  simp [isEmpty, children]

theorem mem_children_place (c : Composition) (x y : ScreenId) (start : Point) :
    y ∈ (c.place x start).children ↔ y ∈ c.children ∨ y = x := by
  rw [children_place]
  split
  · rename_i h
    exact ⟨Or.inl, fun hy => hy.elim id fun he => he ▸ h⟩
  · simp

theorem mem_children_remove (c : Composition) (x y : ScreenId) :
    y ∈ (c.remove x).children ↔ y ∈ c.children ∧ y ≠ x := by
  rw [children_remove]
  simp

theorem nodup_children_place {c : Composition} (h : c.children.Nodup) (x : ScreenId)
    (start : Point) : (c.place x start).children.Nodup := by
  rw [children_place]
  split
  · exact h
  · rename_i hx
    rw [List.nodup_append]
    refine ⟨h, by simp, ?_⟩
    intro a ha b hb he
    rw [List.mem_singleton.mp hb] at he
    exact hx (he ▸ ha)

theorem nodup_children_remove {c : Composition} (h : c.children.Nodup) (x : ScreenId) :
    (c.remove x).children.Nodup := by
  rw [children_remove]
  exact h.filter _

theorem children_place_ne_nil (c : Composition) (x : ScreenId) (start : Point) :
    (c.place x start).children ≠ [] :=
  List.ne_nil_of_mem ((c.mem_children_place x x start).mpr (Or.inr rfl))

end Composition

/-- The screen after its rotation was locked or left alone. -/
def UniqueRotation.apply (turn : UniqueRotation) (s : Screen) : Screen :=
  if turn.locked then { s with rotation := turn.rotation } else s

namespace UniqueRotation

variable (turn : UniqueRotation) (s : Screen)

@[simp] theorem apply_id : (turn.apply s).id = s.id := by
  unfold apply
  split <;> rfl

@[simp] theorem apply_parent : (turn.apply s).parent = s.parent := by
  unfold apply
  split <;> rfl

@[simp] theorem apply_renderId : (turn.apply s).renderId = s.renderId := by
  unfold apply
  split <;> rfl

@[simp] theorem apply_isVirtual : (turn.apply s).isVirtual = s.isVirtual := by
  unfold apply
  split <;> rfl

end UniqueRotation

namespace Topology

theorem isMirrorOf_iff {x : ScreenId} {g : ScreenGroup} :
    isMirrorOf x g = true ↔ g.composition.combination = .mirror ∧ g.composition.main = some x := by
  simp only [isMirrorOf, Bool.and_eq_true, beq_iff_eq]

/-- What a group mirrors is a matter of its combination and its main screen. -/
theorem isMirrorOf_congr {g g' : ScreenGroup}
    (hcombination : g'.composition.combination = g.composition.combination)
    (hmain : g'.composition.main = g.composition.main) (x : ScreenId) :
    isMirrorOf x g' = isMirrorOf x g := by
  rw [isMirrorOf, hcombination, hmain]
  rfl

/-- A group nobody has joined. -/
def emptyGroup (g : ScreenId) (combination : Combination) (main : Option ScreenId) :
    ScreenGroup :=
  ⟨g, .fresh combination main⟩

/-- One change of the topology and what it reports. -/
inductive Change : Topology → List TopologyEvent → Topology → Prop
  /-- A panel appears, in no group. -/
  | plug (t : Topology) (renderId : RenderId) (panel : PanelDescription) (s : Screen)
      (hs : s = Screen.ofPanel t.nextScreenId renderId panel) (hfault : panelFault? panel = none)
      (hfree : t.nodes.get? t.nextScreenId = none) (hnew : t.renderIndex.get? renderId = none) :
      Change t [.connected s.report] (t.plugIn s)
  /-- A software screen appears, in no group. -/
  | create (t : Topology) (request : VirtualScreenRequest) (s : Screen)
      (hs : s = Screen.ofRequest t.nextScreenId ⟨t.virtualRenderIds.peek⟩ request)
      (hfault : requestFault? request = none) (hfree : t.nodes.get? t.nextScreenId = none) :
      Change t [.connected s.report] (t.addSoftware s)
  /-- A screen in no group opens one as its first child. -/
  | found (t : Topology) (s : Screen) (combination : Combination) (main : ScreenId)
      (start : Point) (home : Option ScreenId) (hs : t.screen? s.id = some s)
      (hparent : s.parent = none) (hfree : t.nodes.get? t.nextScreenId = none)
      (hhome : (combination ≠ .alone ∧ home = t.defaultGroup) ∨
        (combination = .alone ∧ t.defaultGroup = none ∧ main = s.id ∧
          home = some t.nextScreenId)) :
      Change t
        [.joinedGroup (s.within (some t.nextScreenId)).report
          ((emptyGroup t.nextScreenId combination (some main)).placing s.id start).membership]
        ((t.drawScreenId.join s (emptyGroup t.nextScreenId combination (some main)) start).setHome
          home)
  /-- A screen in no group joins a live one. -/
  | join (t : Topology) (s : Screen) (g : ScreenGroup) (start : Point)
      (hs : t.screen? s.id = some s) (hparent : s.parent = none)
      (hg : t.group? g.id = some g) :
      Change t
        [.joinedGroup (s.within (some g.id)).report (g.placing s.id start).membership]
        (t.join s g start)
  /-- A screen leaves a group in which others stay. -/
  | leave (t : Topology) (s : Screen) (g : ScreenGroup) (reason : LeaveReason)
      (hs : t.screen? s.id = some s) (hparent : s.parent = some g.id)
      (hg : t.group? g.id = some g) (hstay : (g.without s.id).composition.children ≠ []) :
      Change t
        [.leftGroup (s.within none).report (g.without s.id).membership reason]
        (t.unlink s g)
  /-- The last child of a group leaves, and the group dissolves. -/
  | leaveLast (t : Topology) (s : Screen) (g : ScreenGroup) (reason : LeaveReason)
      (hs : t.screen? s.id = some s) (hparent : s.parent = some g.id)
      (hg : t.group? g.id = some g) (hlast : (g.without s.id).composition.children = []) :
      Change t
        [.leftGroup (s.within none).report (g.without s.id).membership reason,
          .groupDissolved g.id]
        ((t.unlink s g).dropGroup g.id)
  /-- A child of a group gets another start point, without a report. -/
  | place (t : Topology) (x : ScreenId) (g : ScreenGroup) (start : Point)
      (hg : t.group? g.id = some g) (hx : x ∈ g.composition.children) :
      Change t [] (t.putGroup (g.placing x start))
  /-- A screen in no group gets a display number of its own. -/
  | single (t : Topology) (s : Screen) (turn : UniqueRotation) (hs : t.screen? s.id = some s)
      (hparent : s.parent = none) :
      Change t [.becameUnique (turn.apply s).report ⟨t.displayIds.peek⟩]
        { t.putScreen (turn.apply s) with displayIds := t.displayIds.advance }
  /-- A screen turns. -/
  | turn (t : Topology) (s : Screen) (rotation : Rotation) (hs : t.screen? s.id = some s)
      (hne : s.rotation ≠ rotation) :
      Change t [.changed { s with rotation }.report .rotation] (t.putScreen { s with rotation })
  /-- A screen switches to another of its modes. -/
  | switch (t : Topology) (s : Screen) (index : Nat) (hs : t.screen? s.id = some s)
      (hindex : index < s.modes.length) (hne : s.activeMode ≠ index) :
      Change t [.changed { s with activeMode := index }.report .mode]
        (t.putScreen { s with activeMode := index })
  /-- A screen in no group that nothing mirrors is forgotten. -/
  | forget (t : Topology) (s : Screen) (hs : t.screen? s.id = some s)
      (hparent : s.parent = none)
      (hmirrors : ∀ g grp, t.group? g = some grp → isMirrorOf s.id grp = false) :
      Change t [.disconnected s.id] (Draft.forget t s.id)
  /-- Surfaces and power states are recorded, without a report. -/
  | record (t : Topology) (nodes : Table ScreenId Node) (f : ScreenId → Screen → Screen)
      (hf : ∀ x s, f x s = { s with surface := (f x s).surface, power := (f x s).power })
      (hscreen : ∀ x, ({ t with nodes } : Topology).screen? x = (t.screen? x).map (f x))
      (hgroup : ∀ x, ({ t with nodes } : Topology).group? x = t.group? x) :
      Change t [] { t with nodes }

/-! ## What is found after a change -/

section Found

variable {t : Topology} {s : Screen} (hs : t.screen? s.id = some s)

include hs

/-- The screen that opened a group names it. -/
theorem screen?_found (hfree : t.screen? t.nextScreenId = none) (combination : Combination)
    (main : Option ScreenId) (start : Point) (home : Option ScreenId) (x : ScreenId) :
    ((t.drawScreenId.join s (emptyGroup t.nextScreenId combination main) start).setHome
        home).screen? x =
      if x = s.id then some (s.within (some t.nextScreenId)) else t.screen? x :=
  screen?_join (t := t.drawScreenId) (g := emptyGroup t.nextScreenId combination main) hs hfree
    start x

theorem group?_found (combination : Combination) (main : Option ScreenId) (start : Point)
    (home : Option ScreenId) (x : ScreenId) :
    ((t.drawScreenId.join s (emptyGroup t.nextScreenId combination main) start).setHome
        home).group? x =
      if x = t.nextScreenId then
        some ((emptyGroup t.nextScreenId combination main).placing s.id start)
      else t.group? x :=
  group?_join (t := t.drawScreenId) (g := emptyGroup t.nextScreenId combination main) hs start x

/-- The last screen in a group is found without it. -/
theorem screen?_unlink_dropGroup {g : ScreenGroup} (hg : t.group? g.id = some g) (x : ScreenId) :
    ((t.unlink s g).dropGroup g.id).screen? x =
      if x = s.id then some (s.within none) else t.screen? x := by
  have hfree := screen?_eq_none_of_group? hg
  rw [screen?_dropGroup, screen?_unlink hs hg]
  split
  · rename_i hx
    rw [if_neg (hx ▸ Ne.symm (screen_ne_group hs hfree)), hx, hfree]
  · rfl

theorem group?_unlink_dropGroup (g : ScreenGroup) (x : ScreenId) :
    ((t.unlink s g).dropGroup g.id).group? x = if x = g.id then none else t.group? x := by
  rw [group?_dropGroup, group?_unlink hs]
  split <;> rfl

/-- A screen that is rewritten under its number leaves all groups as they were. -/
theorem group?_putScreen_of_live {s' : Screen} (hid : s'.id = s.id) (x : ScreenId) :
    (t.putScreen s').group? x = t.group? x := by
  rw [group?_putScreen]
  split
  · rename_i hx
    rw [hx, hid, group?_eq_none_of_screen? hs]
  · rfl

theorem group?_forget_of_live (x : ScreenId) :
    (Draft.forget t s.id).group? x = t.group? x := by
  rw [group?_forget]
  split
  · rename_i hx
    rw [hx, group?_eq_none_of_screen? hs]
  · rfl

end Found

/-- A group that is rewritten under its number leaves all screens as they were. -/
theorem screen?_putGroup_of_live {t : Topology} {g w : ScreenGroup}
    (hg : t.group? g.id = some g) (hid : w.id = g.id) (x : ScreenId) :
    (t.putGroup w).screen? x = t.screen? x := by
  rw [screen?_putGroup]
  split
  · rename_i hx
    rw [hx, hid, screen?_eq_none_of_group? hg]
  · rfl

/-- A screen under a free number leaves all groups as they were. -/
theorem group?_enlist_of_free {t : Topology} {s : Screen} (hid : s.id = t.nextScreenId)
    (hfree : t.nodes.get? t.nextScreenId = none) (x : ScreenId) :
    (t.enlist s).group? x = t.group? x := by
  rw [group?_enlist]
  split
  · rename_i hx
    rw [hx, hid, (get?_eq_none_iff.mp hfree).2]
  · rfl

/-- A screen that was live is still there after a change, unless that it went is reported. -/
theorem Change.live_after {t u : Topology} {es : List TopologyEvent} (hc : Change t es u)
    {x : ScreenId} {s : Screen} (hx : t.screen? x = some s) :
    (∃ s', u.screen? x = some s' ∧ s'.isVirtual = s.isVirtual) ∨ .disconnected x ∈ es := by
  -- all changes but two write one screen that keeps its kind, or none
  have hput : ∀ (k : ScreenId) (s' : Screen),
      (∀ y, u.screen? y = if y = k then some s' else t.screen? y) →
      (∀ old, t.screen? k = some old → s'.isVirtual = old.isVirtual) →
      ∃ s'', u.screen? x = some s'' ∧ s''.isVirtual = s.isVirtual := by
    intro k s' hu hkind
    rw [hu]
    split
    · rename_i hxs
      exact ⟨s', rfl, hkind s (hxs ▸ hx)⟩
    · exact ⟨s, hx, rfl⟩
  have hfresh : ∀ {b : Bool}, t.nodes.get? t.nextScreenId = none →
      ∀ old, t.screen? t.nextScreenId = some old → b = old.isVirtual := by
    intro b hfree old hold
    rw [(get?_eq_none_iff.mp hfree).1] at hold
    cases hold
  have hsame : ∀ {k : ScreenId} {s₀ s' : Screen}, t.screen? k = some s₀ →
      s'.isVirtual = s₀.isVirtual →
      ∀ old, t.screen? k = some old → s'.isVirtual = old.isVirtual := by
    intro k s₀ s' h hkind old hold
    rw [h] at hold
    rw [← Option.some.inj hold, hkind]
  cases hc with
  | plug r panel s' hs' hfault hfree hnew =>
    subst hs'
    exact .inl (hput _ _ (fun y => screen?_plugIn t y _) (hfresh hfree))
  | create request s' hs' hfault hfree =>
    subst hs'
    exact .inl (hput _ _ (fun y => screen?_addSoftware t y _) (hfresh hfree))
  | found s' combination main start home hs' hp hfree hhome =>
    exact .inl (hput _ _ (screen?_found hs' (get?_eq_none_iff.mp hfree).1 _ _ _ _) (hsame hs' rfl))
  | join s' g start hs' hp hg =>
    exact .inl (hput _ _ (screen?_join hs' (screen?_eq_none_of_group? hg) start) (hsame hs' rfl))
  | leave s' g reason hs' hp hg hstay =>
    exact .inl (hput _ _ (screen?_unlink hs' hg) (hsame hs' rfl))
  | leaveLast s' g reason hs' hp hg hlast =>
    exact .inl (hput _ _ (screen?_unlink_dropGroup hs' hg) (hsame hs' rfl))
  | place y g start hg hy =>
    exact .inl ⟨s, (screen?_putGroup_of_live (w := g.placing y start) hg rfl x).trans hx, rfl⟩
  | single s' turn hs' hp =>
    refine .inl (hput _ (turn.apply s') (fun y => screen?_putScreen t y _) ?_)
    rw [turn.apply_id]
    exact hsame hs' (turn.apply_isVirtual s')
  | turn s' rotation hs' hne =>
    exact .inl (hput _ _ (fun y => screen?_putScreen t y _) (hsame hs' rfl))
  | switch s' index hs' hindex hne =>
    exact .inl (hput _ _ (fun y => screen?_putScreen t y _) (hsame hs' rfl))
  | forget s' hs' hp hmirrors =>
    by_cases hxs : x = s'.id
    · exact .inr (hxs ▸ List.mem_singleton.mpr rfl)
    · exact .inl ⟨s, by rw [screen?_forget, if_neg hxs]; exact hx, rfl⟩
  | record nodes f hf hscreen hgroup =>
    refine .inl ⟨f x s, ?_, ?_⟩
    · rw [hscreen, hx]
      rfl
    · rw [hf]

/-- Numbers of screens and groups go forward. -/
theorem Change.screenIds_le {t u : Topology} {es : List TopologyEvent} (hc : Change t es u) :
    t.screenIds.count ≤ u.screenIds.count := by
  cases hc with
  | plug r panel s hs hfault hfree hnew => exact Nat.le_succ _
  | create request s hs hfault hfree => exact Nat.le_succ _
  | found s combination main start home hs hp hfree hhome => exact Nat.le_succ _
  | _ => exact Nat.le_refl _

/-- Several changes, one after the other, with all their reports. -/
inductive Changes : Topology → List TopologyEvent → Topology → Prop
  | refl (t : Topology) : Changes t [] t
  | tail {t u v : Topology} {es fs : List TopologyEvent} :
      Changes t es u → Change u fs v → Changes t (es ++ fs) v

theorem Change.changes {t u : Topology} {es : List TopologyEvent} (h : Change t es u) :
    Changes t es u :=
  Changes.tail (.refl t) h

theorem Changes.trans {t u v : Topology} {es fs : List TopologyEvent} (h : Changes t es u)
    (h' : Changes u fs v) : Changes t (es ++ fs) v := by
  induction h' with
  | refl => simpa using h
  | tail _ hc ih =>
    rw [← List.append_assoc]
    exact Changes.tail ih hc

theorem Changes.screenIds_le {t u : Topology} {es : List TopologyEvent} (hc : Changes t es u) :
    t.screenIds.count ≤ u.screenIds.count := by
  induction hc with
  | refl => exact Nat.le_refl _
  | tail _ hc ih => exact Nat.le_trans ih hc.screenIds_le

end Topology

end DisplayServer
