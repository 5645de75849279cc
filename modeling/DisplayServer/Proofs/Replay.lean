import DisplayServer.Proofs.Decompose

/-!
# Replaying the events of the topology

An observer that keeps what the events tell it, and nothing else, knows the topology. `Replica`
is such an observer: reports of screens and outlines of groups, written as the events come. Two
things are never told and never kept: the power state of a screen and the start points of
children, which change without a report.

Each event quotes screen and group as they are after the change that it reports, so the replica
agrees with the topology after every single change, in the middle of an operation too.
-/

namespace DisplayServer

/-- What an observer keeps of a group. -/
structure Outline where
  combination : Combination
  main : Option ScreenId
  children : List ScreenId
  deriving DecidableEq

/-- The outline that a report of membership carries. -/
def GroupReport.outline (g : GroupReport) : Outline := ⟨g.combination, g.main, g.children⟩

/-- The outline of a group. -/
def ScreenGroup.outline (g : ScreenGroup) : Outline := g.membership.outline

/-- The report without the power state. -/
def ScreenReport.sansPower (r : ScreenReport) : ScreenReport := { r with power := .on }

/-- What an observer has learnt of screens and groups. -/
structure Replica where
  screens : Table ScreenId ScreenReport
  groups : Table ScreenId Outline
  deriving DecidableEq

namespace Replica

/-- Nothing was told yet. -/
def empty : Replica := ⟨.empty, .empty⟩

/-- Writes a screen. -/
def putScreen (r : Replica) (s : ScreenReport) : Replica :=
  { r with screens := r.screens.insert s.id s }

/-- Writes a group. -/
def putGroup (r : Replica) (g : GroupReport) : Replica :=
  { r with groups := r.groups.insert g.id g.outline }

/-- Writes what an event tells. -/
def follow (r : Replica) : TopologyEvent → Replica
  | .connected screen => r.putScreen screen
  | .changed screen _ => r.putScreen screen
  | .becameUnique screen _ => r.putScreen screen
  | .joinedGroup screen group => (r.putScreen screen).putGroup group
  | .leftGroup screen group _ => (r.putScreen screen).putGroup group
  | .groupDissolved group => { r with groups := r.groups.erase group }
  | .disconnected screen => { r with screens := r.screens.erase screen }

/-- What an observer has learnt from several events. -/
def replay (es : List TopologyEvent) : Replica := es.foldl follow empty

open DisplayServer.Topology

/-- The replica knows the screens and groups of the topology, and no others. -/
structure Agrees (r : Replica) (t : Topology) : Prop where
  /-- The reports are those of the live screens, but for the power state. -/
  screens : ∀ x, (r.screens.get? x).map ScreenReport.sansPower =
    (t.screen? x).map fun s => s.report.sansPower
  /-- The outlines are those of the live groups. -/
  groups : ∀ g, r.groups.get? g = (t.group? g).map ScreenGroup.outline

/-! ## Single writes -/

variable {r : Replica} {t u : Topology}

theorem screens_put (h : Agrees r t) {s : Screen} {k : ScreenId} (hid : s.id = k)
    (hu : ∀ x, u.screen? x = if x = k then some s else t.screen? x) (x : ScreenId) :
    ((r.putScreen s.report).screens.get? x).map ScreenReport.sansPower =
      (u.screen? x).map fun s => s.report.sansPower := by
  have hput : (r.putScreen s.report).screens.get? x =
      if x = s.id then some s.report else r.screens.get? x :=
    Table.get?_insert_ite _ _ _ _
  rw [hput, hu, hid]
  split
  · rfl
  · exact h.screens x

theorem groups_put (h : Agrees r t) {g : ScreenGroup} {k : ScreenId} (hid : g.id = k)
    (hu : ∀ x, u.group? x = if x = k then some g else t.group? x) (x : ScreenId) :
    (r.putGroup g.membership).groups.get? x = (u.group? x).map ScreenGroup.outline := by
  have hput : (r.putGroup g.membership).groups.get? x =
      if x = g.id then some g.outline else r.groups.get? x :=
    Table.get?_insert_ite _ _ _ _
  rw [hput, hu, hid]
  split
  · rfl
  · exact h.groups x

/-- A change that writes one screen and reports it. -/
theorem agrees_put (h : Agrees r t) {s : Screen} {k : ScreenId} (hid : s.id = k)
    (hscreen : ∀ x, u.screen? x = if x = k then some s else t.screen? x)
    (hgroup : ∀ x, u.group? x = t.group? x) : Agrees (r.putScreen s.report) u := by
  refine ⟨screens_put h hid hscreen, fun x => ?_⟩
  rw [hgroup]
  exact h.groups x

/-- A change that writes a screen and a group and reports both. -/
theorem agrees_link (h : Agrees r t) {s : Screen} {k : ScreenId} (hid : s.id = k)
    (hscreen : ∀ x, u.screen? x = if x = k then some s else t.screen? x)
    {g : ScreenGroup} {l : ScreenId} (hgid : g.id = l)
    (hgroup : ∀ x, u.group? x = if x = l then some g else t.group? x) :
    Agrees ((r.putScreen s.report).putGroup g.membership) u :=
  ⟨screens_put h hid hscreen, groups_put h hgid hgroup⟩

/-! ## Changes and runs -/

/-- **The replica keeps up with every single change.** -/
theorem agrees_change {es : List TopologyEvent} (hc : Change t es u) (h : Agrees r t) :
    Agrees (es.foldl follow r) u := by
  cases hc with
  | plug renderId panel s hs hfault hfree hnew =>
    have hid : s.id = t.nextScreenId := by
      rw [hs]
      rfl
    exact agrees_put h rfl (fun x => screen?_plugIn t x s) (group?_enlist_of_free hid hfree)
  | create request s hs hfault hfree =>
    have hid : s.id = t.nextScreenId := by
      rw [hs]
      rfl
    exact agrees_put h rfl (fun x => screen?_addSoftware t x s) (group?_enlist_of_free hid hfree)
  | found s combination main start home hs hp hfree hhome =>
    exact agrees_link h rfl (screen?_found hs (get?_eq_none_iff.mp hfree).1 _ _ _ _) rfl
      (group?_found hs _ _ _ _)
  | join s g start hs hp hg =>
    exact agrees_link h rfl (screen?_join hs (screen?_eq_none_of_group? hg) start) rfl
      (group?_join hs start)
  | leave s g reason hs hp hg hstay =>
    exact agrees_link h rfl (screen?_unlink hs hg) rfl (group?_unlink hs)
  | leaveLast s g reason hs hp hg hlast =>
    -- the group is told twice: without its last child, and then that it is gone
    have hleft : Agrees ((r.putScreen (s.within none).report).putGroup
        (g.without s.id).membership) (t.unlink s g) :=
      agrees_link h rfl (screen?_unlink hs hg) rfl (group?_unlink hs)
    refine ⟨fun x => ?_, fun x => ?_⟩
    · rw [screen?_unlink_dropGroup hs hg, ← screen?_unlink hs hg]
      exact hleft.screens x
    · show (Table.erase _ g.id).get? x = _
      rw [Table.get?_erase_ite, group?_dropGroup]
      split
      · rfl
      · exact hleft.groups x
  | place x g start hg hx =>
    refine ⟨fun y => ?_, fun y => ?_⟩
    · rw [screen?_putGroup_of_live (w := g.placing x start) hg rfl]
      exact h.screens y
    · have hchildren : (g.composition.place x start).children = g.composition.children := by
        rw [Composition.children_place, if_pos hx]
      have houtline : (g.placing x start).outline = g.outline := by
        simp only [ScreenGroup.outline, GroupReport.outline, ScreenGroup.membership,
          ScreenGroup.placing_composition, hchildren, Composition.combination_place,
          Composition.main_place]
      rw [group?_putGroup, ScreenGroup.placing_id]
      split
      · rename_i hy
        rw [Option.map_some, houtline, hy]
        exact (h.groups g.id).trans (by rw [hg]; rfl)
      · exact h.groups y
  | single s turn hs hp =>
    have hid := turn.apply_id s
    exact agrees_put h hid (fun x => (screen?_putScreen t x _).trans (by rw [hid]))
      (group?_putScreen_of_live hs hid)
  | turn s rotation hs hne =>
    exact agrees_put h rfl (fun x => screen?_putScreen t x _) (group?_putScreen_of_live hs rfl)
  | switch s index hs hindex hne =>
    exact agrees_put h rfl (fun x => screen?_putScreen t x _) (group?_putScreen_of_live hs rfl)
  | forget s hs hp hmirrors =>
    refine ⟨fun x => ?_, fun x => ?_⟩
    · show ((Table.erase r.screens s.id).get? x).map _ = _
      rw [Table.get?_erase_ite, screen?_forget]
      split
      · rfl
      · exact h.screens x
    · rw [group?_forget_of_live hs]
      exact h.groups x
  | record nodes f hf hscreen hgroup =>
    refine ⟨fun x => ?_, fun x => ?_⟩
    · -- what is recorded is the power state, or is in no report
      have hreport : ∀ s, (f x s).report.sansPower = s.report.sansPower := by
        intro s
        rw [hf]
        rfl
      rw [hscreen, Option.map_map]
      refine (h.screens x).trans ?_
      cases t.screen? x with
      | none => rfl
      | some s => exact congrArg some (hreport s).symm
    · rw [hgroup]
      exact h.groups x

theorem agrees_changes {es : List TopologyEvent} (hc : Changes t es u) (h : Agrees r t) :
    Agrees (es.foldl follow r) u := by
  induction hc with
  | refl => exact h
  | tail _ hc ih =>
    rw [List.foldl_append]
    exact agrees_change hc ih

theorem agrees_empty : Agrees empty Topology.empty where
  screens := fun _ => rfl
  groups := fun _ => rfl

/-- **Everything told in a run, replayed from nothing, gives the screens and groups after the
run**, as long as no number of a screen or group has been issued twice. -/
theorem replay_log (run : List Command) (hcount : (after run).screenIds.count ≤ 2 ^ 64) :
    Agrees (replay (log run)) (after run) :=
  agrees_changes (changes_after run hcount) agrees_empty

/-- A run in which a mirror source becomes part of a desktop, the mirror of it stops because it
goes away, and a screen is made unique and turned. -/
def rearrangedRun : List Command :=
  [.connect ⟨0⟩ ⟨"builtin", [⟨1080, 2340, 60⟩, ⟨720, 1560, 120⟩], 0, 2, []⟩,
    .create ⟨"a", 640, 480, 1, none⟩,
    .create ⟨"b", 640, 480, 1, none⟩,
    .mirror ⟨2⟩ [⟨0⟩, ⟨3⟩],
    .expand [⟨2⟩, ⟨3⟩] [⟨0, 0⟩, ⟨640, 0⟩],
    .setMode ⟨0⟩ 1,
    .destroy ⟨2⟩,
    .setPower ⟨3⟩ .off,
    .makeUnique [⟨3⟩, ⟨0⟩] ⟨true, .deg90⟩]

theorem replay_log_rearrangedRun :
    (after rearrangedRun).screenIds.count ≤ 2 ^ 64 ∧
      Agrees (replay (log rearrangedRun)) (after rearrangedRun) :=
  ⟨by decide, replay_log rearrangedRun (by decide)⟩

end Replica

end DisplayServer
