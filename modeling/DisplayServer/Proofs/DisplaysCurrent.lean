import DisplayServer.Proofs.DisplaysFollow

/-!
# Displays show their screens as they are

A display caches the geometry of its screen, and the registry writes the cache from what events
quote. Every event quotes a screen as the change that it reports leaves it (`Change.quotes`), and
a change that sets a screen to another mode or rotation always says so
(`Change.settings`). So displays are current after every change, as soon as the registry has
followed it: those it wrote are made of the screen as it is, and the others show screens that are
set as before (`current_change`).

Width and height trade places twice on the way, once when a turned screen is reported and once
when a display recovers the size of the panel from the report, so the panel's size is that of
the shown mode whatever the rotation (`shows_of_portrays`).

Clients may override a display's rotation and size, and what is said here is said of runs in
which nobody does.
-/

namespace DisplayServer

/-! ## Geometry -/

/-- What a display caches of its screen. -/
structure Geometry where
  width : Nat
  height : Nat
  physicalWidth : Nat
  physicalHeight : Nat
  refreshRate : Nat
  pixelRatio : Float32
  dpi : Float32
  rotation : Rotation
  orientation : Orientation
  deriving DecidableEq

def Display.geometry (v : Display) : Geometry :=
  { width := v.width
    height := v.height
    physicalWidth := v.physicalWidth
    physicalHeight := v.physicalHeight
    refreshRate := v.refreshRate
    pixelRatio := v.pixelRatio
    dpi := v.dpi
    rotation := v.rotation
    orientation := v.orientation }

/-- The display caches what a display made of the report would. -/
def Display.Portrays (v : Display) (q : ScreenReport) : Prop :=
  v.geometry = (Display.ofScreen v.id q).geometry

/-- The display shows the screen as it is, in a mode that the screen has. -/
structure Display.Shows (v : Display) (s : Screen) (m : ScreenMode) : Prop where
  /-- The mode is the one that the screen shows. -/
  mode : s.modes[s.activeMode]? = some m
  /-- The display is what a display made of the screen now would be. -/
  geometry : v.geometry = (Display.ofScreen v.id s.report).geometry
  /-- The panel has the size of the mode, however the picture is turned. -/
  panel : v.physicalWidth = m.width ∧ v.physicalHeight = m.height
  /-- So has the picture, with the sides swapped by a quarter turn and by nothing else. -/
  picture :
    if s.rotation = .deg90 ∨ s.rotation = .deg270 then v.width = m.height ∧ v.height = m.width
    else v.width = m.width ∧ v.height = m.height

theorem Display.Portrays.of_geometry {v w : Display} {q : ScreenReport} (h : v.Portrays q)
    (hw : w.geometry = v.geometry) : w.Portrays q :=
  hw.trans h

/-- The swap in the report and the one in the display cancel. -/
theorem Display.shows_of_portrays {v : Display} {s : Screen} {m : ScreenMode}
    (hm : s.modes[s.activeMode]? = some m) (h : v.Portrays s.report) : v.Shows s m := by
  have hwidth := congrArg Geometry.width h
  have hheight := congrArg Geometry.height h
  have hpanelWidth := congrArg Geometry.physicalWidth h
  have hpanelHeight := congrArg Geometry.physicalHeight h
  have hshown : s.shownMode? = some m := hm
  simp only [geometry, ofScreen, Screen.report, Screen.presentedSize, hshown]
    at hwidth hheight hpanelWidth hpanelHeight
  refine ⟨hm, h, ?_, ?_⟩ <;>
    cases hr : s.rotation <;> simp_all [Rotation.swapsSides]

namespace Screen

/-- The screens are set alike: they differ in power, surface and group at most. -/
def SetLike (s s' : Screen) : Prop :=
  ∃ power surface parent, s' = { s with power, surface, parent }

theorem SetLike.refl (s : Screen) : SetLike s s := ⟨s.power, s.surface, s.parent, rfl⟩

theorem setLike_within (s : Screen) (g : Option ScreenId) : SetLike s (s.within g) :=
  ⟨s.power, s.surface, g, rfl⟩

variable {s s' : Screen}

/-- A display of one screen is as good a display of another that is set alike. -/
theorem SetLike.portrays (h : SetLike s s') {v : Display} (hv : v.Portrays s.report) :
    v.Portrays s'.report := by
  obtain ⟨power, surface, parent, rfl⟩ := h
  exact hv

theorem SetLike.inRange (h : SetLike s s') (hs : s.activeMode < s.modes.length) :
    s'.activeMode < s'.modes.length := by
  obtain ⟨power, surface, parent, rfl⟩ := h
  exact hs

end Screen

/-! ## What changes say of screens -/

namespace Topology

/-- The mode that a panel starts in is one it has. -/
theorem activeMode_of_panelFault? {panel : PanelDescription} (h : panelFault? panel = none) :
    panel.activeMode < panel.modes.length := by
  unfold panelFault? at h
  split at h
  · cases h
  · split at h
    · cases h
    · rename_i hmode
      exact Nat.lt_of_not_le hmode

variable {t u : Topology} {es : List TopologyEvent}

/-- Every screen shows a mode that it has. -/
def Tuned (t : Topology) : Prop :=
  ∀ x s, t.screen? x = some s → s.activeMode < s.modes.length

/-- The events say how the screen is set: it has just appeared, or its setting is reported. -/
inductive Told (t u : Topology) (s : Screen) : List TopologyEvent → Prop
  | connected (hid : s.id = t.nextScreenId)
      (hdrawn : u.screenIds.count = t.screenIds.count + 1) : Told t u s [.connected s.report]
  | becameUnique (d : DisplayId) : Told t u s [.becameUnique s.report d]
  | changed (change : ScreenChange) : Told t u s [.changed s.report change]

/-- A screen is set as it was before the change, or the change says how it is set. -/
theorem Change.settings (hc : Change t es u) (ht : Tuned t) {x : ScreenId} {s' : Screen}
    (hs' : u.screen? x = some s') :
    (∃ s, t.screen? x = some s ∧ s.SetLike s') ∨
      (s'.id = x ∧ s'.activeMode < s'.modes.length ∧ Told t u s' es) := by
  have hput : ∀ {k : ScreenId} {w : Screen},
      (u.screen? x = if x = k then some w else t.screen? x) →
      (x = k → (∃ s, t.screen? k = some s ∧ s.SetLike w) ∨
        (w.id = k ∧ w.activeMode < w.modes.length ∧ Told t u w es)) →
      (∃ s, t.screen? x = some s ∧ s.SetLike s') ∨
        (s'.id = x ∧ s'.activeMode < s'.modes.length ∧ Told t u s' es) := by
    intro k w hu hw
    rw [hu] at hs'
    split at hs'
    · rename_i hx
      rw [← Option.some.inj hs', hx]
      exact hw hx
    · exact .inl ⟨s', hs', .refl s'⟩
  cases hc with
  | plug r panel s hs hfault hfree hnew =>
    have hmode : s.activeMode < s.modes.length := by
      rw [hs]
      exact activeMode_of_panelFault? hfault
    exact hput (screen?_plugIn t x s) fun _ => .inr ⟨rfl, hmode, .connected (by rw [hs]; rfl) rfl⟩
  | create request s hs hfault hfree =>
    have hmode : s.activeMode < s.modes.length := by
      rw [hs]
      exact Nat.zero_lt_one
    exact hput (screen?_addSoftware t x s) fun _ =>
      .inr ⟨rfl, hmode, .connected (by rw [hs]; rfl) rfl⟩
  | found s combination main start home hs hp hfree hhome =>
    exact hput (screen?_found hs (get?_eq_none_iff.mp hfree).1 _ _ _ _ x) fun _ =>
      .inl ⟨s, hs, s.setLike_within _⟩
  | join s g start hs hp hg =>
    exact hput (screen?_join hs (screen?_eq_none_of_group? hg) start x) fun _ =>
      .inl ⟨s, hs, s.setLike_within _⟩
  | leave s g reason hs hp hg hstay =>
    exact hput (screen?_unlink hs hg x) fun _ => .inl ⟨s, hs, s.setLike_within _⟩
  | leaveLast s g reason hs hp hg hlast =>
    exact hput (screen?_unlink_dropGroup hs hg x) fun _ => .inl ⟨s, hs, s.setLike_within _⟩
  | place y g start hg hy =>
    rw [screen?_putGroup_of_live (w := g.placing y start) hg rfl] at hs'
    exact .inl ⟨s', hs', .refl s'⟩
  | single s turn hs hp =>
    -- the rotation may be locked on the way, and the event quotes the screen after that
    have hmode : (turn.apply s).activeMode < (turn.apply s).modes.length := by
      unfold UniqueRotation.apply
      split <;> exact ht s.id s hs
    exact hput (screen?_putScreen t x (turn.apply s)) fun _ =>
      .inr ⟨rfl, hmode, .becameUnique _⟩
  | turn s rotation hs hne =>
    exact hput (screen?_putScreen t x { s with rotation }) fun _ =>
      .inr ⟨rfl, ht s.id s hs, .changed _⟩
  | switch s index hs hindex hne =>
    exact hput (screen?_putScreen t x { s with activeMode := index }) fun _ =>
      .inr ⟨rfl, hindex, .changed _⟩
  | forget s hs hp hmirrors =>
    rw [screen?_forget] at hs'
    split at hs'
    · cases hs'
    · exact .inl ⟨s', hs', .refl s'⟩
  | record nodes f hf hscreen hgroup =>
    rw [hscreen, Option.map_eq_some_iff] at hs'
    obtain ⟨s, hs, rfl⟩ := hs'
    refine .inl ⟨s, hs, ?_⟩
    rw [hf]
    exact ⟨_, _, _, rfl⟩

/-- An event quotes a screen as the change leaves it. -/
theorem Change.quotes (hc : Change t es u) {e : TopologyEvent} (he : e ∈ es) {q : ScreenReport}
    (hq : e.screen? = some q) : ∃ s, u.screen? q.id = some s ∧ s.report = q := by
  have hput : ∀ {w : Screen}, (∀ x, u.screen? x = if x = w.id then some w else t.screen? x) →
      w.report = q → ∃ s, u.screen? q.id = some s ∧ s.report = q := by
    rintro w hu rfl
    exact ⟨w, (hu w.id).trans (if_pos rfl), rfl⟩
  cases hc with
  | plug r panel s hs hfault hfree hnew =>
    rw [List.mem_singleton.mp he] at hq
    exact hput (screen?_plugIn t · s) (Option.some.inj hq)
  | create request s hs hfault hfree =>
    rw [List.mem_singleton.mp he] at hq
    exact hput (screen?_addSoftware t · s) (Option.some.inj hq)
  | found s combination main start home hs hp hfree hhome =>
    rw [List.mem_singleton.mp he] at hq
    exact hput (screen?_found hs (get?_eq_none_iff.mp hfree).1 _ _ _ _) (Option.some.inj hq)
  | join s g start hs hp hg =>
    rw [List.mem_singleton.mp he] at hq
    exact hput (screen?_join hs (screen?_eq_none_of_group? hg) start) (Option.some.inj hq)
  | leave s g reason hs hp hg hstay =>
    rw [List.mem_singleton.mp he] at hq
    exact hput (screen?_unlink hs hg) (Option.some.inj hq)
  | leaveLast s g reason hs hp hg hlast =>
    obtain rfl | he := List.mem_cons.mp he
    · exact hput (screen?_unlink_dropGroup hs hg) (Option.some.inj hq)
    · -- that the group dissolved quotes no screen
      rw [List.mem_singleton.mp he] at hq
      cases hq
  | place y g start hg hy => cases he
  | single s turn hs hp =>
    rw [List.mem_singleton.mp he] at hq
    exact hput (screen?_putScreen t · (turn.apply s)) (Option.some.inj hq)
  | turn s rotation hs hne =>
    rw [List.mem_singleton.mp he] at hq
    exact hput (screen?_putScreen t · { s with rotation }) (Option.some.inj hq)
  | switch s index hs hindex hne =>
    rw [List.mem_singleton.mp he] at hq
    exact hput (screen?_putScreen t · { s with activeMode := index }) (Option.some.inj hq)
  | forget s hs hp hmirrors =>
    rw [List.mem_singleton.mp he] at hq
    cases hq
  | record nodes f hf hscreen hgroup => cases he

theorem tuned_change (hc : Change t es u) (ht : Tuned t) : Tuned u := by
  intro x s' hs'
  obtain ⟨s, hs, hlike⟩ | ⟨-, hmode, -⟩ := hc.settings ht hs'
  · exact hlike.inRange (ht x s hs)
  · exact hmode

end Topology

/-! ## What the registry makes of events -/

namespace Registry

open DisplayServer.Topology

variable {r : Registry} {ids : IdSource} {d : DisplayId} {v : Display}

theorem kept_or_made_create {k : DisplayId} {q : ScreenReport}
    (hv : (r.create k q).1.displays.get? d = some v) :
    r.displays.get? d = some v ∨ (v.screen = q.id ∧ v.Portrays q) := by
  simp only [create, Table.get?_insert_ite] at hv
  split at hv
  · rw [← Option.some.inj hv]
    exact .inr ⟨rfl, rfl⟩
  · exact .inl hv

theorem kept_or_made_ensure {q : ScreenReport}
    (hv : (r.ensure ids q).1.displays.get? d = some v) :
    r.displays.get? d = some v ∨ (v.screen = q.id ∧ v.Portrays q) := by
  unfold ensure at hv
  split at hv
  · exact .inl hv
  · exact kept_or_made_create hv

/-- A display is as it was before an event, or is made of the screen that the event quotes. -/
theorem kept_or_made_follow {e : TopologyEvent} (hv : (r.follow ids e).1.displays.get? d = some v) :
    r.displays.get? d = some v ∨ ∃ q, e.screen? = some q ∧ v.screen = q.id ∧ v.Portrays q := by
  have hmade : ∀ {q}, e.screen? = some q →
      (r.displays.get? d = some v ∨ (v.screen = q.id ∧ v.Portrays q)) →
      r.displays.get? d = some v ∨ ∃ q, e.screen? = some q ∧ v.screen = q.id ∧ v.Portrays q :=
    fun hq h => h.imp_right fun hm => ⟨_, hq, hm⟩
  cases e with
  | connected q => exact .inl hv
  | groupDissolved g => exact .inl hv
  | disconnected x => exact .inl (displays_remove x d hv)
  | changed q change =>
    simp only [follow, refresh] at hv
    cases hw : r.displayOf? q.id with
    | none =>
      rw [hw] at hv
      exact .inl hv
    | some w =>
      rw [hw] at hv
      simp only [Table.get?_insert_ite] at hv
      split at hv
      · rw [← Option.some.inj hv]
        exact .inr ⟨q, rfl, rfl, rfl⟩
      · exact .inl hv
  | becameUnique q k =>
    refine hmade rfl ((kept_or_made_create hv).imp_left fun hold => ?_)
    exact displays_remove q.id d hold
  | joinedGroup q g =>
    cases hg : g.combination with
    | mirror =>
      simp only [follow, hg] at hv
      exact .inl (displays_remove q.id d hv)
    | alone =>
      simp only [follow, hg] at hv
      exact hmade rfl (kept_or_made_ensure hv)
    | expand =>
      simp only [follow, hg] at hv
      exact hmade rfl (kept_or_made_ensure hv)
  | leftGroup q g reason =>
    simp only [follow] at hv
    split at hv
    · exact hmade rfl (kept_or_made_ensure hv)
    · exact .inl hv

theorem kept_or_made_followAll {es : List TopologyEvent}
    (hv : (r.followAll ids es).1.displays.get? d = some v) :
    r.displays.get? d = some v ∨
      ∃ e ∈ es, ∃ q, e.screen? = some q ∧ v.screen = q.id ∧ v.Portrays q := by
  induction es generalizing r ids with
  | nil => exact .inl hv
  | cons e rest ih =>
    obtain hold | ⟨e', he', hmade⟩ := ih hv
    · exact (kept_or_made_follow hold).imp_right fun hmade => ⟨e, List.mem_cons_self, hmade⟩
    · exact .inr ⟨e', List.mem_cons_of_mem e he', hmade⟩

/-- After an event that says how a screen is set, its display is made of what the event quotes:
an orderly registry has no other display for the screen. -/
theorem made_of_told {t u : Topology} {s : Screen} {es : List TopologyEvent} (ho : Orderly r)
    (htold : Told t u s es)
    (hnew : s.id = t.nextScreenId → u.screenIds.count = t.screenIds.count + 1 →
      ∀ d v, r.displays.get? d = some v → v.screen ≠ s.id)
    (hv : (r.followAll ids es).1.displays.get? d = some v) (hscreen : v.screen = s.id) :
    v.Portrays s.report := by
  cases htold with
  | connected hid hdrawn => exact absurd hscreen (hnew hid hdrawn d v hv)
  | becameUnique k =>
    refine ((kept_or_made_create hv).resolve_left fun hold => ?_).2
    -- the display that the screen had is gone by then
    have hgone : (r.remove s.id).1.bindings.contains s.id = false := by
      rw [contains_remove, if_pos rfl]
    have hbound := ((orderly_remove ho s.id).bound s.id d).mpr ⟨v, hold, hscreen⟩
    rw [Table.contains, hbound] at hgone
    cases hgone
  | changed change =>
    have hafter := orderly_refresh ho s.report change
    have hv : (r.refresh s.report change).1.displays.get? d = some v := hv
    unfold refresh at hv hafter
    cases hw : r.displayOf? s.id with
    | none =>
      -- a screen without a display has none to be told
      simp only [show s.report.id = s.id from rfl, hw] at hv
      have hbound := (ho.bound s.id d).mpr ⟨v, hv, hscreen⟩
      rw [displayOf?, hbound] at hw
      exact absurd (hw.symm.trans hv) (by simp)
    | some w =>
      simp only [show s.report.id = s.id from rfl, hw] at hv hafter
      have hmade : (r.displays.insert w.id (w.refreshed s.report)).get? w.id =
          some (w.refreshed s.report) := Table.get?_insert_self _ _ _
      have hd : d = w.id := hafter.display_unique hv hmade hscreen
      rw [hd, hmade] at hv
      rw [← Option.some.inj hv]
      rfl

/-! ## Steps that keep geometries -/

/-- Displays that are there after the step were there before, with the same screen and
geometry. -/
def Retains (r r' : Registry) : Prop :=
  ∀ d v, r'.displays.get? d = some v →
    ∃ w, r.displays.get? d = some w ∧ v.screen = w.screen ∧ v.geometry = w.geometry

theorem Retains.refl (r : Registry) : Retains r r := fun _ v hv => ⟨v, hv, rfl, rfl⟩

theorem retains_setState (r : Registry) (state : DisplayState) :
    Retains r (r.setState state).registry := by
  unfold setState
  split
  · exact .refl r
  · intro d v hv
    simp only [Table.get?_map, Option.map_eq_some_iff] at hv
    obtain ⟨w, hw, rfl⟩ := hv
    exact ⟨w, hw, rfl, rfl⟩

theorem retains_setAvailableArea (ho : Orderly r) (x : ScreenId) (area : Rect) :
    Retains r (r.setAvailableArea x area).registry := by
  unfold setAvailableArea updateDisplay
  cases hw : r.displayOf? x with
  | none => exact .refl r
  | some w =>
    intro d v hv
    simp only [Table.get?_insert_ite] at hv
    split at hv
    · rename_i hd
      rw [← Option.some.inj hv, hd]
      exact ⟨w, (ho.displayOf? hw).1, rfl, rfl⟩
    · exact ⟨v, hv, rfl, rfl⟩

theorem retains_fold (r : Registry) (step : Posture → Posture × List AgentEvent) :
    Retains r (r.fold step).registry := by
  unfold fold
  split <;> exact .refl r

theorem retains_forceFoldMode (r : Registry) (mode : FoldDisplayMode) :
    Retains r (r.forceFoldMode mode).registry := by
  unfold forceFoldMode
  split
  · cases mode.impliedStatus with
    | none => exact .refl r
    | some implied => exact retains_fold r _
  · exact .refl r

end Registry

/-! ## Changes and operations -/

namespace Topology

/-- The displays of a registry show the screens of a topology as they are. -/
structure Current (t : Topology) (r : Registry) : Prop where
  /-- Every screen shows a mode that it has. -/
  tuned : Tuned t
  /-- The screen of a display has been there. -/
  issued : ∀ d v, r.displays.get? d = some v → v.screen.val < t.screenIds.count
  /-- A display is what a display made of its screen now would be. -/
  portrays : ∀ d v s, r.displays.get? d = some v → t.screen? v.screen = some s →
    v.Portrays s.report

variable {t u : Topology} {r r' : Registry} {es : List TopologyEvent} {ids : IdSource} {high : Nat}

/-- **The registry has followed a change, and displays are current again.** -/
theorem current_change (hc : Change t es u) (hsound : Sound t)
    (hscreens : u.screenIds.count ≤ 2 ^ 64) (ho : r.Orderly) (h : Current t r) :
    Current u (r.followAll ids es).1 where
  tuned := tuned_change hc h.tuned
  issued := by
    intro d v hv
    obtain hold | ⟨e, he, q, hq, hscreen, -⟩ := Registry.kept_or_made_followAll hv
    · exact Nat.lt_of_lt_of_le (h.issued d v hold) hc.screenIds_le
    · obtain ⟨s, hs, -⟩ := hc.quotes he hq
      rw [hscreen]
      exact (sound_change hc hsound).screen_lt q.id s hs
  portrays := by
    intro d v s' hv hs'
    obtain ⟨s, hs, hlike⟩ | ⟨hid, -, htold⟩ := hc.settings h.tuned hs'
    · -- the screen is set as before, and the display is the old one or was made of it just now
      obtain hold | ⟨e, he, q, hq, hscreen, hmade⟩ := Registry.kept_or_made_followAll hv
      · exact hlike.portrays (h.portrays d v s hold hs)
      · obtain ⟨s'', hs'', rfl⟩ := hc.quotes he hq
        rw [← hscreen, hs'] at hs''
        exact Option.some.inj hs'' ▸ hmade
    · refine Registry.made_of_told ho htold (fun hnew hdrawn d v hv hscreen => ?_) hv hid.symm
      -- a number just drawn is that of no screen that a display shows
      have hlt := h.issued d v hv
      have hval : t.nextScreenId.val = t.screenIds.count := IdSource.peek_of_lt (by omega)
      rw [hscreen, hnew] at hlt
      omega

theorem current_changes (hc : Changes t es u) (hsound : Sound t)
    (hscreens : u.screenIds.count ≤ 2 ^ 64) (ho : r.Orderly)
    (hn : r.Numbered t.displayIds.count high ids) (hhigh : u.displayIds.count ≤ high)
    (hcount : (r.followAll ids es).2.1.count ≤ 2 ^ 64) (h : Current t r) :
    Current u (r.followAll ids es).1 := by
  induction hc with
  | refl => exact h
  | tail hcs hc ih =>
    have hhigh' := Nat.le_trans hc.displayIds_le hhigh
    have hscreens' := Nat.le_trans hc.screenIds_le hscreens
    rw [Registry.followAll_append] at hcount ⊢
    have hcount' := Nat.le_trans (Registry.count_followAll _ _ _) hcount
    obtain ⟨ho', -⟩ := Registry.orderly_changes hcs ho hn hhigh' hcount'
    exact current_change hc (sound_changes hcs hsound) hscreens ho' (ih hscreens' hhigh' hcount')

/-- Display numbers may be drawn beside, and display records may be rewritten that keep screen
and geometry. -/
theorem current_of_retained (h : Current t r) (hscreen : u.screen? = t.screen?)
    (hcount : u.screenIds.count = t.screenIds.count) (hr : r.Retains r') : Current u r' where
  tuned := by
    rw [Tuned, hscreen]
    exact h.tuned
  issued := by
    intro d v hv
    obtain ⟨w, hw, hvw, -⟩ := hr d v hv
    rw [hcount, hvw]
    exact h.issued d w hw
  portrays := by
    intro d v s hv hs
    obtain ⟨w, hw, hvw, hgeometry⟩ := hr d v hv
    rw [hscreen, hvw] at hs
    exact (h.portrays d w s hw hs).of_geometry hgeometry

end Topology

/-! ## Commands and runs -/

namespace Service

open DisplayServer.Topology

variable {ι : Type} [DecidableEq ι] (respond : ι → AgentEvent → Response ι)

theorem registry_update {α : Type} (s : Service ι) (step : Registry → Registry.Step α) :
    (s.update respond step).service.registry = (step s.registry).registry := by
  obtain ⟨hub, heq⟩ := announceAll_eq respond
    { s with registry := (step s.registry).registry } (step s.registry).events
  exact congrArg Service.registry heq

/-- The command overrides the rotation of a display. -/
def Command.overrides : Command ι → Bool
  | overrideRotation _ _ _ _ => true
  | _ => false

/-- Whatever is no operation of the topology keeps the geometry of displays, unless it overrides
it. -/
theorem retains_perform (s : Service ι) (c : Command ι) (hc : c.overrides = false)
    (hop : c.operation? s = none) (ho : s.registry.Orderly) :
    s.registry.Retains (s.perform respond c).registry := by
  have hupdate : ∀ {α : Type} (step : Registry → Registry.Step α),
      s.registry.Retains (step s.registry).registry →
      s.registry.Retains (s.update respond step).service.registry := by
    intro α step h
    rw [registry_update]
    exact h
  cases c with
  | arrange c => cases hop
  | powerScreen x power => cases hop
  | powerPanels power reason => cases hop
  | powerTransition transition phase reason => exact .refl _
  | lockRotation locked => exact .refl _
  | senseRotation rotation =>
    simp only [Command.operation?] at hop
    simp only [perform, Command.reply, senseRotation]
    split
    · exact .refl _
    · rename_i hlocked
      rw [if_neg hlocked, Option.map_eq_none_iff] at hop
      rw [hop]
      exact .refl _
  | setState state => exact hupdate (·.setState state) (Registry.retains_setState _ state)
  | setAvailableArea screen area =>
    exact hupdate (·.setAvailableArea screen area)
      (Registry.retains_setAvailableArea ho screen area)
  | overrideRotation screen rotation width height => cases hc
  | senseFold reading => exact hupdate (·.senseFold reading) (Registry.retains_fold _ _)
  | lockFold locked => exact hupdate (·.lockFold locked) (Registry.retains_fold _ _)
  | forceFoldMode mode =>
    exact hupdate (·.forceFoldMode mode) (Registry.retains_forceFoldMode _ mode)
  | restoreFold => exact hupdate Registry.restoreFold (Registry.retains_fold _ _)
  | register b kind => exact .refl _
  | unregister b kind => exact .refl _

variable {s : Service ι} {known : ScreenId → Prop}

/-- **A command keeps displays current**, unless it overrides one. -/
theorem current_perform (hf : Follows known s) (h : Current s.topology s.registry)
    (c : Command ι) (hc : c.overrides = false)
    (hscreens : (s.perform respond c).topology.screenIds.count ≤ 2 ^ 64)
    (hdisplays : (s.perform respond c).topology.displayIds.count ≤ 2 ^ 64) :
    Current (s.perform respond c).topology (s.perform respond c).registry := by
  obtain ⟨tc, -, ha, -⟩ | ⟨hop, htouched, -⟩ := perform_cases respond s c
  · rw [screenIds_arranged ha] at hscreens
    rw [ha.topology] at hdisplays
    have hcurrent := current_changes (changes_outcome hf.sound tc hscreens) hf.sound hscreens
      hf.orderly (hf.numbered tc) (Nat.le_refl _) hdisplays h
    rw [ha.topology, ha.registry]
    exact current_of_retained hcurrent rfl rfl (.refl _)
  · rw [htouched.topology]
    exact current_of_retained h rfl rfl (retains_perform respond s c hc hop hf.orderly)

omit [DecidableEq ι] in
theorem current_start (capability : FoldCapability) :
    Current (start capability : Service ι).topology (start capability : Service ι).registry where
  tuned := by intro x s hs; cases hs
  issued := by intro d v hv; cases hv
  portrays := by intro d v s hv; cases hv

variable {respond}

theorem current_after (capability : FoldCapability) (run : List (Command ι))
    (hrun : ∀ c ∈ run, c.overrides = false)
    (hscreens : (after respond (start capability) run).topology.screenIds.count ≤ 2 ^ 64)
    (hdisplays : (after respond (start capability) run).topology.displayIds.count ≤ 2 ^ 64) :
    Current (after respond (start capability) run).topology
      (after respond (start capability) run).registry := by
  induction run using List.reverseRecOn with
  | nil => exact current_start capability
  | append_singleton run c ih =>
    have hle := counts_le_of_beginning respond (s := start capability) (List.prefix_append run [c])
    have hscreens' := Nat.le_trans hle.1 hscreens
    have hdisplays' := Nat.le_trans hle.2 hdisplays
    have hbefore := ih (fun c hc => hrun c (List.mem_append_left _ hc)) hscreens' hdisplays'
    rw [after_concat] at hscreens hdisplays ⊢
    exact current_perform respond (follows_after respond run hscreens' hdisplays') hbefore c
      (hrun c (by simp)) hscreens hdisplays

/-- **After every run in which nobody overrides a rotation, every display is bound to a live
screen and shows it as it is**, as long as no number of a screen, a group or a display has been
issued twice. -/
theorem displays_current (capability : FoldCapability) (run : List (Command ι))
    (hrun : ∀ c ∈ run, c.overrides = false)
    (hscreens : (after respond (start capability) run).topology.screenIds.count ≤ 2 ^ 64)
    (hdisplays : (after respond (start capability) run).topology.displayIds.count ≤ 2 ^ 64)
    (x : ScreenId) (d : DisplayId)
    (hbound : (after respond (start capability) run).registry.bindings.get? x = some d) :
    ∃ v s m, (after respond (start capability) run).registry.displays.get? d = some v ∧
      (after respond (start capability) run).topology.screen? x = some s ∧ v.Shows s m := by
  have hf := follows_after respond run hscreens hdisplays
  have h := current_after capability run hrun hscreens hdisplays
  obtain ⟨v, hv, rfl⟩ := (hf.orderly.bound x d).mp hbound
  obtain ⟨s, hs, -⟩ := (hf.serves_iff v.screen).mp ⟨d, v, hv, rfl⟩
  have hm := List.getElem?_eq_getElem (h.tuned v.screen s hs)
  exact ⟨v, s, _, hv, hs, Display.shows_of_portrays hm (h.portrays d v s hv hs)⟩

/-- A run in which a panel turns and switches its mode while it is mirrored and has no display,
gets one when the mirror stops, and is made unique with its rotation locked. -/
def turnedRun : List (Command Nat) :=
  [.arrange (.connect ⟨0⟩ ⟨"builtin", [⟨1080, 2340, 60⟩, ⟨720, 1560, 120⟩], 0, 2, []⟩),
    .arrange (.create ⟨"a", 640, 480, 1, none⟩),
    .arrange (.mirror ⟨2⟩ [⟨0⟩]),
    .senseRotation .deg90,
    .arrange (.setMode ⟨0⟩ 1),
    .arrange (.stopMirror [⟨0⟩]),
    .setAvailableArea ⟨0⟩ ⟨0, 20, 1560, 700⟩,
    .setState .on,
    .arrange (.makeUnique [⟨0⟩] ⟨true, .deg270⟩)]

theorem displays_current_turnedRun :
    (∀ c ∈ turnedRun, c.overrides = false) ∧
      (after quiet (start ⟨false, []⟩) turnedRun).topology.screenIds.count ≤ 2 ^ 64 ∧
      (after quiet (start ⟨false, []⟩) turnedRun).topology.displayIds.count ≤ 2 ^ 64 ∧
      (after quiet (start ⟨false, []⟩) turnedRun).registry.bindings.get? ⟨0⟩ = some ⟨2⟩ ∧
      ∃ v s m,
        (after quiet (start ⟨false, []⟩) turnedRun).registry.displays.get? ⟨2⟩ = some v ∧
        (after quiet (start ⟨false, []⟩) turnedRun).topology.screen? ⟨0⟩ = some s ∧
        v.Shows s m :=
  ⟨by decide, by decide +kernel, by decide +kernel, by decide +kernel,
    displays_current ⟨false, []⟩ turnedRun (by decide) (by decide +kernel) (by decide +kernel)
      ⟨0⟩ ⟨2⟩ (by decide +kernel)⟩

end Service

end DisplayServer
