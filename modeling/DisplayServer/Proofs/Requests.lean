import DisplayServer.Proofs.Lookup
import DisplayServer.Topology.Operations

/-!
# What becomes of a request

An operation of the topology checks its request and then either refuses it, leaving everything
as it was, or carries it out by an edit. Here each operation is cut into these cases once, with
all that its checks have established, so that no later proof goes through the checks again.
-/

namespace DisplayServer

namespace Topology

/-! ## Checks -/

theorem pixelRatio_of_panelFault? {panel : PanelDescription} (h : panelFault? panel = none) :
    0 < panel.pixelRatio := by
  unfold panelFault? at h
  split at h
  · cases h
  · split at h
    · cases h
    · split at h
      · assumption
      · cases h

theorem density_of_requestFault? {request : VirtualScreenRequest}
    (h : requestFault? request = none) : 0 < request.density := by
  unfold requestFault? at h
  split at h
  · cases h
  · split at h
    · assumption
    · cases h

/-- Nothing is wrong with numbers that all name live screens. -/
theorem leafFault?_eq_none_iff {t : Topology} {ids : List ScreenId} :
    t.leafFault? ids = none ↔ ∀ x ∈ ids, ∃ s, t.screen? x = some s := by
  induction ids with
  | nil => simp [leafFault?]
  | cons x rest ih =>
    rw [List.forall_mem_cons]
    unfold leafFault?
    split
    · rename_i hx
      simp [screen?, hx]
    · rename_i g hx
      simp [screen?, hx, Node.leaf?]
    · rename_i s hx
      rw [ih]
      simp [screen?, hx, Node.leaf?]

theorem mem_distinct {ids : List ScreenId} {x : ScreenId} : x ∈ distinct ids ↔ x ∈ ids := by
  induction ids with
  | nil => simp [distinct]
  | cons y rest ih =>
    simp only [distinct, List.mem_cons, List.mem_filter, ih, decide_eq_true_eq]
    by_cases hx : x = y
    · simp [hx]
    · simp [hx]

theorem nodup_distinct (ids : List ScreenId) : (distinct ids).Nodup := by
  induction ids with
  | nil => exact List.nodup_nil
  | cons x rest ih => exact List.nodup_cons.mpr ⟨by simp, ih.filter _⟩

theorem virtual?_eq_some_iff {t : Topology} {x : ScreenId} {s : Screen} :
    t.virtual? x = some s ↔ t.screen? x = some s ∧ s.isVirtual = true := by
  unfold virtual?
  rw [Option.filter_eq_some_iff]

/-! ## Panels -/

theorem homeGroup_of_some {t : Topology} {g : ScreenId} (h : t.defaultGroup = some g)
    (x : ScreenId) : t.homeGroup x = (t, g) := by
  unfold homeGroup
  rw [h]

theorem homeGroup_of_none {t : Topology} (h : t.defaultGroup = none) (x : ScreenId) :
    t.homeGroup x =
      ((t.openGroup .alone (some x)).setHome (some t.nextScreenId), t.nextScreenId) := by
  unfold homeGroup
  rw [h]
  rfl

/-- A panel is enlisted, reported, and joins the group that panels join. -/
theorem connect_cases (t : Topology) (r : RenderId) (panel : PanelDescription) :
    (∃ e, t.connect r panel = .refuse t e) ∨
      ∃ s, s = Screen.ofPanel t.nextScreenId r panel ∧ panelFault? panel = none ∧
        t.renderIndex.get? r = none ∧
        t.connect r panel = .done
          (((Draft.begin ((t.plugIn s).homeGroup s.id).1).emit (.connected s.report)).attach
            s.id ((t.plugIn s).homeGroup s.id).2 .origin) s.id := by
  unfold connect
  split
  · exact .inl ⟨_, rfl⟩
  · rename_i hfault
    split
    · exact .inl ⟨_, rfl⟩
    · rename_i hnew
      refine .inr ⟨_, rfl, hfault, ?_, rfl⟩
      simpa [Table.contains] using hnew

theorem disconnect_cases (t : Topology) (r : RenderId) :
    (∃ e, t.disconnect r = .refuse t e) ∨
      ∃ x, t.renderIndex.get? r = some x ∧ t.disconnect r = .done ((Draft.begin t).erase x) x := by
  unfold disconnect
  split
  · exact .inl ⟨_, rfl⟩
  · rename_i x hx
    exact .inr ⟨x, hx, rfl⟩

/-! ## Software screens -/

/-- A software screen is enlisted and reported. -/
theorem create_cases (t : Topology) (request : VirtualScreenRequest) :
    (∃ e, t.create request = .refuse t e) ∨
      ∃ s, s = Screen.ofRequest t.nextScreenId ⟨t.virtualRenderIds.peek⟩ request ∧
        requestFault? request = none ∧
        t.create request =
          .done ((Draft.begin (t.addSoftware s)).emit (.connected s.report)) s.id := by
  unfold create
  split
  · exact .inl ⟨_, rfl⟩
  · rename_i hfault
    exact .inr ⟨_, rfl, hfault, rfl⟩

theorem destroy_cases (t : Topology) (x : ScreenId) :
    (∃ e, t.destroy x = .refuse t e) ∨
      ∃ s, t.screen? x = some s ∧ s.isVirtual = true ∧
        t.destroy x = .done ((Draft.begin t).erase x) () := by
  unfold destroy
  split
  · exact .inl ⟨_, rfl⟩
  · rename_i s hs
    obtain ⟨hs, hv⟩ := virtual?_eq_some_iff.mp hs
    exact .inr ⟨s, hs, hv, rfl⟩

theorem setSurface_cases (t : Topology) (x : ScreenId) (surface : Option SurfaceHandle) :
    (∃ e, t.setSurface x surface = .refuse t e) ∨
      t.setSurface x surface =
        .done (.begin (t.modifyScreen x fun s => { s with surface })) () := by
  unfold setSurface
  split
  · exact .inl ⟨_, rfl⟩
  · exact .inr rfl

/-! ## Composition -/

/-- The screens are moved onto the mirror that `main` has, or onto a new one. -/
theorem mirror_cases (t : Topology) (main : ScreenId) (ids : List ScreenId) :
    (∃ e, t.mirror main ids = .refuse t e) ∨
      (main ∉ ids ∧ (∃ s, t.screen? main = some s) ∧ distinct ids ≠ [] ∧
        (∀ x ∈ distinct ids, ∃ s, t.screen? x = some s) ∧
        ((∃ g, g ∈ t.mirrorsOf main ∧
          t.mirror main ids = .done ((distinct ids).foldl (mirrorOnto g) (.begin t)) g) ∨
        (t.mirrorsOf main = [] ∧ t.mirror main ids = .done
          ((distinct ids).foldl (mirrorOnto t.nextScreenId)
            (.begin (t.openGroup .mirror (some main)))) t.nextScreenId))) := by
  unfold mirror
  split
  · exact .inl ⟨_, rfl⟩
  · rename_i hids
    split
    · exact .inl ⟨_, rfl⟩
    · rename_i hmain
      split
      · exact .inl ⟨_, rfl⟩
      · rename_i hlive
        right
        refine ⟨?_, leafFault?_eq_none_iff.mp hlive main List.mem_cons_self, ?_, ?_, ?_⟩
        · simpa using hmain
        · cases ids with
          | nil => exact absurd rfl hids
          | cons x rest => exact List.cons_ne_nil _ _
        · intro x hx
          have := leafFault?_eq_none_iff.mp hlive x
          -- the check was made of `main` and of all that were listed
          exact this (List.mem_cons_of_mem _ (mem_distinct.mp hx))
        · cases hm : t.mirrorsOf main with
          | nil => exact .inr ⟨rfl, rfl⟩
          | cons g rest => exact .inl ⟨g, List.mem_cons_self, rfl⟩

/-- What mirroring has checked where it is granted. -/
theorem mirror_granted (t : Topology) (main : ScreenId) (ids : List ScreenId) :
    (∃ e, t.mirror main ids = .refuse t e) ∨
      ((t.mirror main ids).result.isOk ∧ main ∉ ids ∧ ∃ s, t.screen? main = some s) := by
  obtain hrefused | ⟨hnot, hmain, -, -, ⟨g, -, hd⟩ | ⟨-, hd⟩⟩ := mirror_cases t main ids
  · exact .inl hrefused
  · exact .inr ⟨by rw [hd]; rfl, hnot, hmain⟩
  · exact .inr ⟨by rw [hd]; rfl, hnot, hmain⟩

/-- The screens are placed on the desktop that the first one is part of, or on a new one. -/
theorem expand_cases (t : Topology) (ids : List ScreenId) (starts : List Point) :
    (∃ e, t.expand ids starts = .refuse t e) ∨
      ∃ first start rest, ids.zip starts = (first, start) :: rest ∧
        (∀ p ∈ ids.zip starts, ∃ s, t.screen? p.1 = some s) ∧
        ((∃ g, t.parent? first = some g ∧ t.combination? g = some .expand ∧
          t.expand ids starts = .done ((ids.zip starts).foldl (expandOnto g) (.begin t)) g) ∨
        t.expand ids starts = .done
          ((ids.zip starts).foldl (expandOnto t.nextScreenId)
            (.begin (t.openGroup .expand (some first)))) t.nextScreenId) := by
  unfold expand
  split
  · exact .inl ⟨_, rfl⟩
  · rename_i first ids
    split
    · exact .inl ⟨_, rfl⟩
    · rename_i hlength
      split
      · exact .inl ⟨_, rfl⟩
      · split
        · exact .inl ⟨_, rfl⟩
        · rename_i hlive
          right
          -- as many starts as screens, and there is a screen
          obtain ⟨start, starts, rfl⟩ : ∃ start more, starts = start :: more := by
            cases starts with
            | nil => simp at hlength
            | cons start more => exact ⟨start, more, rfl⟩
          refine ⟨first, start, ids.zip starts, rfl, ?_, ?_⟩
          · intro p hp
            exact leafFault?_eq_none_iff.mp hlive p.1 (List.of_mem_zip hp).1
          · cases hd : (t.parent? first).filter fun g => t.combination? g == some .expand with
            | none => exact .inr rfl
            | some g =>
              obtain ⟨hparent, hexpand⟩ := Option.filter_eq_some_iff.mp hd
              exact .inl ⟨g, hparent, eq_of_beq hexpand, rfl⟩

theorem makeUnique_cases (t : Topology) (ids : List ScreenId) (turn : UniqueRotation) :
    (∃ e, t.makeUnique ids turn = .refuse t e) ∨
      ((∀ x ∈ distinct ids, ∃ s, t.screen? x = some s) ∧
        t.makeUnique ids turn =
          ⟨(makeUniqueSteps turn (distinct ids) (.begin t)).1,
            (makeUniqueSteps turn (distinct ids) (.begin t)).2.topology,
            (makeUniqueSteps turn (distinct ids) (.begin t)).2.events⟩) := by
  unfold makeUnique
  split
  · exact .inl ⟨_, rfl⟩
  · split
    · exact .inl ⟨_, rfl⟩
    · rename_i hlive
      refine .inr ⟨?_, rfl⟩
      intro x hx
      have := List.find?_eq_none.mp hlive x (mem_distinct.mp hx)
      cases hs : t.screen? x with
      | none => simp [hs] at this
      | some s => exact ⟨s, rfl⟩

theorem stop_cases (t : Topology) (combination : Combination) (ids : List ScreenId) :
    (∃ e, t.stop combination ids = .refuse t e) ∨
      t.stop combination ids = .done (ids.foldl (stopStep combination) (.begin t)) () := by
  unfold stop
  split
  · exact .inl ⟨_, rfl⟩
  · exact .inr rfl

/-! ## Properties of screens -/

/-- A screen turns, is asked for the rotation it has, or is not there. -/
theorem rotate_cases (t : Topology) (x : ScreenId) (rotation : Rotation) :
    (∃ e, t.rotate x rotation = .refuse t e) ∨ t.rotate x rotation = .done (.begin t) () ∨
      ∃ s, t.screen? x = some s ∧ s.rotation ≠ rotation ∧
        t.rotate x rotation = .done ((Draft.begin (t.putScreen { s with rotation })).emit
          (.changed { s with rotation }.report .rotation)) () := by
  unfold rotate
  split
  · exact .inl ⟨_, rfl⟩
  · rename_i s hs
    split
    · exact .inr (.inl rfl)
    · rename_i hne
      exact .inr (.inr ⟨s, hs, hne, rfl⟩)

/-- A screen switches its mode, is asked for the mode it shows, or the request is refused. -/
theorem setMode_cases (t : Topology) (x : ScreenId) (index : Nat) :
    (∃ e, t.setMode x index = .refuse t e) ∨ t.setMode x index = .done (.begin t) () ∨
      ∃ s, t.screen? x = some s ∧ index < s.modes.length ∧ s.activeMode ≠ index ∧
        t.setMode x index = .done ((Draft.begin (t.putScreen { s with activeMode := index })).emit
          (.changed { s with activeMode := index }.report .mode)) () := by
  unfold setMode
  split
  · exact .inl ⟨_, rfl⟩
  · rename_i s hs
    split
    · exact .inl ⟨_, rfl⟩
    · rename_i hindex
      split
      · exact .inr (.inl rfl)
      · rename_i hne
        exact .inr (.inr ⟨s, hs, Nat.lt_of_not_le hindex, hne, rfl⟩)

end Topology

end DisplayServer
