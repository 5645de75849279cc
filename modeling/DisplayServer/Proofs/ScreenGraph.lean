import DisplayServer.Proofs.Decompose

/-!
# The graph of screens and groups

The link between a screen and its group is stored at both ends. `ScreenGraph` says what a reader
of the topology may rely on: the two ends agree, groups list live screens and are never empty,
no screen is in two groups, and groups are never nested. It holds after every operation of every
run, granted or refused, as long as no number of a screen or group has been issued twice; the
source of these numbers starts over only after 2⁶⁴ of them.
-/

namespace DisplayServer

namespace Topology

/-- How screens and groups hang together. -/
structure ScreenGraph (t : Topology) : Prop where
  /-- A screen names a group exactly when that group is live and lists it. -/
  parent_iff : ∀ x s g, t.screen? x = some s →
    (s.parent = some g ↔ ∃ grp, t.group? g = some grp ∧ x ∈ grp.composition.children)
  /-- Every child of a group is a live screen. -/
  child_live : ∀ g grp, t.group? g = some grp →
    ∀ x ∈ grp.composition.children, ∃ s, t.screen? x = some s
  /-- No group lists a screen twice. -/
  child_once : ∀ g grp, t.group? g = some grp → grp.composition.children.Nodup
  /-- No two groups list the same screen. -/
  disjoint : ∀ g g' grp grp' x, t.group? g = some grp → t.group? g' = some grp' →
    x ∈ grp.composition.children → x ∈ grp'.composition.children → g = g'
  /-- No group is empty. -/
  populated : ∀ g grp, t.group? g = some grp → grp.composition.children ≠ []
  /-- No group has a parent: none is reported, as a group keeps none, and no group lists a group. -/
  top_level : ∀ g grp, t.group? g = some grp →
    (t.report? g).bind ScreenReport.parent = none ∧
      ∀ g' grp', t.group? g' = some grp' → g ∉ grp'.composition.children

theorem screenGraph_of_sound {t : Topology} (h : Sound t) : ScreenGraph t where
  parent_iff := by
    intro x s g hs
    constructor
    · intro hp
      exact h.listed x s g hs hp
    · rintro ⟨grp, hg, hx⟩
      have hparent := (h.parent?_eq_some_iff hg x).mpr hx
      rw [parent?_of_screen? hs] at hparent
      exact hparent
  child_live := by
    intro g grp hg x hx
    obtain ⟨s, hs, -⟩ := h.member g grp x hg hx
    exact ⟨s, hs⟩
  child_once := h.nodup
  disjoint := by
    intro g g' grp grp' x hg hg' hx hx'
    -- the screen names only one of them
    have hp := (h.parent?_eq_some_iff hg x).mpr hx
    have hp' := (h.parent?_eq_some_iff hg' x).mpr hx'
    exact Option.some.inj (hp.symm.trans hp')
  populated := h.populated
  top_level := by
    intro g grp hg
    constructor
    · simp only [report?, group?_eq_some_iff.mp hg, Option.map_some, Option.bind_some]
      rfl
    · intro g' grp' hg' hmem
      obtain ⟨s, hs, -⟩ := h.member g' grp' g hg' hmem
      rw [screen?_eq_none_of_group? hg] at hs
      cases hs

/-- **After every run screens and groups hang together.** -/
theorem screenGraph_after (run : List Command) (hcount : (after run).screenIds.count ≤ 2 ^ 64) :
    ScreenGraph (after run) :=
  screenGraph_of_sound (sound_after run hcount)

/-- A panel, three software screens, two of them on a mirror of the panel; then one of these is
made the source of another mirror, and the panel is unplugged. -/
def mirroredRun : List Command :=
  [.connect ⟨0⟩ ⟨"builtin", [⟨1080, 2340, 60⟩], 0, 2, []⟩,
    .create ⟨"a", 640, 480, 1, none⟩,
    .create ⟨"b", 640, 480, 1, none⟩,
    .create ⟨"c", 640, 480, 1, none⟩,
    .mirror ⟨0⟩ [⟨2⟩, ⟨3⟩, ⟨2⟩],
    .mirror ⟨3⟩ [⟨2⟩, ⟨4⟩],
    .expand [⟨2⟩, ⟨9⟩] [⟨0, 0⟩, ⟨640, 0⟩],
    .disconnect ⟨0⟩]

theorem screenGraph_after_mirroredRun :
    (after mirroredRun).screenIds.count ≤ 2 ^ 64 ∧ ScreenGraph (after mirroredRun) :=
  ⟨by decide, screenGraph_after mirroredRun (by decide)⟩

end Topology

end DisplayServer
