import DisplayServer.Proofs.Groupings

/-!
# Whose picture a screen shows

A screen in a mirror shows the picture of the main screen of that mirror, its source. Whose
picture a screen shows hangs on the group that it names and on what that group is, and a group
never turns into another one: so a screen that stays in its group keeps its source
(`Changes.source?_of_parent?`). Mirroring gives the listed screens the source asked for and
leaves all others theirs (`source?_mirror`).

Two laws of runs come with it: all operations but mirroring leave a screen that has a source
where it is, so they only take sources away; and sources are live.
-/

namespace DisplayServer

/-- The screen that the children of the group show. -/
def ScreenGroup.source? (g : ScreenGroup) : Option ScreenId :=
  if g.composition.combination = .mirror then g.composition.main else none

namespace ScreenGroup

theorem source?_eq_some_iff {g : ScreenGroup} {y : ScreenId} :
    g.source? = some y ↔ Topology.isMirrorOf y g = true := by
  rw [Topology.isMirrorOf_iff, source?]
  split
  · rename_i hmirror
    exact (and_iff_right hmirror).symm
  · rename_i hother
    exact iff_of_false (fun hy => by cases hy) fun hm => hother hm.1

end ScreenGroup

namespace Topology

/-- The screen that the children of the group under this number show. -/
def shown? (t : Topology) (g : ScreenId) : Option ScreenId :=
  (t.group? g).bind ScreenGroup.source?

/-- The screen whose picture another one shows. -/
def source? (t : Topology) (x : ScreenId) : Option ScreenId := (t.parent? x).bind t.shown?

variable {t u : Topology}

theorem shown?_of_group? {g : ScreenId} {grp : ScreenGroup} (hg : t.group? g = some grp) :
    t.shown? g = grp.source? := by
  rw [shown?, hg]
  rfl

theorem source?_of_parent? {x : ScreenId} {p : Option ScreenId} (hp : t.parent? x = p) :
    t.source? x = p.bind t.shown? := by
  rw [source?, hp]

/-- A screen with a source is in a mirror of it. -/
theorem mirror_of_source? {x y : ScreenId} (h : t.source? x = some y) :
    ∃ g grp, t.parent? x = some g ∧ t.group? g = some grp ∧ isMirrorOf y grp = true := by
  obtain ⟨g, hp, hshown⟩ := Option.bind_eq_some_iff.mp h
  obtain ⟨grp, hg, hy⟩ := Option.bind_eq_some_iff.mp hshown
  exact ⟨g, grp, hp, hg, ScreenGroup.source?_eq_some_iff.mp hy⟩

theorem live_of_source? {x y : ScreenId} (h : t.source? x = some y) :
    ∃ s, t.screen? x = some s := by
  obtain ⟨g, -, hp, -⟩ := mirror_of_source? h
  obtain ⟨s, hs, -⟩ := parent?_eq_some_iff.mp hp
  exact ⟨s, hs⟩

/-! ## Changes -/

/-- A screen that is in the group that it was in has the source that it had. -/
theorem Changes.source?_of_parent? {es : List TopologyEvent} (hc : Changes t es u) (h : Sound t)
    (hcount : u.screenIds.count ≤ 2 ^ 64) {x : ScreenId} (hp : u.parent? x = t.parent? x) :
    u.source? x = t.source? x := by
  rw [Topology.source?_of_parent? hp, source?]
  cases hparent : t.parent? x with
  | none => rfl
  | some g =>
    rw [hparent] at hp
    obtain ⟨s, hs, hsp⟩ := parent?_eq_some_iff.mp hparent
    obtain ⟨old, hold, -⟩ := h.listed x s g hs hsp
    obtain ⟨grp, hgrp, hcombination, hmain⟩ := hc.group?_of_child h hcount hold hp
    show u.shown? g = t.shown? g
    rw [shown?_of_group? hgrp, shown?_of_group? hold, ScreenGroup.source?, hcombination, hmain,
      ScreenGroup.source?]

/-- A source was a source before, or its screen is reported to have joined a group. -/
theorem Changes.source?_kept {es : List TopologyEvent} (hc : Changes t es u) (h : Sound t)
    (hcount : u.screenIds.count ≤ 2 ^ 64) {x y : ScreenId} (hy : u.source? x = some y) :
    t.source? x = some y ∨ ∃ s g, .joinedGroup s g ∈ es ∧ s.id = x := by
  obtain ⟨g, -, hp, -⟩ := mirror_of_source? hy
  rcases hc.parent?_kept hp with hold | hjoined
  · exact .inl ((hc.source?_of_parent? h hcount (hp.trans hold.symm)).symm.trans hy)
  · exact .inr hjoined

/-- A live screen does not go while it is a source. -/
theorem Change.live_source {es : List TopologyEvent} (hc : Change t es u) {x y : ScreenId}
    (hy : u.source? x = some y) (hlive : ∃ s, t.screen? y = some s) :
    ∃ s, u.screen? y = some s := by
  obtain ⟨s, hs⟩ := hlive
  rcases hc.live_after hs with ⟨s', hs', -⟩ | hgone
  · exact ⟨s', hs'⟩
  · -- only a screen that nothing mirrors is forgotten
    obtain ⟨g, grp, -, hg, hm⟩ := mirror_of_source? hy
    cases hc with
    | forget s' hs' hp hmirrors =>
      obtain rfl := TopologyEvent.disconnected.inj (List.mem_singleton.mp hgone)
      rw [group?_forget_of_live hs'] at hg
      rw [hmirrors g grp hg] at hm
      cases hm
    | _ => simp at hgone

/-! ## Operations -/

/-- Mirroring gives the listed screens the source asked for and leaves all others theirs. -/
theorem source?_mirror (h : Sound t) {main : ScreenId} {ids : List ScreenId}
    (hcount : (t.mirror main ids).topology.screenIds.count ≤ 2 ^ 64)
    (hok : (t.mirror main ids).result.isOk) (y : ScreenId) :
    (t.mirror main ids).topology.source? y =
      if y ∈ ids then some main else t.source? y := by
  obtain ⟨g, grp, hcollects, hgrp, hm, -⟩ := mirror_collects h hcount hok
  have hparent := hcollects y
  split
  · rename_i hy
    rw [if_pos hy] at hparent
    rw [source?_of_parent? hparent]
    exact (shown?_of_group? hgrp).trans (ScreenGroup.source?_eq_some_iff.mpr hm)
  · rename_i hy
    rw [if_neg hy] at hparent
    exact (changes_outcome h (.mirror main ids) hcount).source?_of_parent? h hcount hparent

/-- All operations but mirroring leave a screen that has a source in the group that it was in. -/
theorem parent?_outcome (h : Sound t) (hformed : Formed t) {c : Command}
    (hcount : (t.perform c).screenIds.count ≤ 2 ^ 64) (hc : ∀ main ids, c ≠ .mirror main ids)
    {x y : ScreenId} (hy : (t.perform c).source? x = some y) :
    (t.perform c).parent? x = t.parent? x := by
  obtain ⟨g, grp, hp, hg, hm⟩ := mirror_of_source? hy
  have hmirror : grp.composition.combination = .mirror := (isMirrorOf_iff.mp hm).1
  rcases brings_of_parent? h c hcount hp with hold | hbrings
  · exact hp.trans hold.symm
  · -- what a command brings screens into is no mirror
    cases c with
    | connect r panel =>
      have hformed' := formed_changes (changes_outcome h (.connect r panel) hcount) h hformed
      have halone := hformed'.home g grp hbrings.2 hg
      rw [hmirror] at halone
      cases halone
    | expand ids starts =>
      have hexpand := hbrings.2
      rw [combination?, hg, Option.map_some, hmirror] at hexpand
      cases hexpand
    | mirror main ids => exact absurd rfl (hc main ids)
    | _ => exact hbrings.elim

/-- All operations but mirroring only take sources away. -/
theorem source?_outcome (h : Sound t) (hformed : Formed t) {c : Command}
    (hcount : (t.perform c).screenIds.count ≤ 2 ^ 64) (hc : ∀ main ids, c ≠ .mirror main ids)
    {x y : ScreenId} (hy : (t.perform c).source? x = some y) : t.source? x = some y := by
  have hparent := parent?_outcome h hformed hcount hc hy
  have hsource := (changes_outcome h c hcount).source?_of_parent? h hcount hparent
  exact hsource.symm.trans hy

/-- Every source is live. -/
def SourcesLive (t : Topology) : Prop :=
  ∀ x y, t.source? x = some y → ∃ s, t.screen? y = some s

/-- Through changes in which nobody joins a group, sources stay live. -/
theorem sourcesLive_changes {es : List TopologyEvent} (hc : Changes t es u) (h : Sound t)
    (hcount : u.screenIds.count ≤ 2 ^ 64) (hlive : SourcesLive t)
    (hes : ∀ s g, .joinedGroup s g ∉ es) : SourcesLive u := by
  induction hc with
  | refl => exact hlive
  | tail hcs hc ih =>
    have hbefore := ih (Nat.le_trans hc.screenIds_le hcount)
      fun s g hm => hes s g (List.mem_append_left _ hm)
    intro x y hy
    rcases hc.changes.source?_kept (sound_changes hcs h) hcount hy with hold | ⟨s, g, hm, -⟩
    · exact hc.live_source hy (hbefore x y hold)
    · exact absurd (List.mem_append_right _ hm) (hes s g)

/-- An operation in which no screen goes keeps the sources live that were live before it. -/
theorem sourcesLive_of_kept (h : Sound t) {c : Command}
    (hcount : (t.perform c).screenIds.count ≤ 2 ^ 64) (hc : ∀ x, ¬ c.Reports (.disconnected x))
    (hlive : ∀ x y, (t.perform c).source? x = some y → ∃ s, t.screen? y = some s) :
    SourcesLive (t.perform c) := by
  intro x y hy
  obtain ⟨s, hs⟩ := hlive x y hy
  exact Draft.live_of_changes (changes_outcome h c hcount) (fun hm => hc y (reports_of_mem hm)) hs

theorem sourcesLive_perform (h : Sound t) (hformed : Formed t) (hlive : SourcesLive t)
    (c : Command) (hcount : (t.perform c).screenIds.count ≤ 2 ^ 64) :
    SourcesLive (t.perform c) := by
  have hunjoined : (∀ s g, ¬ c.Reports (.joinedGroup s g)) → SourcesLive (t.perform c) :=
    fun hc => sourcesLive_changes (changes_outcome h c hcount) h hcount hlive
      fun s g hm => hc s g (reports_of_mem hm)
  cases c with
  | connect r panel =>
    exact sourcesLive_of_kept h hcount (fun _ => id)
      fun x y hy => hlive x y (source?_outcome h hformed hcount (fun _ _ => Command.noConfusion) hy)
  | expand ids starts =>
    exact sourcesLive_of_kept h hcount (fun _ => id)
      fun x y hy => hlive x y (source?_outcome h hformed hcount (fun _ _ => Command.noConfusion) hy)
  | mirror main ids =>
    refine sourcesLive_of_kept h hcount (fun _ => id) fun x y hy => ?_
    have hy : (t.mirror main ids).topology.source? x = some y := hy
    obtain ⟨e, hd⟩ | ⟨hok, -, hmain⟩ := mirror_granted t main ids
    · rw [hd] at hy
      exact hlive x y hy
    · rw [source?_mirror h hcount hok] at hy
      split at hy
      · exact Option.some.inj hy ▸ hmain
      · exact hlive x y hy
  | _ => exact hunjoined fun _ _ => id

end Topology

end DisplayServer
