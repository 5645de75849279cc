import DisplayServer.Proofs.Sources
import Mathlib.Data.List.Induction

/-!
# Every mirror has one source, and every source one mirror

The source of a mirror is kept by its number alone: it is not a child of the mirror, so it may
move to other groups, be mirrored onto others, or go, while the mirror lives. Still it is always
live, for when a screen goes its mirrors are stopped first. And no source has two mirrors, for
mirroring brings the listed screens into the mirror that the source has and opens one only where
it has none. Both are laws of sources of screens (`Mirroring`), since no mirror is without
children.
-/

namespace DisplayServer

namespace Topology

open Draft

variable {t : Topology}

/-! ## Sources of screens -/

/-- How sources stand to the groups that show them. -/
structure Mirroring (t : Topology) : Prop where
  /-- A source is live. -/
  live : SourcesLive t
  /-- No screen is its own source. -/
  other : ∀ x, t.source? x ≠ some x
  /-- Screens that show one source are in one group. -/
  together : ∀ x y main, t.source? x = some main → t.source? y = some main →
    t.parent? x = t.parent? y

theorem mirroring_empty : Mirroring .empty where
  live := by intro x y hy; cases hy
  other := by intro x hx; cases hx
  together := by intro x y main hx; cases hx

/-- A mirror has a child, and the child shows the source. -/
theorem child_of_mirror (h : Sound t) {g main : ScreenId} {grp : ScreenGroup}
    (hg : t.group? g = some grp) (hm : isMirrorOf main grp = true) :
    ∃ z, t.parent? z = some g ∧ t.source? z = some main := by
  obtain ⟨z, rest, hz⟩ := List.exists_cons_of_ne_nil (h.populated g grp hg)
  have hp : t.parent? z = some g := by
    rw [h.parent?_eq_some_iff hg, hz]
    exact List.mem_cons_self
  refine ⟨z, hp, (source?_of_parent? hp).trans ?_⟩
  exact (shown?_of_group? hg).trans (ScreenGroup.source?_eq_some_iff.mpr hm)

/-- All screens that show a source are in any mirror of it. -/
theorem Mirroring.parent?_of_source? (hm : Mirroring t) (h : Sound t) {g main y : ScreenId}
    (hg : g ∈ t.mirrorsOf main) (hy : t.source? y = some main) : t.parent? y = some g := by
  obtain ⟨grp, hgrp, hmirror⟩ := group?_of_mem_mirrorsOf h.toLinked hg
  obtain ⟨z, hp, hz⟩ := child_of_mirror h hgrp hmirror
  rw [hm.together y z main hy hz]
  exact hp

/-- A source has a mirror as long as a screen shows it. -/
theorem mirrorsOf_ne_nil_of_source? (h : Sound t) {y main : ScreenId}
    (hy : t.source? y = some main) : t.mirrorsOf main ≠ [] := by
  obtain ⟨g, grp, -, hg, hm⟩ := mirror_of_source? hy
  exact List.ne_nil_of_mem (mem_mirrorsOf h.toLinked hg hm)

/-- Mirroring keeps the screens that show one source together. -/
theorem together_mirror (hm : Mirroring t) (h : Sound t) {main : ScreenId} {ids : List ScreenId}
    (hcount : (t.mirror main ids).topology.screenIds.count ≤ 2 ^ 64)
    (hok : (t.mirror main ids).result.isOk) {x y m : ScreenId}
    (hx : (t.mirror main ids).topology.source? x = some m)
    (hy : (t.mirror main ids).topology.source? y = some m) :
    (t.mirror main ids).topology.parent? x = (t.mirror main ids).topology.parent? y := by
  obtain ⟨g, grp, hcollects, -, -, hgroup⟩ := mirror_collects h hcount hok
  -- a screen that showed the source before is in the mirror that was used again
  have hold : ∀ z, t.source? z = some main → t.parent? z = some g := by
    intro z hz
    rcases hgroup with hg | hnone
    · exact hm.parent?_of_source? h hg hz
    · exact absurd hnone (mirrorsOf_ne_nil_of_source? h hz)
  rw [source?_mirror h hcount hok] at hx hy
  rw [hcollects, hcollects]
  by_cases hx' : x ∈ ids
  · rw [if_pos hx'] at hx ⊢
    obtain rfl := Option.some.inj hx
    by_cases hy' : y ∈ ids
    · rw [if_pos hy']
    · rw [if_neg hy'] at hy ⊢
      exact (hold y hy).symm
  · rw [if_neg hx'] at hx ⊢
    by_cases hy' : y ∈ ids
    · rw [if_pos hy'] at hy ⊢
      obtain rfl := Option.some.inj hy
      exact hold x hx
    · rw [if_neg hy'] at hy ⊢
      exact hm.together x y m hx hy

theorem mirroring_perform (hm : Mirroring t) (h : Sound t) (hformed : Formed t) (c : Command)
    (hcount : (t.perform c).screenIds.count ≤ 2 ^ 64) : Mirroring (t.perform c) := by
  have hlive := sourcesLive_perform h hformed hm.live c hcount
  -- all operations but mirroring take sources away and leave the rest where it is
  have hfewer : (∀ main ids, c ≠ .mirror main ids) → Mirroring (t.perform c) := by
    intro hc
    refine ⟨hlive, fun x hx => ?_, fun x y m hx hy => ?_⟩
    · exact hm.other x (source?_outcome h hformed hcount hc hx)
    · rw [parent?_outcome h hformed hcount hc hx, parent?_outcome h hformed hcount hc hy]
      exact hm.together x y m (source?_outcome h hformed hcount hc hx)
        (source?_outcome h hformed hcount hc hy)
  cases c with
  | mirror main ids =>
    obtain ⟨e, hd⟩ | ⟨hok, hmain, -⟩ := mirror_granted t main ids
    · have hsame : t.perform (.mirror main ids) = t :=
        congrArg (fun o => o.topology) hd
      rw [hsame]
      exact hm
    · refine ⟨hlive, fun x hx => ?_, fun x y m => together_mirror hm h hcount hok⟩
      have hx : (t.mirror main ids).topology.source? x = some x := hx
      rw [source?_mirror h hcount hok] at hx
      split at hx
      · rename_i hmem
        exact hmain (Option.some.inj hx ▸ hmem)
      · exact hm.other x hx
  | _ => exact hfewer fun _ _ => Command.noConfusion

theorem mirroring_after (run : List Command) (hcount : (after run).screenIds.count ≤ 2 ^ 64) :
    Mirroring (after run) := by
  induction run using List.reverseRecOn with
  | nil => exact mirroring_empty
  | append_singleton run c ih =>
    have hle := Nat.le_trans (screenIds_le_of_beginning (List.prefix_append run [c])) hcount
    rw [after_concat] at hcount ⊢
    exact mirroring_perform (ih hle) (sound_after run hle) (formed_after run hle) c hcount

/-! ## Mirrors -/

/-- Groups are listed under numbers that differ. -/
theorem Linked.pairwise_groups (h : Linked t) : t.groups.Pairwise fun a b => a.id ≠ b.id := by
  have hid : ∀ e ∈ t.nodes.entries, ∀ grp, e.2.group? = some grp → grp.id = e.1 := by
    rintro ⟨k, n⟩ he grp hgrp
    have hk : t.nodes.get? k = some n := (Table.mem_entries_iff _ k n).mp he
    refine h.group_id k grp ?_
    rw [group?, hk]
    exact hgrp
  unfold groups Table.values
  rw [List.pairwise_filterMap, List.pairwise_map]
  refine t.nodes.ascending.imp_of_mem fun {a b} ha hb hlt grp hgrp grp' hgrp' heq => ?_
  rw [hid a ha grp hgrp, hid b hb grp' hgrp'] at heq
  rw [heq] at hlt
  exact absurd hlt (Int.lt_irrefl _)

/-- Every mirror has a source of its own. -/
structure MirrorsSound (t : Topology) : Prop where
  /-- The main screen of a mirror is a live screen, and it is none of the children. -/
  source : ∀ g m, t.membership? g = some m → m.combination = .mirror →
    ∃ x s, m.main = some x ∧ t.screen? x = some s ∧ x ∉ m.children
  /-- Mirrors of one screen are one mirror. -/
  unique : ∀ g k m n, t.membership? g = some m → t.membership? k = some n →
    m.combination = .mirror → n.combination = .mirror → m.main = n.main → g = k
  /-- A screen has at most one mirror that could be used again. -/
  single : ∀ x, (t.mirrorsOf x).length ≤ 1

theorem mirrorsSound_of_mirroring (hm : Mirroring t) (h : Sound t) (hformed : Formed t) :
    MirrorsSound t := by
  -- a mirror of `x` has a child, which shows `x`
  have hmirror : ∀ {g m}, t.membership? g = some m → m.combination = .mirror →
      ∃ grp x, t.group? g = some grp ∧ grp.membership = m ∧ m.main = some x ∧
        isMirrorOf x grp = true := by
    intro g m hg hc
    obtain ⟨grp, hgrp, rfl⟩ := Option.map_eq_some_iff.mp hg
    obtain ⟨x, hx⟩ := hformed.main g grp hgrp
    exact ⟨grp, x, hgrp, rfl, hx, isMirrorOf_iff.mpr ⟨hc, hx⟩⟩
  have hunique : ∀ {g k grp grp' x}, t.group? g = some grp → t.group? k = some grp' →
      isMirrorOf x grp = true → isMirrorOf x grp' = true → g = k := by
    intro g k grp grp' x hg hk hx hx'
    obtain ⟨y, hy, hysource⟩ := child_of_mirror h hg hx
    obtain ⟨z, hz, hzsource⟩ := child_of_mirror h hk hx'
    have htogether := hm.together y z x hysource hzsource
    rw [hy, hz] at htogether
    exact Option.some.inj htogether
  refine ⟨fun g m hg hc => ?_, fun g k m n hg hk hc hc' hmain => ?_, fun x => ?_⟩
  · obtain ⟨grp, x, hgrp, rfl, hx, hof⟩ := hmirror hg hc
    obtain ⟨z, -, hz⟩ := child_of_mirror h hgrp hof
    obtain ⟨s, hs⟩ := hm.live z x hz
    refine ⟨x, s, hx, hs, fun hmem => hm.other x ?_⟩
    rw [source?_of_parent? ((h.parent?_eq_some_iff hgrp x).mpr hmem)]
    exact (shown?_of_group? hgrp).trans (ScreenGroup.source?_eq_some_iff.mpr hof)
  · obtain ⟨grp, x, hgrp, -, hx, hof⟩ := hmirror hg hc
    obtain ⟨grp', x', hgrp', -, hx', hof'⟩ := hmirror hk hc'
    rw [hx, hx'] at hmain
    obtain rfl := Option.some.inj hmain
    exact hunique hgrp hgrp' hof hof'
  · have hnodup : (t.mirrorsOf x).Nodup := by
      unfold mirrorsOf
      rw [List.Nodup, List.pairwise_map]
      exact h.pairwise_groups.filter _
    cases hlist : t.mirrorsOf x with
    | nil => exact Nat.zero_le 1
    | cons g rest =>
      cases rest with
      | nil => exact Nat.le_refl 1
      | cons k rest =>
        have hg : g ∈ t.mirrorsOf x := by rw [hlist]; simp
        have hk : k ∈ t.mirrorsOf x := by rw [hlist]; simp
        obtain ⟨grp, hgrp, hof⟩ := group?_of_mem_mirrorsOf h.toLinked hg
        obtain ⟨grp', hgrp', hof'⟩ := group?_of_mem_mirrorsOf h.toLinked hk
        rw [hlist, hunique hgrp hgrp' hof hof'] at hnodup
        simp at hnodup

/-- **After every run each mirror shows a live screen that is not in it, and no two mirrors show
the same screen.** -/
theorem mirrorsSound_after (run : List Command) (hcount : (after run).screenIds.count ≤ 2 ^ 64) :
    MirrorsSound (after run) :=
  mirrorsSound_of_mirroring (mirroring_after run hcount) (sound_after run hcount)
    (formed_after run hcount)

/-- The source of a mirror moves onto a desktop and then comes to show another screen, while its
own mirror grows; then that other screen is destroyed. -/
def wanderingRun : List Command :=
  [.connect ⟨0⟩ ⟨"builtin", [⟨1080, 2340, 60⟩], 0, 2, []⟩,
    .create ⟨"a", 640, 480, 1, none⟩,
    .create ⟨"b", 640, 480, 1, none⟩,
    .create ⟨"c", 640, 480, 1, none⟩,
    .mirror ⟨2⟩ [⟨3⟩],
    .expand [⟨2⟩, ⟨4⟩] [⟨0, 0⟩, ⟨640, 0⟩],
    .mirror ⟨4⟩ [⟨2⟩],
    .mirror ⟨2⟩ [⟨0⟩],
    .destroy ⟨4⟩]

theorem mirrorsSound_after_wanderingRun :
    (after wanderingRun).screenIds.count ≤ 2 ^ 64 ∧ MirrorsSound (after wanderingRun) :=
  ⟨by decide, mirrorsSound_after wanderingRun (by decide)⟩

end Topology

end DisplayServer
