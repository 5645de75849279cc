import DisplayServer.Proofs.Change
import Mathlib.Algebra.Group.Nat.Defs

/-!
# What every change preserves

The link between a screen and its group is stored twice: the screen names the group, the group
lists the screen. `Linked` says that the two agree, that numbers are those under which entries
stand, and that what is kept beside the entries leads to live ones; `Sound` adds that no group
is empty. Both are stated through look-ups only, so a change has to be known by its look-ups and
by nothing else.
-/

namespace DisplayServer

namespace Topology

/-- Screens and groups name each other. -/
structure Linked (t : Topology) : Prop where
  /-- A screen stands under its own number. -/
  screen_id : ∀ x s, t.screen? x = some s → s.id = x
  /-- A group stands under its own number. -/
  group_id : ∀ x g, t.group? x = some g → g.id = x
  /-- The number of a screen has been drawn. -/
  screen_lt : ∀ x s, t.screen? x = some s → x.val < t.screenIds.count
  /-- The number of a group has been drawn. -/
  group_lt : ∀ x g, t.group? x = some g → x.val < t.screenIds.count
  /-- The group that a screen names lists it. -/
  listed : ∀ x s g, t.screen? x = some s → s.parent = some g →
    ∃ grp, t.group? g = some grp ∧ x ∈ grp.composition.children
  /-- A screen that a group lists names it. -/
  member : ∀ g grp x, t.group? g = some grp → x ∈ grp.composition.children →
    ∃ s, t.screen? x = some s ∧ s.parent = some g
  /-- No group lists a screen twice. -/
  nodup : ∀ g grp, t.group? g = some grp → grp.composition.children.Nodup
  /-- The group that panels join is live. -/
  home : ∀ g, t.defaultGroup = some g → ∃ grp, t.group? g = some grp
  /-- The index of the render engine leads to a live screen of that number. -/
  indexed : ∀ r x, t.renderIndex.get? r = some x → ∃ s, t.screen? x = some s ∧ s.renderId = r

/-- Screens and groups name each other, and every group has a child. -/
structure Sound (t : Topology) : Prop extends Linked t where
  /-- A group is dissolved when its last child leaves. -/
  populated : ∀ g grp, t.group? g = some grp → grp.composition.children ≠ []

theorem sound_empty : Sound .empty where
  screen_id := by intro x s h; simp [empty, screen?] at h
  group_id := by intro x g h; simp [empty, group?] at h
  screen_lt := by intro x s h; simp [empty, screen?] at h
  group_lt := by intro x g h; simp [empty, group?] at h
  listed := by intro x s g h; simp [empty, screen?] at h
  member := by intro g grp x h; simp [empty, group?] at h
  nodup := by intro g grp h; simp [empty, group?] at h
  home := by intro g h; simp [empty] at h
  indexed := by intro r x h; simp [empty] at h
  populated := by intro g grp h; simp [empty, group?] at h

/-- The soundness of a topology says nothing of default screen, display numbers and render
numbers to come, and screen numbers may be drawn without being used. -/
theorem sound_congr {t u : Topology} (h : Sound t) (hn : u.nodes = t.nodes)
    (hc : t.screenIds.count ≤ u.screenIds.count) (hd : u.defaultGroup = t.defaultGroup)
    (hr : u.renderIndex = t.renderIndex) : Sound u := by
  have hs : u.screen? = t.screen? := funext (screen?_congr hn)
  have hg : u.group? = t.group? := funext (group?_congr hn)
  constructor
  · constructor
    · rw [hs]; exact h.screen_id
    · rw [hg]; exact h.group_id
    · rw [hs]; exact fun x s hx => Nat.lt_of_lt_of_le (h.screen_lt x s hx) hc
    · rw [hg]; exact fun x g hx => Nat.lt_of_lt_of_le (h.group_lt x g hx) hc
    · rw [hs, hg]; exact h.listed
    · rw [hs, hg]; exact h.member
    · rw [hg]; exact h.nodup
    · rw [hd, hg]; exact h.home
    · rw [hr, hs]; exact h.indexed
  · rw [hg]; exact h.populated

/-- Any live group may be the one that panels join. -/
theorem sound_setHome {t : Topology} (h : Sound t) {home : Option ScreenId}
    (hhome : ∀ g, home = some g → ∃ grp, t.group? g = some grp) : Sound (t.setHome home) where
  screen_id := h.screen_id
  group_id := h.group_id
  screen_lt := h.screen_lt
  group_lt := h.group_lt
  listed := h.listed
  member := h.member
  nodup := h.nodup
  home := hhome
  indexed := h.indexed
  populated := h.populated

/-! ## What a sound topology says about one screen -/

theorem Linked.parent?_eq_some_iff {t : Topology} (h : Linked t) {g : ScreenId}
    {grp : ScreenGroup} (hg : t.group? g = some grp) (x : ScreenId) :
    t.parent? x = some g ↔ x ∈ grp.composition.children := by
  rw [Topology.parent?_eq_some_iff]
  constructor
  · rintro ⟨s, hs, hp⟩
    obtain ⟨grp', hg', hx⟩ := h.listed x s g hs hp
    rw [hg] at hg'
    rw [Option.some.inj hg']
    exact hx
  · intro hx
    exact h.member g grp x hg hx

theorem Linked.screen?_id {t : Topology} (h : Linked t) {x : ScreenId} {s : Screen}
    (hs : t.screen? x = some s) : t.screen? s.id = some s := by
  rw [h.screen_id x s hs]
  exact hs

theorem Linked.group?_id {t : Topology} (h : Linked t) {x : ScreenId} {g : ScreenGroup}
    (hg : t.group? x = some g) : t.group? g.id = some g := by
  rw [h.group_id x g hg]
  exact hg

/-- The number that comes next is free as long as none has been issued twice. -/
theorem Linked.free {t : Topology} (h : Linked t) (hc : t.screenIds.count < 2 ^ 64) :
    t.nodes.get? t.nextScreenId = none := by
  have hnext : t.nextScreenId.val = t.screenIds.count := IdSource.peek_of_lt hc
  rw [get?_eq_none_iff]
  constructor
  · cases hs : t.screen? t.nextScreenId with
    | none => rfl
    | some s =>
      have := h.screen_lt _ s hs
      omega
  · cases hg : t.group? t.nextScreenId with
    | none => rfl
    | some g =>
      have := h.group_lt _ g hg
      omega

/-! ## Each kind of write -/

/-- What holds of every entry found holds still when one of them is found rewritten, or not at
all. -/
theorem holds_of_rewritten {α : Type} {find find' : ScreenId → Option α} {k : ScreenId}
    {v : Option α} {P : ScreenId → α → Prop} (h : ∀ x a, find x = some a → P x a)
    (hfind : ∀ x, find' x = if x = k then v else find x) (hv : ∀ a, v = some a → P k a) :
    ∀ x a, find' x = some a → P x a := by
  intro x a hx
  rw [hfind] at hx
  split at hx
  · rename_i hk
    rw [hk]
    exact hv a hx
  · exact h x a hx

theorem nextScreenId_lt (t : Topology) : t.nextScreenId.val < t.screenIds.count + 1 :=
  Nat.lt_succ_of_le (Nat.mod_le _ _)

/-- A screen in no group may be enlisted under a free number. -/
theorem sound_enlist {t : Topology} (h : Sound t) {s : Screen} (hid : s.id = t.nextScreenId)
    (hp : s.parent = none) (hfree : t.nodes.get? t.nextScreenId = none) : Sound (t.enlist s) := by
  obtain ⟨hs, hg⟩ := get?_eq_none_iff.mp (hid ▸ hfree : t.nodes.get? s.id = none)
  have hscreen := fun x => screen?_enlist t x s
  have hgroup : ∀ x, (t.enlist s).group? x = t.group? x := by
    intro x
    rw [group?_enlist]
    split
    · rename_i hx; rw [hx, hg]
    · rfl
  have hlt : s.id.val < t.screenIds.count + 1 := hid ▸ nextScreenId_lt t
  exact {
    screen_id := holds_of_rewritten h.screen_id hscreen fun a ha => by
      cases ha
      rfl
    group_id := by
      rw [funext hgroup]
      exact h.group_id
    screen_lt := by
      have hold : ∀ x s', t.screen? x = some s' → x.val < t.screenIds.count + 1 :=
        fun x s' hx => Nat.lt_succ_of_lt (h.screen_lt x s' hx)
      exact holds_of_rewritten hold hscreen fun _ _ => hlt
    group_lt := by
      rw [funext hgroup]
      exact fun x g hx => Nat.lt_succ_of_lt (h.group_lt x g hx)
    listed := by
      intro x s' g hx hg'
      rw [hscreen] at hx
      rw [hgroup]
      split at hx
      · -- the new screen names no group
        rw [← Option.some.inj hx, hp] at hg'
        cases hg'
      · exact h.listed x s' g hx hg'
    member := by
      intro g grp x hgrp hx
      rw [hgroup] at hgrp
      obtain ⟨s', hs', hp'⟩ := h.member g grp x hgrp hx
      -- the child is live already, so its number is not the new one
      refine ⟨s', ?_, hp'⟩
      rw [hscreen, if_neg]
      · exact hs'
      · intro he
        rw [he, hs] at hs'
        cases hs'
    nodup := by
      rw [funext hgroup]
      exact h.nodup
    home := by
      intro g hd
      rw [hgroup]
      exact h.home g hd
    indexed := by
      intro r x hr
      -- the index gains the entry of the new screen and no other
      change (t.renderIndex.insert s.renderId s.id).get? r = some x at hr
      rw [Table.get?_insert_ite] at hr
      rw [hscreen]
      split at hr
      · rename_i hrs
        obtain rfl := Option.some.inj hr
        exact ⟨s, by rw [if_pos rfl], hrs.symm⟩
      · obtain ⟨s', hs', hr'⟩ := h.indexed r x hr
        refine ⟨s', ?_, hr'⟩
        rw [if_neg]
        · exact hs'
        · intro he
          rw [he, hs] at hs'
          cases hs'
    populated := by
      rw [funext hgroup]
      exact h.populated }

/-- A screen and a group may be written together when they agree about each other and about
nobody else. -/
theorem linked_link {t : Topology} (h : Linked t) {old s : Screen} {g : ScreenGroup}
    (hold : t.screen? s.id = some old) (hrender : s.renderId = old.renderId)
    (hparent : ∀ p, old.parent = some p → p = g.id)
    (hnew : s.parent = some g.id ∨ s.parent = none)
    (hchild : s.parent = some g.id ↔ s.id ∈ g.composition.children)
    (hothers : ∀ x, x ≠ s.id → (x ∈ g.composition.children ↔ t.parent? x = some g.id))
    (hnodup : g.composition.children.Nodup) (hfree : t.screen? g.id = none)
    (hlt : g.id.val < t.screenIds.count) : Linked (t.link s g) := by
  -- the number of the group is no screen's, so the two writes do not meet
  have hne : s.id ≠ g.id := by
    intro he
    rw [he, hfree] at hold
    cases hold
  have hgroup := group?_link (g := g) (group?_eq_none_of_screen? hold)
  have hscreen := screen?_link (s := s) hfree hne
  exact {
    screen_id := holds_of_rewritten h.screen_id hscreen fun a ha => by
      cases ha
      rfl
    group_id := holds_of_rewritten h.group_id hgroup fun a ha => by
      cases ha
      rfl
    screen_lt := holds_of_rewritten h.screen_lt hscreen fun _ _ => h.screen_lt s.id old hold
    group_lt := holds_of_rewritten h.group_lt hgroup fun _ _ => hlt
    listed := by
      intro x s' p hx hp
      rw [hscreen] at hx
      rw [hgroup]
      split at hx
      · -- the written screen names the written group or none
        rename_i hxs
        obtain rfl := Option.some.inj hx
        rcases hnew with hnew | hnew
        · obtain rfl : g.id = p := Option.some.inj (hnew.symm.trans hp)
          exact ⟨g, by rw [if_pos rfl], hxs ▸ hchild.mp hnew⟩
        · rw [hnew] at hp
          cases hp
      · -- another screen names what it named; the written group still lists it
        rename_i hxs
        obtain ⟨grp, hgrp, hmem⟩ := h.listed x s' p hx hp
        by_cases hpg : p = g.id
        · refine ⟨g, by rw [if_pos hpg], (hothers x hxs).mpr ?_⟩
          rw [parent?_of_screen? hx, hp, hpg]
        · exact ⟨grp, by rw [if_neg hpg]; exact hgrp, hmem⟩
    member := by
      intro p grp x hgrp hx
      rw [hgroup] at hgrp
      rw [hscreen]
      split at hgrp
      · -- the written group lists the written screen and those it listed before
        rename_i hpg
        obtain rfl := Option.some.inj hgrp
        by_cases hxs : x = s.id
        · exact ⟨s, by rw [if_pos hxs], hpg ▸ hchild.mpr (hxs ▸ hx)⟩
        · obtain ⟨s', hs', hp'⟩ := Topology.parent?_eq_some_iff.mp ((hothers x hxs).mp hx)
          exact ⟨s', by rw [if_neg hxs]; exact hs', hpg ▸ hp'⟩
      · rename_i hpg
        obtain ⟨s', hs', hp'⟩ := h.member p grp x hgrp hx
        -- a group that lists the written screen would be the one written with it
        by_cases hxs : x = s.id
        · rw [hxs, hold] at hs'
          obtain rfl := Option.some.inj hs'
          exact absurd (hparent p hp') hpg
        · exact ⟨s', by rw [if_neg hxs]; exact hs', hp'⟩
    nodup := holds_of_rewritten h.nodup hgroup fun a ha => by
      cases ha
      exact hnodup
    home := by
      intro p hd
      rw [hgroup]
      split
      · exact ⟨g, rfl⟩
      · exact h.home p hd
    indexed := by
      intro r x hr
      obtain ⟨s', hs', hr'⟩ := h.indexed r x hr
      rw [hscreen]
      by_cases hxs : x = s.id
      · rw [hxs, hold] at hs'
        obtain rfl := Option.some.inj hs'
        exact ⟨s, by rw [if_pos hxs], hrender.trans hr'⟩
      · exact ⟨s', by rw [if_neg hxs]; exact hs', hr'⟩ }

theorem populated_link {t : Topology} (h : Sound t) {old s : Screen} {g : ScreenGroup}
    (hold : t.screen? s.id = some old) (hg : g.composition.children ≠ []) :
    ∀ p grp, (t.link s g).group? p = some grp → grp.composition.children ≠ [] := by
  intro p grp hgrp
  rw [group?_link (group?_eq_none_of_screen? hold)] at hgrp
  split at hgrp
  · rw [← Option.some.inj hgrp]
    exact hg
  · exact h.populated p grp hgrp

/-- A group without children may be dropped, and with it the last group that may be empty. -/
theorem sound_dropGroup {t : Topology} (h : Linked t) {g : ScreenGroup}
    (hg : t.group? g.id = some g) (hempty : g.composition.children = [])
    (hpop : ∀ p grp, t.group? p = some grp → p ≠ g.id → grp.composition.children ≠ []) :
    Sound (t.dropGroup g.id) := by
  have hscreen : ∀ x, (t.dropGroup g.id).screen? x = t.screen? x := by
    intro x
    rw [screen?_dropGroup]
    split
    · rename_i hx; rw [hx, screen?_eq_none_of_group? hg]
    · rfl
  have hgroup := fun x => group?_dropGroup t x g.id
  exact {
    screen_id := by
      rw [funext hscreen]
      exact h.screen_id
    group_id := holds_of_rewritten h.group_id hgroup fun a ha => by cases ha
    screen_lt := by
      rw [funext hscreen]
      exact h.screen_lt
    group_lt := holds_of_rewritten h.group_lt hgroup fun a ha => by cases ha
    listed := by
      intro x s p hx hp
      rw [hscreen] at hx
      obtain ⟨grp, hgrp, hmem⟩ := h.listed x s p hx hp
      -- a group that lists somebody is not the empty one
      refine ⟨grp, ?_, hmem⟩
      rw [hgroup, if_neg]
      · exact hgrp
      · intro he
        rw [he, hg] at hgrp
        rw [← Option.some.inj hgrp, hempty] at hmem
        cases hmem
    member := by
      intro p grp x hgrp hx
      rw [hgroup] at hgrp
      rw [hscreen]
      split at hgrp
      · cases hgrp
      · exact h.member p grp x hgrp hx
    nodup := holds_of_rewritten h.nodup hgroup fun a ha => by cases ha
    home := by
      intro p hd
      -- with the group goes its being the home of panels
      change (if t.defaultGroup = some g.id then none else t.defaultGroup) = some p at hd
      rw [hgroup]
      split at hd
      · cases hd
      · rename_i hne
        rw [if_neg]
        · exact h.home p hd
        · intro he
          exact hne (hd.trans (congrArg some he))
    indexed := by
      intro r x hr
      rw [hscreen]
      exact h.indexed r x hr
    populated := by
      intro p grp hgrp
      rw [hgroup] at hgrp
      split at hgrp
      · cases hgrp
      · rename_i hne
        exact hpop p grp hgrp hne }

/-- A screen may be rewritten when it stays in its group. -/
theorem sound_putScreen {t : Topology} (h : Sound t) {old s : Screen}
    (hold : t.screen? s.id = some old) (hrender : s.renderId = old.renderId)
    (hparent : s.parent = old.parent) : Sound (t.putScreen s) := by
  have hscreen := fun x => screen?_putScreen t x s
  have hgroup : ∀ x, (t.putScreen s).group? x = t.group? x := by
    intro x
    rw [group?_putScreen]
    split
    · rename_i hx; rw [hx, group?_eq_none_of_screen? hold]
    · rfl
  exact {
    screen_id := holds_of_rewritten h.screen_id hscreen fun a ha => by
      cases ha
      rfl
    group_id := by
      rw [funext hgroup]
      exact h.group_id
    screen_lt := holds_of_rewritten h.screen_lt hscreen fun _ _ => h.screen_lt s.id old hold
    group_lt := by
      rw [funext hgroup]
      exact h.group_lt
    listed := by
      intro x s' g hx hp
      rw [hscreen] at hx
      rw [hgroup]
      split at hx
      · rename_i hxs
        obtain rfl := Option.some.inj hx
        rw [hparent] at hp
        rw [hxs]
        exact h.listed s.id old g hold hp
      · exact h.listed x s' g hx hp
    member := by
      intro g grp x hgrp hx
      rw [hgroup] at hgrp
      obtain ⟨s', hs', hp'⟩ := h.member g grp x hgrp hx
      rw [hscreen]
      by_cases hxs : x = s.id
      · rw [hxs, hold] at hs'
        obtain rfl := Option.some.inj hs'
        exact ⟨s, by rw [if_pos hxs], hparent.trans hp'⟩
      · exact ⟨s', by rw [if_neg hxs]; exact hs', hp'⟩
    nodup := by
      rw [funext hgroup]
      exact h.nodup
    home := by
      intro g hd
      rw [hgroup]
      exact h.home g hd
    indexed := by
      intro r x hr
      obtain ⟨s', hs', hr'⟩ := h.indexed r x hr
      rw [hscreen]
      by_cases hx : x = s.id
      · rw [hx, hold] at hs'
        obtain rfl := Option.some.inj hs'
        exact ⟨s, by rw [if_pos hx], hrender.trans hr'⟩
      · exact ⟨s', by rw [if_neg hx]; exact hs', hr'⟩
    populated := by
      rw [funext hgroup]
      exact h.populated }

/-- A child of a group may be given another start point. -/
theorem sound_putGroup_place {t : Topology} (h : Sound t) {x : ScreenId} {g : ScreenGroup}
    {start : Point} (hg : t.group? g.id = some g) (hx : x ∈ g.composition.children) :
    Sound (t.putGroup (g.placing x start)) := by
  have hchildren : (g.composition.place x start).children = g.composition.children := by
    rw [Composition.children_place, if_pos hx]
  have hscreen : ∀ y, (t.putGroup (g.placing x start)).screen? y = t.screen? y := by
    intro y
    rw [screen?_putGroup]
    split
    · rename_i hy; rw [hy]; exact (screen?_eq_none_of_group? hg).symm
    · rfl
  have hgroup := fun y => group?_putGroup t y (g.placing x start)
  exact {
    screen_id := by
      rw [funext hscreen]
      exact h.screen_id
    group_id := holds_of_rewritten h.group_id hgroup fun a ha => by
      cases ha
      rfl
    screen_lt := by
      rw [funext hscreen]
      exact h.screen_lt
    group_lt := holds_of_rewritten h.group_lt hgroup fun _ _ => h.group_lt g.id g hg
    listed := by
      intro y s p hs hp
      rw [hscreen] at hs
      obtain ⟨grp, hgrp, hmem⟩ := h.listed y s p hs hp
      rw [hgroup]
      split
      · rename_i hpg
        rw [hpg, ScreenGroup.placing_id, hg] at hgrp
        obtain rfl := Option.some.inj hgrp
        refine ⟨_, rfl, ?_⟩
        rw [ScreenGroup.placing_composition, hchildren]
        exact hmem
      · exact ⟨grp, hgrp, hmem⟩
    member := by
      intro p grp y hgrp hy
      rw [hgroup] at hgrp
      rw [hscreen]
      split at hgrp
      · rename_i hpg
        obtain rfl := Option.some.inj hgrp
        rw [ScreenGroup.placing_composition, hchildren] at hy
        rw [hpg]
        exact h.member g.id g y hg hy
      · exact h.member p grp y hgrp hy
    nodup := holds_of_rewritten h.nodup hgroup fun a ha => by
      cases ha
      rw [ScreenGroup.placing_composition, hchildren]
      exact h.nodup g.id g hg
    home := by
      intro p hd
      rw [hgroup]
      split
      · exact ⟨_, rfl⟩
      · exact h.home p hd
    indexed := by
      intro r y hr
      rw [hscreen]
      exact h.indexed r y hr
    populated := holds_of_rewritten h.populated hgroup fun a ha => by
      cases ha
      rw [ScreenGroup.placing_composition, hchildren]
      exact h.populated g.id g hg }

/-- A screen in no group may be forgotten. -/
theorem sound_forget {t : Topology} (h : Sound t) {s : Screen} (hs : t.screen? s.id = some s)
    (hp : s.parent = none) : Sound (Draft.forget t s.id) := by
  have hscreen := fun x => screen?_forget t x s.id
  have hgroup : ∀ x, (Draft.forget t s.id).group? x = t.group? x := by
    intro x
    rw [group?_forget]
    split
    · rename_i hx; rw [hx, group?_eq_none_of_screen? hs]
    · rfl
  exact {
    screen_id := holds_of_rewritten h.screen_id hscreen fun a ha => by cases ha
    group_id := by
      rw [funext hgroup]
      exact h.group_id
    screen_lt := holds_of_rewritten h.screen_lt hscreen fun a ha => by cases ha
    group_lt := by
      rw [funext hgroup]
      exact h.group_lt
    listed := by
      intro x s' g hx hp'
      rw [hscreen] at hx
      rw [hgroup]
      split at hx
      · cases hx
      · exact h.listed x s' g hx hp'
    member := by
      intro g grp x hgrp hx
      rw [hgroup] at hgrp
      obtain ⟨s', hs', hp'⟩ := h.member g grp x hgrp hx
      refine ⟨s', ?_, hp'⟩
      rw [hscreen, if_neg]
      · exact hs'
      · -- a screen that is listed names a group
        intro he
        rw [he, hs] at hs'
        rw [← Option.some.inj hs', hp] at hp'
        cases hp'
    nodup := by
      rw [funext hgroup]
      exact h.nodup
    home := by
      intro g hd
      rw [hgroup]
      exact h.home g hd
    indexed := by
      intro r x hr
      -- the entry of the forgotten screen is dropped with it
      have hindex : (Draft.forget t s.id).renderIndex = t.renderIndex.erase s.renderId := by
        simp [Draft.forget, hs]
      rw [hindex, Table.get?_erase_ite] at hr
      split at hr
      · cases hr
      · rename_i hne
        obtain ⟨s', hs', hr'⟩ := h.indexed r x hr
        rw [hscreen]
        refine ⟨s', ?_, hr'⟩
        rw [if_neg]
        · exact hs'
        · intro he
          rw [he, hs] at hs'
          rw [Option.some.inj hs'] at hne
          exact hne hr'.symm
    populated := by
      rw [funext hgroup]
      exact h.populated }

/-- Surfaces and power states may be recorded. -/
theorem sound_record {t : Topology} (h : Sound t) {nodes : Table ScreenId Node}
    {f : ScreenId → Screen → Screen}
    (hf : ∀ x s, f x s = { s with surface := (f x s).surface, power := (f x s).power })
    (hscreen : ∀ x, ({ t with nodes } : Topology).screen? x = (t.screen? x).map (f x))
    (hgroup : ∀ x, ({ t with nodes } : Topology).group? x = t.group? x) :
    Sound { t with nodes } := by
  have hid : ∀ x s, (f x s).id = s.id := fun x s => by rw [hf]
  have hrender : ∀ x s, (f x s).renderId = s.renderId := fun x s => by rw [hf]
  have hparent : ∀ x s, (f x s).parent = s.parent := fun x s => by rw [hf]
  exact {
    screen_id := by
      intro x s hx
      rw [hscreen, Option.map_eq_some_iff] at hx
      obtain ⟨old, hold, rfl⟩ := hx
      rw [hid]
      exact h.screen_id x old hold
    group_id := by
      intro x g hx
      rw [hgroup] at hx
      exact h.group_id x g hx
    screen_lt := by
      intro x s hx
      rw [hscreen, Option.map_eq_some_iff] at hx
      obtain ⟨old, hold, -⟩ := hx
      exact h.screen_lt x old hold
    group_lt := by
      intro x g hx
      rw [hgroup] at hx
      exact h.group_lt x g hx
    listed := by
      intro x s g hx hp
      rw [hscreen, Option.map_eq_some_iff] at hx
      obtain ⟨old, hold, rfl⟩ := hx
      rw [hparent] at hp
      rw [hgroup]
      exact h.listed x old g hold hp
    member := by
      intro g grp x hgrp hx
      rw [hgroup] at hgrp
      obtain ⟨s, hs, hp⟩ := h.member g grp x hgrp hx
      refine ⟨f x s, ?_, (hparent x s).trans hp⟩
      rw [hscreen, hs]
      rfl
    nodup := by
      intro g grp hgrp
      rw [hgroup] at hgrp
      exact h.nodup g grp hgrp
    home := by
      intro g hd
      rw [hgroup]
      exact h.home g hd
    indexed := by
      intro r x hr
      obtain ⟨s, hs, hr'⟩ := h.indexed r x hr
      refine ⟨f x s, ?_, (hrender x s).trans hr'⟩
      rw [hscreen, hs]
      rfl
    populated := by
      intro g grp hgrp
      rw [hgroup] at hgrp
      exact h.populated g grp hgrp }

/-! ## Every change -/

/-- A screen in no group may be linked to a group. -/
theorem sound_join {t : Topology} (h : Sound t) {s : Screen} {g : ScreenGroup}
    (hs : t.screen? s.id = some s) (hp : s.parent = none)
    (hchildren : ∀ x, x ∈ g.composition.children ↔ t.parent? x = some g.id)
    (hnodup : g.composition.children.Nodup) (hfree : t.screen? g.id = none)
    (hlt : g.id.val < t.screenIds.count) (start : Point) : Sound (t.join s g start) := by
  have hmem := fun x => g.composition.mem_children_place s.id x start
  refine ⟨?_, ?_⟩
  · refine linked_link (s := s.within (some g.id)) (g := g.placing s.id start) h.toLinked hs rfl
      ?_ (.inl rfl) ?_ ?_ ?_ hfree hlt
    · intro p hp'
      rw [hp] at hp'
      cases hp'
    · exact ⟨fun _ => (hmem s.id).mpr (.inr rfl), fun _ => rfl⟩
    · intro x hx
      refine Iff.trans ?_ (hchildren x)
      exact (hmem x).trans ⟨fun h => h.resolve_right hx, .inl⟩
    · exact Composition.nodup_children_place hnodup s.id start
  · exact populated_link (s := s.within (some g.id)) h hs
      (g.composition.children_place_ne_nil s.id start)

/-- A screen may be unlinked from its group; only that group may have become empty. -/
theorem linked_unlink {t : Topology} (h : Sound t) {s : Screen} {g : ScreenGroup}
    (hs : t.screen? s.id = some s) (hp : s.parent = some g.id) (hg : t.group? g.id = some g) :
    Linked (t.unlink s g) := by
  have hmem := g.composition.mem_children_remove s.id
  refine linked_link (s := s.within none) (g := g.without s.id) h.toLinked hs rfl ?_ (.inr rfl)
    ?_ ?_ ?_ (screen?_eq_none_of_group? hg) (h.group_lt g.id g hg)
  · intro p hp'
    exact Option.some.inj (hp'.symm.trans hp)
  · constructor
    · intro hn
      cases hn
    · intro hm
      exact absurd rfl ((hmem s.id).mp hm).2
  · -- the other children stay listed and keep naming the group
    intro x hx
    refine Iff.trans ?_ (h.parent?_eq_some_iff hg x).symm
    exact (hmem x).trans ⟨And.left, fun hm => ⟨hm, hx⟩⟩
  · exact Composition.nodup_children_remove (h.nodup g.id g hg) s.id

theorem sound_change {t u : Topology} {es : List TopologyEvent} (hc : Change t es u)
    (h : Sound t) : Sound u := by
  cases hc with
  | plug renderId panel s hs hfault hfree hnew =>
    subst hs
    exact sound_congr (sound_enlist h rfl rfl hfree) rfl (Nat.le_refl _) rfl rfl
  | create request s hs hfault hfree =>
    subst hs
    exact sound_congr (sound_enlist h rfl rfl hfree) rfl (Nat.le_refl _) rfl rfl
  | found s combination main start home hs hp hfree hhome =>
    have hfree' := get?_eq_none_iff.mp hfree
    have hdraw : Sound t.drawScreenId := sound_congr h rfl (Nat.le_succ _) rfl rfl
    -- nobody names a number that nobody has
    have hchildren : ∀ x,
        x ∈ (emptyGroup t.nextScreenId combination (some main)).composition.children ↔
          t.drawScreenId.parent? x = some t.nextScreenId := by
      intro x
      refine ⟨fun hx => (List.not_mem_nil hx).elim, fun hx => ?_⟩
      obtain ⟨s', hs', hp'⟩ := parent?_eq_some_iff.mp hx
      obtain ⟨grp, hgrp, -⟩ := h.listed x s' _ hs' hp'
      rw [hfree'.2] at hgrp
      cases hgrp
    have hjoin := sound_join hdraw hs hp hchildren List.nodup_nil hfree'.1 (nextScreenId_lt t) start
    -- the home is the group just opened, or the one that there was
    refine sound_setHome hjoin fun g hg => ?_
    have hs' : t.drawScreenId.screen? s.id = some s := hs
    rw [group?_join hs']
    split
    · exact ⟨_, rfl⟩
    · rename_i hne
      rcases hhome with ⟨-, hhome⟩ | ⟨-, -, -, hhome⟩
      · exact h.home g (hhome.symm.trans hg)
      · exact absurd (Option.some.inj (hg.symm.trans hhome)) hne
  | join s g start hs hp hg =>
    exact sound_join h hs hp (fun x => (h.parent?_eq_some_iff hg x).symm)
      (h.nodup g.id g hg) (screen?_eq_none_of_group? hg) (h.group_lt g.id g hg) start
  | leave s g reason hs hp hg hstay =>
    exact ⟨linked_unlink h hs hp hg, populated_link (s := s.within none) h hs hstay⟩
  | leaveLast s g reason hs hp hg hlast =>
    have hgroup := group?_unlink (g := g) hs
    refine sound_dropGroup (g := g.without s.id) (linked_unlink h hs hp hg) ?_ hlast ?_
    · rw [hgroup]
      exact if_pos rfl
    · -- the group that was left is the only one that may be empty
      intro p grp hgrp (hne : p ≠ g.id)
      rw [hgroup, if_neg hne] at hgrp
      exact h.populated p grp hgrp
  | place x g start hg hx => exact sound_putGroup_place h hg hx
  | single s turn hs hp =>
    have hput : Sound (t.putScreen (turn.apply s)) := by
      have hlive : t.screen? (turn.apply s).id = some s := by
        rw [turn.apply_id]
        exact hs
      exact sound_putScreen h hlive (turn.apply_renderId s) (turn.apply_parent s)
    exact sound_congr hput rfl (Nat.le_refl _) rfl rfl
  | turn s rotation hs hne => exact sound_putScreen h hs rfl rfl
  | switch s index hs hindex hne => exact sound_putScreen h hs rfl rfl
  | forget s hs hp hmirrors => exact sound_forget h hs hp
  | record nodes f hf hscreen hgroup => exact sound_record h hf hscreen hgroup

theorem sound_changes {t u : Topology} {es : List TopologyEvent} (hc : Changes t es u)
    (h : Sound t) : Sound u := by
  induction hc with
  | refl => exact h
  | tail _ hc ih => exact sound_change hc ih

end Topology

end DisplayServer
