import DisplayServer.Proofs.Decompose

/-!
# What several screens leave behind

Screens that leave their groups, one after the other and for one and the same place, change
nothing but where they are: each is found as it was except for the group that it names, and a
group that they leave is found without them, or not at all if nobody else was in it
(`ScreenGroup.sparing`). `Shifts p xs t u` says that of the screens `xs` that go to `p`, which is
a group or none. The group that they go to is the one of which it says nothing.

A shift is known by its look-ups. Two shifts to one place are one shift (`Shifts.append`), and the
order of the screens does not matter (`Shifts.congr`), so a loop needs nothing but its round.
-/

namespace DisplayServer

namespace Composition

/-- The composition without the screens `xs`. -/
def sparing (c : Composition) (xs : List ScreenId) : Composition :=
  { c with slots := c.slots.filter fun slot => slot.screen ∉ xs }

theorem children_sparing (c : Composition) (xs : List ScreenId) :
    (c.sparing xs).children = c.children.filter (· ∉ xs) := by
  simp only [sparing, children, List.filter_map]
  rfl

theorem sparing_singleton (c : Composition) (x : ScreenId) : c.sparing [x] = c.remove x := by
  simp [sparing, remove, bne, BEq.beq]

theorem sparing_sparing (c : Composition) (xs ys : List ScreenId) :
    (c.sparing xs).sparing ys = c.sparing (xs ++ ys) := by
  simp [sparing, List.filter_filter, Bool.and_comm]

/-- Whom the composition does not list is not missed. -/
theorem sparing_of_notMem {c : Composition} {xs : List ScreenId}
    (h : ∀ x ∈ c.children, x ∉ xs) : c.sparing xs = c := by
  have hslots : (c.slots.filter fun slot => slot.screen ∉ xs) = c.slots := by
    refine List.filter_eq_self.mpr fun slot hslot => ?_
    exact decide_eq_true (h slot.screen (List.mem_map_of_mem hslot))
  rw [sparing, hslots]

end Composition

namespace ScreenGroup

/-- What is left of a group when the screens `xs` leave it: nothing if all its children are
among them. -/
def sparing (g : ScreenGroup) (xs : List ScreenId) : Option ScreenGroup :=
  if ∀ x ∈ g.composition.children, x ∈ xs then none
  else some { g with composition := g.composition.sparing xs }

variable {g : ScreenGroup} {xs ys : List ScreenId} {x : ScreenId}

theorem sparing_eq_none_iff :
    g.sparing xs = none ↔ ∀ x ∈ g.composition.children, x ∈ xs := by
  unfold sparing
  split
  · exact iff_of_true rfl ‹_›
  · exact iff_of_false (Option.some_ne_none _) ‹_›

/-- A group that nobody leaves stays as it is. -/
theorem sparing_of_notMem (hg : g.composition.children ≠ [])
    (h : ∀ x ∈ g.composition.children, x ∉ xs) : g.sparing xs = some g := by
  rw [sparing, if_neg, Composition.sparing_of_notMem h]
  intro hall
  obtain ⟨x, hx⟩ := List.exists_mem_of_ne_nil _ hg
  exact h x hx (hall x hx)

theorem sparing_congr (h : ∀ x, x ∈ xs ↔ x ∈ ys) : g.sparing xs = g.sparing ys := by
  simp only [sparing, Composition.sparing, h]

/-- Leaving one after the other is leaving together. -/
theorem sparing_append : (g.sparing xs).bind (·.sparing ys) = g.sparing (xs ++ ys) := by
  by_cases hall : ∀ x ∈ g.composition.children, x ∈ xs
  · have hall' : ∀ x ∈ g.composition.children, x ∈ xs ++ ys :=
      fun x hx => List.mem_append_left ys (hall x hx)
    rw [sparing_eq_none_iff.mpr hall, sparing_eq_none_iff.mpr hall']
    rfl
  · -- those who stayed first are the ones who may leave then
    have hiff : (∀ x ∈ (g.composition.sparing xs).children, x ∈ ys) ↔
        ∀ x ∈ g.composition.children, x ∈ xs ++ ys := by
      simp only [Composition.children_sparing, List.mem_filter, decide_eq_true_eq,
        List.mem_append, and_imp]
      exact forall₂_congr fun x _ => Decidable.or_iff_not_imp_left.symm
    rw [sparing, if_neg hall, Option.bind_some, sparing, sparing, Composition.sparing_sparing]
    simp only [hiff]

/-- Where one leaves and others stay, the group is found without the one. -/
theorem sparing_singleton_of_stay (h : (g.without x).composition.children ≠ []) :
    g.sparing [x] = some (g.without x) := by
  rw [sparing, if_neg, Composition.sparing_singleton]
  · rfl
  · intro hall
    obtain ⟨y, hy⟩ := List.exists_mem_of_ne_nil _ h
    rw [without_composition, Composition.mem_children_remove] at hy
    exact hy.2 (List.mem_singleton.mp (hall y hy.1))

theorem sparing_singleton_of_last (h : (g.without x).composition.children = []) :
    g.sparing [x] = none := by
  refine sparing_eq_none_iff.mpr fun y hy => ?_
  by_contra hne
  have hmem : y ∈ (g.without x).composition.children := by
    rw [without_composition, Composition.mem_children_remove]
    exact ⟨hy, by simpa using hne⟩
  rw [h] at hmem
  cases hmem

end ScreenGroup

namespace Topology

variable {p : Option ScreenId} {xs ys : List ScreenId} {t u v : Topology}

/-- The screens `xs` have gone to `p`, a group or none, and nothing else has happened, except to
the group that they went to. -/
structure Shifts (p : Option ScreenId) (xs : List ScreenId) (t u : Topology) : Prop where
  /-- Those screens are found in `p`, and all others as they were. -/
  screens : ∀ y, u.screen? y =
    if y ∈ xs then (t.screen? y).map fun s => s.within p else t.screen? y
  /-- Any other group is found without them. -/
  groups : ∀ h, p ≠ some h → u.group? h = (t.group? h).bind fun grp => grp.sparing xs

/-- Nobody leaves anything. -/
theorem shifts_nil (h : Sound t) (p : Option ScreenId) : Shifts p [] t t where
  screens _ := rfl
  groups k _ := by
    cases hk : t.group? k with
    | none => rfl
    | some grp =>
      exact (ScreenGroup.sparing_of_notMem (h.populated k grp hk)
        fun _ _ => List.not_mem_nil).symm

theorem Shifts.append (h : Shifts p xs t u) (h' : Shifts p ys u v) :
    Shifts p (xs ++ ys) t v where
  screens y := by
    rw [h'.screens, h.screens]
    by_cases hxs : y ∈ xs <;> by_cases hys : y ∈ ys <;>
      simp only [List.mem_append, hxs, hys, or_true, or_false, if_true, if_false, Option.map_map]
    rfl
  groups k hk := by
    rw [h'.groups k hk, h.groups k hk]
    cases t.group? k with
    | none => rfl
    | some grp => exact ScreenGroup.sparing_append

theorem Shifts.congr (h : Shifts p xs t u) (hmem : ∀ x, x ∈ xs ↔ x ∈ ys) : Shifts p ys t u where
  screens y := by
    rw [h.screens]
    simp only [hmem]
  groups k hk := by
    rw [h.groups k hk]
    exact congrArg _ (funext fun grp => ScreenGroup.sparing_congr hmem)

theorem Shifts.parent?_of_mem (h : Shifts p xs t u) {x : ScreenId} (hx : x ∈ xs) {s : Screen}
    (hs : t.screen? x = some s) : u.parent? x = p := by
  rw [parent?, h.screens, if_pos hx, hs]
  rfl

theorem Shifts.parent?_of_notMem (h : Shifts p xs t u) {x : ScreenId} (hx : x ∉ xs) :
    u.parent? x = t.parent? x := by
  rw [parent?, h.screens, if_neg hx, parent?]

/-- A screen that is where it goes to need not be moved. -/
theorem shifts_self (h : Sound t) {x : ScreenId} (hx : t.parent? x = p)
    (hscreens : ∀ y, u.screen? y = t.screen? y)
    (hgroups : ∀ k, p ≠ some k → u.group? k = t.group? k) : Shifts p [x] t u where
  screens y := by
    rw [hscreens]
    split
    · rename_i hy
      rw [List.mem_singleton.mp hy]
      cases hs : t.screen? x with
      | none => rfl
      | some s =>
        rw [parent?_of_screen? hs] at hx
        rw [Option.map_some, Screen.within_self hx]
    · rfl
  groups k hk := by
    rw [hgroups k hk]
    cases hgrp : t.group? k with
    | none => rfl
    | some grp =>
      refine (ScreenGroup.sparing_of_notMem (h.populated k grp hgrp) fun y hy hyx => hk ?_).symm
      rw [← hx, ← List.mem_singleton.mp hyx]
      exact (h.parent?_eq_some_iff hgrp y).mpr hy

end Topology

namespace Draft

open DisplayServer.Topology

variable {d : Draft}

/-! ## Moves as shifts -/

/-- A screen leaves its group, whatever the reason. -/
theorem shifts_leave (h : Sound d.topology) (x : ScreenId) (reason : LeaveReason) :
    Shifts none [x] d.topology (d.leave x reason).topology := by
  obtain ⟨hp, hd⟩ | ⟨s, g, rfl, hs, hp, hg, hd⟩ := leave_cases h x reason
  · rw [hd]
    exact shifts_self h hp (fun _ => rfl) fun _ _ => rfl
  · refine ⟨fun y => ?_, fun k _ => ?_⟩
    · rw [screen?_leave h]
      simp only [List.mem_singleton]
      split
      · rename_i hy
        rw [hy]
      · rfl
    · by_cases hk : k = g.id
      · rw [hk, hg, Option.bind_some]
        obtain ⟨hstay, hd⟩ | ⟨hlast, hd⟩ := hd
        · rw [hd, group?_unlink hs, if_pos rfl, ScreenGroup.sparing_singleton_of_stay hstay]
        · rw [hd, group?_unlink_dropGroup hs, if_pos rfl,
            ScreenGroup.sparing_singleton_of_last hlast]
      · -- the screen is in another group, so this one misses nobody
        have hother : d.topology.parent? s.id ≠ some k := by
          rw [parent?_of_screen? hs, hp]
          exact fun he => hk (Option.some.inj he).symm
        rw [group?_leave_of_ne h reason hother]
        cases hgrp : d.topology.group? k with
        | none => rfl
        | some grp =>
          refine (ScreenGroup.sparing_of_notMem (h.populated k grp hgrp) fun y hy hyx => ?_).symm
          rw [List.mem_singleton.mp hyx, ← h.parent?_eq_some_iff hgrp] at hy
          exact hother hy

/-- A screen moves to a live group. -/
theorem shifts_move (h : Sound d.topology) {x g : ScreenId} {s : Screen} {grp : ScreenGroup}
    (hs : d.topology.screen? x = some s) (hg : d.topology.group? g = some grp)
    (hne : d.topology.parent? x ≠ some g) (start : Point) :
    Shifts (some g) [x] d.topology (d.move x g start).topology := by
  refine ⟨fun y => ?_, fun k hk => ?_⟩
  · rw [screen?_move h hs hg hne]
    simp only [List.mem_singleton]
    split
    · rename_i hy
      rw [hy, hs]
      rfl
    · rfl
  · obtain ⟨hs', hg', hd⟩ := move_eq h hs hg hne start
    have hkg : k ≠ grp.id := by
      rw [h.group_id g grp hg]
      exact fun he => hk (congrArg some he.symm)
    rw [hd, group?_join hs', if_neg hkg]
    exact (shifts_leave h x .detached).groups k nofun

/-- A screen moves to a group that is opened for it. -/
theorem shifts_move_opened (h : Sound d.topology) (hcount : d.topology.screenIds.count < 2 ^ 64)
    {x : ScreenId} {s : Screen} (hs : d.topology.screen? x = some s) (combination : Combination)
    (main : ScreenId) (start : Point) :
    Shifts (some d.topology.nextScreenId) [x] d.topology
      ((d.edit fun t => t.openGroup combination (some main)).move x d.topology.nextScreenId
        start).topology := by
  refine ⟨fun y => ?_, fun k hk => ?_⟩
  · rw [screen?_move_opened h hcount hs]
    simp only [List.mem_singleton]
    split
    · rename_i hy
      rw [hy, hs]
      rfl
    · rfl
  · obtain ⟨hs', hfree, hnext, hd⟩ := move_opened_eq h hcount hs combination main start
    have hs'' : (d.leave x .detached).topology.drawScreenId.screen? (s.within none).id =
        some (s.within none) := hs'
    rw [hd, attach_opened_eq hs' (get?_eq_none_iff.mp hfree).1, group?_setHome,
      group?_join hs'', if_neg]
    · exact (shifts_leave h x .detached).groups k nofun
    · show k ≠ (d.leave x .detached).topology.nextScreenId
      rw [hnext]
      exact fun he => hk (congrArg some he.symm)

end Draft

end DisplayServer
