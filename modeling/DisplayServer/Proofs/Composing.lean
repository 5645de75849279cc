import DisplayServer.Proofs.MirrorGroups
import DisplayServer.Proofs.Shifts

/-!
# Composing does what was asked, and nothing else

Mirroring and extending move screens one after the other, and each round is a shift to the group
at hand (`Shifts`). What becomes of that group is a fold of its own: a mirror admits who is not in
it yet, and a desktop places everybody anew. The group is one that was there, or it is opened by
the first screen that moves; an opened group was in no earlier state of the run, because numbers
of screens and groups only go up.

Stopping and ungrouping are shifts to no group. Whether a screen has to leave is decided when its
turn comes; it is the same as before the loop, since screens that left earlier take no group away
from a screen that is still in one.
-/

namespace DisplayServer

namespace Topology

/-- The children of a group with their start points; nothing else has any. -/
def slots (t : Topology) (g : ScreenId) : List ChildSlot :=
  match t.group? g with
  | some grp => grp.composition.slots
  | none => []

theorem map_slots (t : Topology) (g : ScreenId) :
    (t.slots g).map ChildSlot.screen = t.children g := by
  unfold slots children
  cases t.group? g <;> rfl

theorem slots_of_group? {t : Topology} {g : ScreenId} {grp : ScreenGroup}
    (h : t.group? g = some grp) : t.slots g = grp.composition.slots := by
  rw [slots, h]

/-- Where nothing is listed twice the list stays. -/
theorem distinct_of_length {ids : List ScreenId} (h : (distinct ids).length = ids.length) :
    distinct ids = ids := by
  have hsub : ∀ ids : List ScreenId, (distinct ids).Sublist ids := by
    intro ids
    induction ids with
    | nil => exact .slnil
    | cons x rest ih => exact (List.filter_sublist.trans ih).cons_cons x
  exact (hsub ids).eq_of_length h

/-- What extending has checked where it is granted, and the desktop that it has used again. -/
theorem expand_granted {t : Topology} {ids : List ScreenId} {starts : List Point} {g : ScreenId}
    (hok : (t.expand ids starts).result = .ok g) :
    ids.length = starts.length ∧ distinct ids = ids ∧
      ∀ first k, ids.head? = some first → t.parent? first = some k →
        t.combination? k = some .expand → g = k := by
  unfold expand at hok
  split at hok
  · cases hok
  · rename_i first rest
    split at hok
    · cases hok
    · rename_i hlength
      split at hok
      · cases hok
      · rename_i hdistinct
        refine ⟨Decidable.not_not.mp hlength, distinct_of_length
          (Decidable.not_not.mp hdistinct), fun x k hx hparent hexpand => ?_⟩
        obtain rfl := Option.some.inj hx
        split at hok
        · cases hok
        · rw [hparent, Option.filter_some, if_pos (beq_iff_eq.mpr hexpand)] at hok
          exact (Except.ok.inj hok).symm

end Topology

/-! ## The group that screens come into -/

namespace ScreenGroup

/-- A screen comes into a mirror, unless it is in it. -/
def admitting (g : ScreenGroup) (x : ScreenId) : ScreenGroup :=
  if x ∈ g.composition.children then g else g.placing x .origin

theorem admitting_composes (g : ScreenGroup) (x : ScreenId) :
    (g.admitting x).composition.combination = g.composition.combination ∧
      (g.admitting x).composition.main = g.composition.main := by
  unfold admitting
  split
  · exact ⟨rfl, rfl⟩
  · exact ⟨Composition.combination_place .., Composition.main_place ..⟩

theorem placing_composes (g : ScreenGroup) (p : ScreenId × Point) :
    (g.placing p.1 p.2).composition.combination = g.composition.combination ∧
      (g.placing p.1 p.2).composition.main = g.composition.main :=
  ⟨Composition.combination_place .., Composition.main_place ..⟩

/-- What a group is for and who heads it does not depend on who comes into it. -/
theorem foldl_composes {α : Type} {f : ScreenGroup → α → ScreenGroup}
    (hf : ∀ g a, (f g a).composition.combination = g.composition.combination ∧
      (f g a).composition.main = g.composition.main) (as : List α) (g : ScreenGroup) :
    (as.foldl f g).composition.combination = g.composition.combination ∧
      (as.foldl f g).composition.main = g.composition.main := by
  induction as generalizing g with
  | nil => exact ⟨rfl, rfl⟩
  | cons a rest ih => exact ⟨(ih (f g a)).1.trans (hf g a).1, (ih (f g a)).2.trans (hf g a).2⟩

theorem slots_placing_of_notMem {g : ScreenGroup} {x : ScreenId}
    (hx : x ∉ g.composition.children) (start : Point) :
    (g.placing x start).composition.slots = g.composition.slots ++ [⟨x, start⟩] := by
  rw [placing_composition, Composition.place,
    if_neg fun h => hx ((g.composition.contains_iff x).mp h)]

/-- Whether others are there does not depend on the screen that is placed. -/
theorem filter_notMem_placing (g : ScreenGroup) {x : ScreenId} {xs : List ScreenId}
    (hx : x ∉ xs) (start : Point) :
    xs.filter (· ∉ (g.placing x start).composition.children) =
      xs.filter (· ∉ g.composition.children) := by
  refine List.filter_congr fun y hy => ?_
  have hyx : y ≠ x := fun he => hx (he ▸ hy)
  simp [Composition.mem_children_place, hyx]

/-- One after the other come in those who are not there yet. -/
theorem slots_foldl_admitting (xs : List ScreenId) (hxs : xs.Nodup) (g : ScreenGroup) :
    (xs.foldl admitting g).composition.slots =
      g.composition.slots ++
        (xs.filter (· ∉ g.composition.children)).map fun x => ⟨x, .origin⟩ := by
  induction xs generalizing g with
  | nil => simp
  | cons x rest ih =>
    obtain ⟨hx, hrest⟩ := List.nodup_cons.mp hxs
    rw [List.foldl_cons, ih hrest]
    by_cases hmem : x ∈ g.composition.children
    · rw [admitting, if_pos hmem]
      simp [hmem]
    · rw [admitting, if_neg hmem, slots_placing_of_notMem hmem, filter_notMem_placing g hx]
      simp [hmem]

theorem children_foldl_placing (ps : List (ScreenId × Point)) (hps : (ps.map Prod.fst).Nodup)
    (g : ScreenGroup) :
    (ps.foldl (fun g p => g.placing p.1 p.2) g).composition.children =
      g.composition.children ++ (ps.map Prod.fst).filter (· ∉ g.composition.children) := by
  induction ps generalizing g with
  | nil => simp
  | cons p rest ih =>
    obtain ⟨hp, hrest⟩ := List.nodup_cons.mp hps
    rw [List.foldl_cons, ih hrest, filter_notMem_placing g hp, placing_composition,
      Composition.children_place]
    by_cases hmem : p.1 ∈ g.composition.children <;> simp [hmem]

/-- A screen that is placed has the start point asked for, and the others keep theirs. -/
theorem mem_slots_placing (g : ScreenGroup) (x : ScreenId) (start : Point) (slot : ChildSlot) :
    slot ∈ (g.placing x start).composition.slots ↔
      slot = ⟨x, start⟩ ∨ (slot ∈ g.composition.slots ∧ slot.screen ≠ x) := by
  by_cases hmem : x ∈ g.composition.children
  · rw [placing_composition, Composition.place,
      if_pos ((g.composition.contains_iff x).mpr hmem), List.mem_map]
    constructor
    · rintro ⟨old, hold, rfl⟩
      by_cases hx : old.screen = x
      · rw [if_pos hx, ← hx]
        exact .inl rfl
      · rw [if_neg hx]
        exact .inr ⟨hold, hx⟩
    · rintro (rfl | ⟨hslot, hx⟩)
      · obtain ⟨old, hold, rfl⟩ := List.mem_map.mp hmem
        exact ⟨old, hold, if_pos rfl⟩
      · exact ⟨slot, hslot, if_neg hx⟩
  · rw [slots_placing_of_notMem hmem, List.mem_append, List.mem_singleton]
    constructor
    · rintro (hslot | rfl)
      · exact .inr ⟨hslot, fun hx => hmem (hx ▸ List.mem_map_of_mem hslot)⟩
      · exact .inl rfl
    · rintro (rfl | ⟨hslot, -⟩)
      · exact .inr rfl
      · exact .inl hslot

theorem mem_slots_foldl_placing (ps : List (ScreenId × Point)) (hps : (ps.map Prod.fst).Nodup)
    (g : ScreenGroup) (slot : ChildSlot) :
    slot ∈ (ps.foldl (fun g p => g.placing p.1 p.2) g).composition.slots ↔
      (slot.screen, slot.start) ∈ ps ∨
        (slot ∈ g.composition.slots ∧ slot.screen ∉ ps.map Prod.fst) := by
  induction ps generalizing g with
  | nil => simp
  | cons p rest ih =>
    obtain ⟨hp, hrest⟩ := List.nodup_cons.mp hps
    rw [List.foldl_cons, ih hrest, mem_slots_placing]
    simp only [List.mem_cons, List.map_cons, not_or]
    constructor
    · rintro (hslot | ⟨rfl | ⟨hslot, hne⟩, hnot⟩)
      · exact .inl (.inr hslot)
      · exact .inl (.inl rfl)
      · exact .inr ⟨hslot, hne, hnot⟩
    · rintro ((rfl | hslot) | ⟨hslot, hne, hnot⟩)
      · exact .inr ⟨.inl rfl, hp⟩
      · exact .inl hslot
      · exact .inr ⟨.inr ⟨hslot, hne⟩, hnot⟩

end ScreenGroup

namespace Topology

/-! ## Screens that have to leave -/

/-- The screen is in a group that composes that way. -/
def isIn (t : Topology) (combination : Combination) (x : ScreenId) : Bool :=
  (t.parent? x).bind t.combination? = some combination

/-- Screens that leave take no group away from a screen that stays. -/
theorem isIn_of_shifts {t u : Topology} {xs : List ScreenId} (hshift : Shifts none xs t u)
    (h : Sound t) (combination : Combination) {y : ScreenId} (hy : y ∉ xs) :
    u.isIn combination y = t.isIn combination y := by
  unfold isIn
  rw [hshift.parent?_of_notMem hy]
  cases hparent : t.parent? y with
  | none => rfl
  | some k =>
    obtain ⟨s, hs, hp⟩ := parent?_eq_some_iff.mp hparent
    obtain ⟨grp, hgrp, hmem⟩ := h.listed y s k hs hp
    have hleft : grp.sparing xs ≠ none :=
      fun hnone => hy (ScreenGroup.sparing_eq_none_iff.mp hnone y hmem)
    simp only [Option.bind_some, combination?, hshift.groups k (Option.some_ne_none k).symm, hgrp]
    unfold ScreenGroup.sparing at hleft ⊢
    split
    · rename_i hall
      exact absurd (if_pos hall) hleft
    · rfl

theorem isVirtual_of_shifts {t u : Topology} {xs : List ScreenId} (hshift : Shifts none xs t u)
    (y : ScreenId) : (u.virtual? y).isSome = (t.virtual? y).isSome := by
  simp only [virtual?, hshift.screens]
  split
  · cases t.screen? y with
    | none => rfl
    | some s => cases hv : s.isVirtual <;> simp [Option.filter, hv]
  · rfl

end Topology

namespace Draft

open DisplayServer.Topology

variable {d : Draft} {g : ScreenId} {grp : ScreenGroup}

/-! ## Loops -/

theorem shifts_mirrorOnto {x : ScreenId} {xs : List ScreenId} (h : Ready g (x :: xs) d)
    (hg : d.topology.group? g = some grp) :
    Shifts (some g) [x] d.topology (mirrorOnto g d x).topology ∧
      (mirrorOnto g d x).topology.group? g = some (grp.admitting x) := by
  obtain ⟨s, hs⟩ := h.live x List.mem_cons_self
  have hmem := h.sound.parent?_eq_some_iff hg x
  unfold mirrorOnto
  split
  · rename_i hparent
    rw [ScreenGroup.admitting, if_pos (hmem.mp hparent)]
    exact ⟨shifts_self h.sound hparent (fun _ => rfl) fun _ _ => rfl, hg⟩
  · rename_i hne
    rw [ScreenGroup.admitting, if_neg fun hx => hne (hmem.mpr hx)]
    exact ⟨shifts_move h.sound hs hg hne .origin, group?_move_self h.sound hs hg hne .origin⟩

theorem shifts_expandOnto {p : ScreenId × Point} {xs : List ScreenId} (h : Ready g (p.1 :: xs) d)
    (hg : d.topology.group? g = some grp) :
    Shifts (some g) [p.1] d.topology (expandOnto g d p).topology ∧
      (expandOnto g d p).topology.group? g = some (grp.placing p.1 p.2) := by
  obtain ⟨s, hs⟩ := h.live p.1 List.mem_cons_self
  obtain ⟨hparent, -, rfl, hd⟩ | ⟨hne, hd⟩ := expandOnto_cases h.sound hg (p := p)
  · rw [hd]
    refine ⟨shifts_self h.sound hparent ?_ fun k hk => ?_, ?_⟩
    · exact screen?_putGroup_of_live (w := grp.placing p.1 p.2) hg rfl
    · rw [group?_putGroup, if_neg fun he => hk (congrArg some he.symm)]
    · rw [group?_putGroup, ScreenGroup.placing_id, if_pos rfl]
  · rw [hd]
    exact ⟨shifts_move h.sound hs hg hne p.2, group?_move_self h.sound hs hg hne p.2⟩

/-- A loop over several screens is one shift, and the group goes through a fold. -/
theorem shifts_loop {α : Type} (key : α → ScreenId) {step : Draft → α → Draft}
    {f : ScreenGroup → α → ScreenGroup}
    (hstep : ∀ {d a as grp}, Ready g (key a :: as) d → d.topology.group? g = some grp →
      (Shifts (some g) [key a] d.topology (step d a).topology ∧
        (step d a).topology.group? g = some (f grp a)) ∧ Ready g as (step d a))
    (as : List α) {d : Draft} {grp : ScreenGroup} (h : Ready g (as.map key) d)
    (hg : d.topology.group? g = some grp) :
    Shifts (some g) (as.map key) d.topology (as.foldl step d).topology ∧
      (as.foldl step d).topology.group? g = some (as.foldl f grp) := by
  induction as generalizing d grp with
  | nil => exact ⟨shifts_nil h.sound (some g), hg⟩
  | cons a rest ih =>
    obtain ⟨⟨hfirst, hg'⟩, hready⟩ := hstep h hg
    obtain ⟨hrest, hgroup⟩ := ih hready hg'
    exact ⟨hfirst.append hrest, hgroup⟩

theorem shifts_mirror_loop (xs : List ScreenId) (h : Ready g xs d)
    (hg : d.topology.group? g = some grp) :
    Shifts (some g) xs d.topology (xs.foldl (mirrorOnto g) d).topology ∧
      (xs.foldl (mirrorOnto g) d).topology.group? g =
        some (xs.foldl ScreenGroup.admitting grp) := by
  have hloop := shifts_loop id (fun h hg => ⟨shifts_mirrorOnto h hg, (ready_mirrorOnto h).2⟩)
    xs (d := d) (g := g) (by rwa [List.map_id]) hg
  rwa [List.map_id] at hloop

theorem shifts_expand_loop (ps : List (ScreenId × Point)) (h : Ready g (ps.map Prod.fst) d)
    (hg : d.topology.group? g = some grp) :
    Shifts (some g) (ps.map Prod.fst) d.topology (ps.foldl (expandOnto g) d).topology ∧
      (ps.foldl (expandOnto g) d).topology.group? g =
        some (ps.foldl (fun grp p => grp.placing p.1 p.2) grp) :=
  shifts_loop Prod.fst (fun h hg => ⟨shifts_expandOnto h hg, (ready_expandOnto h).2⟩) ps h hg

/-! ## Loops that take screens out -/

theorem stopStep_eq (combination : Combination) (d : Draft) (x : ScreenId) :
    stopStep combination d x =
      if d.topology.isIn combination x then d.leave x .detached else d := by
  unfold stopStep isIn
  cases d.topology.parent? x with
  | none => rfl
  | some k => simp only [Option.bind_some, decide_eq_true_eq]

/-- A loop in which a screen leaves when its turn comes is the departure of all of them that have
to leave at the beginning. -/
theorem shifts_departures {step : Draft → ScreenId → Draft} (due : Topology → ScreenId → Bool)
    (hstep : ∀ d x, step d x = if due d.topology x then d.leave x .detached else d)
    (hdue : ∀ {t u xs y}, Sound t → Shifts none xs t u → y ∉ xs → due u y = due t y)
    (ids : List ScreenId) {d : Draft} (h : Sound d.topology) :
    Shifts none (ids.filter (due d.topology)) d.topology (ids.foldl step d).topology := by
  induction ids generalizing d with
  | nil => exact shifts_nil h none
  | cons x rest ih =>
    rw [List.foldl_cons, hstep, List.filter_cons]
    split
    · have hleave := shifts_leave h x .detached
      refine (hleave.append (ih ((extends_leave h x .detached).sound h))).congr fun y => ?_
      -- nobody else has to leave because of that
      by_cases hy : y = x
      · simp [hy]
      · have hsame := hdue h hleave (y := y) (by simpa using hy)
        simp [hy, hsame]
    · exact ih h

theorem shifts_stop_loop (combination : Combination) (ids : List ScreenId)
    (h : Sound d.topology) :
    Shifts none (ids.filter (d.topology.isIn combination)) d.topology
      (ids.foldl (stopStep combination) d).topology :=
  shifts_departures (fun t => t.isIn combination) (stopStep_eq combination)
    (fun ht hshift hy => isIn_of_shifts hshift ht combination hy) ids h

theorem shifts_ungroup_loop (ids : List ScreenId) (h : Sound d.topology) :
    Shifts none (ids.filter fun x => (d.topology.virtual? x).isSome) d.topology
      (ids.foldl ungroupStep d).topology :=
  shifts_departures (fun t x => (t.virtual? x).isSome) (fun _ _ => rfl)
    (fun _ hshift _ => isVirtual_of_shifts hshift _) ids h

end Draft

namespace Topology

open Draft

variable {t : Topology} {ids : List ScreenId} {g : ScreenId}

/-! ## Operations -/

/-- A group that is opened for a shift had no children, and the first screen opens it. -/
theorem slots_nextScreenId (h : Sound t) (hcount : t.screenIds.count < 2 ^ 64) :
    t.slots t.nextScreenId = [] := by
  rw [slots, (get?_eq_none_iff.mp (h.free hcount)).2]

/-- Mirroring is a shift to a mirror of the source, which admits the screens that are listed. It
is one that the source has, or it gets the number that comes next. -/
theorem mirror_shifts (h : Sound t) {main : ScreenId}
    (hcount : (t.mirror main ids).topology.screenIds.count ≤ 2 ^ 64)
    (hok : (t.mirror main ids).result = .ok g) :
    ∃ base, (∀ x ∈ distinct ids, ∃ s, t.screen? x = some s) ∧
      Shifts (some g) (distinct ids) t (t.mirror main ids).topology ∧
      (t.mirror main ids).topology.group? g =
        some ((distinct ids).foldl ScreenGroup.admitting base) ∧
      isMirrorOf main base = true ∧ base.composition.slots = t.slots g ∧
      (g ∈ t.mirrorsOf main ∨
        (t.mirrorsOf main = [] ∧ g = t.nextScreenId ∧ t.screenIds.count < 2 ^ 64)) := by
  obtain ⟨e, hd⟩ | ⟨-, -, hne, hlive, ⟨k, hk, hd⟩ | ⟨hnone, hd⟩⟩ := mirror_cases t main ids
  · rw [hd] at hok
    cases hok
  · rw [hd] at hok ⊢
    obtain rfl : k = g := Except.ok.inj hok
    obtain ⟨grp, hgrp, hm⟩ := group?_of_mem_mirrorsOf h.toLinked hk
    obtain ⟨hshift, hgroup⟩ :=
      shifts_mirror_loop (d := .begin t) (distinct ids) ⟨h, ⟨grp, hgrp⟩, hlive⟩ hgrp
    exact ⟨grp, hlive, hshift, hgroup, hm, (slots_of_group? hgrp).symm, .inl hk⟩
  · rw [hd] at hok hcount ⊢
    obtain rfl : t.nextScreenId = g := Except.ok.inj hok
    obtain ⟨x, rest, hids⟩ := List.exists_cons_of_ne_nil hne
    rw [hids] at hlive hcount ⊢
    obtain ⟨hlt, hloop⟩ := mirror_loop_opened h main x rest hcount
    obtain ⟨s, hs⟩ := hlive x List.mem_cons_self
    obtain ⟨-, hready⟩ := ready_move_opened (d := .begin t) h hlt hlive .mirror (by decide)
      main .origin
    -- the first screen opens the mirror, and the others come in
    obtain ⟨hshift, hgroup⟩ := shifts_mirror_loop rest hready
      (group?_move_opened_self (d := .begin t) h hlt hs .mirror main .origin)
    rw [hloop]
    exact ⟨emptyGroup t.nextScreenId .mirror (some main), hlive,
      (shifts_move_opened (d := .begin t) h hlt hs .mirror main .origin).append hshift, hgroup,
      isMirrorOf_iff.mpr ⟨rfl, rfl⟩, (slots_nextScreenId h hlt).symm, .inr ⟨hnone, rfl, hlt⟩⟩

/-- Extending is a shift to a desktop, where the screens that are listed are placed. It is the
one that the first screen is part of, or it gets the number that comes next. -/
theorem expand_shifts (h : Sound t) {starts : List Point}
    (hcount : (t.expand ids starts).topology.screenIds.count ≤ 2 ^ 64)
    (hok : (t.expand ids starts).result = .ok g) :
    ∃ base, (∀ x ∈ (ids.zip starts).map Prod.fst, ∃ s, t.screen? x = some s) ∧
      Shifts (some g) ((ids.zip starts).map Prod.fst) t (t.expand ids starts).topology ∧
      (t.expand ids starts).topology.group? g =
        some ((ids.zip starts).foldl (fun grp p => grp.placing p.1 p.2) base) ∧
      base.composition.combination = .expand ∧ base.composition.slots = t.slots g ∧
      ((∃ first, ids.head? = some first ∧ t.parent? first = some g ∧
          t.combination? g = some .expand) ∨
        (g = t.nextScreenId ∧ t.screenIds.count < 2 ^ 64 ∧
          base.composition.main = ids.head?)) := by
  have hhead : ∀ {first start rest}, ids.zip starts = (first, start) :: rest →
      ids.head? = some first := by
    intro first start rest hzip
    cases ids with
    | nil => cases hzip
    | cons x xs =>
      cases starts with
      | nil => cases hzip
      | cons p ps => exact congrArg some (Prod.mk.inj (List.cons.inj hzip).1).1
  obtain ⟨e, hd⟩ | ⟨first, start, rest, hzip, hlive, ⟨k, hk, hexpand, hd⟩ | hd⟩ :=
    expand_cases t ids starts
  · rw [hd] at hok
    cases hok
  · rw [hd] at hok ⊢
    obtain rfl : k = g := Except.ok.inj hok
    obtain ⟨grp, hgrp, hcombination⟩ := Option.map_eq_some_iff.mp hexpand
    obtain ⟨hshift, hgroup⟩ :=
      shifts_expand_loop (d := .begin t) (ids.zip starts) ⟨h, ⟨grp, hgrp⟩, live_keys hlive⟩ hgrp
    exact ⟨grp, live_keys hlive, hshift, hgroup, hcombination, (slots_of_group? hgrp).symm,
      .inl ⟨first, hhead hzip, hk, hexpand⟩⟩
  · rw [hd] at hok hcount ⊢
    obtain rfl : t.nextScreenId = g := Except.ok.inj hok
    have hfirst := hhead hzip
    rw [hzip] at hlive hcount ⊢
    obtain ⟨hlt, hloop⟩ := expand_loop_opened h first start rest hcount
    obtain ⟨s, hs⟩ := hlive (first, start) List.mem_cons_self
    obtain ⟨-, hready⟩ := ready_move_opened (d := .begin t) h hlt (live_keys hlive) .expand
      (by decide) first start
    obtain ⟨hshift, hgroup⟩ := shifts_expand_loop rest hready
      (group?_move_opened_self (d := .begin t) h hlt hs .expand first start)
    rw [hloop]
    exact ⟨emptyGroup t.nextScreenId .expand (some first), live_keys hlive,
      (shifts_move_opened (d := .begin t) h hlt hs .expand first start).append hshift, hgroup,
      rfl, (slots_nextScreenId h hlt).symm, .inr ⟨rfl, hlt, hfirst.symm⟩⟩

/-! ## What composing promises -/

/-- Nothing has stood under the number at any time of the run. -/
def Unused (run : List Command) (g : ScreenId) : Prop :=
  ∀ beginning, beginning <+: run → (after beginning).nodes.get? g = none

theorem unused_nextScreenId {run : List Command} (hcount : (after run).screenIds.count < 2 ^ 64) :
    Unused run (after run).nextScreenId := by
  intro beginning hprefix
  have hle := screenIds_le_of_beginning hprefix
  have hsound := sound_after beginning (Nat.le_trans hle (Nat.le_of_lt hcount))
  have hnumber : (after run).nextScreenId.val = (after run).screenIds.count :=
    IdSource.peek_of_lt hcount
  rw [get?_eq_none_iff, Option.eq_none_iff_forall_ne_some, Option.eq_none_iff_forall_ne_some]
  constructor
  · intro s hs
    have hlt := hsound.screen_lt _ s hs
    omega
  · intro grp hgrp
    have hlt := hsound.group_lt _ grp hgrp
    omega

/-- The listed screens have been brought into the group `g`, and screens and groups are as they
were otherwise: other groups are found without the listed screens, with the other children in
their places. -/
structure Brought (t : Topology) (g : ScreenId) (ids : List ScreenId) (u : Topology) : Prop
    extends Shifts (some g) ids t u where
  /-- The children that were there are followed by the others in the order in which they were
  first listed. -/
  children : u.children g = t.children g ++ (distinct ids).filter (· ∉ t.children g)
  /-- Every listed screen is in the group, -/
  listed : ∀ x ∈ ids, u.parent? x = some g
  /-- and every other one where it was. -/
  unlisted : ∀ x, x ∉ ids → u.parent? x = t.parent? x
  /-- Another group is dissolved if all its children were listed, and only then. -/
  dissolved : ∀ k grp, k ≠ g → t.group? k = some grp →
    (u.group? k = none ↔ ∀ x ∈ grp.composition.children, x ∈ ids)

/-- What mirroring `main` onto the listed screens promises, where the answer is `g`. -/
structure BroughtToMirror (run : List Command) (main : ScreenId) (ids : List ScreenId)
    (g : ScreenId) (u : Topology) : Prop extends Brought (after run) g ids u where
  /-- The group mirrors the source. -/
  mirror : ∃ grp, u.group? g = some grp ∧ isMirrorOf main grp = true
  /-- It is the mirror that the source had. -/
  reused : ∀ k grp, (after run).group? k = some grp → isMirrorOf main grp = true → g = k
  /-- If the source had none, its number is new. -/
  opened : (∀ k grp, (after run).group? k = some grp → isMirrorOf main grp = false) →
    Unused run g
  /-- Children that were there keep their start points. -/
  kept : ∀ slot ∈ (after run).slots g, slot ∈ u.slots g

/-- What extending a desktop over the listed screens promises, where the answer is `g`. -/
structure BroughtToDesktop (run : List Command) (ids : List ScreenId) (starts : List Point)
    (g : ScreenId) (u : Topology) : Prop extends Brought (after run) g ids u where
  /-- The group is a desktop. -/
  desktop : u.combination? g = some .expand
  /-- It is the one that the first screen was part of. -/
  reused : ∀ first k, ids.head? = some first → (after run).parent? first = some k →
    (after run).combination? k = some .expand → g = k
  /-- If the first screen was part of none, its number is new and the first screen heads it. -/
  opened : (∀ first k, ids.head? = some first → (after run).parent? first = some k →
    (after run).combination? k ≠ some .expand) →
    Unused run g ∧ ∃ grp, u.group? g = some grp ∧ grp.composition.main = ids.head?
  /-- The listed screens have the start points given, and the other children those they had. -/
  starts : ∀ slot, slot ∈ u.slots g ↔ (slot.screen, slot.start) ∈ ids.zip starts ∨
    (slot ∈ (after run).slots g ∧ slot.screen ∉ ids)

/-- The screens `xs` have been taken out of their groups, and nothing else has happened. -/
structure Detached (xs : List ScreenId) (t u : Topology) : Prop extends Shifts none xs t u where
  /-- They are in no group, -/
  out : ∀ x ∈ xs, u.parent? x = none
  /-- and every other screen is where it was. -/
  stays : ∀ x, x ∉ xs → u.parent? x = t.parent? x
  /-- A group is dissolved if all its children are among them, and only then. -/
  dissolved : ∀ k grp, t.group? k = some grp →
    (u.group? k = none ↔ ∀ x ∈ grp.composition.children, x ∈ xs)

theorem Shifts.dissolved {p : Option ScreenId} {xs : List ScreenId} {u : Topology}
    (h : Shifts p xs t u) {k : ScreenId} {grp : ScreenGroup} (hk : p ≠ some k)
    (hgrp : t.group? k = some grp) :
    u.group? k = none ↔ ∀ x ∈ grp.composition.children, x ∈ xs := by
  rw [h.groups k hk, hgrp, Option.bind_some, ScreenGroup.sparing_eq_none_iff]

theorem brought_of_shifts {u : Topology} (h : Shifts (some g) ids t u)
    (hlive : ∀ x ∈ ids, ∃ s, t.screen? x = some s)
    (hchildren : u.children g = t.children g ++ (distinct ids).filter (· ∉ t.children g)) :
    Brought t g ids u where
  toShifts := h
  children := hchildren
  listed x hx := by
    obtain ⟨s, hs⟩ := hlive x hx
    exact h.parent?_of_mem hx hs
  unlisted _ hx := h.parent?_of_notMem hx
  dissolved k grp hk hgrp := h.dissolved (fun he => hk (Option.some.inj he).symm) hgrp

theorem detached_of_shifts {xs : List ScreenId} {u : Topology} (h : Shifts none xs t u) :
    Detached xs t u where
  toShifts := h
  out x hx := by
    rw [parent?, h.screens, if_pos hx]
    cases t.screen? x <;> rfl
  stays _ hx := h.parent?_of_notMem hx
  dissolved _ _ hgrp := h.dissolved nofun hgrp

theorem mirrored_of_granted {run : List Command} {main : ScreenId}
    (hcount : ((after run).mirror main ids).topology.screenIds.count ≤ 2 ^ 64)
    (hle : (after run).screenIds.count ≤ 2 ^ 64)
    (hok : ((after run).mirror main ids).result = .ok g) :
    BroughtToMirror run main ids g ((after run).mirror main ids).topology := by
  have hsound := sound_after run hle
  have hmirrors := mirrorsSound_of_mirroring (mirroring_after run hle) hsound
    (formed_after run hle)
  obtain ⟨base, hlive, hshift, hgroup, hm, hslots, hbase⟩ := mirror_shifts hsound hcount hok
  have hslots' : ((after run).mirror main ids).topology.slots g =
      (after run).slots g ++ ((distinct ids).filter (· ∉ (after run).children g)).map
        fun x => ⟨x, .origin⟩ := by
    rw [slots_of_group? hgroup, ScreenGroup.slots_foldl_admitting _ (nodup_distinct ids),
      ← hslots, ← map_slots, ← hslots]
    rfl
  have hcomposes := ScreenGroup.foldl_composes ScreenGroup.admitting_composes (distinct ids) base
  refine ⟨brought_of_shifts (hshift.congr fun x => mem_distinct) ?_ ?_,
    ⟨_, hgroup, (isMirrorOf_congr hcomposes.1 hcomposes.2 main).trans hm⟩, ?_, ?_, ?_⟩
  · exact fun x hx => hlive x (mem_distinct.mpr hx)
  · rw [← map_slots, hslots', List.map_append, map_slots, List.map_map]
    exact congrArg _ (List.map_id _)
  · intro k grp hgrp hmgrp
    rcases hbase with hg | ⟨hnone, -⟩
    · -- the source has one mirror, whichever of its mirrors is used again
      obtain ⟨old, hold, hmold⟩ := group?_of_mem_mirrorsOf hsound.toLinked hg
      obtain ⟨hc, hmain⟩ := isMirrorOf_iff.mp hmold
      obtain ⟨hc', hmain'⟩ := isMirrorOf_iff.mp hmgrp
      exact hmirrors.unique g k _ _ (membership?_of_group? hold) (membership?_of_group? hgrp)
        hc hc' (hmain.trans hmain'.symm)
    · have hmem := mem_mirrorsOf hsound.toLinked hgrp hmgrp
      rw [hnone] at hmem
      cases hmem
  · intro hnone
    rcases hbase with hg | ⟨-, rfl, hlt⟩
    · obtain ⟨old, hold, hmold⟩ := group?_of_mem_mirrorsOf hsound.toLinked hg
      rw [hnone g old hold] at hmold
      cases hmold
    · exact unused_nextScreenId hlt
  · intro slot hslot
    rw [hslots']
    exact List.mem_append_left _ hslot

theorem expanded_of_granted {run : List Command} {starts : List Point}
    (hcount : ((after run).expand ids starts).topology.screenIds.count ≤ 2 ^ 64)
    (hle : (after run).screenIds.count ≤ 2 ^ 64)
    (hok : ((after run).expand ids starts).result = .ok g) :
    BroughtToDesktop run ids starts g ((after run).expand ids starts).topology := by
  have hsound := sound_after run hle
  obtain ⟨hlength, hdistinct, hreused⟩ := expand_granted hok
  obtain ⟨base, hlive, hshift, hgroup, hcombination, hslots, hbase⟩ :=
    expand_shifts hsound hcount hok
  have hkeys : (ids.zip starts).map Prod.fst = ids := List.map_fst_zip (Nat.le_of_eq hlength)
  rw [hkeys] at hlive hshift
  have hnodup : ((ids.zip starts).map Prod.fst).Nodup := by
    rw [hkeys, ← hdistinct]
    exact nodup_distinct ids
  have hcomposes := ScreenGroup.foldl_composes ScreenGroup.placing_composes (ids.zip starts) base
  refine ⟨brought_of_shifts hshift hlive ?_, ?_, hreused, ?_, ?_⟩
  · rw [← map_slots, slots_of_group? hgroup]
    refine (ScreenGroup.children_foldl_placing _ hnodup base).trans ?_
    rw [hkeys, hdistinct, ← map_slots, ← hslots]
    rfl
  · rw [combination?, hgroup, Option.map_some, hcomposes.1, hcombination]
  · intro hnone
    rcases hbase with ⟨first, hfirst, hparent, hexpand⟩ | ⟨rfl, hlt, hmain⟩
    · exact absurd hexpand (hnone first g hfirst hparent)
    · exact ⟨unused_nextScreenId hlt, _, hgroup, hcomposes.2.trans hmain⟩
  · intro slot
    rw [slots_of_group? hgroup, ScreenGroup.mem_slots_foldl_placing _ hnodup, hslots, hkeys]

/-- What a command of composition promises after a run; the others promise nothing here. -/
def Composes (run : List Command) : Command → Prop
  | .mirror main ids => ∀ g, ((after run).mirror main ids).result = .ok g →
      BroughtToMirror run main ids g ((after run).mirror main ids).topology
  | .expand ids starts => ∀ g, ((after run).expand ids starts).result = .ok g →
      BroughtToDesktop run ids starts g ((after run).expand ids starts).topology
  | .stopMirror ids => ((after run).stopMirror ids).result = .ok () →
      Detached (ids.filter ((after run).isIn .mirror)) (after run)
        ((after run).stopMirror ids).topology
  | .stopExpand ids => ((after run).stopExpand ids).result = .ok () →
      Detached (ids.filter ((after run).isIn .expand)) (after run)
        ((after run).stopExpand ids).topology
  | .ungroup ids => Detached (ids.filter fun x => ((after run).virtual? x).isSome) (after run)
      ((after run).ungroup ids).topology
  | _ => True

theorem detached_of_stopped (h : Sound t) {combination : Combination}
    (hok : (t.stop combination ids).result = .ok ()) :
    Detached (ids.filter (t.isIn combination)) t (t.stop combination ids).topology := by
  obtain ⟨e, hd⟩ | hd := stop_cases t combination ids
  · rw [hd] at hok
    cases hok
  · rw [hd]
    exact detached_of_shifts (shifts_stop_loop (d := .begin t) combination ids h)

/-- **After every run a command of composition that is granted does what was asked of the screens
listed, and nothing to any other screen or group.** -/
theorem composes_after (run : List Command) (c : Command)
    (hcount : ((after run).perform c).screenIds.count ≤ 2 ^ 64) : Composes run c := by
  have hle : (after run).screenIds.count ≤ 2 ^ 64 :=
    Nat.le_trans (writes_outcome c (after run)).screenIds_le hcount
  have hsound := sound_after run hle
  cases c with
  | mirror main ids => exact fun g hok => mirrored_of_granted hcount hle hok
  | expand ids starts => exact fun g hok => expanded_of_granted hcount hle hok
  | stopMirror ids => exact detached_of_stopped hsound
  | stopExpand ids => exact detached_of_stopped hsound
  | ungroup ids => exact detached_of_shifts (shifts_ungroup_loop (d := .begin _) ids hsound)
  | _ => trivial

/-- Two panels stand alone, two software screens are on a desktop, and the first panel is
mirrored onto a third. -/
def partedRun : List Command :=
  [.connect ⟨0⟩ ⟨"builtin", [⟨1080, 2340, 60⟩], 0, 2, []⟩,
    .connect ⟨1⟩ ⟨"external", [⟨1920, 1080, 60⟩], 0, 1, []⟩,
    .create ⟨"a", 640, 480, 1, none⟩,
    .create ⟨"b", 640, 480, 1, none⟩,
    .create ⟨"c", 640, 480, 1, none⟩,
    .expand [⟨3⟩, ⟨4⟩] [⟨0, 0⟩, ⟨640, 0⟩],
    .mirror ⟨0⟩ [⟨5⟩]]

/-- The mirror is used again, the desktop is dissolved, and the source stays alone. -/
theorem composes_after_partedRun :
    ((after partedRun).perform (.mirror ⟨0⟩ [⟨4⟩, ⟨2⟩, ⟨4⟩, ⟨3⟩])).screenIds.count ≤ 2 ^ 64 ∧
      BroughtToMirror partedRun ⟨0⟩ [⟨4⟩, ⟨2⟩, ⟨4⟩, ⟨3⟩] ⟨7⟩
        ((after partedRun).mirror ⟨0⟩ [⟨4⟩, ⟨2⟩, ⟨4⟩, ⟨3⟩]).topology :=
  ⟨by decide, composes_after partedRun (.mirror ⟨0⟩ [⟨4⟩, ⟨2⟩, ⟨4⟩, ⟨3⟩]) (by decide) ⟨7⟩
    (by decide)⟩

end Topology

end DisplayServer
