import DisplayServer.Proofs.Accounts
import DisplayServer.Proofs.Runs

/-!
# Every operation is a sequence of changes

The loops of the operations go over several screens, and each round is a move of the screen at
hand. A round keeps what the later rounds need: the group that screens are moved to stays live,
because a screen that names it is left where it is, and no screen disappears (`Ready`). Stopping
a mirror is a loop of departures in which the group dissolves at the end; the loop over all
mirrors of a screen leaves none of them, so a screen can be forgotten after it.

The result is `changes_outcome`: on a sound topology every operation, granted or refused, is a
sequence of changes, and its reports are the reports of these changes.
-/

namespace DisplayServer

namespace Draft

open DisplayServer.Topology

variable {d : Draft}

/-! ## Moving several screens -/

/-- What a loop that moves the screens `xs` to the group `g` needs of the draft. -/
structure Ready (g : ScreenId) (xs : List ScreenId) (d : Draft) : Prop where
  /-- The topology is sound. -/
  sound : Sound d.topology
  /-- The group is live. -/
  group : ∃ grp, d.topology.group? g = some grp
  /-- The screens still to be moved are live. -/
  live : ∀ x ∈ xs, ∃ s, d.topology.screen? x = some s

theorem ready_tail {g x : ScreenId} {xs : List ScreenId} (h : Ready g (x :: xs) d) :
    Ready g xs d :=
  ⟨h.sound, h.group, fun y hy => h.live y (List.mem_cons_of_mem x hy)⟩

/-- Screens that were live are found after one of them was rewritten. -/
theorem live_of_rewritten {t u : Topology} {x : ScreenId} {s : Screen} {xs : List ScreenId}
    (hlive : ∀ y ∈ xs, ∃ s, t.screen? y = some s)
    (hu : ∀ y, u.screen? y = if y = x then some s else t.screen? y) :
    ∀ y ∈ xs, ∃ s, u.screen? y = some s := by
  intro y hy
  rw [hu]
  split
  · exact ⟨s, rfl⟩
  · exact hlive y hy

theorem ready_move {g x : ScreenId} {xs : List ScreenId} (h : Ready g (x :: xs) d)
    (hne : d.topology.parent? x ≠ some g) (start : Point) :
    Arranges d (d.move x g start) ∧ Ready g xs (d.move x g start) := by
  obtain ⟨grp, hg⟩ := h.group
  obtain ⟨s, hs⟩ := h.live x List.mem_cons_self
  have hext : Arranges d (d.move x g start) :=
    ⟨extends_move h.sound hs hg hne start, gathers_move h.sound hs hg hne start⟩
  refine ⟨hext, hext.sound h.sound, ?_, ?_⟩
  · exact ⟨_, group?_move_self h.sound hs hg hne start⟩
  · exact live_of_rewritten (ready_tail h).live (screen?_move h.sound hs hg hne start)

theorem ready_mirrorOnto {g x : ScreenId} {xs : List ScreenId} (h : Ready g (x :: xs) d) :
    Arranges d (mirrorOnto g d x) ∧ Ready g xs (mirrorOnto g d x) := by
  unfold mirrorOnto
  split
  · exact ⟨Arranges.refl d, ready_tail h⟩
  · rename_i hne
    exact ready_move h hne .origin

/-- A screen on the desktop already is placed anew, and otherwise it moves there. -/
theorem expandOnto_cases {g : ScreenId} {p : ScreenId × Point} (h : Sound d.topology)
    {grp : ScreenGroup} (hg : d.topology.group? g = some grp) :
    (d.topology.parent? p.1 = some g ∧ p.1 ∈ grp.composition.children ∧ grp.id = g ∧
        expandOnto g d p = ⟨d.topology.putGroup (grp.placing p.1 p.2), d.events⟩) ∨
      (d.topology.parent? p.1 ≠ some g ∧ expandOnto g d p = d.move p.1 g p.2) := by
  unfold expandOnto
  split
  · rename_i hparent
    have hid := h.group_id g grp hg
    have hplace : d.topology.modifyGroup g (fun c => c.place p.1 p.2) =
        d.topology.putGroup (grp.placing p.1 p.2) :=
      modifyGroup_eq hg hid
    refine .inl ⟨hparent, (h.parent?_eq_some_iff hg p.1).mp hparent, hid, ?_⟩
    simp only [edit, hplace]
  · rename_i hne
    exact .inr ⟨hne, rfl⟩

theorem ready_expandOnto {g : ScreenId} {p : ScreenId × Point} {xs : List ScreenId}
    (h : Ready g (p.1 :: xs) d) :
    Arranges d (expandOnto g d p) ∧ Ready g xs (expandOnto g d p) := by
  obtain ⟨grp, hg⟩ := h.group
  obtain ⟨-, hmem, rfl, hd⟩ | ⟨hne, hd⟩ := expandOnto_cases h.sound hg (p := p)
  · rw [hd]
    have hscreen := screen?_putGroup_of_live (w := grp.placing p.1 p.2) hg rfl
    have hext : Arranges d ⟨d.topology.putGroup (grp.placing p.1 p.2), d.events⟩ := by
      refine ⟨⟨[], (List.append_nil _).symm, ?_⟩, fun y hy => ?_, [], (List.append_nil _).symm,
        fun _ he => (List.not_mem_nil he).elim⟩
      · exact (Change.place d.topology p.1 grp p.2 hg hmem).changes
      · -- a child that is placed anew stays in the group
        unfold parent? at hy ⊢
        rw [hscreen]
        exact hy
    refine ⟨hext, hext.sound h.sound, ⟨grp.placing p.1 p.2, ?_⟩, ?_⟩
    · rw [group?_putGroup, ScreenGroup.placing_id, if_pos rfl]
    · intro y hy
      obtain ⟨s, hs⟩ := (ready_tail h).live y hy
      exact ⟨s, (hscreen y).trans hs⟩
  · rw [hd]
    exact ready_move h hne p.2

theorem arranges_mirror_loop {g : ScreenId} (xs : List ScreenId) {d : Draft} (h : Ready g xs d) :
    Arranges d (xs.foldl (mirrorOnto g) d) := by
  induction xs generalizing d with
  | nil => exact Arranges.refl d
  | cons x rest ih =>
    obtain ⟨hext, hready⟩ := ready_mirrorOnto h
    exact hext.trans (ih hready)

theorem arranges_expand_loop {g : ScreenId} (ps : List (ScreenId × Point)) {d : Draft}
    (h : Ready g (ps.map Prod.fst) d) : Arranges d (ps.foldl (expandOnto g) d) := by
  induction ps generalizing d with
  | nil => exact Arranges.refl d
  | cons p rest ih =>
    obtain ⟨hext, hready⟩ := ready_expandOnto h
    exact hext.trans (ih hready)

/-- The first screen opens the group that the others join. -/
theorem ready_move_opened (h : Sound d.topology) (hcount : d.topology.screenIds.count < 2 ^ 64)
    {x : ScreenId} {xs : List ScreenId} (hlive : ∀ y ∈ x :: xs, ∃ s, d.topology.screen? y = some s)
    (combination : Combination) (hcombination : combination ≠ .alone) (main : ScreenId)
    (start : Point) :
    Arranges d ((d.edit fun t => t.openGroup combination (some main)).move x
        d.topology.nextScreenId start) ∧
      Ready d.topology.nextScreenId xs
        ((d.edit fun t => t.openGroup combination (some main)).move x
          d.topology.nextScreenId start) := by
  obtain ⟨s, hs⟩ := hlive x List.mem_cons_self
  have hext : Arranges d ((d.edit fun t => t.openGroup combination (some main)).move x
      d.topology.nextScreenId start) :=
    ⟨extends_move_opened h hcount hs combination main start hcombination,
      gathers_move_opened h hcount hs combination main start⟩
  refine ⟨hext, hext.sound h, ?_, ?_⟩
  · exact ⟨_, group?_move_opened_self h hcount hs combination main start⟩
  · exact live_of_rewritten (fun y hy => hlive y (List.mem_cons_of_mem x hy))
      (screen?_move_opened h hcount hs combination main start)

/-- No screen names a group that is being opened. -/
theorem parent?_opened_ne (h : Sound d.topology) (hcount : d.topology.screenIds.count < 2 ^ 64)
    (combination : Combination) (main : Option ScreenId) (x : ScreenId) :
    (d.edit fun t => t.openGroup combination main).topology.parent? x ≠
      some d.topology.nextScreenId := by
  obtain ⟨hfree, hfree'⟩ := get?_eq_none_iff.mp (h.free hcount)
  intro hparent
  obtain ⟨s, hs, hp⟩ := parent?_eq_some_iff.mp hparent
  change (d.topology.openGroup combination main).screen? x = some s at hs
  rw [screen?_openGroup] at hs
  split at hs
  · cases hs
  · obtain ⟨grp, hg, -⟩ := h.listed x s _ hs hp
    rw [hfree'] at hg
    cases hg

/-! ## Stopping mirrors -/

/-- That the children of a group depart and it then dissolves is that they leave it one after the
other: the last one takes the group with it. -/
theorem depart_eq (xs : List ScreenId) {d : Draft} (h : Sound d.topology) {g : ScreenGroup}
    (hg : d.topology.group? g.id = some g) (hxs : g.composition.children = xs) :
    (xs.foldl (fun d x => (d.detach x .detached).1) d).dissolveIfEmpty g.id =
        xs.foldl (fun d x => d.leave x .detached) d ∧
      ∀ y, (xs.foldl (fun d x => d.leave x .detached) d).topology.group? y =
        if y = g.id then none else d.topology.group? y := by
  induction xs generalizing d g with
  | nil => exact absurd hxs (h.populated g.id g hg)
  | cons x rest ih =>
    have hmem : x ∈ g.composition.children := by
      rw [hxs]
      exact List.mem_cons_self
    obtain ⟨s, hs, hp⟩ := h.member g.id g x hg hmem
    obtain rfl := h.screen_id x s hs
    have hnodup := h.nodup g.id g hg
    rw [hxs, List.nodup_cons] at hnodup
    -- the child at the head is listed once, so its removal leaves the tail
    have hrest : (g.without s.id).composition.children = rest := by
      rw [ScreenGroup.without_composition, Composition.children_remove, hxs, List.filter_cons,
        if_neg (by simp), List.filter_eq_self]
      intro y hy
      simp only [bne_iff_ne]
      intro he
      exact hnodup.1 (he ▸ hy)
    have hunlink := group?_unlink (g := g) hs
    cases rest with
    | nil =>
      have hlast : ((d.detach s.id .detached).1).dissolveIfEmpty g.id = d.leave s.id .detached := by
        unfold leave
        rw [detach_eq hs hp hg hmem]
      refine ⟨hlast, fun y => ?_⟩
      rw [List.foldl_cons, List.foldl_nil, leave_eq_of_last hs hp hg hmem hrest, group?_dropGroup,
        hunlink]
      split <;> rfl
    | cons x' rest' =>
      -- others stay, and the loop goes on with what is left of the group
      have hstay : (g.without s.id).composition.children ≠ [] := by
        rw [hrest]
        exact List.cons_ne_nil x' rest'
      have hleave := leave_eq_of_stay hs hp hg hmem hstay .detached
      have hgroup : (d.leave s.id .detached).topology.group? = fun y =>
          if y = g.id then some (g.without s.id) else d.topology.group? y := by
        rw [hleave, detach_eq hs hp hg hmem]
        exact funext hunlink
      have hg' : (d.leave s.id .detached).topology.group? (g.without s.id).id =
          some (g.without s.id) := by
        rw [hgroup]
        exact if_pos rfl
      obtain ⟨heq, hgroup'⟩ := ih ((extends_leave h s.id .detached).sound h) hg' hrest
      rw [List.foldl_cons, List.foldl_cons, ← hleave]
      refine ⟨heq, fun y => (hgroup' y).trans ?_⟩
      rw [hgroup, ScreenGroup.without_id]
      split
      · rfl
      · rename_i hy
        exact if_neg hy

/-- Stopping a mirror is that its children leave it. -/
theorem stopMirror_eq (h : Sound d.topology) (g : ScreenId) :
    d.stopMirror g = (d.topology.children g).foldl (fun d x => d.leave x .detached) d := by
  unfold stopMirror children
  cases hg : d.topology.group? g with
  | none => simp only [List.foldl_nil, dissolveIfEmpty, hg]
  | some grp =>
    obtain rfl := h.group_id g grp hg
    exact (depart_eq _ h hg rfl).1

theorem extends_loop {α : Type} {step : Draft → α → Draft}
    (hstep : ∀ d a, Sound d.topology → Extends d (step d a)) (as : List α) {d : Draft}
    (h : Sound d.topology) : Extends d (as.foldl step d) := by
  induction as generalizing d with
  | nil => exact Extends.refl d
  | cons a rest ih => exact (hstep d a h).trans (ih ((hstep d a h).sound h))

/-- Stopping a mirror dissolves it and leaves all other groups as they were. -/
theorem extends_stopMirror (h : Sound d.topology) (g : ScreenId) :
    Extends d (d.stopMirror g) ∧
      ∀ y, (d.stopMirror g).topology.group? y =
        if y = g then none else d.topology.group? y := by
  rw [stopMirror_eq h]
  refine ⟨extends_loop (fun d x hd => extends_leave hd x .detached) _ h, fun y => ?_⟩
  unfold children
  cases hg : d.topology.group? g with
  | none =>
    rw [List.foldl_nil]
    split
    · rename_i hy
      rw [hy, hg]
    · rfl
  | some grp =>
    obtain rfl := h.group_id g grp hg
    exact (depart_eq _ h hg rfl).2 y

theorem extends_stop_loop (gs : List ScreenId) {d : Draft} (h : Sound d.topology) :
    Extends d (gs.foldl stopMirror d) ∧
      ∀ y grp, (gs.foldl stopMirror d).topology.group? y = some grp →
        d.topology.group? y = some grp ∧ y ∉ gs := by
  induction gs generalizing d with
  | nil => exact ⟨Extends.refl d, fun y grp hy => ⟨hy, List.not_mem_nil⟩⟩
  | cons g rest ih =>
    obtain ⟨hext, hgroup⟩ := extends_stopMirror h g
    obtain ⟨hext', hgroup'⟩ := ih (hext.sound h)
    refine ⟨hext.trans hext', fun y grp hy => ?_⟩
    obtain ⟨hy, hrest⟩ := hgroup' y grp hy
    rw [hgroup] at hy
    split at hy
    · cases hy
    · rename_i hne
      exact ⟨hy, fun hm => (List.mem_cons.mp hm).elim hne hrest⟩

theorem mem_mirrorsOf {t : Topology} (h : Linked t) {x g : ScreenId} {grp : ScreenGroup}
    (hg : t.group? g = some grp) (hm : isMirrorOf x grp = true) : g ∈ t.mirrorsOf x := by
  refine List.mem_map.mpr ⟨grp, List.mem_filter.mpr ⟨?_, hm⟩, h.group_id g grp hg⟩
  refine List.mem_filterMap.mpr ⟨.group grp, ?_, rfl⟩
  exact (Table.mem_values_iff _ _).mpr ⟨g, group?_eq_some_iff.mp hg⟩

theorem group?_of_mem_mirrorsOf {t : Topology} (h : Linked t) {x g : ScreenId}
    (hg : g ∈ t.mirrorsOf x) : ∃ grp, t.group? g = some grp ∧ isMirrorOf x grp = true := by
  obtain ⟨grp, hgrp, rfl⟩ := List.mem_map.mp hg
  obtain ⟨hgrp, hm⟩ := List.mem_filter.mp hgrp
  obtain ⟨n, hn, hgroup⟩ := List.mem_filterMap.mp hgrp
  obtain ⟨y, hy⟩ := (Table.mem_values_iff _ _).mp hn
  cases n with
  | leaf s => cases hgroup
  | group g' =>
    obtain rfl := Option.some.inj hgroup
    exact ⟨g', h.group?_id (group?_eq_some_iff.mpr hy), hm⟩

/-- After its mirrors were stopped nothing mirrors the screen. -/
theorem extends_stopMirrorsOf (h : Sound d.topology) (x : ScreenId) :
    Extends d (d.stopMirrorsOf x) ∧
      ∀ g grp, (d.stopMirrorsOf x).topology.group? g = some grp → isMirrorOf x grp = false := by
  obtain ⟨hext, hgroup⟩ := extends_stop_loop (d.topology.mirrorsOf x) h
  refine ⟨hext, fun g grp hg => ?_⟩
  obtain ⟨hg, hnot⟩ := hgroup g grp hg
  cases hm : isMirrorOf x grp with
  | false => rfl
  | true => exact absurd (mem_mirrorsOf h.toLinked hg hm) hnot

/-! ## Erasing a screen -/

/-- A screen stays live through changes that do not report that it went. -/
theorem live_of_changes {t u : Topology} {es : List TopologyEvent} (hc : Changes t es u)
    {x : ScreenId} (hgone : .disconnected x ∉ es) {s : Screen} (hs : t.screen? x = some s) :
    ∃ s', u.screen? x = some s' := by
  induction hc with
  | refl => exact ⟨s, hs⟩
  | tail _ hc ih =>
    obtain ⟨s', hs'⟩ := ih fun hm => hgone (List.mem_append_left _ hm)
    rcases hc.live_after hs' with ⟨s'', hs'', -⟩ | hm
    · exact ⟨s'', hs''⟩
    · exact absurd (List.mem_append_right _ hm) hgone

theorem live_stopMirrorsOf (h : Sound d.topology) {x y : ScreenId} {s : Screen}
    (hs : d.topology.screen? y = some s) :
    ∃ s', (d.stopMirrorsOf x).topology.screen? y = some s' := by
  obtain ⟨es, hes, hc⟩ := (extends_stopMirrorsOf h x).1
  obtain ⟨fs, hfs, hP⟩ := (writes_stopMirrorsOf (P := fun e => e ≠ .disconnected y)
    (fun _ => TopologyEvent.noConfusion) (fun _ _ => TopologyEvent.noConfusion) d x).events
  -- stopping mirrors never reports that a screen went
  refine live_of_changes hc ?_ hs
  intro hm
  obtain rfl := List.append_cancel_left (hes.symm.trans hfs)
  exact hP _ hm rfl

/-- Nothing holds on to a screen any more when it is forgotten. -/
theorem extends_erase (h : Sound d.topology) {x : ScreenId} {s : Screen}
    (hs : d.topology.screen? x = some s) : Extends d (d.erase x) := by
  obtain ⟨hstop, hmirrors⟩ := extends_stopMirrorsOf h x
  have h' := hstop.sound h
  have hleave := extends_leave h' x .destroyed
  obtain ⟨s', hs'⟩ := live_stopMirrorsOf h hs (x := x)
  have hs'' : ((d.stopMirrorsOf x).leave x .destroyed).topology.screen? x =
      some (s'.within none) := by
    rw [screen?_leave h', if_pos rfl, hs']
    rfl
  obtain rfl : s'.id = x := h'.screen_id x s' hs'
  refine (hstop.trans hleave).trans (Extends.of_change (Change.forget _ (s'.within none) hs'' rfl
    ?_) _)
  -- a group that is found now was found before the screen left, and mirrored nothing then
  intro g grp hg
  obtain ⟨old, hold, hcombination, hmain⟩ := group?_leave_kept h' hg
  exact (isMirrorOf_congr hcombination hmain _).trans (hmirrors g old hold)

/-! ## Making screens unique -/

theorem extends_makeUniqueStep (h : Sound d.topology) (turn : UniqueRotation) (x : ScreenId) :
    Extends d (makeUniqueStep turn x d).2 := by
  have hleave := extends_leave h x .madeUnique
  unfold makeUniqueStep
  simp only
  split
  · exact hleave
  · -- a screen that has just left its group is in none
    rename_i s hs
    have h' := hleave.sound h
    have hp : s.parent = none := by
      rw [← parent?_of_screen? hs, parent?_leave h, if_pos rfl]
    exact hleave.trans (Extends.of_change (Change.single _ s turn (h'.screen?_id hs) hp) _)

theorem extends_makeUniqueSteps (turn : UniqueRotation) (xs : List ScreenId) {d : Draft}
    (h : Sound d.topology) : Extends d (makeUniqueSteps turn xs d).2 := by
  induction xs generalizing d with
  | nil => exact Extends.refl d
  | cons x rest ih =>
    have hstep := extends_makeUniqueStep h turn x
    unfold makeUniqueSteps
    split
    · rename_i e d' hd
      rw [hd] at hstep
      exact hstep
    · rename_i display d' hd
      rw [hd] at hstep
      have hrest := hstep.trans (ih (hstep.sound h))
      split
      · rename_i e d'' hd'
        rw [hd'] at hrest
        exact hrest
      · rename_i displays d'' hd'
        rw [hd'] at hrest
        exact hrest

/-! ## Leaving groups -/

theorem extends_stopStep (combination : Combination) (d : Draft) (x : ScreenId)
    (h : Sound d.topology) : Extends d (stopStep combination d x) := by
  unfold stopStep
  split
  · split
    · exact extends_leave h x .detached
    · exact Extends.refl d
  · exact Extends.refl d

theorem extends_ungroupStep (d : Draft) (x : ScreenId) (h : Sound d.topology) :
    Extends d (ungroupStep d x) := by
  unfold ungroupStep
  split
  · exact extends_leave h x .detached
  · exact Extends.refl d

end Draft

namespace Topology

open Draft

/-! ## The operations -/

variable {t : Topology}

/-- A panel is enlisted, and joins the group that panels join, which it heads if it is the
first. -/
theorem connect_plugs (h : Sound t) (r : RenderId) (panel : PanelDescription)
    (hcount : (t.connect r panel).topology.screenIds.count ≤ 2 ^ 64) :
    (∃ e, t.connect r panel = .refuse t e) ∨
      ∃ (s : Screen) (g : ScreenId) (m : GroupReport) (u : Topology),
        s = Screen.ofPanel t.nextScreenId r panel ∧ t.renderIndex.get? r = none ∧
        t.nodes.get? t.nextScreenId = none ∧
        t.connect r panel = ⟨.ok s.id, u,
          [.connected s.report, .joinedGroup (s.within (some g)).report m]⟩ ∧
        Change t [.connected s.report] (t.plugIn s) ∧
        Change (t.plugIn s) [.joinedGroup (s.within (some g)).report m] u ∧
        u.screen? s.id = some (s.within (some g)) ∧ u.defaultGroup = some g := by
  obtain ⟨e, hd⟩ | ⟨s, hs, hfault, hnew, hd⟩ := connect_cases t r panel
  · exact .inl ⟨e, hd⟩
  · have hid : s.id = t.nextScreenId := by
      rw [hs]
      rfl
    have hp : s.parent = none := by
      rw [hs]
      rfl
    have hput : (t.plugIn s).screen? s.id = some s := by
      rw [screen?_plugIn, if_pos rfl]
    rw [hd] at hcount
    have hcount' := Nat.le_trans
      (writes_attach (P := fun _ => True) (fun _ _ => trivial) _ s.id _ .origin).screenIds_le
      hcount
    cases hhome : (t.plugIn s).defaultGroup with
    | some g =>
      rw [homeGroup_of_some hhome] at hcount' hd
      -- there is a home already, so one number is drawn
      have hfree := h.free (Nat.lt_of_succ_le hcount')
      have hplug := Change.plug t r panel s hs hfault hfree hnew
      have h' := sound_change hplug h
      obtain ⟨grp, hgrp⟩ := h'.home g hhome
      obtain rfl := h'.group_id g grp hgrp
      have hattach := attach_eq (d := (Draft.begin (t.plugIn s)).emit (.connected s.report))
        hput hgrp .origin
      refine .inr ⟨s, grp.id, _, _, hs, hnew, hfree,
        hd.trans (congrArg (Outcome.done · s.id) hattach), hplug,
        Change.join _ s grp .origin hput hp hgrp, ?_, hhome⟩
      exact (screen?_join hput (screen?_eq_none_of_group? hgrp) .origin s.id).trans (if_pos rfl)
    | none =>
      rw [homeGroup_of_none hhome] at hcount' hd
      -- the panel and the group that it heads take two numbers
      have hcount'' : t.screenIds.count + 2 ≤ 2 ^ 64 := hcount'
      have hfree := h.free (Nat.lt_of_succ_lt hcount'')
      have hplug := Change.plug t r panel s hs hfault hfree hnew
      have hopened := (sound_change hplug h).free (Nat.lt_of_succ_le hcount')
      have hfree' := (get?_eq_none_iff.mp hopened).1
      have hattach := attach_opened_eq
        (d := (Draft.begin (t.plugIn s)).emit (.connected s.report)) hput hfree' .alone s.id
        (some (t.plugIn s).nextScreenId) .origin
      refine .inr ⟨s, (t.plugIn s).nextScreenId, _, _, hs, hnew, hfree,
        hd.trans (congrArg (Outcome.done · s.id) hattach), hplug,
        Change.found _ s .alone s.id .origin _ hput hp hopened (.inr ⟨rfl, hhome, rfl, rfl⟩), ?_,
        rfl⟩
      exact (screen?_found hput hfree' .alone (some s.id) .origin _ s.id).trans (if_pos rfl)

theorem changes_connect (h : Sound t) (r : RenderId) (panel : PanelDescription)
    (hcount : (t.connect r panel).topology.screenIds.count ≤ 2 ^ 64) :
    (∃ e, t.connect r panel = .refuse t e) ∨
      ∃ (s : Screen) (g : ScreenId) (m : GroupReport) (u : Topology),
        t.connect r panel = ⟨.ok s.id, u,
          [.connected s.report, .joinedGroup (s.within (some g)).report m]⟩ ∧
        Changes t [.connected s.report, .joinedGroup (s.within (some g)).report m] u ∧
        u.screen? s.id = some (s.within (some g)) ∧ u.defaultGroup = some g := by
  obtain hrefused | ⟨s, g, m, u, -, -, -, hd, hplug, hjoin, hu⟩ := connect_plugs h r panel hcount
  · exact .inl hrefused
  · exact .inr ⟨s, g, m, u, hd, hplug.changes.tail hjoin, hu⟩

theorem extends_create (h : Sound t) (request : VirtualScreenRequest)
    (hcount : (t.create request).topology.screenIds.count ≤ 2 ^ 64) :
    (Draft.begin t).Extends ⟨(t.create request).topology, (t.create request).events⟩ := by
  obtain ⟨e, hd⟩ | ⟨s, hs, hfault, hd⟩ := create_cases t request
  · rw [hd]
    exact Extends.refl _
  · rw [hd] at hcount ⊢
    have hfree := h.free (Nat.lt_of_succ_le hcount)
    exact Extends.of_change (Change.create t request s hs hfault hfree) []

/-- A loop onto a group opened for it begins with a move of the first screen. -/
theorem mirror_loop_opened (h : Sound t) (main x : ScreenId) (rest : List ScreenId)
    (hcount : ((x :: rest).foldl (mirrorOnto t.nextScreenId)
      (.begin (t.openGroup .mirror (some main)))).topology.screenIds.count ≤ 2 ^ 64) :
    t.screenIds.count < 2 ^ 64 ∧
      (x :: rest).foldl (mirrorOnto t.nextScreenId) (.begin (t.openGroup .mirror (some main))) =
        rest.foldl (mirrorOnto t.nextScreenId)
          (((Draft.begin t).edit fun t => t.openGroup .mirror (some main)).move x t.nextScreenId
            .origin) := by
  have hle := Nat.le_trans (Writes.foldl (writes_mirrorOnto (P := fun _ => True)
    (fun _ _ => trivial) (fun _ => trivial) (fun _ _ => trivial) t.nextScreenId) _
      (.begin (t.openGroup .mirror (some main)))).screenIds_le hcount
  have hlt : t.screenIds.count < 2 ^ 64 := Nat.lt_of_succ_le hle
  have hfirst : mirrorOnto t.nextScreenId (.begin (t.openGroup .mirror (some main))) x =
      ((Draft.begin t).edit fun t => t.openGroup .mirror (some main)).move x t.nextScreenId
        .origin :=
    if_neg (parent?_opened_ne (d := .begin t) h hlt .mirror (some main) x)
  exact ⟨hlt, congrArg (rest.foldl (mirrorOnto t.nextScreenId)) hfirst⟩

theorem expand_loop_opened (h : Sound t) (first : ScreenId) (start : Point)
    (rest : List (ScreenId × Point))
    (hcount : (((first, start) :: rest).foldl (expandOnto t.nextScreenId)
      (.begin (t.openGroup .expand (some first)))).topology.screenIds.count ≤ 2 ^ 64) :
    t.screenIds.count < 2 ^ 64 ∧
      ((first, start) :: rest).foldl (expandOnto t.nextScreenId)
          (.begin (t.openGroup .expand (some first))) =
        rest.foldl (expandOnto t.nextScreenId)
          (((Draft.begin t).edit fun t => t.openGroup .expand (some first)).move first
            t.nextScreenId start) := by
  have hle := Nat.le_trans (Writes.foldl (writes_expandOnto (P := fun _ => True)
    (fun _ _ => trivial) (fun _ => trivial) (fun _ _ => trivial) t.nextScreenId) _
      (.begin (t.openGroup .expand (some first)))).screenIds_le hcount
  have hlt : t.screenIds.count < 2 ^ 64 := Nat.lt_of_succ_le hle
  have hfirst : expandOnto t.nextScreenId (.begin (t.openGroup .expand (some first)))
      (first, start) =
      ((Draft.begin t).edit fun t => t.openGroup .expand (some first)).move first t.nextScreenId
        start :=
    if_neg (parent?_opened_ne (d := .begin t) h hlt .expand (some first) first)
  exact ⟨hlt, congrArg (rest.foldl (expandOnto t.nextScreenId)) hfirst⟩

theorem arranges_mirror (h : Sound t) (main : ScreenId) (ids : List ScreenId)
    (hcount : (t.mirror main ids).topology.screenIds.count ≤ 2 ^ 64) :
    (Draft.begin t).Arranges ⟨(t.mirror main ids).topology, (t.mirror main ids).events⟩ := by
  obtain ⟨e, hd⟩ | ⟨-, -, hne, hlive, ⟨g, hg, hd⟩ | ⟨-, hd⟩⟩ := mirror_cases t main ids
  · rw [hd]
    exact Arranges.refl _
  · rw [hd]
    obtain ⟨grp, hgrp, -⟩ := group?_of_mem_mirrorsOf h.toLinked hg
    exact arranges_mirror_loop _ ⟨h, ⟨grp, hgrp⟩, hlive⟩
  · -- nothing mirrors the screen yet: the first child opens the group for the others
    rw [hd] at hcount ⊢
    obtain ⟨x, rest, hids⟩ := List.exists_cons_of_ne_nil hne
    rw [hids] at hlive hcount ⊢
    obtain ⟨hlt, hloop⟩ := mirror_loop_opened h main x rest hcount
    obtain ⟨hext, hready⟩ := ready_move_opened (d := .begin t) h hlt hlive
      .mirror (by decide) main .origin
    rw [hloop]
    exact hext.trans (arranges_mirror_loop rest hready)

/-- The screens that are listed with start points are live. -/
theorem live_keys {ps : List (ScreenId × Point)}
    (hlive : ∀ p ∈ ps, ∃ s, t.screen? p.1 = some s) :
    ∀ x ∈ ps.map Prod.fst, ∃ s, t.screen? x = some s := by
  intro x hx
  obtain ⟨p, hp, rfl⟩ := List.mem_map.mp hx
  exact hlive p hp

theorem arranges_expand (h : Sound t) (ids : List ScreenId) (starts : List Point)
    (hcount : (t.expand ids starts).topology.screenIds.count ≤ 2 ^ 64) :
    (Draft.begin t).Arranges ⟨(t.expand ids starts).topology, (t.expand ids starts).events⟩ := by
  obtain ⟨e, hd⟩ | ⟨first, start, rest, hzip, hlive, ⟨g, hg, -, hd⟩ | hd⟩ :=
    expand_cases t ids starts
  · rw [hd]
    exact Arranges.refl _
  · rw [hd]
    -- the group of the first screen takes the others in
    obtain ⟨s, hs, hp⟩ := parent?_eq_some_iff.mp hg
    obtain ⟨grp, hgrp, -⟩ := h.listed first s g hs hp
    exact arranges_expand_loop _ ⟨h, ⟨grp, hgrp⟩, live_keys hlive⟩
  · rw [hd] at hcount ⊢
    rw [hzip] at hlive hcount ⊢
    obtain ⟨hlt, hloop⟩ := expand_loop_opened h first start rest hcount
    obtain ⟨hext, hready⟩ := ready_move_opened (d := .begin t) h hlt (live_keys hlive)
      .expand (by decide) first start
    rw [hloop]
    exact hext.trans (arranges_expand_loop rest hready)

theorem extends_stop (h : Sound t) (combination : Combination) (ids : List ScreenId) :
    (Draft.begin t).Extends
      ⟨(t.stop combination ids).topology, (t.stop combination ids).events⟩ := by
  obtain ⟨e, hd⟩ | hd := stop_cases t combination ids
  · rw [hd]
    exact Extends.refl _
  · rw [hd]
    exact extends_loop (extends_stopStep combination) ids h

/-- Surfaces and power states of one screen may be recorded. -/
theorem extends_modifyScreen (t : Topology) (x : ScreenId) (f : Screen → Screen)
    (hf : ∀ s, f s = { s with surface := (f s).surface, power := (f s).power }) :
    (Draft.begin t).Extends (.begin (t.modifyScreen x f)) := by
  cases hs : t.screen? x with
  | none =>
    rw [modifyScreen_of_none hs]
    exact Extends.refl _
  | some s =>
    have hmodify : t.modifyScreen x f = { t with nodes := t.nodes.insert x (.leaf (f s)) } := by
      simp only [modifyScreen, hs]
    rw [hmodify]
    refine Extends.of_change (Change.record t _ (fun y s => if y = x then f s else s) ?_ ?_ ?_) []
    · intro y s
      split
      · exact hf s
      · rfl
    · intro y
      simp only [screen?, Table.get?_insert_ite]
      split
      · rename_i hy
        rw [hy, screen?_eq_some_iff.mp hs]
        rfl
      · exact Option.map_id'.symm
    · intro y
      simp only [group?, Table.get?_insert_ite]
      split
      · rename_i hy
        rw [hy, screen?_eq_some_iff.mp hs]
        rfl
      · rfl

theorem extends_setPanelPower (t : Topology) (power : ScreenPower) :
    (Draft.begin t).Extends (.begin (t.setPanelPower power).1) := by
  refine Extends.of_change (Change.record t (t.nodes.map (powerPanel power))
    (fun _ s => if s.isVirtual then s else { s with power }) ?_ ?_ ?_) []
  · intro x s
    split <;> rfl
  · intro x
    simp only [screen?, Table.get?_map]
    cases t.nodes.get? x with
    | none => rfl
    | some n =>
      cases n with
      | leaf s =>
        simp only [Option.map_some, Option.bind_some, powerPanel]
        by_cases hv : s.isVirtual
        · rw [if_pos hv]
          simp only [Node.leaf?, Option.map_some, if_pos hv]
        · rw [if_neg hv]
          simp only [Node.leaf?, Option.map_some, if_neg hv]
      | group g => rfl
  · intro x
    simp only [group?, Table.get?_map]
    cases t.nodes.get? x with
    | none => rfl
    | some n =>
      cases n with
      | leaf s =>
        simp only [Option.map_some, Option.bind_some, powerPanel]
        split <;> rfl
      | group g => rfl

/-- Every operation on a sound topology is a sequence of changes, as long as no number is issued
twice. -/
theorem changes_outcome (h : Sound t) (c : Command)
    (hcount : (c.outcome t).topology.screenIds.count ≤ 2 ^ 64) :
    Changes t (c.outcome t).events (c.outcome t).topology := by
  suffices hext : (Draft.begin t).Extends ⟨(c.outcome t).topology, (c.outcome t).events⟩ by
    obtain ⟨es, hes, hc⟩ := hext
    obtain rfl : (c.outcome t).events = es := hes
    exact hc
  cases c with
  | connect r panel =>
    obtain ⟨e, hd⟩ | ⟨s, g, m, u, hd, hc, -⟩ := changes_connect h r panel hcount
    · simp only [Command.outcome, Outcome.void, hd]
      exact Extends.refl _
    · simp only [Command.outcome, Outcome.void, hd]
      exact ⟨_, rfl, hc⟩
  | disconnect r =>
    obtain ⟨e, hd⟩ | ⟨x, hx, hd⟩ := disconnect_cases t r
    · simp only [Command.outcome, Outcome.void, hd]
      exact Extends.refl _
    · simp only [Command.outcome, Outcome.void, hd]
      -- the index leads to a live screen
      obtain ⟨s, hs, -⟩ := h.indexed r x hx
      exact extends_erase h hs
  | create request => exact extends_create h request hcount
  | destroy x =>
    obtain ⟨e, hd⟩ | ⟨s, hs, -, hd⟩ := destroy_cases t x
    · simp only [Command.outcome, hd]
      exact Extends.refl _
    · simp only [Command.outcome, hd]
      exact extends_erase h hs
  | setSurface x surface =>
    obtain ⟨e, hd⟩ | hd := setSurface_cases t x surface
    · simp only [Command.outcome, hd]
      exact Extends.refl _
    · simp only [Command.outcome, hd]
      exact extends_modifyScreen t x _ fun _ => rfl
  | mirror main ids => exact (arranges_mirror h main ids hcount).changes
  | expand ids starts => exact (arranges_expand h ids starts hcount).changes
  | makeUnique ids turn =>
    obtain ⟨e, hd⟩ | ⟨-, hd⟩ := makeUnique_cases t ids turn
    · simp only [Command.outcome, Outcome.void, hd]
      exact Extends.refl _
    · simp only [Command.outcome, Outcome.void, hd]
      exact extends_makeUniqueSteps turn (distinct ids) h
  | stopMirror ids => exact extends_stop h .mirror ids
  | stopExpand ids => exact extends_stop h .expand ids
  | ungroup ids => exact extends_loop extends_ungroupStep ids h
  | rotate x rotation =>
    obtain ⟨e, hd⟩ | hd | ⟨s, hs, hne, hd⟩ := rotate_cases t x rotation
    · simp only [Command.outcome, hd]
      exact Extends.refl _
    · simp only [Command.outcome, hd]
      exact Extends.refl _
    · simp only [Command.outcome, hd]
      exact Extends.of_change (Change.turn t s rotation (h.screen?_id hs) hne) []
  | setMode x index =>
    obtain ⟨e, hd⟩ | hd | ⟨s, hs, hindex, hne, hd⟩ := setMode_cases t x index
    · simp only [Command.outcome, hd]
      exact Extends.refl _
    · simp only [Command.outcome, hd]
      exact Extends.refl _
    · simp only [Command.outcome, hd]
      exact Extends.of_change (Change.switch t s index (h.screen?_id hs) hindex hne) []
  | setPower x power => exact extends_modifyScreen t x _ fun _ => rfl
  | setPanelPower power => exact extends_setPanelPower t power

/-! ## Runs -/

theorem screenIds_le_perform (t : Topology) (c : Command) :
    t.screenIds.count ≤ (t.perform c).screenIds.count :=
  (writes_outcome c t).screenIds_le

theorem screenIds_le_run (t : Topology) (run : List Command) :
    t.screenIds.count ≤ (run.foldl perform t).screenIds.count :=
  measure_le_foldl screenIds_le_perform t run

theorem changes_run (h : Sound t) (run : List Command)
    (hcount : (run.foldl perform t).screenIds.count ≤ 2 ^ 64) :
    Changes t (reported t run) (run.foldl perform t) := by
  induction run generalizing t with
  | nil => exact .refl t
  | cons c rest ih =>
    have hc : Changes t (c.outcome t).events (t.perform c) :=
      changes_outcome h c (Nat.le_trans (screenIds_le_run (t.perform c) rest) hcount)
    exact hc.trans (ih (sound_changes hc h) hcount)

/-- Everything that happens in a run is changes, starting from no screens. -/
theorem changes_after (run : List Command) (hcount : (after run).screenIds.count ≤ 2 ^ 64) :
    Changes .empty (log run) (after run) :=
  changes_run sound_empty run hcount

theorem sound_after (run : List Command) (hcount : (after run).screenIds.count ≤ 2 ^ 64) :
    Sound (after run) :=
  sound_changes (changes_after run hcount) sound_empty

theorem after_concat (run : List Command) (c : Command) :
    after (run ++ [c]) = (after run).perform c :=
  List.foldl_concat perform .empty c run

/-- Numbers only go up, so a beginning of a run has not drawn more of them. -/
theorem screenIds_le_of_beginning {beginning run : List Command} (h : beginning <+: run) :
    (after beginning).screenIds.count ≤ (after run).screenIds.count :=
  measure_le_of_beginning screenIds_le_perform h .empty

/-- Where each operation keeps a property under a condition and under no other, the property
holds throughout a run exactly if the condition is met at every operation. -/
theorem throughout_iff {P : Topology → Prop} {Q : Topology → Command → Prop} (hempty : P .empty)
    (hstep : ∀ beginning c, Sound (after beginning) →
      ((after beginning).perform c).screenIds.count ≤ 2 ^ 64 → P (after beginning) →
        (P ((after beginning).perform c) ↔ Q (after beginning) c))
    {run : List Command} (hcount : (after run).screenIds.count ≤ 2 ^ 64) :
    (∀ beginning, beginning <+: run → P (after beginning)) ↔
      ∀ beginning c, beginning ++ [c] <+: run → Q (after beginning) c := by
  refine forall_beginning_iff (P := fun beginning => P (after beginning)) hempty ?_
  intro beginning c hprefix hP
  have hle := Nat.le_trans (screenIds_le_of_beginning hprefix) hcount
  have hsound := sound_after beginning
    (Nat.le_trans (screenIds_le_of_beginning (List.prefix_append beginning [c])) hle)
  rw [after_concat] at hle ⊢
  exact hstep beginning c hsound hle hP

end Topology

end DisplayServer
