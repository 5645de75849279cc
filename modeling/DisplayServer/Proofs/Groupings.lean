import DisplayServer.Proofs.Decompose

/-!
# What stays as it is, and who comes into groups

A screen keeps its kind as long as it is found under its number (`Changes.screen?_kept`). What a
group is for and which screen heads it is settled when the group is opened, and stays as long as
the group is found (`Changes.group?_kept`). A screen stays in the group that it names until it
leaves or is reported to have joined another (`Changes.parent?_kept`).

Three operations bring screens into groups. A panel joins the home of panels. A mirroring brings
the screens that it lists into one group, which mirrors the source asked for (`mirror_collects`);
an extension brings the screens that it lists into one desktop (`expand_collects`). Both loops
leave the groups of all other screens alone: `Collects g xs t u` says that of the screens `xs`.
-/

namespace DisplayServer

namespace Topology

variable {t u v : Topology}

/-! ## Screens -/

/-- A screen that is found was found before and is of the kind that it was, or it has the number
that came next and is reported. -/
theorem Change.screen?_kept {es : List TopologyEvent} (hc : Change t es u) {x : ScreenId}
    {s : Screen} (hx : u.screen? x = some s) :
    (∃ old, t.screen? x = some old ∧ s.isVirtual = old.isVirtual) ∨
      (x = t.nextScreenId ∧ u.screenIds.count = t.screenIds.count + 1 ∧
        .connected s.report ∈ es) := by
  have hput : ∀ {k : ScreenId} {w old : Screen},
      (∀ y, u.screen? y = if y = k then some w else t.screen? y) → t.screen? k = some old →
      w.isVirtual = old.isVirtual →
      ∃ old, t.screen? x = some old ∧ s.isVirtual = old.isVirtual := by
    intro k w old hu hold hkind
    rw [hu] at hx
    split at hx
    · rename_i hxk
      obtain rfl := Option.some.inj hx
      exact ⟨old, hxk ▸ hold, hkind⟩
    · exact ⟨s, hx, rfl⟩
  have hnew : ∀ {k : ScreenId} {w : Screen},
      (∀ y, u.screen? y = if y = k then some w else t.screen? y) →
      (∃ old, t.screen? x = some old ∧ s.isVirtual = old.isVirtual) ∨ (x = k ∧ w = s) := by
    intro k w hu
    rw [hu] at hx
    split at hx
    · exact .inr ⟨‹_›, Option.some.inj hx⟩
    · exact .inl ⟨s, hx, rfl⟩
  cases hc with
  | plug r panel w hw hfault hfree hnumber =>
    have hid : w.id = t.nextScreenId := by rw [hw]; rfl
    refine (hnew fun y => screen?_plugIn t y w).imp_right fun ⟨he, hs⟩ => ?_
    exact ⟨he.trans hid, rfl, hs ▸ List.mem_singleton.mpr rfl⟩
  | create request w hw hfault hfree =>
    have hid : w.id = t.nextScreenId := by rw [hw]; rfl
    refine (hnew fun y => screen?_addSoftware t y w).imp_right fun ⟨he, hs⟩ => ?_
    exact ⟨he.trans hid, rfl, hs ▸ List.mem_singleton.mpr rfl⟩
  | found w combination main start home hw hp hfree hhome =>
    exact .inl (hput (screen?_found hw (get?_eq_none_iff.mp hfree).1 _ _ _ _) hw rfl)
  | join w g start hw hp hg =>
    exact .inl (hput (screen?_join hw (screen?_eq_none_of_group? hg) start) hw rfl)
  | leave w g reason hw hp hg hstay => exact .inl (hput (screen?_unlink hw hg) hw rfl)
  | leaveLast w g reason hw hp hg hlast =>
    exact .inl (hput (screen?_unlink_dropGroup hw hg) hw rfl)
  | place y g start hg hy =>
    rw [screen?_putGroup_of_live (w := g.placing y start) hg rfl] at hx
    exact .inl ⟨s, hx, rfl⟩
  | single w turn hw hp =>
    have hold : t.screen? (turn.apply w).id = some w := by
      rw [turn.apply_id]
      exact hw
    exact .inl (hput (fun y => screen?_putScreen t y _) hold (turn.apply_isVirtual w))
  | turn w rotation hw hne => exact .inl (hput (fun y => screen?_putScreen t y _) hw rfl)
  | switch w index hw hindex hne => exact .inl (hput (fun y => screen?_putScreen t y _) hw rfl)
  | forget w hw hp hmirrors =>
    rw [screen?_forget] at hx
    split at hx
    · cases hx
    · exact .inl ⟨s, hx, rfl⟩
  | record nodes f hf hscreen hgroup =>
    rw [hscreen] at hx
    obtain ⟨old, hold, rfl⟩ := Option.map_eq_some_iff.mp hx
    refine .inl ⟨old, hold, ?_⟩
    rw [hf]

/-- A screen that is found after several changes was found before them and is of the kind that
it was, or it has a number that had not been drawn before them. -/
theorem Changes.screen?_kept {es : List TopologyEvent} (hc : Changes t es u)
    (hcount : u.screenIds.count ≤ 2 ^ 64) {x : ScreenId} {s : Screen}
    (hx : u.screen? x = some s) :
    (∃ old, t.screen? x = some old ∧ s.isVirtual = old.isVirtual) ∨
      t.screenIds.count ≤ x.val := by
  induction hc generalizing s with
  | refl => exact .inl ⟨s, hx, rfl⟩
  | @tail v u es fs hcs hc ih =>
    rcases hc.screen?_kept hx with ⟨mid, hmid, hkind⟩ | ⟨rfl, hdrawn, -⟩
    · rcases ih (Nat.le_trans hc.screenIds_le hcount) hmid with ⟨old, hold, hkind'⟩ | hle
      · exact .inl ⟨old, hold, hkind.trans hkind'⟩
      · exact .inr hle
    · have hnumber : v.nextScreenId.val = v.screenIds.count :=
        IdSource.peek_of_lt (by omega)
      have hle := hcs.screenIds_le
      omega

/-! ## Groups -/

/-- The main screen that a group names is live. -/
def Headed (t : Topology) (main : Option ScreenId) : Prop :=
  ∃ x s, main = some x ∧ t.screen? x = some s

/-- A change has opened a group. -/
structure Opens (t : Topology) (g : ScreenId) (grp : ScreenGroup) (u : Topology) : Prop where
  /-- The group has the number that came next. -/
  number : g = t.nextScreenId
  /-- The number was free. -/
  free : t.nodes.get? g = none
  /-- The number has been drawn. -/
  drawn : u.screenIds.count = t.screenIds.count + 1
  /-- It is the group that panels join exactly if each stands alone in it. -/
  home : u.defaultGroup = some g ↔ grp.composition.combination = .alone
  /-- It has a main screen. -/
  main : ∃ x, grp.composition.main = some x
  /-- The group that panels join is headed by a live screen. -/
  headed : grp.composition.combination = .alone → Headed u grp.composition.main

/-- A group that is found was found before and is what it was, or it was opened. -/
theorem Change.group?_kept {es : List TopologyEvent} (hc : Change t es u) (h : Sound t)
    {g : ScreenId} {grp : ScreenGroup} (hg : u.group? g = some grp) :
    (∃ old, t.group? g = some old ∧
      grp.composition.combination = old.composition.combination ∧
      grp.composition.main = old.composition.main) ∨ Opens t g grp u := by
  have hsame : (∀ x, u.group? x = t.group? x) → ∃ old, t.group? g = some old ∧
      grp.composition.combination = old.composition.combination ∧
      grp.composition.main = old.composition.main :=
    fun hu => ⟨grp, (hu g).symm.trans hg, rfl, rfl⟩
  have hput : ∀ {old w : ScreenGroup}, t.group? old.id = some old →
      w.composition.combination = old.composition.combination →
      w.composition.main = old.composition.main →
      (∀ x, u.group? x = if x = old.id then some w else t.group? x) →
      ∃ old, t.group? g = some old ∧
        grp.composition.combination = old.composition.combination ∧
        grp.composition.main = old.composition.main := by
    intro old w hold hcombination hmain hu
    rw [hu] at hg
    split at hg
    · rename_i hgk
      obtain rfl := Option.some.inj hg
      exact ⟨old, hgk ▸ hold, hcombination, hmain⟩
    · exact ⟨grp, hg, rfl, rfl⟩
  cases hc with
  | plug r panel s hs hfault hfree hnew =>
    have hid : s.id = t.nextScreenId := by rw [hs]; rfl
    exact .inl (hsame fun x => group?_enlist_of_free hid hfree x)
  | create request s hs hfault hfree =>
    have hid : s.id = t.nextScreenId := by rw [hs]; rfl
    exact .inl (hsame fun x => group?_enlist_of_free hid hfree x)
  | found s combination main start home hs hp hfree hhome =>
    rw [group?_found hs] at hg
    split at hg
    · rename_i hgk
      obtain rfl := Option.some.inj hg
      subst hgk
      have hcombination : ((emptyGroup t.nextScreenId combination (some main)).placing s.id
          start).composition.combination = combination := by
        rw [ScreenGroup.placing_composition, Composition.combination_place]
        rfl
      have hmain : ((emptyGroup t.nextScreenId combination (some main)).placing s.id
          start).composition.main = some main := by
        rw [ScreenGroup.placing_composition, Composition.main_place]
        rfl
      refine .inr ⟨rfl, hfree, rfl, ?_, ⟨main, hmain⟩, fun halone => ?_⟩
      · rw [hcombination]
        show home = some t.nextScreenId ↔ combination = .alone
        -- the new group becomes the home of panels, or the home is live already
        rcases hhome with ⟨hne, hkeep⟩ | ⟨halone, -, -, hnew⟩
        · refine iff_of_false (fun hhome => ?_) hne
          obtain ⟨old, hold⟩ := h.home _ (hkeep.symm.trans hhome)
          rw [(get?_eq_none_iff.mp hfree).2] at hold
          cases hold
        · exact iff_of_true hnew halone
      · rcases hhome with ⟨hne, -⟩ | ⟨-, -, rfl, -⟩
        · exact absurd (hcombination.symm.trans halone) hne
        · refine ⟨s.id, s.within (some t.nextScreenId), hmain, ?_⟩
          rw [screen?_found hs (get?_eq_none_iff.mp hfree).1, if_pos rfl]
    · exact .inl ⟨grp, hg, rfl, rfl⟩
  | join s w start hs hp hw =>
    exact .inl (hput hw (Composition.combination_place ..) (Composition.main_place ..)
      (group?_join hs start))
  | leave s w reason hs hp hw hstay =>
    exact .inl (hput (w := w.without s.id) hw rfl rfl (group?_unlink hs))
  | leaveLast s w reason hs hp hw hlast =>
    rw [group?_unlink_dropGroup hs] at hg
    split at hg
    · cases hg
    · exact .inl ⟨grp, hg, rfl, rfl⟩
  | place x w start hw hx =>
    exact .inl (hput hw (Composition.combination_place ..) (Composition.main_place ..)
      fun y => group?_putGroup t y (w.placing x start))
  | single s turn hs hp => exact .inl (hsame (group?_putScreen_of_live hs (turn.apply_id s)))
  | turn s rotation hs hne => exact .inl (hsame (group?_putScreen_of_live hs rfl))
  | switch s index hs hindex hne => exact .inl (hsame (group?_putScreen_of_live hs rfl))
  | forget s hs hp hmirrors => exact .inl (hsame (group?_forget_of_live hs))
  | record nodes f hf hscreen hgroup => exact .inl (hsame hgroup)

/-- A group that is found after several changes was found before them and is what it was, or it
has a number that had not been drawn before them. The group that panels join is headed by a live
screen when it is opened. -/
theorem Changes.group?_kept {es : List TopologyEvent} (hc : Changes t es u) (h : Sound t)
    (hcount : u.screenIds.count ≤ 2 ^ 64) {g : ScreenId} {grp : ScreenGroup}
    (hg : u.group? g = some grp) :
    (∃ old, t.group? g = some old ∧
      grp.composition.combination = old.composition.combination ∧
      grp.composition.main = old.composition.main) ∨
    (t.screenIds.count ≤ g.val ∧ (grp.composition.combination = .alone →
      (∀ x, .disconnected x ∉ es) → Headed u grp.composition.main)) := by
  induction hc generalizing grp with
  | refl => exact .inl ⟨grp, hg, rfl, rfl⟩
  | @tail v u es fs hcs hc ih =>
    rcases hc.group?_kept (sound_changes hcs h) hg with ⟨mid, hmid, hcombination, hmain⟩ | hopens
    · rcases ih (Nat.le_trans hc.screenIds_le hcount) hmid with
        ⟨old, hold, hcombination', hmain'⟩ | ⟨hle, hheaded⟩
      · exact .inl ⟨old, hold, hcombination.trans hcombination', hmain.trans hmain'⟩
      · refine .inr ⟨hle, fun halone hes => ?_⟩
        obtain ⟨x, s, hx, hs⟩ := hheaded (hcombination.symm.trans halone)
          fun x hm => hes x (List.mem_append_left _ hm)
        -- its head is still there, since nothing went
        rcases hc.live_after hs with ⟨s', hs', -⟩ | hgone
        · exact ⟨x, s', hmain.trans hx, hs'⟩
        · exact absurd (List.mem_append_right _ hgone) (hes x)
    · refine .inr ⟨?_, fun halone _ => hopens.headed halone⟩
      have hlt : v.screenIds.count < 2 ^ 64 := by
        have := hopens.drawn
        omega
      have hnumber : g.val = v.screenIds.count := by
        rw [hopens.number]
        exact IdSource.peek_of_lt hlt
      have := hcs.screenIds_le
      omega

/-- A group that is found before and after several changes is the same one. -/
theorem Changes.group?_same {es : List TopologyEvent} (hc : Changes t es u) (h : Sound t)
    (hcount : u.screenIds.count ≤ 2 ^ 64) {g : ScreenId} {old grp : ScreenGroup}
    (hold : t.group? g = some old) (hg : u.group? g = some grp) :
    grp.composition.combination = old.composition.combination ∧
      grp.composition.main = old.composition.main := by
  rcases hc.group?_kept h hcount hg with ⟨old', hold', hsame⟩ | ⟨hle, -⟩
  · obtain rfl := Option.some.inj (hold.symm.trans hold')
    exact hsame
  · exact absurd (h.group_lt g old hold) (Nat.not_lt.mpr hle)

/-- The group that panels join is the one that they joined before, or it was just opened. -/
theorem Change.defaultGroup_kept {es : List TopologyEvent} (hc : Change t es u) {g : ScreenId}
    (hg : u.defaultGroup = some g) : t.defaultGroup = some g ∨ t.nodes.get? g = none := by
  cases hc with
  | found s combination main start home hs hp hfree hhome =>
    rcases hhome with ⟨-, hkeep⟩ | ⟨-, -, -, hnew⟩
    · exact .inl (hkeep.symm.trans hg)
    · obtain rfl := Option.some.inj (hnew.symm.trans hg)
      exact .inr hfree
  | leaveLast s w reason hs hp hw hlast =>
    have hg : (if t.defaultGroup = some w.id then none else t.defaultGroup) = some g := hg
    split at hg
    · cases hg
    · exact .inl hg
  | _ => exact .inl hg

/-- Groups are such as the operations open. -/
structure Formed (t : Topology) : Prop where
  /-- In the group that panels join each stands alone. -/
  home : ∀ g grp, t.defaultGroup = some g → t.group? g = some grp →
    grp.composition.combination = .alone
  /-- Every group has a main screen. -/
  main : ∀ g grp, t.group? g = some grp → ∃ x, grp.composition.main = some x

theorem formed_change {es : List TopologyEvent} (hc : Change t es u) (h : Sound t)
    (hformed : Formed t) : Formed u where
  home := by
    intro g grp hd hg
    rcases hc.group?_kept h hg with ⟨old, hold, hcombination, -⟩ | hopens
    · rcases hc.defaultGroup_kept hd with hd | hfree
      · exact hcombination.trans (hformed.home g old hd hold)
      · rw [(get?_eq_none_iff.mp hfree).2] at hold
        cases hold
    · exact hopens.home.mp hd
  main := by
    intro g grp hg
    rcases hc.group?_kept h hg with ⟨old, hold, -, hmain⟩ | hopens
    · rw [hmain]
      exact hformed.main g old hold
    · exact hopens.main

theorem formed_changes {es : List TopologyEvent} (hc : Changes t es u) (h : Sound t)
    (hformed : Formed t) : Formed u := by
  induction hc with
  | refl => exact hformed
  | tail hcs hc ih => exact formed_change hc (sound_changes hcs h) ih

theorem formed_after (run : List Command) (hcount : (after run).screenIds.count ≤ 2 ^ 64) :
    Formed (after run) := by
  refine formed_changes (changes_after run hcount) sound_empty ⟨?_, ?_⟩
  · intro g grp hd
    cases hd
  · intro g grp hg
    cases hg

/-! ## Screens in groups -/

/-- A screen names the group that it named, or none, or it is reported to have joined one. -/
theorem Change.parent?_kept {es : List TopologyEvent} (hc : Change t es u) (x : ScreenId) :
    u.parent? x = t.parent? x ∨ u.parent? x = none ∨ ∃ s g, .joinedGroup s g ∈ es ∧ s.id = x := by
  have hother : ∀ {k : ScreenId} {s : Screen},
      (∀ y, u.screen? y = if y = k then some s else t.screen? y) → x ≠ k →
      u.parent? x = t.parent? x := by
    intro k s hu hx
    unfold parent?
    rw [hu, if_neg hx]
  -- in all changes but joining one screen is written that names what it named, or nothing
  have hput : ∀ {k : ScreenId} {s : Screen},
      (∀ y, u.screen? y = if y = k then some s else t.screen? y) →
      (s.parent = none ∨ ∃ old, t.screen? k = some old ∧ s.parent = old.parent) →
      u.parent? x = t.parent? x ∨ u.parent? x = none ∨
        ∃ s g, .joinedGroup s g ∈ es ∧ s.id = x := by
    intro k s hu hs
    by_cases hx : x = k
    · have hp : u.parent? x = s.parent := parent?_of_screen? (by rw [hu, if_pos hx])
      rcases hs with hs | ⟨old, hold, hs⟩
      · exact .inr (.inl (hp.trans hs))
      · exact .inl (hp.trans (hs.trans (hx ▸ (parent?_of_screen? hold).symm)))
    · exact .inl (hother hu hx)
  cases hc with
  | plug r panel s hs hfault hfree hnew =>
    exact hput (fun y => screen?_plugIn t y s) (.inl (by rw [hs]; rfl))
  | create request s hs hfault hfree =>
    exact hput (fun y => screen?_addSoftware t y s) (.inl (by rw [hs]; rfl))
  | found s combination main start home hs hp hfree hhome =>
    by_cases hx : x = s.id
    · exact .inr (.inr ⟨_, _, List.mem_singleton.mpr rfl, hx.symm⟩)
    · exact .inl (hother (screen?_found hs (get?_eq_none_iff.mp hfree).1 _ _ _ _) hx)
  | join s g start hs hp hg =>
    by_cases hx : x = s.id
    · exact .inr (.inr ⟨_, _, List.mem_singleton.mpr rfl, hx.symm⟩)
    · exact .inl (hother (screen?_join hs (screen?_eq_none_of_group? hg) start) hx)
  | leave s g reason hs hp hg hstay =>
    exact hput (screen?_unlink hs hg) (.inl rfl)
  | leaveLast s g reason hs hp hg hlast =>
    exact hput (screen?_unlink_dropGroup hs hg) (.inl rfl)
  | place y g start hg hy =>
    refine .inl ?_
    unfold parent?
    rw [screen?_putGroup_of_live (w := g.placing y start) hg rfl]
  | single s turn hs hp =>
    exact hput (fun y => screen?_putScreen t y _) (.inl ((turn.apply_parent s).trans hp))
  | turn s rotation hs hne =>
    exact hput (fun y => screen?_putScreen t y _) (.inr ⟨s, hs, rfl⟩)
  | switch s index hs hindex hne =>
    exact hput (fun y => screen?_putScreen t y _) (.inr ⟨s, hs, rfl⟩)
  | forget s hs hp hmirrors =>
    unfold parent?
    rw [screen?_forget]
    split
    · exact .inr (.inl rfl)
    · exact .inl rfl
  | record nodes f hf hscreen hgroup =>
    refine .inl ?_
    unfold parent?
    rw [hscreen]
    cases t.screen? x with
    | none => rfl
    | some s =>
      show (f x s).parent = s.parent
      rw [hf]

/-- A screen is in the group that it was in, or it is reported to have joined one. -/
theorem Changes.parent?_kept {es : List TopologyEvent} (hc : Changes t es u) {x g : ScreenId}
    (hp : u.parent? x = some g) :
    t.parent? x = some g ∨ ∃ s m, .joinedGroup s m ∈ es ∧ s.id = x := by
  induction hc with
  | refl => exact .inl hp
  | tail _ hc ih =>
    rcases hc.parent?_kept x with hsame | hnone | ⟨s, m, hm, hid⟩
    · rcases ih (hsame.symm.trans hp) with hold | ⟨s, m, hm, hid⟩
      · exact .inl hold
      · exact .inr ⟨s, m, List.mem_append_left _ hm, hid⟩
    · rw [hnone] at hp
      cases hp
    · exact .inr ⟨s, m, List.mem_append_right _ hm, hid⟩

/-- The screens `xs` have come into the group `g`; all others are where they were. -/
def Collects (g : ScreenId) (xs : List ScreenId) (t u : Topology) : Prop :=
  ∀ y, u.parent? y = if y ∈ xs then some g else t.parent? y

theorem Collects.cons {g x : ScreenId} {xs : List ScreenId} (h : Collects g [x] t u)
    (h' : Collects g xs u v) : Collects g (x :: xs) t v := by
  intro y
  rw [h' y, h y]
  by_cases hxs : y ∈ xs <;> by_cases hx : y = x <;> simp [hxs, hx]

/-- A screen that is in the group need not be moved. -/
theorem collects_self {g x : ScreenId} (hu : ∀ y, u.parent? y = t.parent? y)
    (hx : t.parent? x = some g) : Collects g [x] t u := by
  intro y
  rw [hu]
  split
  · rename_i hy
    rw [List.mem_singleton.mp hy]
    exact hx
  · rfl

theorem collects_of_rewritten {g x : ScreenId} {s : Screen}
    (hu : ∀ y, u.screen? y = if y = x then some (s.within (some g)) else t.screen? y) :
    Collects g [x] t u := by
  intro y
  simp only [List.mem_singleton]
  exact Draft.parent?_of_rewritten hu y

end Topology

namespace Draft

open DisplayServer.Topology

variable {d : Draft}

/-! ## Loops -/

theorem collects_mirrorOnto {g x : ScreenId} {xs : List ScreenId} (h : Ready g (x :: xs) d) :
    Collects g [x] d.topology (mirrorOnto g d x).topology := by
  obtain ⟨grp, hg⟩ := h.group
  obtain ⟨s, hs⟩ := h.live x List.mem_cons_self
  unfold mirrorOnto
  split
  · rename_i hparent
    exact collects_self (fun _ => rfl) hparent
  · rename_i hne
    exact collects_of_rewritten (screen?_move h.sound hs hg hne .origin)

theorem collects_expandOnto {g : ScreenId} {p : ScreenId × Point} {xs : List ScreenId}
    (h : Ready g (p.1 :: xs) d) : Collects g [p.1] d.topology (expandOnto g d p).topology := by
  obtain ⟨grp, hg⟩ := h.group
  obtain ⟨s, hs⟩ := h.live p.1 List.mem_cons_self
  obtain ⟨hparent, -, rfl, hd⟩ | ⟨hne, hd⟩ := expandOnto_cases h.sound hg (p := p)
  · rw [hd]
    refine collects_self (fun y => ?_) hparent
    -- a child that is placed anew stays in the group
    show (d.topology.putGroup (grp.placing p.1 p.2)).parent? y = d.topology.parent? y
    rw [parent?, screen?_putGroup_of_live (w := grp.placing p.1 p.2) hg rfl, parent?]
  · rw [hd]
    exact collects_of_rewritten (screen?_move h.sound hs hg hne p.2)

theorem collects_loop {α : Type} {g : ScreenId} (key : α → ScreenId) {step : Draft → α → Draft}
    (hstep : ∀ {d a as}, Ready g (key a :: as) d →
      Collects g [key a] d.topology (step d a).topology ∧ Ready g as (step d a))
    (as : List α) {d : Draft} (h : Ready g (as.map key) d) :
    Collects g (as.map key) d.topology (as.foldl step d).topology := by
  induction as generalizing d with
  | nil => exact fun y => rfl
  | cons a rest ih =>
    obtain ⟨hfirst, hready⟩ := hstep h
    exact hfirst.cons (ih hready)

theorem collects_mirror_loop {g : ScreenId} (xs : List ScreenId) (h : Ready g xs d) :
    Collects g xs d.topology (xs.foldl (mirrorOnto g) d).topology := by
  have hloop := collects_loop id (fun h => ⟨collects_mirrorOnto h, (ready_mirrorOnto h).2⟩)
    xs (d := d) (g := g) (by rwa [List.map_id])
  rwa [List.map_id] at hloop

theorem collects_expand_loop {g : ScreenId} (ps : List (ScreenId × Point))
    (h : Ready g (ps.map Prod.fst) d) :
    Collects g (ps.map Prod.fst) d.topology (ps.foldl (expandOnto g) d).topology :=
  collects_loop Prod.fst (fun h => ⟨collects_expandOnto h, (ready_expandOnto h).2⟩) ps h

end Draft

namespace Topology

open Draft

variable {t u : Topology}

/-! ## Operations -/

/-- A group with a child is found after several changes as it was before them. -/
theorem Changes.group?_of_child {es : List TopologyEvent} (hc : Changes t es u) (h : Sound t)
    (hcount : u.screenIds.count ≤ 2 ^ 64) {g x : ScreenId} {old : ScreenGroup}
    (hold : t.group? g = some old) (hx : u.parent? x = some g) :
    ∃ grp, u.group? g = some grp ∧
      grp.composition.combination = old.composition.combination ∧
      grp.composition.main = old.composition.main := by
  obtain ⟨s, hs, hp⟩ := parent?_eq_some_iff.mp hx
  obtain ⟨grp, hg, -⟩ := (sound_changes hc h).listed x s g hs hp
  exact ⟨grp, hg, hc.group?_same h hcount hold hg⟩

/-- A group that is opened by its first screen and joined by others is what it was opened as. -/
theorem group?_of_opened (h : Sound t) (hlt : t.screenIds.count < 2 ^ 64) {x : ScreenId}
    {s : Screen} (hs : t.screen? x = some s) {combination : Combination}
    (hcombination : combination ≠ .alone) {main : ScreenId} {start : Point} {xs : List ScreenId}
    {d : Draft}
    (hext : Extends (((Draft.begin t).edit fun t => t.openGroup combination (some main)).move x
      t.nextScreenId start) d)
    (hcount : d.topology.screenIds.count ≤ 2 ^ 64)
    (hxs : Collects t.nextScreenId xs (((Draft.begin t).edit fun t =>
      t.openGroup combination (some main)).move x t.nextScreenId start).topology d.topology) :
    Collects t.nextScreenId (x :: xs) t d.topology ∧
      ∃ grp, d.topology.group? t.nextScreenId = some grp ∧
        grp.composition.combination = combination ∧ grp.composition.main = some main := by
  have hfirst := extends_move_opened (d := .begin t) h hlt hs combination main start hcombination
  have hscreen := screen?_move_opened (d := .begin t) h hlt hs combination main start
  have hopened := group?_move_opened_self (d := .begin t) h hlt hs combination main start
  obtain ⟨es, -, hchanges⟩ := hext
  have hcollects : Collects t.nextScreenId (x :: xs) t d.topology :=
    (collects_of_rewritten hscreen).cons hxs
  have hx : d.topology.parent? x = some t.nextScreenId := by
    rw [hcollects x, if_pos List.mem_cons_self]
  obtain ⟨grp, hgrp, hsame, hmain⟩ :=
    hchanges.group?_of_child (hfirst.sound h) hcount hopened hx
  refine ⟨hcollects, grp, hgrp, hsame.trans ?_, hmain.trans ?_⟩
  · rw [ScreenGroup.placing_composition, Composition.combination_place]
    rfl
  · rw [ScreenGroup.placing_composition, Composition.main_place]
    rfl

/-- Mirroring brings the listed screens into one mirror of the source asked for, and into a new
one only where the source had none. -/
theorem mirror_collects (h : Sound t) {main : ScreenId} {ids : List ScreenId}
    (hcount : (t.mirror main ids).topology.screenIds.count ≤ 2 ^ 64)
    (hok : (t.mirror main ids).result.isOk) :
    ∃ g grp, Collects g ids t (t.mirror main ids).topology ∧
      (t.mirror main ids).topology.group? g = some grp ∧ isMirrorOf main grp = true ∧
      (g ∈ t.mirrorsOf main ∨ t.mirrorsOf main = []) := by
  have hdistinct : ∀ {g u}, Collects g (distinct ids) t u → Collects g ids t u := by
    intro g u hcollects y
    simp only [← @mem_distinct ids]
    exact hcollects y
  obtain ⟨e, hd⟩ | ⟨-, -, hne, hlive, ⟨g, hg, hd⟩ | ⟨hnone, hd⟩⟩ := mirror_cases t main ids
  · rw [hd] at hok
    cases hok
  · obtain ⟨old, hold, hm⟩ := group?_of_mem_mirrorsOf h.toLinked hg
    have hchanges := changes_outcome h (.mirror main ids) hcount
    have hcollects : Collects g (distinct ids) t (t.mirror main ids).topology := by
      rw [hd]
      exact collects_mirror_loop (d := .begin t) (distinct ids) ⟨h, ⟨old, hold⟩, hlive⟩
    obtain ⟨x, rest, hids⟩ := List.exists_cons_of_ne_nil hne
    have hx : (t.mirror main ids).topology.parent? x = some g := by
      rw [hcollects x, hids, if_pos List.mem_cons_self]
    -- the mirror that the source had is used again, and it stays what it was
    obtain ⟨grp, hgrp, hcombination, hmain⟩ := hchanges.group?_of_child h hcount hold hx
    exact ⟨g, grp, hdistinct hcollects, hgrp,
      (isMirrorOf_congr hcombination hmain main).trans hm, .inl hg⟩
  · obtain ⟨x, rest, hids⟩ := List.exists_cons_of_ne_nil hne
    rw [hids] at hd hlive hdistinct
    rw [hd] at hcount ⊢
    obtain ⟨hlt, hloop⟩ := mirror_loop_opened h main x rest hcount
    obtain ⟨s, hs⟩ := hlive x List.mem_cons_self
    obtain ⟨-, hready⟩ := ready_move_opened (d := .begin t) h hlt hlive .mirror (by decide)
      main .origin
    rw [hloop] at hcount ⊢
    -- the first screen opens the mirror, and the others join it
    obtain ⟨hcollects, grp, hgrp, hcombination, hmain⟩ := group?_of_opened h hlt hs
      (Combination.noConfusion) (arranges_mirror_loop rest hready).changes hcount
      (collects_mirror_loop rest hready)
    exact ⟨_, grp, hdistinct hcollects, hgrp, isMirrorOf_iff.mpr ⟨hcombination, hmain⟩, .inr hnone⟩

/-- An extension brings the listed screens into one desktop, which one of them heads if it is
new. -/
theorem expand_collects (h : Sound t) (ids : List ScreenId) (starts : List Point)
    (hcount : (t.expand ids starts).topology.screenIds.count ≤ 2 ^ 64) :
    (∃ e, t.expand ids starts = .refuse t e) ∨
      ∃ g grp, Collects g ((ids.zip starts).map Prod.fst) t (t.expand ids starts).topology ∧
        (t.expand ids starts).topology.group? g = some grp ∧
        grp.composition.combination = .expand ∧
        ((∃ old, t.group? g = some old) ∨
          Headed (t.expand ids starts).topology grp.composition.main) := by
  obtain hrefused | ⟨first, start, rest, hzip, hlive, ⟨g, hg, hexpand, hd⟩ | hd⟩ :=
    expand_cases t ids starts
  · exact .inl hrefused
  · obtain ⟨old, hold, hcombination⟩ := Option.map_eq_some_iff.mp hexpand
    have hchanges := changes_outcome h (.expand ids starts) hcount
    have hcollects : Collects g ((ids.zip starts).map Prod.fst) t
        (t.expand ids starts).topology := by
      rw [hd]
      exact collects_expand_loop (d := .begin t) (ids.zip starts) ⟨h, ⟨old, hold⟩, live_keys hlive⟩
    have hx : (t.expand ids starts).topology.parent? first = some g := by
      rw [hcollects first, hzip, List.map_cons, if_pos List.mem_cons_self]
    -- the desktop that the first screen is part of is used again
    obtain ⟨grp, hgrp, hsame, -⟩ := hchanges.group?_of_child h hcount hold hx
    exact .inr ⟨g, grp, hcollects, hgrp, hsame.trans hcombination, .inl ⟨old, hold⟩⟩
  · rw [hzip] at hd hlive ⊢
    rw [hd] at hcount ⊢
    obtain ⟨hlt, hloop⟩ := expand_loop_opened h first start rest hcount
    obtain ⟨s, hs⟩ := hlive (first, start) List.mem_cons_self
    obtain ⟨-, hready⟩ := ready_move_opened (d := .begin t) h hlt (live_keys hlive) .expand
      (by decide) first start
    rw [hloop] at hcount ⊢
    obtain ⟨hcollects, grp, hgrp, hcombination, hmain⟩ := group?_of_opened h hlt hs
      (Combination.noConfusion) (arranges_expand_loop rest hready).changes hcount
      (collects_expand_loop rest hready)
    -- the first screen heads the desktop that it opens
    obtain ⟨s', hs', -⟩ :=
      parent?_eq_some_iff.mp ((hcollects first).trans (if_pos List.mem_cons_self))
    exact .inr ⟨_, grp, hcollects, hgrp, hcombination, .inr ⟨first, s', hmain, hs'⟩⟩

/-- The screen is a live panel. -/
def IsPanel (t : Topology) (x : ScreenId) : Prop :=
  ∃ s, t.screen? x = some s ∧ s.isVirtual = false

/-- The command has brought the screen into the group. -/
def Command.Brings (u : Topology) (x g : ScreenId) : Command → Prop
  | connect _ _ => u.IsPanel x ∧ u.defaultGroup = some g
  | mirror main ids => x ∈ ids ∧ ∃ grp, u.group? g = some grp ∧ isMirrorOf main grp = true
  | expand ids _ => x ∈ ids ∧ u.combination? g = some .expand
  | _ => False

theorem brings_connect (h : Sound t) {r : RenderId} {panel : PanelDescription}
    (hcount : (t.connect r panel).topology.screenIds.count ≤ 2 ^ 64) {x g : ScreenId}
    (hp : (t.connect r panel).topology.parent? x = some g) :
    t.parent? x = some g ∨ (Command.connect r panel).Brings (t.connect r panel).topology x g := by
  obtain ⟨e, hd⟩ | ⟨s, home, m, u, hd, hc, hu, hdefault⟩ := changes_connect h r panel hcount
  · rw [hd] at hp
    exact .inl hp
  · have hmem : .connected s.report ∈ ((Command.connect r panel).outcome t).events := by
      simp only [Command.outcome, Outcome.void, hd]
      exact List.mem_cons_self
    have hkind : s.kind = .physical := reports_of_mem hmem
    rw [hd] at hp ⊢
    rcases hc.parent?_kept hp with hold | ⟨s', m', he, rfl⟩
    · exact .inl hold
    · -- the screen that joined is the panel, and it names the home of panels
      have hid : s'.id = s.id := by
        rcases List.mem_cons.mp he with he | he
        · cases he
        · cases List.mem_singleton.mp he
          rfl
      rw [hid] at hp ⊢
      obtain rfl := Option.some.inj ((parent?_of_screen? hu).symm.trans hp)
      refine .inr ⟨⟨_, hu, ?_⟩, hdefault⟩
      cases hv : s.isVirtual with
      | false => exact hv
      | true =>
        rw [Screen.kind, if_pos hv] at hkind
        cases hkind

theorem brings_mirror (h : Sound t) {main : ScreenId} {ids : List ScreenId}
    (hcount : (t.mirror main ids).topology.screenIds.count ≤ 2 ^ 64) {x g : ScreenId}
    (hp : (t.mirror main ids).topology.parent? x = some g) :
    t.parent? x = some g ∨ (Command.mirror main ids).Brings (t.mirror main ids).topology x g := by
  obtain ⟨e, hd⟩ | ⟨hok, -⟩ := mirror_granted t main ids
  · rw [hd] at hp
    exact .inl hp
  · obtain ⟨k, grp, hcollects, hgrp, hm, -⟩ := mirror_collects h hcount hok
    rw [hcollects] at hp
    split at hp
    · rename_i hx
      obtain rfl := Option.some.inj hp
      exact .inr ⟨hx, grp, hgrp, hm⟩
    · exact .inl hp

theorem brings_expand (h : Sound t) {ids : List ScreenId} {starts : List Point}
    (hcount : (t.expand ids starts).topology.screenIds.count ≤ 2 ^ 64) {x g : ScreenId}
    (hp : (t.expand ids starts).topology.parent? x = some g) :
    t.parent? x = some g ∨
      (Command.expand ids starts).Brings (t.expand ids starts).topology x g := by
  obtain ⟨e, hd⟩ | ⟨k, grp, hcollects, hgrp, hexpand, -⟩ := expand_collects h ids starts hcount
  · rw [hd] at hp
    exact .inl hp
  · rw [hcollects] at hp
    split at hp
    · rename_i hx
      obtain ⟨⟨y, start⟩, hmem, rfl⟩ := List.mem_map.mp hx
      obtain rfl := Option.some.inj hp
      refine .inr ⟨(List.of_mem_zip hmem).1, ?_⟩
      exact Option.map_eq_some_iff.mpr ⟨grp, hgrp, hexpand⟩
    · exact .inl hp

/-- **A screen that is in a group after a command was in it before, or the command has brought it
there.** -/
theorem brings_of_parent? (h : Sound t) (c : Command)
    (hcount : (t.perform c).screenIds.count ≤ 2 ^ 64) {x g : ScreenId}
    (hp : (t.perform c).parent? x = some g) :
    t.parent? x = some g ∨ c.Brings (t.perform c) x g := by
  -- of all commands only three report that a screen joined a group
  have hunjoined : (∀ s m, ¬ c.Reports (.joinedGroup s m)) → t.parent? x = some g := by
    intro hc
    rcases (changes_outcome h c hcount).parent?_kept hp with hold | ⟨s, m, he, -⟩
    · exact hold
    · exact absurd (reports_of_mem he) (hc s m)
  cases c with
  | connect r panel => exact brings_connect h hcount hp
  | mirror main ids => exact brings_mirror h hcount hp
  | expand ids starts => exact brings_expand h hcount hp
  | _ => exact .inl (hunjoined fun _ _ => id)

end Topology

end DisplayServer
