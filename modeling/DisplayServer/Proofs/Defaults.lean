import DisplayServer.Proofs.Groupings
import Mathlib.Data.List.Induction

/-!
# The default screen and the group that panels join

Two numbers stand beside the table of screens and groups and are kept up by hand. The default
screen is the first panel plugged in, and passes to the panel of the least number when it goes:
so it is a live panel, and there is one as long as there is a panel (`Elected`). The group that
panels join is opened by the first panel that finds none and forgotten when its last screen
leaves: so it is the one group in which each stands alone. Software screens come into groups by
mirroring and by extension only, and so never into that one.
-/

namespace DisplayServer

namespace Topology

variable {t u : Topology}

/-! ## The first panel -/

theorem mem_screens_iff {s : Screen} : s ∈ t.screens ↔ ∃ x, t.screen? x = some s := by
  unfold screens
  rw [List.mem_filterMap]
  constructor
  · rintro ⟨n, hn, hs⟩
    obtain ⟨x, hx⟩ := (Table.mem_values_iff _ _).mp hn
    exact ⟨x, by rw [screen?, hx]; exact hs⟩
  · rintro ⟨x, hx⟩
    exact ⟨.leaf s, (Table.mem_values_iff _ _).mpr ⟨x, screen?_eq_some_iff.mp hx⟩, rfl⟩

theorem isPanel_of_firstPanel? (h : Linked t) {x : ScreenId} (hx : t.firstPanel? = some x) :
    t.IsPanel x := by
  obtain ⟨s, hs, rfl⟩ := Option.map_eq_some_iff.mp hx
  obtain ⟨y, hy⟩ := mem_screens_iff.mp (List.mem_of_find?_eq_some hs)
  have hkind := List.find?_some hs
  exact ⟨s, h.screen?_id hy, by simpa using hkind⟩

/-- There is a first panel where there is a panel. -/
theorem firstPanel?_ne_none {x : ScreenId} (hx : t.IsPanel x) : t.firstPanel? ≠ none := by
  obtain ⟨s, hs, hkind⟩ := hx
  intro hnone
  have hnever := List.find?_eq_none.mp (Option.map_eq_none_iff.mp hnone) s
    (mem_screens_iff.mpr ⟨x, hs⟩)
  simp [hkind] at hnever

/-! ## The default screen -/

/-- The default screen is a live panel, and there is one where there is a panel. -/
structure Elected (t : Topology) : Prop where
  /-- The default screen is a live panel. -/
  panel : ∀ x, t.defaultScreen = some x → t.IsPanel x
  /-- Where there is a panel, one is the default screen. -/
  present : ∀ x, t.IsPanel x → t.defaultScreen ≠ none

/-- A change keeps the panels, as long as none is plugged in and nothing goes. -/
theorem Change.isPanel_iff {es : List TopologyEvent} (hc : Change t es u)
    (hnew : ∀ s, .connected s ∈ es → s.kind = .virtual) (hgone : ∀ x, .disconnected x ∉ es)
    (x : ScreenId) : u.IsPanel x ↔ t.IsPanel x := by
  constructor
  · rintro ⟨s, hs, hkind⟩
    rcases hc.screen?_kept hs with ⟨old, hold, hsame⟩ | ⟨-, -, hm⟩
    · exact ⟨old, hold, hsame.symm.trans hkind⟩
    · -- what has just appeared is a software screen
      have hvirtual : s.kind = .virtual := hnew _ hm
      rw [Screen.kind, hkind] at hvirtual
      cases hvirtual
  · rintro ⟨s, hs, hkind⟩
    rcases hc.live_after hs with ⟨s', hs', hsame⟩ | hm
    · exact ⟨s', hs', hsame.trans hkind⟩
    · exact absurd hm (hgone x)

theorem elected_of_same (h : Elected t) (hpanels : ∀ x, u.IsPanel x ↔ t.IsPanel x)
    (hdefault : u.defaultScreen = t.defaultScreen) : Elected u where
  panel := by
    intro x hx
    rw [hdefault] at hx
    exact (hpanels x).mpr (h.panel x hx)
  present := by
    intro x hx
    rw [hdefault]
    exact h.present x ((hpanels x).mp hx)

theorem elected_plugIn (h : Elected t) {s : Screen} (hkind : s.isVirtual = false) :
    Elected (t.plugIn s) := by
  have hself : (t.plugIn s).IsPanel s.id := ⟨s, by rw [screen?_plugIn, if_pos rfl], hkind⟩
  have hother : ∀ x, t.IsPanel x → (t.plugIn s).IsPanel x := by
    intro x hx
    by_cases hxs : x = s.id
    · exact hxs ▸ hself
    · obtain ⟨s', hs', hkind'⟩ := hx
      exact ⟨s', by rw [screen?_plugIn, if_neg hxs]; exact hs', hkind'⟩
  have hdefault : (t.plugIn s).defaultScreen =
      if t.defaultScreen.isNone then some s.id else t.defaultScreen := rfl
  refine ⟨fun x hx => ?_, fun x _ => ?_⟩
  · rw [hdefault] at hx
    split at hx
    · exact Option.some.inj hx ▸ hself
    · exact hother x (h.panel x hx)
  · rw [hdefault]
    split
    · exact Option.some_ne_none s.id
    · rename_i hsome
      exact fun hnone => hsome (by rw [hnone]; rfl)

/-- The default screen passes to the first panel left when it goes. -/
theorem elected_forget (h : Elected t) (x : ScreenId) (hlinked : Linked (Draft.forget t x)) :
    Elected (Draft.forget t x) := by
  have hpanels : ∀ y, (Draft.forget t x).IsPanel y ↔ y ≠ x ∧ t.IsPanel y := by
    intro y
    unfold IsPanel
    rw [screen?_forget]
    by_cases hy : y = x <;> simp [hy]
  have hdefault : (Draft.forget t x).defaultScreen =
      if t.defaultScreen = some x then (Draft.forget t x).firstPanel?
      else t.defaultScreen := rfl
  refine ⟨fun y hy => ?_, fun y hy => ?_⟩
  · rw [hdefault] at hy
    split at hy
    · exact isPanel_of_firstPanel? hlinked hy
    · rename_i hne
      refine (hpanels y).mpr ⟨?_, h.panel y hy⟩
      rintro rfl
      exact hne hy
  · rw [hdefault]
    split
    · exact firstPanel?_ne_none hy
    · exact h.present y ((hpanels y).mp hy).2

theorem elected_change {es : List TopologyEvent} (hc : Change t es u) (h : Sound t)
    (he : Elected t) : Elected u := by
  have hsound := sound_change hc h
  have hkept : (∀ s, .connected s ∈ es → s.kind = .virtual) → (∀ x, .disconnected x ∉ es) →
      u.defaultScreen = t.defaultScreen → Elected u :=
    fun hnew hgone hdefault => elected_of_same he (hc.isPanel_iff hnew hgone) hdefault
  cases hc with
  | plug r panel s hs hfault hfree hnew => exact elected_plugIn he (by rw [hs]; rfl)
  | forget s hs hp hmirrors => exact elected_forget he s.id hsound.toLinked
  | create request s hs hfault hfree =>
    refine hkept (fun s' hm => ?_) (by simp) rfl
    obtain rfl := TopologyEvent.connected.inj (List.mem_singleton.mp hm)
    rw [hs]
    rfl
  | _ => exact hkept (by simp) (by simp) rfl

theorem elected_changes {es : List TopologyEvent} (hc : Changes t es u) (h : Sound t)
    (he : Elected t) : Elected u := by
  induction hc with
  | refl => exact he
  | tail hcs hc ih => exact elected_change hc (sound_changes hcs h) ih

theorem elected_empty : Elected .empty where
  panel := by intro x hx; cases hx
  present := by
    rintro x ⟨s, hs, -⟩
    cases hs

/-! ## The group that panels join -/

/-- No group but the one that panels join composes as it does. -/
def HomeAlone (t : Topology) : Prop :=
  ∀ g grp, t.group? g = some grp → grp.composition.combination = .alone → t.defaultGroup = some g

/-- The group that panels join stays that as long as it is live. -/
theorem Change.defaultGroup_stays {es : List TopologyEvent} (hc : Change t es u) {g : ScreenId}
    {grp : ScreenGroup} (hd : t.defaultGroup = some g) (hg : u.group? g = some grp) :
    u.defaultGroup = some g := by
  cases hc with
  | found s combination main start home hs hp hfree hhome =>
    rcases hhome with ⟨-, hkeep⟩ | ⟨-, hnone, -⟩
    · exact hkeep.trans hd
    · rw [hnone] at hd
      cases hd
  | leaveLast s w reason hs hp hw hlast =>
    rw [group?_unlink_dropGroup hs] at hg
    split at hg
    · cases hg
    · rename_i hne
      show (if t.defaultGroup = some w.id then none else t.defaultGroup) = some g
      rw [if_neg, hd]
      rw [hd]
      exact fun he => hne (Option.some.inj he)
  | _ => exact hd

theorem homeAlone_change {es : List TopologyEvent} (hc : Change t es u) (h : Sound t)
    (hhome : HomeAlone t) : HomeAlone u := by
  intro g grp hg halone
  rcases hc.group?_kept h hg with ⟨old, hold, hcombination, -⟩ | hopens
  · exact hc.defaultGroup_stays (hhome g old hold (hcombination.symm.trans halone)) hg
  · exact hopens.home.mpr halone

theorem homeAlone_changes {es : List TopologyEvent} (hc : Changes t es u) (h : Sound t)
    (hhome : HomeAlone t) : HomeAlone u := by
  induction hc with
  | refl => exact hhome
  | tail hcs hc ih => exact homeAlone_change hc (sound_changes hcs h) ih

/-- The screens in a group of panels are panels. -/
def PanelsOnly (t : Topology) : Prop :=
  ∀ x g, t.parent? x = some g → t.combination? g = some .alone → t.IsPanel x

theorem panelsOnly_perform (h : Sound t) (hpanels : PanelsOnly t) (c : Command)
    (hcount : (t.perform c).screenIds.count ≤ 2 ^ 64) : PanelsOnly (t.perform c) := by
  intro x g hp halone
  have hchanges : Changes t (c.outcome t).events (t.perform c) := changes_outcome h c hcount
  rcases brings_of_parent? h c hcount hp with hold | hbrings
  · -- a screen that was in the group before is what it was, and so is the group
    obtain ⟨s, hs, hsp⟩ := parent?_eq_some_iff.mp hold
    obtain ⟨old, hg, -⟩ := h.listed x s g hs hsp
    obtain ⟨grp, hgrp, hcombination⟩ := Option.map_eq_some_iff.mp halone
    obtain ⟨hsame, -⟩ := hchanges.group?_same h hcount hg hgrp
    have hbefore : t.combination? g = some .alone := by
      rw [combination?, hg, Option.map_some, ← hsame, hcombination]
    obtain ⟨s', hs', -⟩ := parent?_eq_some_iff.mp hp
    obtain ⟨w, hw, hkind⟩ := hpanels x g hold hbefore
    rcases hchanges.screen?_kept hcount hs' with ⟨w', hw', hkind'⟩ | hle
    · obtain rfl := Option.some.inj (hw.symm.trans hw')
      exact ⟨s', hs', hkind'.trans hkind⟩
    · exact absurd (h.screen_lt x s hs) (Nat.not_lt.mpr hle)
  · cases c with
    | connect r panel => exact hbrings.1
    | mirror main ids =>
      obtain ⟨-, grp, hgrp, hm⟩ := hbrings
      rw [combination?, hgrp, Option.map_some] at halone
      rw [(isMirrorOf_iff.mp hm).1] at halone
      cases halone
    | expand ids starts =>
      rw [hbrings.2] at halone
      cases halone
    | _ => exact hbrings.elim

/-! ## Runs -/

/-- Default screen and the group that panels join are what they should be. -/
structure Defaults (t : Topology) : Prop where
  /-- The default screen is a live panel. -/
  screen : ∀ x, t.defaultScreen = some x → t.IsPanel x
  /-- There is a default screen exactly where there is a live panel. -/
  no_screen : t.defaultScreen = none ↔ ∀ x, ¬ t.IsPanel x
  /-- The default group is the group in which each stands alone, and there is no other such
  group. -/
  group : ∀ g, t.defaultGroup = some g ↔ t.combination? g = some .alone
  /-- Its children are panels. -/
  children : ∀ g m x, t.defaultGroup = some g → t.membership? g = some m → x ∈ m.children →
    t.IsPanel x

theorem panelsOnly_after (run : List Command) (hcount : (after run).screenIds.count ≤ 2 ^ 64) :
    PanelsOnly (after run) := by
  induction run using List.reverseRecOn with
  | nil =>
    intro x g hp
    cases hp
  | append_singleton run c ih =>
    have hle := Nat.le_trans (screenIds_le_of_beginning (List.prefix_append run [c])) hcount
    rw [after_concat] at hcount ⊢
    exact panelsOnly_perform (sound_after run hle) (ih hle) c hcount

/-- **After every run the default screen is a live panel, if there is one, and the default group
is the one group in which each stands alone, with panels only.** -/
theorem defaults_after (run : List Command) (hcount : (after run).screenIds.count ≤ 2 ^ 64) :
    Defaults (after run) := by
  have hchanges := changes_after run hcount
  have hsound := sound_after run hcount
  have hformed := formed_after run hcount
  have helected := elected_changes hchanges sound_empty elected_empty
  have hhome : HomeAlone (after run) := by
    refine homeAlone_changes hchanges sound_empty ?_
    intro g grp hg
    cases hg
  have hgroup : ∀ g, (after run).defaultGroup = some g ↔
      (after run).combination? g = some .alone := by
    intro g
    constructor
    · intro hd
      obtain ⟨grp, hg⟩ := hsound.home g hd
      rw [combination?, hg, Option.map_some, hformed.home g grp hd hg]
    · intro halone
      obtain ⟨grp, hg, hcombination⟩ := Option.map_eq_some_iff.mp halone
      exact hhome g grp hg hcombination
  refine ⟨helected.panel, ?_, hgroup, ?_⟩
  · constructor
    · exact fun hnone x hx => helected.present x hx hnone
    · intro hnever
      cases hd : (after run).defaultScreen with
      | none => rfl
      | some x => exact absurd (helected.panel x hd) (hnever x)
  · intro g m x hd hm hx
    obtain ⟨grp, hg, rfl⟩ := Option.map_eq_some_iff.mp hm
    exact panelsOnly_after run hcount x g ((hsound.parent?_eq_some_iff hg x).mpr hx)
      ((hgroup g).mp hd)

/-- The group that panels join is emptied by an extension and opened again by a second panel;
then the default screen is unplugged. -/
def reopenedRun : List Command :=
  [.create ⟨"a", 640, 480, 1, none⟩,
    .connect ⟨0⟩ ⟨"builtin", [⟨1080, 2340, 60⟩], 0, 2, []⟩,
    .expand [⟨1⟩, ⟨0⟩] [⟨0, 0⟩, ⟨1080, 0⟩],
    .connect ⟨1⟩ ⟨"dock", [⟨1920, 1080, 60⟩], 0, 1, []⟩,
    .disconnect ⟨0⟩]

theorem defaults_after_reopenedRun :
    (after reopenedRun).screenIds.count ≤ 2 ^ 64 ∧ Defaults (after reopenedRun) :=
  ⟨by decide, defaults_after reopenedRun (by decide)⟩

end Topology

end DisplayServer
