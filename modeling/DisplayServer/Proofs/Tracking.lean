import DisplayServer.Proofs.Accounts
import DisplayServer.Proofs.Bindings

/-!
# Bound screens follow the topology

The registry never reads the topology, so what it knows of the screens is what the events told.
A `Ledger` is that knowledge: which screens have been composed at least once, whose matter is
open, and which are bound to a display. `Tracks` says that the ledger fits the topology, except
for screens whose matter is open: exactly the screens that show something of their own are
bound. A screen in a group shows something unless the group is a mirror, and a screen in no
group does if it has been composed before.

Every change of the topology keeps the ledger fitting (`tracks_change`), in the middle of an
operation too.
-/

namespace DisplayServer

open TopologyEvent

/-- What events have told of screens. -/
structure Ledger where
  /-- Screens that have joined a group or become unique. -/
  known : ScreenId → Prop
  /-- Screens whose matter is open. -/
  unsettled : List ScreenId
  /-- Screens that are bound to a display. -/
  bound : ScreenId → Bool

namespace Ledger

/-- What is known after one more event. -/
def record (l : Ledger) (e : TopologyEvent) : Ledger where
  known x := l.known x ∨ e.composed? = some x
  unsettled := settle l.unsettled e
  bound := e.rebind l.bound

theorem known_foldl (es : List TopologyEvent) (l : Ledger) (x : ScreenId) :
    (es.foldl record l).known x ↔ l.known x ∨ ∃ e ∈ es, e.composed? = some x := by
  induction es generalizing l with
  | nil => simp
  | cons e rest ih =>
    rw [List.foldl_cons, ih]
    simp only [record, List.mem_cons, exists_eq_or_imp, or_assoc]

theorem unsettled_foldl (es : List TopologyEvent) (l : Ledger) :
    (es.foldl record l).unsettled = es.foldl settle l.unsettled := by
  induction es generalizing l with
  | nil => rfl
  | cons e rest ih => exact ih (l.record e)

theorem bound_foldl (es : List TopologyEvent) (l : Ledger) :
    (es.foldl record l).bound = es.foldl rebind l.bound := by
  induction es generalizing l with
  | nil => rfl
  | cons e rest ih => exact ih (l.record e)

end Ledger

namespace Topology

/-- The screen shows something of its own. -/
def Shows (known : ScreenId → Prop) (t : Topology) (x : ScreenId) : Prop :=
  ∃ s, t.screen? x = some s ∧
    match s.parent with
    | some g => t.combination? g ≠ some .mirror
    | none => known x

/-- The ledger fits the topology. -/
structure Tracks (l : Ledger) (t : Topology) : Prop where
  /-- What is known of a screen is known of one that has been there. -/
  issued : ∀ x, l.known x → x.val < t.screenIds.count
  /-- A screen in a group has joined it. -/
  member : ∀ x g, t.parent? x = some g → l.known x
  /-- A panel has joined a group, once its matter is closed. -/
  panel : ∀ x s, t.screen? x = some s → s.isVirtual = false → x ∉ l.unsettled → l.known x
  /-- Bound are the screens that show something. -/
  shown : ∀ x, x ∉ l.unsettled → (l.bound x ↔ Shows l.known t x)

variable {t u : Topology} {l l' : Ledger}

/-- What a screen shows hangs on its parent, the combination of that, and what is known. -/
theorem shows_congr {known known' : ScreenId → Prop} {x : ScreenId}
    (hscreen : (u.screen? x).map Screen.parent = (t.screen? x).map Screen.parent)
    (hgroup : ∀ g, t.parent? x = some g → u.combination? g = t.combination? g)
    (hknown : known' x ↔ known x) : Shows known' u x ↔ Shows known t x := by
  unfold Shows
  cases hs : t.screen? x with
  | none =>
    rw [hs, Option.map_none, Option.map_eq_none_iff] at hscreen
    rw [hscreen]
    simp
  | some s =>
    rw [hs, Option.map_some, Option.map_eq_some_iff] at hscreen
    obtain ⟨s', hs', hparent⟩ := hscreen
    rw [hs']
    simp only [Option.some.injEq, exists_eq_left', hparent]
    cases hp : s.parent with
    | none => exact hknown
    | some g =>
      have hg := hgroup g (by rw [parent?_of_screen? hs, hp])
      simp only [hg]

theorem not_shows_of_dead {known : ScreenId → Prop} {x : ScreenId} (hs : t.screen? x = none) :
    ¬ Shows known t x := by
  rintro ⟨s, hs', -⟩
  rw [hs] at hs'
  cases hs'

/-- In a group, a screen shows something unless the group is a mirror. -/
theorem shows_iff_of_parent? {known : ScreenId → Prop} {x g : ScreenId}
    (hg : t.parent? x = some g) : Shows known t x ↔ t.combination? g ≠ some .mirror := by
  obtain ⟨s, hs, hp⟩ := parent?_eq_some_iff.mp hg
  unfold Shows
  simp only [hs, Option.some.injEq, exists_eq_left', hp]

/-- In no group, it shows something once it is known. -/
theorem shows_iff_of_alone {known : ScreenId → Prop} {x : ScreenId} {s : Screen}
    (hs : t.screen? x = some s) (hp : s.parent = none) : Shows known t x ↔ known x := by
  unfold Shows
  simp only [hs, Option.some.injEq, exists_eq_left', hp]

/-- A change that touches one screen only, as far as the ledger goes. -/
theorem tracks_one (h : Tracks l t) (x : ScreenId)
    (hcount : t.screenIds.count ≤ u.screenIds.count)
    (hscreen : ∀ y, y ≠ x → u.screen? y = t.screen? y)
    (hgroup : ∀ y g, y ≠ x → t.parent? y = some g → u.combination? g = t.combination? g)
    (hknown : ∀ y, y ≠ x → (l'.known y ↔ l.known y))
    (hunsettled : ∀ y, y ≠ x → (y ∈ l'.unsettled ↔ y ∈ l.unsettled))
    (hbound : ∀ y, y ≠ x → l'.bound y = l.bound y)
    (hissued : l'.known x → x.val < u.screenIds.count)
    (hmember : ∀ g, u.parent? x = some g → l'.known x)
    (hpanel : ∀ s, u.screen? x = some s → s.isVirtual = false → x ∉ l'.unsettled → l'.known x)
    (hshown : x ∉ l'.unsettled → (l'.bound x ↔ Shows l'.known u x)) : Tracks l' u := by
  have hparent : ∀ y, y ≠ x → u.parent? y = t.parent? y := by
    intro y hy
    unfold parent?
    rw [hscreen y hy]
  exact {
    issued := by
      intro y hy
      by_cases hyx : y = x
      · subst hyx
        exact hissued hy
      · exact Nat.lt_of_lt_of_le (h.issued y ((hknown y hyx).mp hy)) hcount
    member := by
      intro y g hg
      by_cases hyx : y = x
      · subst hyx
        exact hmember g hg
      · rw [hparent y hyx] at hg
        exact (hknown y hyx).mpr (h.member y g hg)
    panel := by
      intro y s hs hv hy
      by_cases hyx : y = x
      · subst hyx
        exact hpanel s hs hv hy
      · rw [hscreen y hyx] at hs
        exact (hknown y hyx).mpr (h.panel y s hs hv fun hm => hy ((hunsettled y hyx).mpr hm))
    shown := by
      intro y hy
      by_cases hyx : y = x
      · subst hyx
        exact hshown hy
      · rw [hbound y hyx, h.shown y fun hm => hy ((hunsettled y hyx).mpr hm)]
        exact (shows_congr (by rw [hscreen y hyx]) (fun g => hgroup y g hyx) (hknown y hyx)).symm }

/-- A change of which the ledger takes no notice. -/
theorem tracks_none (h : Tracks l t) (hcount : t.screenIds.count ≤ u.screenIds.count)
    (hscreen : ∀ y, (u.screen? y).map (fun s => (s.isVirtual, s.parent)) =
      (t.screen? y).map fun s => (s.isVirtual, s.parent))
    (hgroup : ∀ g, u.combination? g = t.combination? g)
    (hknown : ∀ y, l'.known y ↔ l.known y) (hunsettled : l'.unsettled = l.unsettled)
    (hbound : l'.bound = l.bound) : Tracks l' u := by
  have hparents : ∀ y, (u.screen? y).map Screen.parent = (t.screen? y).map Screen.parent := by
    intro y
    have := congrArg (Option.map Prod.snd) (hscreen y)
    rw [Option.map_map, Option.map_map] at this
    exact this
  exact {
    issued := by
      exact fun y hy => Nat.lt_of_lt_of_le (h.issued y ((hknown y).mp hy)) hcount
    member := by
      intro y g hg
      obtain ⟨s, hs, hp⟩ := parent?_eq_some_iff.mp hg
      have hparent := hparents y
      rw [hs, Option.map_some] at hparent
      obtain ⟨s', hs', hp'⟩ := Option.map_eq_some_iff.mp hparent.symm
      exact (hknown y).mpr (h.member y g (parent?_eq_some_iff.mpr ⟨s', hs', hp'.trans hp⟩))
    panel := by
      intro y s hs hv hy
      have hkind := hscreen y
      rw [hs, Option.map_some] at hkind
      obtain ⟨s', hs', hkind'⟩ := Option.map_eq_some_iff.mp hkind.symm
      have hv' : s'.isVirtual = s.isVirtual := congrArg Prod.fst hkind'
      rw [hunsettled] at hy
      exact (hknown y).mpr (h.panel y s' hs' (hv'.trans hv) hy)
    shown := by
      intro y hy
      rw [hunsettled] at hy
      rw [hbound, h.shown y hy]
      exact (shows_congr (hparents y) (fun g _ => hgroup g) (hknown y)).symm }

/-! ## Each kind of change -/

theorem combination?_congr {g : ScreenId} (h : u.group? g = t.group? g) :
    u.combination? g = t.combination? g := by
  unfold combination?
  rw [h]

/-- A screen that was enlisted in no group: a panel's matter is open, and a software screen
shows nothing. -/
theorem tracks_enlist (h : Tracks l t) (hsound : Sound t) {s : Screen}
    (hid : s.id = t.nextScreenId) (hp : s.parent = none) (hlt : t.screenIds.count < 2 ^ 64)
    (hcount : u.screenIds.count = t.screenIds.count + 1)
    (hscreen : ∀ y, u.screen? y = if y = s.id then some s else t.screen? y)
    (hgroup : ∀ y, u.group? y = t.group? y) :
    Tracks (l.record (.connected s.report)) u := by
  have hval : s.id.val = t.screenIds.count := by
    rw [hid]
    exact IdSource.peek_of_lt hlt
  have hself : u.screen? s.id = some s := by rw [hscreen, if_pos rfl]
  have hparent : u.parent? s.id = none := by rw [parent?_of_screen? hself, hp]
  -- the number has just been drawn, so nothing was told of it before
  have hunknown : ¬ (l.record (.connected s.report)).known s.id := by
    rintro (hk | hk)
    · have := h.issued _ hk
      omega
    · cases hk
  have hdead : ¬ Shows l.known t s.id := by
    rintro ⟨s', hs', -⟩
    have := hsound.screen_lt _ s' hs'
    omega
  -- a panel opens a matter, which joining a group will close
  have hsettle : ∀ y, y ∈ (l.record (.connected s.report)).unsettled ↔
      (s.isVirtual = false ∧ y = s.id) ∨ y ∈ l.unsettled := by
    intro y
    simp only [Ledger.record, settle, Screen.report, Screen.kind]
    by_cases hv : s.isVirtual = true <;> simp [hv]
  refine tracks_one h s.id (by omega) (fun y hy => by rw [hscreen, if_neg hy])
    (fun y g _ _ => combination?_congr (hgroup g)) (fun y _ => ?_) (fun y hy => ?_)
    (fun y _ => rfl) (fun hk => absurd hk hunknown) (fun g hg => ?_) ?_ ?_
  · simp [Ledger.record, composed?]
  · rw [hsettle]
    simp [hy]
  · rw [hparent] at hg
    cases hg
  · intro s' hs' hv hopen
    rw [hself] at hs'
    obtain rfl := Option.some.inj hs'
    exact absurd ((hsettle _).mpr (.inl ⟨hv, rfl⟩)) hopen
  · intro hopen
    have hopen' : s.id ∉ l.unsettled := fun hm => hopen ((hsettle _).mpr (.inr hm))
    refine iff_of_false (fun hb => hdead ((h.shown _ hopen').mp hb)) ?_
    rintro ⟨s', hs', hshows⟩
    rw [hself] at hs'
    obtain rfl := Option.some.inj hs'
    rw [hp] at hshows
    exact hunknown hshows

/-- A screen that joined a group shows something unless the group is a mirror. -/
theorem tracks_joined (h : Tracks l t) {s : Screen} {g : ScreenId} {m : GroupReport}
    (hlt : s.id.val < t.screenIds.count) (hcount : t.screenIds.count ≤ u.screenIds.count)
    (hscreen : ∀ y, u.screen? y = if y = s.id then some (s.within (some g)) else t.screen? y)
    (hm : u.combination? g = some m.combination)
    (hgroup : ∀ y k, y ≠ s.id → t.parent? y = some k → u.combination? k = t.combination? k) :
    Tracks (l.record (.joinedGroup (s.within (some g)).report m)) u := by
  have hself : u.screen? s.id = some (s.within (some g)) := by rw [hscreen, if_pos rfl]
  have hknown : (l.record (.joinedGroup (s.within (some g)).report m)).known s.id := .inr rfl
  refine tracks_one h s.id hcount (fun y hy => by rw [hscreen, if_neg hy]) hgroup
    (fun y hy => ?_) (fun y hy => ?_) (fun y hy => if_neg hy)
    (fun _ => Nat.lt_of_lt_of_le hlt hcount) (fun _ _ => hknown) (fun _ _ _ _ => hknown)
    fun _ => ?_
  · have hne : s.id ≠ y := Ne.symm hy
    simp [Ledger.record, composed?, Screen.report, hne]
  · simp [Ledger.record, settle, Screen.report, hy]
  · -- bound exactly when the group is no mirror, which is what showing means in a group
    have hbound : (l.record (.joinedGroup (s.within (some g)).report m)).bound s.id =
        decide (m.combination ≠ .mirror) := if_pos rfl
    rw [hbound, decide_eq_true_eq]
    unfold Shows
    rw [hself]
    simp [hm]

/-- A screen that left its group has shown something, or shows something now. -/
theorem tracks_left (h : Tracks l t) (hsound : Sound t) {s : Screen} {g : ScreenGroup}
    (hs : t.screen? s.id = some s) (hp : s.parent = some g.id) (hg : t.group? g.id = some g)
    (reason : LeaveReason) (hcount : t.screenIds.count ≤ u.screenIds.count)
    (hscreen : ∀ y, u.screen? y = if y = s.id then some (s.within none) else t.screen? y)
    (hgroup : ∀ y k, y ≠ s.id → t.parent? y = some k → u.combination? k = t.combination? k) :
    Tracks (l.record (.leftGroup (s.within none).report (g.without s.id).membership reason))
      u := by
  have hself : u.screen? s.id = some (s.within none) := by rw [hscreen, if_pos rfl]
  have hparent : t.parent? s.id = some g.id := by rw [parent?_of_screen? hs, hp]
  -- whoever leaves a group has joined it
  have hmember := h.member _ _ hparent
  have hknown : (l.record (.leftGroup (s.within none).report (g.without s.id).membership
      reason)).known s.id := .inl hmember
  have hunsettled : ∀ y, y ∈ (l.record (.leftGroup (s.within none).report
      (g.without s.id).membership reason)).unsettled ↔
        (reason ≠ .detached ∧ y = s.id) ∨ y ∈ l.unsettled := by
    intro y
    simp only [Ledger.record, settle, Screen.report, Screen.within]
    by_cases hr : reason = .detached <;> simp [hr]
  refine tracks_one h s.id hcount (fun y hy => by rw [hscreen, if_neg hy]) hgroup
    (fun y _ => ?_) (fun y hy => ?_) (fun y hy => ?_)
    (fun _ => Nat.lt_of_lt_of_le (hsound.screen_lt _ s hs) hcount) (fun _ _ => hknown)
    (fun _ _ _ _ => hknown) fun hopen => ?_
  · simp [Ledger.record, composed?]
  · rw [hunsettled]
    simp [hy]
  · simp only [Ledger.record, rebind, binds?]
    split
    · rename_i x b hb
      split at hb
      · cases hb
        exact if_neg hy
      · cases hb
    · rfl
  · rw [hunsettled] at hopen
    -- leaving to be destroyed or made unique would have opened a matter
    have hdetached : reason = .detached :=
      Decidable.byContradiction fun hr => hopen (.inl ⟨hr, rfl⟩)
    have hshows : Shows (l.record (.leftGroup (s.within none).report
        (g.without s.id).membership reason)).known u s.id := ⟨_, hself, hknown⟩
    refine iff_of_true ?_ hshows
    -- out of a mirror the screen is bound anew, and in another group it was bound
    simp only [Ledger.record, rebind, binds?]
    by_cases hmirror : g.composition.combination = .mirror
    · rw [if_pos ⟨hdetached, hmirror⟩]
      exact if_pos rfl
    · rw [if_neg fun hm => hmirror hm.2]
      refine (h.shown _ fun hm => hopen (.inr hm)).mpr ⟨s, hs, ?_⟩
      rw [hp]
      simp only [combination?, hg, Option.map_some]
      exact fun hm => hmirror (Option.some.inj hm)

/-- A screen that became unique shows something. -/
theorem tracks_unique (h : Tracks l t) {s s' : Screen} (hid : s'.id = s.id)
    (hp : s'.parent = none) (hlt : s.id.val < t.screenIds.count) (display : DisplayId)
    (hcount : t.screenIds.count ≤ u.screenIds.count)
    (hscreen : ∀ y, u.screen? y = if y = s.id then some s' else t.screen? y)
    (hgroup : ∀ y, u.group? y = t.group? y) :
    Tracks (l.record (.becameUnique s'.report display)) u := by
  have hself : u.screen? s.id = some s' := by rw [hscreen, if_pos rfl]
  have hknown : (l.record (.becameUnique s'.report display)).known s.id :=
    .inr (congrArg some hid)
  refine tracks_one h s.id hcount (fun y hy => by rw [hscreen, if_neg hy])
    (fun y g _ _ => combination?_congr (hgroup g)) (fun y hy => ?_) (fun y hy => ?_)
    (fun y hy => if_neg fun he => hy (he.trans hid))
    (fun _ => Nat.lt_of_lt_of_le hlt hcount) (fun _ _ => hknown) (fun _ _ _ _ => hknown)
    fun _ => ?_
  · have hne : s.id ≠ y := Ne.symm hy
    simp [Ledger.record, composed?, Screen.report, hid, hne]
  · simp [Ledger.record, settle, Screen.report, hid, hy]
  · refine iff_of_true (if_pos hid.symm) ⟨s', hself, ?_⟩
    rw [hp]
    exact hknown

/-- A screen that went away shows nothing. -/
theorem tracks_gone (h : Tracks l t) (x : ScreenId)
    (hcount : t.screenIds.count ≤ u.screenIds.count)
    (hscreen : ∀ y, u.screen? y = if y = x then none else t.screen? y)
    (hgroup : ∀ y, u.group? y = t.group? y) : Tracks (l.record (.disconnected x)) u := by
  have hself : u.screen? x = none := by rw [hscreen, if_pos rfl]
  refine tracks_one h x hcount (fun y hy => by rw [hscreen, if_neg hy])
    (fun y g _ _ => combination?_congr (hgroup g)) (fun y hy => ?_) (fun y hy => ?_)
    (fun y hy => if_neg hy) (fun hk => ?_) (fun g hg => ?_) (fun s hs _ _ => ?_) fun _ => ?_
  · simp [Ledger.record, composed?]
  · simp [Ledger.record, settle, hy]
  · rcases hk with hk | hk
    · exact Nat.lt_of_lt_of_le (h.issued x hk) hcount
    · cases hk
  · obtain ⟨s, hs, -⟩ := parent?_eq_some_iff.mp hg
    rw [hself] at hs
    cases hs
  · rw [hself] at hs
    cases hs
  · have hbound : (l.record (.disconnected x)).bound x = false := if_pos rfl
    rw [hbound]
    refine iff_of_false Bool.false_ne_true ?_
    rintro ⟨s, hs, -⟩
    rw [hself] at hs
    cases hs

/-- A screen whose geometry changed shows what it showed. -/
theorem tracks_changed (h : Tracks l t) {s s' : Screen} (hs : t.screen? s.id = some s)
    (hid : s'.id = s.id) (hkind : s'.isVirtual = s.isVirtual) (hp : s'.parent = s.parent)
    (change : ScreenChange) :
    Tracks (l.record (.changed s'.report change)) (t.putScreen s') := by
  refine tracks_none h (Nat.le_refl _) (fun y => ?_)
    (fun k => combination?_congr (group?_putScreen_of_live hs hid k))
    (fun y => by simp [Ledger.record, composed?]) rfl rfl
  rw [screen?_putScreen, hid]
  split
  · rename_i hy
    rw [hy, hs, Option.map_some, Option.map_some, hkind, hp]
  · rfl

/-- **Every change keeps the ledger fitting the topology.** -/
theorem tracks_change {es : List TopologyEvent} (hc : Change t es u) (hsound : Sound t)
    (hcount : u.screenIds.count ≤ 2 ^ 64) (h : Tracks l t) :
    Tracks (es.foldl Ledger.record l) u := by
  have hle := hc.screenIds_le
  cases hc with
  | plug r panel s hs hfault hfree hnew =>
    subst hs
    exact tracks_enlist h hsound rfl rfl (Nat.lt_of_succ_le hcount) rfl
      (fun y => screen?_plugIn t y _) (group?_enlist_of_free rfl hfree)
  | create request s hs hfault hfree =>
    subst hs
    exact tracks_enlist h hsound rfl rfl (Nat.lt_of_succ_le hcount) rfl
      (fun y => screen?_addSoftware t y _) (group?_enlist_of_free rfl hfree)
  | found s combination main start home hs hp hfree hhome =>
    obtain ⟨hfree, hfree'⟩ := get?_eq_none_iff.mp hfree
    have hgroup := group?_found hs combination (some main) start home
    refine tracks_joined h (hsound.screen_lt _ s hs) hle
      (screen?_found hs hfree combination (some main) start home) ?_ fun y k _ hk => ?_
    · -- the group opened is of the combination that the event quotes
      rw [combination?, hgroup, if_pos rfl]
      rfl
    · -- the number of the group was free, so nobody named it
      obtain ⟨s', hs', hp'⟩ := parent?_eq_some_iff.mp hk
      obtain ⟨grp, hgrp, -⟩ := hsound.listed y s' k hs' hp'
      refine combination?_congr ((hgroup k).trans (if_neg fun he => ?_))
      rw [he, hfree'] at hgrp
      cases hgrp
  | join s g start hs hp hg =>
    have hgroup := group?_join (g := g) hs start
    refine tracks_joined h (hsound.screen_lt _ s hs) hle
      (screen?_join hs (screen?_eq_none_of_group? hg) start) ?_ fun y k _ _ => ?_
    · rw [combination?, hgroup, if_pos rfl]
      rfl
    · simp only [combination?, hgroup]
      split
      · rename_i hk
        rw [hk, hg]
        simp
      · rfl
  | leave s g reason hs hp hg hstay =>
    refine tracks_left h hsound hs hp hg reason hle (screen?_unlink hs hg) fun y k _ _ => ?_
    simp only [combination?, group?_unlink hs]
    split
    · rename_i hk
      rw [hk, hg]
      rfl
    · rfl
  | leaveLast s g reason hs hp hg hlast =>
    have hleft : Tracks (l.record (.leftGroup (s.within none).report
        (g.without s.id).membership reason)) ((t.unlink s g).dropGroup g.id) := by
      refine tracks_left h hsound hs hp hg reason hle (screen?_unlink_dropGroup hs hg)
        fun y k hy hk => combination?_congr ?_
      rw [group?_unlink_dropGroup hs, if_neg]
      -- whoever names the group that dissolves would still be in it
      rintro rfl
      have hmem := (hsound.parent?_eq_some_iff hg y).mp hk
      have hstill : y ∈ (g.without s.id).composition.children :=
        (g.composition.mem_children_remove s.id y).mpr ⟨hmem, hy⟩
      rw [hlast] at hstill
      cases hstill
    -- that the group dissolved is told after that, and the ledger takes no notice
    exact tracks_none hleft (Nat.le_refl _) (fun _ => rfl) (fun _ => rfl)
      (fun y => by simp [Ledger.record, composed?]) rfl rfl
  | place x g start hg hx =>
    have hscreen := screen?_putGroup_of_live (w := g.placing x start) hg rfl
    refine tracks_none h hle (fun y => by rw [hscreen]) (fun k => ?_) (fun _ => Iff.rfl) rfl rfl
    rw [combination?, group?_putGroup, ScreenGroup.placing_id]
    by_cases hk : k = g.id
    · rw [if_pos hk, hk, combination?, hg]
      simp
    · rw [if_neg hk]
      rfl
  | single s turn hs hp =>
    have hid := turn.apply_id s
    exact tracks_unique h hid ((turn.apply_parent s).trans hp) (hsound.screen_lt _ s hs) _ hle
      (fun y => (screen?_putScreen t y _).trans (by rw [hid])) (group?_putScreen_of_live hs hid)
  | turn s rotation hs hne => exact tracks_changed h hs (by rfl) (by rfl) (by rfl) .rotation
  | switch s index hs hindex hne => exact tracks_changed h hs (by rfl) (by rfl) (by rfl) .mode
  | forget s hs hp hmirrors =>
    exact tracks_gone h s.id hle (fun y => screen?_forget t y s.id) (group?_forget_of_live hs)
  | record nodes f hf hscreen hgroup =>
    refine tracks_none h hle (fun y => ?_) (fun k => combination?_congr (hgroup k))
      (fun _ => Iff.rfl) rfl rfl
    rw [hscreen, Option.map_map]
    refine Option.map_congr fun s _ => ?_
    simp only [Function.comp_apply]
    rw [hf]

/-- So does a sequence of changes. -/
theorem tracks_changes {es : List TopologyEvent} (hc : Changes t es u) (hsound : Sound t)
    (hcount : u.screenIds.count ≤ 2 ^ 64) (h : Tracks l t) :
    Tracks (es.foldl Ledger.record l) u := by
  induction hc with
  | refl => exact h
  | tail hcs hc ih =>
    rw [List.foldl_append]
    exact tracks_change hc (sound_changes hcs hsound) hcount
      (ih (Nat.le_trans hc.screenIds_le hcount))

end Topology

end DisplayServer
