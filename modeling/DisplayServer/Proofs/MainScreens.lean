import DisplayServer.Proofs.Groupings

/-!
# When the main screen of a group is live

The main screen of a group is noted when the group is opened and not touched afterwards. A
desktop or the group that panels join is opened around a live screen, so its main screen is live
until that screen is taken away. If nobody else is in the group then, the group goes too; if
others stay, the group keeps a main screen that is gone. `main_live_iff` says that there is no
other way for it.
-/

namespace DisplayServer

namespace Draft

open DisplayServer.Topology

variable {d : Draft}

/-- Of the live screens erasing takes away the one asked for and no other. -/
theorem live_erase (h : Sound d.topology) {x y : ScreenId} {s : Screen}
    (hs : d.topology.screen? y = some s) :
    (∃ s', (d.erase x).topology.screen? y = some s') ↔ y ≠ x := by
  show (∃ s', (forget ((d.stopMirrorsOf x).leave x .destroyed).topology x).screen? y = some s') ↔ _
  rw [screen?_forget]
  by_cases hy : y = x
  · rw [if_pos hy]
    refine iff_of_false ?_ (not_not_intro hy)
    rintro ⟨s', hs'⟩
    cases hs'
  · rw [if_neg hy, screen?_leave ((extends_stopMirrorsOf h x).1.sound h), if_neg hy]
    exact iff_of_true (live_stopMirrorsOf h hs) hy

end Draft

namespace Topology

open Draft

variable {t : Topology}

/-! ## Taking screens away -/

/-- The command is granted, and it takes the screen away. -/
def Command.Erases (t : Topology) (x : ScreenId) : Command → Prop
  | disconnect r => t.screenOf? r = some x
  | destroy y => y = x ∧ (t.virtual? y).isSome
  | _ => False

/-- A live screen is live after a command unless the command takes it away. -/
theorem live_perform_iff (h : Sound t) (c : Command)
    (hcount : (t.perform c).screenIds.count ≤ 2 ^ 64) {x : ScreenId} {s : Screen}
    (hs : t.screen? x = some s) :
    (∃ s', (t.perform c).screen? x = some s') ↔ ¬ c.Erases t x := by
  have hstays : (∀ y, ¬ c.Reports (.disconnected y)) → ∃ s', (t.perform c).screen? x = some s' :=
    fun hc => live_of_changes (changes_outcome h c hcount) (fun hm => hc x (reports_of_mem hm)) hs
  cases c with
  | disconnect r =>
    simp only [Command.Erases]
    cases hr : t.screenOf? r with
    | none =>
      have hsame : t.perform (.disconnect r) = t := by
        simp only [perform, Command.outcome, Outcome.void, disconnect, hr]
        rfl
      rw [hsame]
      exact iff_of_true ⟨s, hs⟩ (by simp)
    | some y =>
      have herase : t.perform (.disconnect r) = ((Draft.begin t).erase y).topology := by
        simp only [perform, Command.outcome, Outcome.void, disconnect, hr]
        rfl
      rw [herase, live_erase (d := .begin t) h hs, Option.some_inj, ne_comm]
  | destroy y =>
    simp only [Command.Erases]
    cases hy : t.virtual? y with
    | none =>
      have hsame : t.perform (.destroy y) = t := by
        simp only [perform, Command.outcome, destroy, hy]
        rfl
      rw [hsame]
      exact iff_of_true ⟨s, hs⟩ (by simp)
    | some w =>
      have herase : t.perform (.destroy y) = ((Draft.begin t).erase y).topology := by
        simp only [perform, Command.outcome, destroy, hy]
        rfl
      rw [herase, live_erase (d := .begin t) h hs, ne_comm]
      simp
  | _ => exact iff_of_true (hstays fun _ => id) id

/-! ## Groups and their main screens -/

/-- A desktop or a group of panels that a command opens is headed by a live screen. -/
theorem headed_of_opened (h : Sound t) (hformed : Formed t) (c : Command)
    (hcount : (t.perform c).screenIds.count ≤ 2 ^ 64) {g : ScreenId} {grp : ScreenGroup}
    (hg : (t.perform c).group? g = some grp) (hnew : t.screenIds.count ≤ g.val)
    (hne : grp.composition.combination ≠ .mirror) :
    Headed (t.perform c) grp.composition.main := by
  have hchanges : Changes t (c.outcome t).events (t.perform c) := changes_outcome h c hcount
  have hsound := sound_changes hchanges h
  have hunopened : ∀ {old}, t.group? g ≠ some old :=
    fun {old} hold => absurd (h.group_lt g old hold) (Nat.not_lt.mpr hnew)
  -- a new group has a child, and the command has brought it there
  obtain ⟨z, rest, hz⟩ := List.exists_cons_of_ne_nil (hsound.populated g grp hg)
  have hp : (t.perform c).parent? z = some g := by
    rw [hsound.parent?_eq_some_iff hg, hz]
    exact List.mem_cons_self
  have hbefore : t.parent? z ≠ some g := by
    intro hp
    obtain ⟨s, hs, hsp⟩ := parent?_eq_some_iff.mp hp
    obtain ⟨old, hold, -⟩ := h.listed z s g hs hsp
    exact hunopened hold
  rcases brings_of_parent? h c hcount hp with hold | hbrings
  · exact absurd hold hbefore
  · cases c with
    | connect r panel =>
      have hhome := formed_changes hchanges h hformed
      have halone := hhome.home g grp hbrings.2 hg
      rcases hchanges.group?_kept h hcount hg with ⟨old, hold, -⟩ | ⟨-, hheaded⟩
      · exact absurd hold hunopened
      · exact hheaded halone fun x hm => reports_of_mem hm
    | mirror main ids =>
      obtain ⟨-, grp', hgrp', hm⟩ := hbrings
      obtain rfl := Option.some.inj (hg.symm.trans hgrp')
      exact absurd (isMirrorOf_iff.mp hm).1 hne
    | expand ids starts =>
      obtain ⟨e, hd⟩ | ⟨k, grp', hcollects, hgrp', -, hhead⟩ := expand_collects h ids starts hcount
      · have hsame : t.perform (.expand ids starts) = t := congrArg (fun o => o.topology) hd
        rw [hsame] at hp
        exact absurd hp hbefore
      · have hparent : (t.perform (.expand ids starts)).parent? z = _ := hcollects z
        split at hparent
        · obtain rfl := Option.some.inj (hparent.symm.trans hp)
          obtain rfl := Option.some.inj (hgrp'.symm.trans hg)
          rcases hhead with ⟨old, hold⟩ | hhead
          · exact absurd hold hunopened
          · exact hhead
        · exact absurd (hparent.symm.trans hp) hbefore
    | _ => exact hbrings.elim

/-- The command takes the main screen of the group away, and another child of the group is left
behind. -/
def Command.Beheads (t : Topology) (g : ScreenId) (c : Command) : Prop :=
  ∃ grp x, t.group? g = some grp ∧ grp.composition.main = some x ∧ c.Erases t x ∧
    ∃ y ∈ grp.composition.children, y ≠ x

/-- What takes a screen away leaves the others where they are, or in no group. -/
theorem parent?_of_erases (h : Sound t) {c : Command}
    (hcount : (t.perform c).screenIds.count ≤ 2 ^ 64) {x : ScreenId} (hx : c.Erases t x)
    {y g : ScreenId} (hp : (t.perform c).parent? y = some g) : t.parent? y = some g := by
  rcases brings_of_parent? h c hcount hp with hold | hbrings
  · exact hold
  · cases c with
    | disconnect r => exact hbrings.elim
    | destroy x => exact hbrings.elim
    | _ => exact hx.elim

/-- A group that lives on keeps a live main screen exactly if the command does not behead it. -/
theorem headed_perform_iff (h : Sound t) (c : Command)
    (hcount : (t.perform c).screenIds.count ≤ 2 ^ 64) {g x : ScreenId} {old grp : ScreenGroup}
    (hold : t.group? g = some old) (hx : old.composition.main = some x)
    (hlt : x.val < t.screenIds.count) (hg : (t.perform c).group? g = some grp) :
    (∃ s, (t.perform c).screen? x = some s) ↔ (∃ s, t.screen? x = some s) ∧ ¬ c.Beheads t g := by
  have hchanges : Changes t (c.outcome t).events (t.perform c) := changes_outcome h c hcount
  have hsound := sound_changes hchanges h
  constructor
  · rintro ⟨s, hs⟩
    -- its number was drawn long ago, so it is no new screen
    rcases hchanges.screen?_kept hcount hs with ⟨s', hs', -⟩ | hle
    · refine ⟨⟨s', hs'⟩, ?_⟩
      rintro ⟨grp', x', hgrp', hx', herases, -⟩
      obtain rfl := Option.some.inj (hold.symm.trans hgrp')
      obtain rfl := Option.some.inj (hx.symm.trans hx')
      exact (live_perform_iff h c hcount hs').mp ⟨s, hs⟩ herases
    · exact absurd hlt (Nat.not_lt.mpr hle)
  · rintro ⟨⟨s, hs⟩, hbeheads⟩
    refine (live_perform_iff h c hcount hs).mpr fun herases => hbeheads ?_
    -- the group lives on, so a child of it does, and that was in it before
    obtain ⟨y, rest, hy⟩ := List.exists_cons_of_ne_nil (hsound.populated g grp hg)
    have hp : (t.perform c).parent? y = some g := by
      rw [hsound.parent?_eq_some_iff hg, hy]
      exact List.mem_cons_self
    have hmem := (h.parent?_eq_some_iff hold y).mp (parent?_of_erases h hcount herases hp)
    refine ⟨old, x, hold, hx, herases, y, hmem, ?_⟩
    rintro rfl
    obtain ⟨s', hs', -⟩ := parent?_eq_some_iff.mp hp
    exact (live_perform_iff h c hcount hs).mp ⟨s', hs'⟩ herases

/-! ## Runs -/

/-- A group that is not a mirror has a main screen whose number has been drawn, and which is live
exactly if no command has beheaded the group. -/
theorem main_of_group (run : List Command) (hcount : (after run).screenIds.count ≤ 2 ^ 64)
    {g : ScreenId} {grp : ScreenGroup} (hg : (after run).group? g = some grp)
    (hne : grp.composition.combination ≠ .mirror) :
    ∃ x, grp.composition.main = some x ∧ x.val < (after run).screenIds.count ∧
      ((∃ s, (after run).screen? x = some s) ↔
        ∀ beginning c, beginning ++ [c] <+: run → ¬ c.Beheads (after beginning) g) := by
  induction run using List.reverseRecOn generalizing grp with
  | nil => cases hg
  | append_singleton run c ih =>
    have hrun : (after run).screenIds.count ≤ (after (run ++ [c])).screenIds.count :=
      screenIds_le_of_beginning (List.prefix_append run [c])
    have hle := Nat.le_trans hrun hcount
    have hsound := sound_after run hle
    rw [forall_step_concat]
    rw [after_concat] at hcount hg hrun ⊢
    rcases (changes_outcome hsound c hcount).group?_kept hsound hcount hg with
      ⟨old, hold, hcombination, hmain⟩ | ⟨hnew, -⟩
    · obtain ⟨x, hx, hlt, hiff⟩ := ih hle hold (fun hm => hne (hcombination.trans hm))
      refine ⟨x, hmain.trans hx, Nat.lt_of_lt_of_le hlt hrun, ?_⟩
      rw [headed_perform_iff hsound c hcount hold hx hlt hg, hiff]
    · -- a new group is headed by a live screen, and no command can have beheaded it yet
      obtain ⟨x, s, hx, hs⟩ :=
        headed_of_opened hsound (formed_after run hle) c hcount hg hnew hne
      have hsound' := sound_changes (changes_outcome hsound c hcount) hsound
      refine ⟨x, hx, hsound'.screen_lt x s hs, iff_of_true ⟨s, hs⟩ ?_⟩
      have hnever : ∀ beginning (c' : Command), beginning <+: run →
          ¬ c'.Beheads (after beginning) g := by
        rintro beginning c' hbegins ⟨old, -, hold, -⟩
        have hmono := screenIds_le_of_beginning hbegins
        have hlt := (sound_after beginning (Nat.le_trans hmono hle)).group_lt g old hold
        omega
      refine ⟨fun beginning c' hbegins => hnever beginning c' ?_, hnever run c (List.prefix_refl _)⟩
      exact (List.prefix_append beginning [c']).trans hbegins

/-- **The main screen of a desktop, or of the group that panels join, is live exactly if no
command of the run took it away while another screen stayed in the group.** -/
theorem main_live_iff (run : List Command) (hcount : (after run).screenIds.count ≤ 2 ^ 64)
    {g : ScreenId} {m : GroupReport} (hg : (after run).membership? g = some m)
    (hne : m.combination ≠ .mirror) :
    Headed (after run) m.main ↔
      ∀ beginning c, beginning ++ [c] <+: run → ¬ c.Beheads (after beginning) g := by
  obtain ⟨grp, hgrp, rfl⟩ := Option.map_eq_some_iff.mp hg
  obtain ⟨x, hx, -, hiff⟩ := main_of_group run hcount hgrp hne
  rw [← hiff]
  constructor
  · rintro ⟨y, s, hy, hs⟩
    obtain rfl := Option.some.inj (hx.symm.trans hy)
    exact ⟨s, hs⟩
  · rintro ⟨s, hs⟩
    exact ⟨x, s, hx, hs⟩

/-- The screen that heads a desktop is made unique, and a child that does not head it is
destroyed. -/
def detachedRun : List Command :=
  [.create ⟨"a", 640, 480, 1, none⟩,
    .create ⟨"b", 640, 480, 1, none⟩,
    .create ⟨"c", 640, 480, 1, none⟩,
    .expand [⟨0⟩, ⟨1⟩, ⟨2⟩] [⟨0, 0⟩, ⟨640, 0⟩, ⟨1280, 0⟩],
    .makeUnique [⟨0⟩] ⟨false, .deg0⟩,
    .destroy ⟨2⟩]

theorem main_live_iff_detachedRun :
    ∃ m, (after detachedRun).screenIds.count ≤ 2 ^ 64 ∧
      (after detachedRun).membership? ⟨3⟩ = some m ∧ m.combination ≠ .mirror ∧
      (Headed (after detachedRun) m.main ↔
        ∀ beginning c, beginning ++ [c] <+: detachedRun → ¬ c.Beheads (after beginning) ⟨3⟩) :=
  ⟨_, by decide, rfl, by decide, main_live_iff detachedRun (by decide) rfl (by decide)⟩

/-- The first panel is unplugged while a second one stays. -/
def unpluggedRun : List Command :=
  [.connect ⟨0⟩ ⟨"builtin", [⟨1080, 2340, 60⟩], 0, 2, []⟩,
    .connect ⟨1⟩ ⟨"dock", [⟨1920, 1080, 60⟩], 0, 1, []⟩,
    .disconnect ⟨0⟩]

/-- The group of the second panel keeps the first one as its main screen, which is gone. -/
theorem main_live_fails_unpluggedRun :
    ∃ m, (after unpluggedRun).membership? ⟨1⟩ = some m ∧ m.combination = .alone ∧
      m.children = [⟨2⟩] ∧ m.main = some ⟨0⟩ ∧ ¬ Headed (after unpluggedRun) m.main := by
  refine ⟨_, rfl, rfl, rfl, rfl, ?_⟩
  rintro ⟨x, s, hx, hs⟩
  obtain rfl : (⟨0⟩ : ScreenId) = x := Option.some.inj hx
  have hgone : (after unpluggedRun).screen? ⟨0⟩ = none := by decide
  rw [hgone] at hs
  cases hs

end Topology

end DisplayServer
