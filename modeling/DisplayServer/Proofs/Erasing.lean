import DisplayServer.Proofs.Bystanders
import DisplayServer.Proofs.MirrorGroups
import DisplayServer.Proofs.Shifts

/-!
# What goes with a screen that goes

A screen that is unplugged or destroyed takes with it what depended on it and nothing else. Its
mirror stops, and the screens that showed it stand alone; it leaves its own group; and then it is
forgotten. Since stopping a mirror is that its children leave it, all of this up to the last step
is one shift of the children and of the screen itself to no group (`Draft.erases_erase`).

That the shift takes no more than that is a matter of sources. A screen is never its own source,
so it is none of the children of its mirror, and the group that it is in itself is another one
(`Mirroring`). These laws hold of the topologies of the service as well, which differ from those
of the topology alone in the numbers of displays.
-/

namespace DisplayServer

open TopologyEvent

theorem TopologyEvent.disconnected_notMem_departure {x y : ScreenId} {reason : LeaveReason}
    {es : List TopologyEvent} (h : Departure x reason es) : .disconnected y ∉ es := by
  obtain rfl | ⟨s, g, -, rfl | ⟨k, rfl⟩⟩ := h <;> simp

namespace Topology

variable {t : Topology} {x y : ScreenId}

/-- The second screen is a child of a mirror of the first. -/
def ChildOfMirror (t : Topology) (x y : ScreenId) : Prop :=
  ∃ g m, t.membership? g = some m ∧ m.combination = .mirror ∧ m.main = some x ∧ y ∈ m.children

/-- The children of the mirrors of a screen. -/
def dependants (t : Topology) (x : ScreenId) : List ScreenId :=
  (t.mirrorsOf x).flatMap t.children

theorem mem_dependants_iff (h : Linked t) : y ∈ t.dependants x ↔ t.ChildOfMirror x y := by
  constructor
  · intro hy
    obtain ⟨g, hg, hy⟩ := List.mem_flatMap.mp hy
    obtain ⟨grp, hgrp, hm⟩ := Draft.group?_of_mem_mirrorsOf h hg
    obtain ⟨hc, hmain⟩ := isMirrorOf_iff.mp hm
    rw [children, hgrp] at hy
    exact ⟨g, grp.membership, membership?_of_group? hgrp, hc, hmain, hy⟩
  · rintro ⟨g, m, hg, hc, hmain, hy⟩
    obtain ⟨grp, hgrp, rfl⟩ := Option.map_eq_some_iff.mp hg
    refine List.mem_flatMap.mpr ⟨g, Draft.mem_mirrorsOf h hgrp (isMirrorOf_iff.mpr ⟨hc, hmain⟩), ?_⟩
    rw [children, hgrp]
    exact hy

/-- A child of a mirror shows its source. -/
theorem source?_of_childOfMirror (h : Sound t) (hy : t.ChildOfMirror x y) :
    t.source? y = some x := by
  obtain ⟨g, m, hg, hc, hmain, hy⟩ := hy
  obtain ⟨grp, hgrp, rfl⟩ := Option.map_eq_some_iff.mp hg
  rw [source?_of_parent? ((h.parent?_eq_some_iff hgrp y).mpr hy)]
  exact (shown?_of_group? hgrp).trans
    (ScreenGroup.source?_eq_some_iff.mpr (isMirrorOf_iff.mpr ⟨hc, hmain⟩))

end Topology

namespace Draft

open DisplayServer.Topology

variable {d d' d'' : Draft} {x : ScreenId} {xs ys : List ScreenId}

/-! ## Departures -/

/-- The screens `xs` have left their groups, and that is all that was done and reported. -/
structure Departs (xs : List ScreenId) (d d' : Draft) : Prop where
  /-- They have gone to no group. -/
  shifts : Shifts none xs d.topology d'.topology
  /-- What was reported is about them, and not that one of them went away. -/
  told : ∃ es, d'.events = d.events ++ es ∧
    ∀ e ∈ es, (∀ y, e ≠ .disconnected y) ∧ ∀ y, e.concerns? = some y → y ∈ xs

theorem Departs.append (h : Departs xs d d') (h' : Departs ys d' d'') :
    Departs (xs ++ ys) d d'' := by
  obtain ⟨es, hes, habout⟩ := h.told
  obtain ⟨fs, hfs, habout'⟩ := h'.told
  refine ⟨h.shifts.append h'.shifts, es ++ fs, by rw [hfs, hes, List.append_assoc], ?_⟩
  intro e he
  rcases List.mem_append.mp he with he | he
  · exact ⟨(habout e he).1, fun y hy => List.mem_append_left ys ((habout e he).2 y hy)⟩
  · exact ⟨(habout' e he).1, fun y hy => List.mem_append_right xs ((habout' e he).2 y hy)⟩

theorem departs_nil (h : Sound d.topology) : Departs [] d d :=
  ⟨shifts_nil h none, [], (List.append_nil _).symm, fun _ he => (List.not_mem_nil he).elim⟩

theorem departs_leave (h : Sound d.topology) (x : ScreenId) (reason : LeaveReason) :
    Departs [x] d (d.leave x reason) := by
  obtain ⟨es, hes, hdeparture⟩ := events_leave h x reason
  refine ⟨shifts_leave h x reason, es, hes, fun e he => ⟨?_, fun y hy => ?_⟩⟩
  · rintro y rfl
    exact disconnected_notMem_departure hdeparture he
  · exact List.mem_singleton.mpr (concerns?_of_departure hdeparture he hy)

theorem departs_stopMirror (h : Sound d.topology) (g : ScreenId) :
    Departs (d.topology.children g) d (d.stopMirror g) := by
  rw [stopMirror_eq h]
  generalize d.topology.children g = xs
  induction xs generalizing d with
  | nil => exact departs_nil h
  | cons x rest ih =>
    exact (departs_leave h x .detached).append (ih ((extends_leave h x .detached).sound h))

/-- When the mirrors of a screen stop, their children leave. There is one mirror at most. -/
theorem departs_stopMirrorsOf (h : Sound d.topology)
    (hsingle : (d.topology.mirrorsOf x).length ≤ 1) :
    Departs (d.topology.dependants x) d (d.stopMirrorsOf x) := by
  unfold stopMirrorsOf dependants
  cases hmirrors : d.topology.mirrorsOf x with
  | nil => exact departs_nil h
  | cons g rest =>
    rw [hmirrors, List.length_cons] at hsingle
    obtain rfl := List.eq_nil_of_length_eq_zero (Nat.le_zero.mp (Nat.le_of_succ_le_succ hsingle))
    rw [List.flatMap_singleton]
    exact departs_stopMirror h g

/-! ## Erasing -/

/-- The screen has been erased, and the screens `xs` have left their groups. -/
structure Erases (x : ScreenId) (xs : List ScreenId) (d d' : Draft) : Prop where
  /-- The screen is gone, and other screens are as they were, but in no group if they left. -/
  screens : ∀ y, d'.topology.screen? y =
    if y = x then none
    else if y ∈ xs then (d.topology.screen? y).map fun s => s.within none
    else d.topology.screen? y
  /-- Groups are found without the screen and without those that left. -/
  groups : ∀ k, d'.topology.group? k =
    (d.topology.group? k).bind fun grp => grp.sparing (xs ++ [x])
  /-- That the screen went is told last, and what is told before is about those screens. -/
  told : ∃ es, d'.events = d.events ++ (es ++ [.disconnected x]) ∧
    ∀ e ∈ es, (∀ y, e ≠ .disconnected y) ∧ ∀ y, e.concerns? = some y → y ∈ xs ∨ y = x

theorem erases_erase (h : Sound d.topology) (hsingle : (d.topology.mirrorsOf x).length ≤ 1)
    {s : Screen} (hs : d.topology.screen? x = some s) :
    Erases x (d.topology.dependants x) d (d.erase x) := by
  have hstop := (extends_stopMirrorsOf h x).1.sound h
  have hdeparts := (departs_stopMirrorsOf h hsingle).append (departs_leave hstop x .destroyed)
  have hscreens := hdeparts.shifts.screens
  obtain ⟨es, hes, habout⟩ := hdeparts.told
  refine ⟨fun y => ?_, fun k => ?_, es, ?_, fun e he => ⟨(habout e he).1, fun y hy => ?_⟩⟩
  · refine (screen?_forget _ y x).trans ?_
    split
    · rfl
    · rename_i hy
      rw [hscreens]
      simp [hy]
  · -- the screen is still there when it is forgotten, so no group is lost with it
    have hlast : ((d.stopMirrorsOf x).leave x .destroyed).topology.screen? x =
        some (s.within none) := by
      rw [hscreens, if_pos (by simp), hs]
      rfl
    obtain rfl := ((extends_leave hstop x .destroyed).sound hstop).screen_id x _ hlast
    refine (group?_forget_of_live hlast k).trans ?_
    exact hdeparts.shifts.groups k nofun
  · show ((d.stopMirrorsOf x).leave x .destroyed).events ++ [.disconnected x] = _
    rw [hes, List.append_assoc]
  · simpa using (habout e he).2 y hy

end Draft

namespace Topology

open Draft

variable {t u : Topology} {x y : ScreenId} {events : List TopologyEvent}

/-! ## What is left of groups -/

/-- Nothing mirrors a screen that was erased. -/
theorem isMirrorOf_of_erases (h : Linked t)
    (he : Erases x (t.dependants x) (.begin t) ⟨u, events⟩) {k : ScreenId} {grp : ScreenGroup}
    (hk : u.group? k = some grp) : isMirrorOf x grp = false := by
  obtain ⟨old, hold, hgrp⟩ := Option.bind_eq_some_iff.mp ((he.groups k).symm.trans hk)
  have hold : t.group? k = some old := hold
  unfold ScreenGroup.sparing at hgrp
  split at hgrp
  · cases hgrp
  · rename_i hstay
    obtain rfl := Option.some.inj hgrp
    cases hm : isMirrorOf x old with
    | false => exact hm
    | true =>
      -- the children of a mirror of the screen have all left
      refine absurd (fun y hy => List.mem_append_left [x] ?_) hstay
      refine List.mem_flatMap.mpr ⟨k, mem_mirrorsOf h hold hm, ?_⟩
      rw [children, hold]
      exact hy

/-- The group of an erased screen dissolves exactly if nobody else was in it. -/
theorem dissolved_iff_of_erases (h : Sound t) (hm : Mirroring t)
    (he : Erases x (t.dependants x) (.begin t) ⟨u, events⟩) {g : ScreenId}
    (hg : t.parent? x = some g) : u.group? g = none ↔ t.children g = [x] := by
  obtain ⟨s, hs, hp⟩ := parent?_eq_some_iff.mp hg
  obtain ⟨grp, hgrp, hx⟩ := h.listed x s g hs hp
  have hu : u.group? g = grp.sparing (t.dependants x ++ [x]) := by
    refine (he.groups g).trans ?_
    show (t.group? g).bind _ = _
    rw [hgrp]
    rfl
  have hchildren : t.children g = grp.composition.children := by rw [children, hgrp]
  rw [hu, ScreenGroup.sparing_eq_none_iff, hchildren]
  constructor
  · intro hall
    have honly : ∀ y ∈ grp.composition.children, y = x := by
      intro y hy
      rcases List.mem_append.mp (hall y hy) with hmem | hyx
      · -- a child of a mirror of the screen is in another group, for the screen is not in that one
        have hsource := source?_of_childOfMirror h ((mem_dependants_iff h.toLinked).mp hmem)
        rw [source?_of_parent? ((h.parent?_eq_some_iff hgrp y).mpr hy),
          ← source?_of_parent? hg] at hsource
        exact absurd hsource (hm.other x)
      · exact List.mem_singleton.mp hyx
    refine List.perm_singleton.mp
      ((List.perm_ext_iff_of_nodup (h.nodup g grp hgrp) (by simp)).mpr fun y => ?_)
    rw [List.mem_singleton]
    exact ⟨honly y, fun hy => hy ▸ hx⟩
  · intro hone y hy
    rw [hone] at hy
    exact List.mem_append_right _ hy

/-! ## Commands -/

/-- The command takes the screen away: it unplugs the panel, or destroys the software screen. -/
def Command.Removes (t : Topology) (x : ScreenId) : Command → Prop
  | disconnect r => (t.disconnect r).result = .ok x
  | destroy y => y = x ∧ (t.destroy y).result = .ok ()
  | _ => False

theorem erases_of_removes (h : Sound t) (hm : MirrorsSound t) {c : Command}
    (hc : c.Removes t x) :
    Erases x (t.dependants x) (.begin t) ⟨(c.outcome t).topology, (c.outcome t).events⟩ := by
  cases c with
  | disconnect r =>
    obtain ⟨e, hd⟩ | ⟨y, hy, hd⟩ := disconnect_cases t r
    · rw [Command.Removes, hd] at hc
      cases hc
    · rw [Command.Removes, hd] at hc
      obtain rfl : y = x := Except.ok.inj hc
      -- the index leads to a live screen
      obtain ⟨s, hs, -⟩ := h.indexed r y hy
      simp only [Command.outcome, hd]
      exact erases_erase (d := .begin t) h (hm.single y) hs
  | destroy y =>
    obtain ⟨rfl, hok⟩ := hc
    obtain ⟨e, hd⟩ | ⟨s, hs, -, hd⟩ := destroy_cases t y
    · rw [hd] at hok
      cases hok
    · simp only [Command.outcome, hd]
      exact erases_erase (d := .begin t) h (hm.single y) hs
  | _ => exact hc.elim

end Topology

namespace Service

open DisplayServer.Topology

variable {ι : Type} [DecidableEq ι] {respond : ι → AgentEvent → Response ι}
variable {capability : FoldCapability} {known : ScreenId → Prop} {s s' : Service ι}

/-! ## Sources in runs of the service -/

/-- Which groups there are and whose picture they show has nothing to do with displays. -/
theorem mirroring_perform {c : Command ι} (h : Sound s.topology)
    (hm : Formed s.topology ∧ Mirroring s.topology)
    (hscreens : (s.perform respond c).topology.screenIds.count ≤ 2 ^ 64) :
    Formed (s.perform respond c).topology ∧ Mirroring (s.perform respond c).topology := by
  obtain ⟨hformed, hmirroring⟩ := hm
  obtain ⟨tc, -, ha, -⟩ | ⟨-, ht, -⟩ := perform_cases respond s c
  · rw [screenIds_arranged ha] at hscreens
    obtain ⟨hhome, hmain⟩ := formed_changes (changes_outcome h tc hscreens) h hformed
    obtain ⟨hlive, hother, htogether⟩ :=
      Topology.mirroring_perform hmirroring h hformed tc hscreens
    rw [ha.topology]
    exact ⟨⟨hhome, hmain⟩, ⟨hlive, hother, htogether⟩⟩
  · rw [ht.topology]
    exact ⟨hformed, hmirroring⟩

theorem mirroring_after (run : List (Command ι))
    (hscreens : (after respond (start capability) run).topology.screenIds.count ≤ 2 ^ 64)
    (hdisplays : (after respond (start capability) run).topology.displayIds.count ≤ 2 ^ 64) :
    Formed (after respond (start capability) run).topology ∧
      Mirroring (after respond (start capability) run).topology := by
  induction run using List.reverseRecOn with
  | nil => exact ⟨formed_after [] (by decide), mirroring_empty⟩
  | append_singleton run c ih =>
    have hle := counts_le_of_beginning respond (s := start capability) (List.prefix_append run [c])
    have hscreens' := Nat.le_trans hle.1 hscreens
    have hdisplays' := Nat.le_trans hle.2 hdisplays
    rw [after_concat] at hscreens ⊢
    exact mirroring_perform (follows_after respond run hscreens' hdisplays').sound
      (ih hscreens' hdisplays') hscreens

/-! ## The request -/

/-- The screen `x` was erased, and what depended on it was cleaned up. -/
structure Erased (x : ScreenId) (s s' : Service ι) (events : List TopologyEvent) : Prop where
  /-- The screen is gone. -/
  gone : s'.topology.screen? x = none
  /-- No group lists it. -/
  unlisted : ∀ g m, s'.topology.membership? g = some m → x ∉ m.children
  /-- No mirror shows it. -/
  unmirrored : ∀ g m, s'.topology.membership? g = some m → m.combination = .mirror →
    m.main ≠ some x
  /-- It has no display. -/
  undisplayed : ∀ d, ¬ s'.registry.Serves d x
  /-- A screen that showed it is in no group and has a display of its own. -/
  orphaned : ∀ y, s.topology.ChildOfMirror x y →
    (∃ w, s'.topology.screen? y = some w ∧ w.parent = none) ∧
      ∃ d, s'.registry.Serves d y ∧ ∀ d', s'.registry.Serves d' y → d' = d
  /-- Its group is dissolved exactly if it was the only child. -/
  dissolved : ∀ g, s.topology.parent? x = some g →
    (s'.topology.group? g = none ↔ s.topology.children g = [x])
  /-- Every other screen stays where and as it is, and so does its display. -/
  others : ∀ y, y ≠ x → ¬ s.topology.ChildOfMirror x y →
    s'.topology.screen? y = s.topology.screen? y ∧
      s'.registry.displayOf? y = s.registry.displayOf? y
  /-- That it went is reported once, and last. -/
  told : ∃ es, events = es ++ [.disconnected x] ∧ ∀ y, .disconnected y ∉ es

omit [DecidableEq ι] in
/-- A screen is erased on a registry that has followed so far. -/
theorem erased_of_arranged (h : Follows known s)
    (hm : Formed s.topology ∧ Mirroring s.topology) {c : Topology.Command} {x : ScreenId}
    (hc : c.Removes s.topology x) (ha : Arranged c s s')
    (hscreens : s'.topology.screenIds.count ≤ 2 ^ 64)
    (hdisplays : s'.topology.displayIds.count ≤ 2 ^ 64) :
    Erased x s s' (c.outcome s.topology).events := by
  obtain ⟨hformed, hmirroring⟩ := hm
  have herases := erases_of_removes h.sound
    (mirrorsSound_of_mirroring hmirroring h.sound hformed) hc
  have hlast := follows_arranged h ha hscreens hdisplays
  have hdependants : ∀ y, y ∈ s.topology.dependants x ↔ s.topology.ChildOfMirror x y :=
    fun _ => mem_dependants_iff h.sound.toLinked
  have hgone : s'.topology.screen? x = none := by
    rw [screen?_arranged ha, herases.screens, if_pos rfl]
  exact {
    gone := hgone
    unlisted := by
      intro g m hg hx
      obtain ⟨grp, hgrp, rfl⟩ := Option.map_eq_some_iff.mp hg
      -- a listed screen is live
      obtain ⟨w, hw, -⟩ := hlast.sound.member g grp x hgrp hx
      rw [hgone] at hw
      cases hw
    unmirrored := by
      intro g m hg hmirror hmain
      obtain ⟨grp, hgrp, rfl⟩ := Option.map_eq_some_iff.mp hg
      rw [group?_arranged ha] at hgrp
      have hnot := isMirrorOf_of_erases h.sound.toLinked herases hgrp
      rw [isMirrorOf_iff.mpr ⟨hmirror, hmain⟩] at hnot
      cases hnot
    undisplayed := by
      intro d hd
      obtain ⟨w, hw, -⟩ := (hlast.serves_iff x).mp ⟨d, hd⟩
      rw [hgone] at hw
      cases hw
    orphaned := by
      intro y hy
      have hsource := source?_of_childOfMirror h.sound hy
      have hyx : y ≠ x := by
        rintro rfl
        exact hmirroring.other y hsource
      obtain ⟨g, -, hg, -⟩ := mirror_of_source? hsource
      obtain ⟨w, hw, -⟩ := parent?_eq_some_iff.mp hg
      have hw' : s'.topology.screen? y = some (w.within none) := by
        rw [screen?_arranged ha, herases.screens, if_neg hyx, if_pos ((hdependants y).mpr hy)]
        exact congrArg (Option.map _) hw
      -- it has been in a group, so it shows something of its own now
      obtain ⟨d, hd⟩ := (hlast.serves_iff y).mpr
        ((shows_iff_of_alone hw' rfl).mpr (.inl (h.tracks.member y g hg)))
      exact ⟨⟨_, hw', rfl⟩, d, hd, fun d' hd' => hlast.orderly.serves_unique hd hd'⟩
    dissolved := by
      intro g hg
      rw [group?_arranged ha]
      exact dissolved_iff_of_erases h.sound hmirroring herases hg
    others := by
      intro y hyx hy
      refine ⟨?_, ?_⟩
      · rw [screen?_arranged ha, herases.screens, if_neg hyx,
          if_neg fun hmem => hy ((hdependants y).mp hmem)]
        rfl
      · have horderly := hlast.orderly
        obtain ⟨es, hes, habout⟩ := herases.told
        have hes : (c.outcome s.topology).events = es ++ [.disconnected x] := hes
        rw [ha.registry, hes] at horderly ⊢
        refine Registry.displayOf?_followAll horderly fun e he hey => ?_
        rcases List.mem_append.mp he with he | he
        · exact ((habout e he).2 y hey).elim (fun hmem => hy ((hdependants y).mp hmem)) hyx
        · obtain rfl := List.mem_singleton.mp he
          exact hyx (Option.some.inj hey).symm
    told := by
      obtain ⟨es, hes, habout⟩ := herases.told
      exact ⟨es, hes, fun y hmem => (habout _ hmem).1 y rfl⟩ }

/-- **Erasing a screen after any run cleans up what depended on the screen, and leaves all other
screens and their displays alone.** -/
theorem erased_of_granted (run : List (Command ι)) (c : Topology.Command) {x : ScreenId}
    (hc : c.Removes (after respond (start capability) run).topology x)
    (hscreens : (after respond (start capability) (run ++ [.arrange c])).topology.screenIds.count ≤
      2 ^ 64)
    (hdisplays : (after respond (start capability)
      (run ++ [.arrange c])).topology.displayIds.count ≤ 2 ^ 64) :
    Erased x (after respond (start capability) run)
      (after respond (start capability) (run ++ [.arrange c]))
      ((Command.arrange c).reply respond (after respond (start capability) run)).events := by
  have hle := counts_le_of_beginning respond (s := start capability)
    (List.prefix_append run [.arrange c])
  have hscreens' := Nat.le_trans hle.1 hscreens
  have hdisplays' := Nat.le_trans hle.2 hdisplays
  rw [after_concat] at hscreens hdisplays ⊢
  exact erased_of_arranged (follows_after respond run hscreens' hdisplays')
    (mirroring_after run hscreens' hdisplays') hc (arranged_arrange respond _ c) hscreens hdisplays

/-- Two screens that show each other, and one that shows the first of them as well. -/
def entwinedRun : List (Command Nat) :=
  [.arrange (.connect ⟨0⟩ ⟨"builtin", [⟨1080, 2340, 60⟩], 0, 2, []⟩),
    .arrange (.create ⟨"a", 640, 480, 1, none⟩),
    .arrange (.create ⟨"b", 640, 480, 1, none⟩),
    .arrange (.create ⟨"c", 640, 480, 1, none⟩),
    .arrange (.mirror ⟨2⟩ [⟨3⟩, ⟨4⟩]),
    .arrange (.mirror ⟨3⟩ [⟨2⟩])]

/-- The first of them goes: it is the source of one screen that it shows itself. -/
theorem erased_of_granted_entwinedRun :
    (Topology.Command.destroy ⟨2⟩).Removes
        (after quiet (start ⟨false, []⟩) entwinedRun).topology ⟨2⟩ ∧
      (after quiet (start ⟨false, []⟩) entwinedRun).topology.dependants ⟨2⟩ = [⟨3⟩, ⟨4⟩] ∧
      Erased ⟨2⟩ (after quiet (start ⟨false, []⟩) entwinedRun)
        (after quiet (start ⟨false, []⟩) (entwinedRun ++ [.arrange (.destroy ⟨2⟩)]))
        ((Command.arrange (.destroy ⟨2⟩)).reply quiet
          (after quiet (start ⟨false, []⟩) entwinedRun)).events :=
  ⟨⟨rfl, by decide +kernel⟩, by decide +kernel,
    erased_of_granted entwinedRun (.destroy ⟨2⟩) ⟨rfl, by decide +kernel⟩ (by decide +kernel)
      (by decide +kernel)⟩

end Service

end DisplayServer
