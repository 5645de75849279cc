import DisplayServer.Proofs.Concurrent
import DisplayServer.Proofs.DisplaysFollow

/-!
# When concurrent calls leave displays and screens in agreement

Once all calls have delivered their events, a live screen should have a display unless it is on
a mirror, and no display should be one for a dead screen (`DisplaysAgree`). The topology is then
as its changes made it, and these are reported in their order; the registry is as the events made
it in the order in which it heard them. So displays and screens agree exactly if, of each screen,
both orders have the same last word, and that they have as long as no delivery overtakes one of an
earlier call about the same screen.

Nothing in the service keeps a delivery from overtaking: the events are passed on after the lock
of the topology was given back.
-/

namespace DisplayServer

open TopologyEvent

/-- A live screen has the display that its group calls for, and no dead screen has one. -/
structure DisplaysAgree (t : Topology) (r : Registry) : Prop where
  /-- Every display is one for a live screen. -/
  live : ∀ d x, r.Serves d x → ∃ s, t.screen? x = some s
  /-- A screen on a mirror has no display. -/
  mirrored : ∀ x g, t.parent? x = some g → t.combination? g = some .mirror → ∀ d, ¬ r.Serves d x
  /-- A screen in any other group has exactly one. -/
  grouped : ∀ x g, t.parent? x = some g →
    t.combination? g = some .alone ∨ t.combination? g = some .expand →
    ∃ d, r.Serves d x ∧ ∀ d', r.Serves d' x → d' = d
  /-- A panel in no group has exactly one. -/
  panel : ∀ x s, t.screen? x = some s → s.isVirtual = false → s.parent = none →
    ∃ d, r.Serves d x ∧ ∀ d', r.Serves d' x → d' = d

/-- A live software screen that is in no group. -/
def Topology.Idle (t : Topology) (x : ScreenId) : Prop :=
  ∃ s, t.screen? x = some s ∧ s.isVirtual = true ∧ s.parent = none

/-! ## Bound screens and displays -/

section Bound

open DisplayServer.Topology

variable {t : Topology} {r : Registry} {l : Ledger}

theorem not_idle_of_parent? {x g : ScreenId} (hg : t.parent? x = some g) : ¬ t.Idle x := by
  rintro ⟨s, hs, -, hp⟩
  rw [parent?_of_screen? hs, hp] at hg
  cases hg

theorem not_idle_of_panel {x : ScreenId} {s : Screen} (hs : t.screen? x = some s)
    (hv : s.isVirtual = false) : ¬ t.Idle x := by
  rintro ⟨s', hs', hv', -⟩
  rw [hs] at hs'
  obtain rfl := Option.some.inj hs'
  rw [hv] at hv'
  cases hv'

/-- Where displays and screens agree, the screens are bound that show something. -/
theorem DisplaysAgree.contains_iff (h : DisplaysAgree t r) (hsound : Sound t)
    (horderly : r.Orderly) (htracks : Tracks l t) (hsettled : l.unsettled = []) {x : ScreenId}
    (hidle : ¬ t.Idle x) : r.bindings.contains x ↔ Shows l.known t x := by
  rw [← horderly.serves_iff]
  cases hs : t.screen? x with
  | none =>
    refine iff_of_false ?_ (not_shows_of_dead hs)
    rintro ⟨d, hd⟩
    obtain ⟨s, hs'⟩ := h.live d x hd
    rw [hs] at hs'
    cases hs'
  | some s =>
    cases hp : s.parent with
    | none =>
      have hv : s.isVirtual = false := Bool.eq_false_iff.mpr fun hv => hidle ⟨s, hs, hv, hp⟩
      rw [shows_iff_of_alone hs hp]
      refine iff_of_true ((h.panel x s hs hv hp).imp fun _ => And.left) ?_
      exact htracks.panel x s hs hv (by rw [hsettled]; exact List.not_mem_nil)
    | some g =>
      have hg : t.parent? x = some g := by rw [parent?_of_screen? hs, hp]
      -- the group is live, so it is a mirror or one of the other two
      obtain ⟨grp, hgrp, -⟩ := hsound.listed x s g hs hp
      have hcombination : t.combination? g = some grp.composition.combination := by
        rw [combination?, hgrp, Option.map_some]
      rw [shows_iff_of_parent? hg, hcombination]
      cases hc : grp.composition.combination with
      | mirror =>
        rw [hc] at hcombination
        refine iff_of_false ?_ (not_not_intro rfl)
        rintro ⟨d, hd⟩
        exact h.mirrored x g hg hcombination d hd
      | alone =>
        rw [hc] at hcombination
        exact iff_of_true ((h.grouped x g hg (.inl hcombination)).imp fun _ => And.left) (by decide)
      | expand =>
        rw [hc] at hcombination
        exact iff_of_true ((h.grouped x g hg (.inr hcombination)).imp fun _ => And.left) (by decide)

/-- Where the screens are bound that show something, displays and screens agree. -/
theorem displaysAgree_of_contains (horderly : r.Orderly) (htracks : Tracks l t)
    (hsettled : l.unsettled = [])
    (h : ∀ x, ¬ t.Idle x → (r.bindings.contains x ↔ Shows l.known t x)) : DisplaysAgree t r := by
  have hone : ∀ {x}, ¬ t.Idle x → Shows l.known t x →
      ∃ d, r.Serves d x ∧ ∀ d', r.Serves d' x → d' = d := by
    intro x hidle hx
    obtain ⟨d, hd⟩ := (horderly.serves_iff x).mpr ((h x hidle).mpr hx)
    exact ⟨d, hd, fun d' hd' => horderly.serves_unique hd hd'⟩
  have hnone : ∀ {x}, ¬ t.Idle x → ¬ Shows l.known t x → ∀ d, ¬ r.Serves d x :=
    fun hidle hx d hd => hx ((h _ hidle).mp ((horderly.serves_iff _).mp ⟨d, hd⟩))
  exact {
    live := by
      intro d x hd
      by_contra hdead
      -- a dead screen is not an idle one, and it shows nothing
      have hnever : t.screen? x = none :=
        Option.eq_none_iff_forall_ne_some.mpr fun s hs => hdead ⟨s, hs⟩
      exact hnone (fun ⟨s, hs, _⟩ => hdead ⟨s, hs⟩) (not_shows_of_dead hnever) d hd
    mirrored := by
      intro x g hg hmirror
      refine hnone (not_idle_of_parent? hg) ?_
      rw [shows_iff_of_parent? hg]
      exact not_not_intro hmirror
    grouped := by
      intro x g hg hother
      refine hone (not_idle_of_parent? hg) ((shows_iff_of_parent? hg).mpr ?_)
      rcases hother with hc | hc <;> simp [hc]
    panel := by
      intro x s hs hv hp
      refine hone (not_idle_of_panel hs hv) ((shows_iff_of_alone hs hp).mpr ?_)
      exact htracks.panel x s hs hv (by rw [hsettled]; exact List.not_mem_nil) }

end Bound

namespace Traffic

open DisplayServer.Topology

variable {w : Traffic}

/-! ## The main result -/

theorem bound_ledger (es : List TopologyEvent) (x : ScreenId) :
    (ledger es).bound x = (lastWord x es).getD false := by
  rw [ledger, Ledger.bound_foldl, foldl_rebind]

/-- Once all is delivered, displays and screens agree exactly if the last word on each screen is
the last one that was reported. -/
theorem Concurrent.displaysAgree_iff (h : Concurrent w) (hfaithful : Faithful w)
    (hsettled : w.Settled) :
    DisplaysAgree w.topology w.registry ↔
      ∀ x, ¬ w.topology.Idle x → lastWord x w.delivered = lastWord x w.reported := by
  have hperm : w.delivered.Perm w.reported := by
    have hall := hfaithful
    rwa [Faithful, hsettled.flatten_eq_nil, List.append_nil] at hall
  have hshown : ∀ x, (w.registry.bindings.contains x ↔
      Shows (ledger w.reported).known w.topology x) ↔
        lastWord x w.delivered = lastWord x w.reported := by
    intro x
    rw [← h.tracks.shown x (by rw [h.settled]; exact List.not_mem_nil), h.bound, bound_ledger,
      bound_ledger, ← Bool.eq_iff_iff]
    exact ⟨lastWord_eq_of_getD hperm, fun heq => by rw [heq]⟩
  constructor
  · intro hagree x hidle
    exact (hshown x).mp (hagree.contains_iff h.sound h.orderly h.tracks h.settled hidle)
  · intro hwords
    exact displaysAgree_of_contains h.orderly h.tracks h.settled fun x hidle =>
      (hshown x).mpr (hwords x hidle)

/-- **Concurrent calls leave displays and screens in agreement exactly if the last event that is
delivered about a screen says what the last one says that was reported about it**, and that is so
if no delivery overtakes one of an earlier call about the same screen. -/
theorem displaysAgree_after (capability : FoldCapability) (schedule : List Action)
    (hscreens : ((start capability).after schedule).topology.screenIds.count ≤ 2 ^ 64)
    (hdisplays : ((start capability).after schedule).topology.displayIds.count ≤ 2 ^ 64)
    (hsettled : ((start capability).after schedule).Settled) :
    (DisplaysAgree ((start capability).after schedule).topology
        ((start capability).after schedule).registry ↔
      ∀ x, ¬ ((start capability).after schedule).topology.Idle x →
        lastWord x ((start capability).after schedule).delivered =
          lastWord x ((start capability).after schedule).reported) ∧
    ((start capability).InOrder schedule →
      DisplaysAgree ((start capability).after schedule).topology
        ((start capability).after schedule).registry) := by
  have hiff := (concurrent_after (concurrent_start capability) schedule hscreens
    hdisplays).displaysAgree_iff (faithful_after (faithful_start capability) schedule) hsettled
  refine ⟨hiff, fun horder => hiff.mpr fun x _ => ?_⟩
  exact (aligned_after (aligned_start capability) horder).lastWord_eq hsettled x

/-- A schedule in which calls about other screens overtake one another: a screen is made unique
before the panel that came earlier is heard of, and a mirror is stopped before it is heard of. -/
def crossingSchedule : List Action :=
  [.call (.connect ⟨0⟩ ⟨"builtin", [⟨1080, 2340, 60⟩], 0, 2, []⟩),
    .call (.create ⟨"a", 640, 480, 1, none⟩),
    .call (.create ⟨"b", 640, 480, 1, none⟩),
    .call (.makeUnique [⟨3⟩] ⟨true, .deg90⟩),
    .deliver 3, .deliver 0, .deliver 1, .deliver 0, .deliver 2,
    .call (.mirror ⟨0⟩ [⟨2⟩]),
    .call (.mirror ⟨3⟩ [⟨0⟩]),
    .call (.stopMirror [⟨2⟩]),
    .deliver 5, .deliver 4, .deliver 6, .deliver 5, .deliver 6, .deliver 5]

theorem displaysAgree_after_crossingSchedule :
    ((start ⟨false, []⟩).after crossingSchedule).topology.screenIds.count ≤ 2 ^ 64 ∧
      ((start ⟨false, []⟩).after crossingSchedule).topology.displayIds.count ≤ 2 ^ 64 ∧
      ((start ⟨false, []⟩).after crossingSchedule).Settled ∧
      (start ⟨false, []⟩).InOrder crossingSchedule ∧
      DisplaysAgree ((start ⟨false, []⟩).after crossingSchedule).topology
        ((start ⟨false, []⟩).after crossingSchedule).registry :=
  ⟨by decide +kernel, by decide +kernel, by decide +kernel, by decide +kernel,
    (displaysAgree_after ⟨false, []⟩ crossingSchedule (by decide +kernel) (by decide +kernel)
      (by decide +kernel)).2 (by decide +kernel)⟩

/-- A panel is put on a mirror and the mirror is stopped, and that it was stopped is heard
before that there was one. -/
def overtakenSchedule : List Action :=
  [.call (.connect ⟨0⟩ ⟨"builtin", [⟨1080, 2340, 60⟩], 0, 2, []⟩),
    .deliver 0, .deliver 0,
    .call (.create ⟨"a", 640, 480, 1, none⟩),
    .deliver 1,
    .call (.mirror ⟨2⟩ [⟨0⟩]),
    .call (.stopMirror [⟨0⟩]),
    .deliver 3, .deliver 3, .deliver 2, .deliver 2, .deliver 2]

/-- All is delivered, and a panel in no group has no display. -/
theorem displaysAgree_fails_overtakenSchedule :
    ((start ⟨false, []⟩).after overtakenSchedule).Settled ∧
      ¬ DisplaysAgree ((start ⟨false, []⟩).after overtakenSchedule).topology
        ((start ⟨false, []⟩).after overtakenSchedule).registry := by
  refine ⟨by decide +kernel, fun h => ?_⟩
  obtain ⟨s, hs, hv, hp⟩ : ∃ s, ((start ⟨false, []⟩).after overtakenSchedule).topology.screen? ⟨0⟩ =
      some s ∧ s.isVirtual = false ∧ s.parent = none := ⟨_, rfl, rfl, rfl⟩
  obtain ⟨d, ⟨v, hd, -⟩, -⟩ := h.panel ⟨0⟩ s hs hv hp
  have hempty : ((start ⟨false, []⟩).after overtakenSchedule).registry.displays.get? d = none := rfl
  rw [hempty] at hd
  cases hd

end Traffic

end DisplayServer
