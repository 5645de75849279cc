import DisplayServer.Proofs.Commands
import DisplayServer.Proofs.Requests
import DisplayServer.Proofs.ServiceRuns

/-!
# A refused operation leaves no trace

Requests are checked before anything is changed, so a refusal should find everything as it was.
One operation can still refuse after it has begun to edit: making screens unique looks each
screen up again once it has left its group, and refuses where it finds none. That this never
happens rests on the check made before: a number that names a screen goes on naming one while
screens leave groups and groups dissolve, whatever the topology (`isSome_screen?_leave`).

Nothing here asks the topology to be sound, so nothing depends on how many numbers were drawn.
-/

namespace DisplayServer

/-! ## Numbers that go on naming a screen -/

namespace Topology

variable (t : Topology) (x : ScreenId)

theorem isSome_screen?_modifyScreen (k : ScreenId) (f : Screen → Screen) :
    ((t.modifyScreen k f).screen? x).isSome = (t.screen? x).isSome := by
  unfold modifyScreen
  cases hs : t.screen? k with
  | none => rfl
  | some s =>
    simp only [screen?, Table.get?_insert_ite]
    split
    · -- the number written is one that named a screen before
      rename_i hx
      rw [hx, screen?_eq_some_iff.mp hs]
      rfl
    · rfl

theorem screen?_modifyGroup (k : ScreenId) (f : Composition → Composition) :
    (t.modifyGroup k f).screen? x = t.screen? x := by
  unfold modifyGroup
  cases hg : t.group? k with
  | none => rfl
  | some g =>
    simp only [screen?, Table.get?_insert_ite]
    split
    · rename_i hx
      rw [hx]
      exact (screen?_eq_none_of_group? hg).symm
    · rfl

end Topology

namespace Draft

open DisplayServer.Topology

theorem screen?_dissolveIfEmpty (d : Draft) (g x : ScreenId) :
    (d.dissolveIfEmpty g).topology.screen? x = d.topology.screen? x := by
  unfold dissolveIfEmpty
  cases hg : d.topology.group? g with
  | none => rfl
  | some grp =>
    simp only
    split
    · -- what is dropped is a group
      refine (screen?_dropGroup d.topology x g).trans ?_
      split
      · rename_i hx
        rw [hx]
        exact (screen?_eq_none_of_group? hg).symm
      · rfl
    · rfl

theorem isSome_screen?_detach (d : Draft) (k x : ScreenId) (reason : LeaveReason) :
    ((d.detach k reason).1.topology.screen? x).isSome = (d.topology.screen? x).isSome := by
  have hclear := isSome_screen?_modifyScreen d.topology x k fun s => { s with parent := none }
  unfold detach
  split
  · rfl
  · simp only
    split
    · exact hclear
    · split
      · -- unlinked at both ends; only the first write touches a screen
        refine Eq.trans ?_ hclear
        split <;> exact congrArg Option.isSome (screen?_modifyGroup _ x _ _)
      · exact hclear

theorem isSome_screen?_leave (d : Draft) (k x : ScreenId) (reason : LeaveReason) :
    ((d.leave k reason).topology.screen? x).isSome = (d.topology.screen? x).isSome := by
  have hdetach := isSome_screen?_detach d k x reason
  unfold leave
  split
  · rename_i d' g h
    rw [h] at hdetach
    rw [screen?_dissolveIfEmpty]
    exact hdetach
  · rename_i d' h
    rw [h] at hdetach
    exact hdetach

/-! ## Making screens unique is not refused half-way -/

theorem makeUniqueStep_granted (turn : UniqueRotation) {x : ScreenId} {d : Draft}
    (hx : (d.topology.screen? x).isSome) :
    (∃ display, (makeUniqueStep turn x d).1 = .ok display) ∧
      ∀ y, (d.topology.screen? y).isSome →
        ((makeUniqueStep turn x d).2.topology.screen? y).isSome := by
  have hleft := fun y => isSome_screen?_leave d x y .madeUnique
  obtain ⟨s, hs⟩ := Option.isSome_iff_exists.mp ((hleft x).trans hx)
  unfold makeUniqueStep
  simp only [hs]
  -- whether the screen is turned does not matter
  generalize (if turn.locked then { s with rotation := turn.rotation } else s) = s'
  refine ⟨⟨_, rfl⟩, fun y hy => ?_⟩
  refine (congrArg Option.isSome (screen?_putScreen _ y _)).trans ?_
  split
  · rfl
  · exact (hleft y).trans hy

theorem makeUniqueSteps_granted (turn : UniqueRotation) (xs : List ScreenId) {d : Draft}
    (hlive : ∀ x ∈ xs, (d.topology.screen? x).isSome) :
    ∃ displays, (makeUniqueSteps turn xs d).1 = .ok displays := by
  induction xs generalizing d with
  | nil => exact ⟨[], rfl⟩
  | cons x rest ih =>
    obtain ⟨hx, hrest⟩ := List.forall_mem_cons.mp hlive
    obtain ⟨⟨display, hok⟩, hstay⟩ := makeUniqueStep_granted turn hx
    -- the screens still to come are live after this step too
    obtain ⟨displays, hoks⟩ := ih fun y hy => hstay y (hrest y hy)
    have hstep : makeUniqueStep turn x d = (.ok display, (makeUniqueStep turn x d).2) :=
      Prod.ext hok rfl
    have hsteps : makeUniqueSteps turn rest (makeUniqueStep turn x d).2 =
        (.ok displays, (makeUniqueSteps turn rest (makeUniqueStep turn x d).2).2) :=
      Prod.ext hoks rfl
    refine ⟨display :: displays, ?_⟩
    rw [makeUniqueSteps, hstep]
    simp only
    rw [hsteps]

end Draft

/-! ## Every refusal -/

namespace Outcome

variable {α : Type} {o : Outcome α} {t : Topology} {e : Error}

/-- What was refused with nothing done is known by its error. -/
theorem eq_refuse_of_error (h : ∃ e', o = .refuse t e') (he : o.result = .error e) :
    o = .refuse t e := by
  obtain ⟨e', rfl⟩ := h
  obtain rfl : e' = e := Except.error.inj he
  rfl

theorem done_ne_error {d : Draft} {a : α} (h : o = .done d a) : o.result ≠ .error e := by
  rw [h]
  exact fun h => nomatch h

theorem error_of_void (h : o.void.result = .error e) : o.result = .error e := by
  unfold void at h
  cases hr : o.result with
  | error e' =>
    rw [hr] at h
    exact congrArg Except.error (Except.error.inj h)
  | ok a =>
    rw [hr] at h
    cases h

end Outcome

namespace Topology

open Outcome

variable {t : Topology} {e : Error}

theorem makeUnique_refused {ids : List ScreenId} {turn : UniqueRotation}
    (h : (t.makeUnique ids turn).result = .error e) : t.makeUnique ids turn = .refuse t e := by
  obtain hrefused | ⟨hlive, hd⟩ := makeUnique_cases t ids turn
  · exact eq_refuse_of_error hrefused h
  · -- the check has found all screens, so no step finds one missing
    obtain ⟨displays, hok⟩ := Draft.makeUniqueSteps_granted turn (distinct ids) (d := .begin t)
      fun x hx => Option.isSome_iff_exists.mpr (hlive x hx)
    rw [hd, hok] at h
    cases h

/-- An operation that answers with an error has done nothing. -/
theorem outcome_refused (c : Command) (h : (c.outcome t).result = .error e) :
    c.outcome t = .refuse t e := by
  cases c with
  | connect r panel =>
    obtain hrefused | ⟨s, -, -, -, hd⟩ := connect_cases t r panel
    · exact congrArg void (eq_refuse_of_error hrefused (error_of_void h))
    · exact absurd (error_of_void h) (done_ne_error hd)
  | disconnect r =>
    obtain hrefused | ⟨x, -, hd⟩ := disconnect_cases t r
    · exact congrArg void (eq_refuse_of_error hrefused (error_of_void h))
    · exact absurd (error_of_void h) (done_ne_error hd)
  | create request =>
    obtain hrefused | ⟨s, -, -, hd⟩ := create_cases t request
    · exact congrArg void (eq_refuse_of_error hrefused (error_of_void h))
    · exact absurd (error_of_void h) (done_ne_error hd)
  | destroy x =>
    obtain hrefused | ⟨s, -, -, hd⟩ := destroy_cases t x
    · exact eq_refuse_of_error hrefused h
    · exact absurd h (done_ne_error hd)
  | setSurface x surface =>
    obtain hrefused | hd := setSurface_cases t x surface
    · exact eq_refuse_of_error hrefused h
    · exact absurd h (done_ne_error hd)
  | mirror main ids =>
    obtain hrefused | ⟨-, -, -, -, ⟨g, -, hd⟩ | ⟨-, hd⟩⟩ := mirror_cases t main ids
    · exact congrArg void (eq_refuse_of_error hrefused (error_of_void h))
    · exact absurd (error_of_void h) (done_ne_error hd)
    · exact absurd (error_of_void h) (done_ne_error hd)
  | expand ids starts =>
    obtain hrefused | ⟨first, start, rest, -, -, ⟨g, -, -, hd⟩ | hd⟩ := expand_cases t ids starts
    · exact congrArg void (eq_refuse_of_error hrefused (error_of_void h))
    · exact absurd (error_of_void h) (done_ne_error hd)
    · exact absurd (error_of_void h) (done_ne_error hd)
  | makeUnique ids turn => exact congrArg void (makeUnique_refused (error_of_void h))
  | stopMirror ids =>
    obtain hrefused | hd := stop_cases t .mirror ids
    · exact eq_refuse_of_error hrefused h
    · exact absurd h (done_ne_error hd)
  | stopExpand ids =>
    obtain hrefused | hd := stop_cases t .expand ids
    · exact eq_refuse_of_error hrefused h
    · exact absurd h (done_ne_error hd)
  | rotate x rotation =>
    obtain hrefused | hd | ⟨s, -, -, hd⟩ := rotate_cases t x rotation
    · exact eq_refuse_of_error hrefused h
    · exact absurd h (done_ne_error hd)
    · exact absurd h (done_ne_error hd)
  | setMode x index =>
    obtain hrefused | hd | ⟨s, -, -, -, hd⟩ := setMode_cases t x index
    · exact eq_refuse_of_error hrefused h
    · exact absurd h (done_ne_error hd)
    · exact absurd h (done_ne_error hd)
  -- the others are never refused
  | ungroup ids => exact absurd h (done_ne_error rfl)
  | setPower x power => exact absurd h (done_ne_error rfl)
  | setPanelPower power => exact absurd h (done_ne_error rfl)

end Topology

namespace Service

variable {ι : Type} [DecidableEq ι]

/-- **A refused operation leaves no trace**: topology and sources of numbers, displays and
subscribers are what they were, no event is reported, and no agent is told. -/
theorem arrange_refused (respond : ι → AgentEvent → Response ι) (s : Service ι)
    (c : Topology.Command) (e : Error)
    (h : (s.arrange respond c.outcome).result = .error e) :
    s.arrange respond c.outcome = ⟨.error e, s, [], []⟩ := by
  have hrefused : c.outcome s.topology = .refuse s.topology e := Topology.outcome_refused c h
  unfold arrange
  rw [hrefused]
  rfl

/-- A panel and a desktop of two software screens, followed by an agent. -/
def desktopRun : List (Command Nat) :=
  [.register 7 .screen,
    .arrange (.connect ⟨0⟩ ⟨"builtin", [⟨1080, 2340, 60⟩], 0, 2, []⟩),
    .arrange (.create ⟨"a", 640, 480, 1, none⟩),
    .arrange (.create ⟨"b", 640, 480, 1, none⟩),
    .arrange (.expand [⟨2⟩, ⟨3⟩] [⟨0, 0⟩, ⟨640, 0⟩])]

/-- Of the numbers listed the third is the desktop itself, so no screen leaves it. -/
theorem arrange_refused_desktopListed :
    ((after quiet (start ⟨false, []⟩) desktopRun).arrange quiet
        (Topology.Command.makeUnique [⟨2⟩, ⟨3⟩, ⟨4⟩] ⟨false, .deg0⟩).outcome).result =
      .error (.invalidScreen ⟨4⟩) ∧
    (after quiet (start ⟨false, []⟩) desktopRun).arrange quiet
        (Topology.Command.makeUnique [⟨2⟩, ⟨3⟩, ⟨4⟩] ⟨false, .deg0⟩).outcome =
      ⟨.error (.invalidScreen ⟨4⟩), after quiet (start ⟨false, []⟩) desktopRun, [], []⟩ :=
  have h : ((after quiet (start ⟨false, []⟩) desktopRun).arrange quiet
      (Topology.Command.makeUnique [⟨2⟩, ⟨3⟩, ⟨4⟩] ⟨false, .deg0⟩).outcome).result =
        .error (.invalidScreen ⟨4⟩) := by rfl
  ⟨h, arrange_refused quiet _ _ _ h⟩

end Service

end DisplayServer
