import DisplayServer.Proofs.LeftButton
import DisplayServer.Proofs.Releases
import DisplayServer.Proofs.Runs
import Mathlib.Data.List.Infix

/-!
# The grabbed point stays under the pointer

The first movement of a move takes hold of the window, and recovers the window's corner from the
pointer itself, since the rectangle that comes with the event may be out of date. From then on the
grip is not touched (`Controller.goesOn_take`): whatever comes, a target is the initial rectangle
with the travel of the pointer since then added, and the corner that was recovered cancels against
the travel. What is left is the position of the pointer less its place in the window at the start.

Later events bring rectangles of their own. Only the size of the first one counts.
-/

namespace DisplayServer

namespace Gesture

/-- The gesture took hold of the window with this event, when its rectangle was said to be
`rect`. -/
structure TookHold (e : PointerEvent) (rect : Rect) (g : Gesture) : Prop where
  origin : g.grip.origin = e.onDisplay
  initial : g.grip.initial = Controller.moveOrigin e rect

/-- The rectangle of a window that was taken hold of with an event, once the pointer is at `q`: the
point that was grabbed is under the pointer, and the size is that of `rect`. -/
def grabbedAt (e : PointerEvent) (rect : Rect) (q : Point) : Rect :=
  ⟨q.x - e.inWindow.x, q.y - e.inWindow.y, rect.width, rect.height⟩

variable {e : PointerEvent} {rect : Rect} {g g' : Gesture}

theorem TookHold.of_grip (h : g.TookHold e rect)
    (hgrip : g'.grip = { g.grip with target := g'.grip.target }) : g'.TookHold e rect where
  origin := by
    rw [hgrip]
    exact h.origin
  initial := by
    rw [hgrip]
    exact h.initial

theorem TookHold.target_moveTo (h : g.TookHold e rect) (q : Point) :
    (g.moveTo q).grip.target = grabbedAt e rect q := by
  show g.grip.carried q = _
  rw [Grip.carried, Grip.travel, h.origin, h.initial]
  simp only [Controller.moveOrigin, Rect.movedTo, grabbedAt, Rect.mk.injEq, and_true]
  omega

end Gesture

namespace Controller

variable {c : Controller} {g : Gesture} {e : PointerEvent} {i : Input}

/-! ## What a move answers -/

/-- A movement that drives the move schedules a rectangle. -/
theorem moveEvent_movement (hphase : c.phase = .moving) (hg : c.gesture = some g)
    (he : c.DrivesMove e) (haction : e.action = .move) (rect : Rect) :
    (c.moveEvent e rect).controller.pending =
        some ⟨(g.moveTo e.onDisplay).grip.target, .dragMove⟩ ∧
      ∀ o ∈ (c.moveEvent e rect).outputs, o = .frameRequest := by
  rw [moveEvent_of_armed (by rw [hphase]; decide) he.accepted he.armed, if_pos haction]
  simp only [carry, hg]
  refine ⟨rfl, ?_⟩
  intro o ho
  unfold schedule at ho
  split at ho
  · cases ho
  · exact List.mem_singleton.mp ho

/-- A press or a release that drives the move ends it with a rectangle. -/
theorem moveEvent_ending (h : Consistent c) (hphase : c.phase = .moving) (hg : c.gesture = some g)
    (he : c.DrivesMove e) (haction : e.action ≠ .move) (rect : Rect) :
    (c.moveEvent e rect).controller.phase = .idle ∧
      (c.moveEvent e rect).controller.pending = none ∧
      (c.moveEvent e rect).outputs = [.rect (g.moveTo e.onDisplay).grip.target .dragEnd] := by
  have hends : (e.action.isDown || e.action.isRelease) = true := by
    cases hkind : e.action with
    | move => exact absurd hkind haction
    | axisUpdate => exact absurd hkind he.action
    | _ => rfl
  have hdown := (h.armed he.armed).1
  rw [moveEvent_of_armed (by rw [hphase]; decide) he.accepted he.armed, if_neg haction,
    if_pos hends]
  simp [endMove, hdown, hg, deliver]

/-- Any other event schedules nothing and says nothing. -/
theorem moveEvent_other (hphase : c.phase = .moving) (he : ¬ c.DrivesMove e) (rect : Rect) :
    (c.moveEvent e rect).controller.pending = c.pending ∧ (c.moveEvent e rect).outputs = [] := by
  have hnot : c.phase ≠ .dragging := by
    rw [hphase]
    decide
  cases haccepted : c.accepts e with
  | false =>
    rw [moveEvent_of_not_accepts haccepted]
    exact ⟨rfl, rfl⟩
  | true =>
    rcases moveEvent_cases c e rect with ⟨c', heq, -, hpending, -⟩ | ⟨harmed, haction, -⟩ |
      ⟨harmed, -, -⟩
    · rw [heq]
      exact ⟨hpending, rfl⟩
    · exact absurd ⟨harmed, haccepted, by rw [haction]; decide⟩ he
    · -- a turning wheel is all that is left
      have haction : e.action = .axisUpdate :=
        Classical.byContradiction fun hne => he ⟨harmed, haccepted, hne⟩
      rw [moveEvent_of_armed hnot haccepted harmed, haction, if_neg (by decide),
        if_neg (by decide)]
      exact ⟨rfl, rfl⟩

end Controller

namespace SoloDesk

open Controller (Input)
open Gesture (grabbedAt)

variable {d : SoloDesk} {e : PointerEvent} {rect : Rect}

/-- A move runs after the run that started with this event, which came with this rectangle. -/
def MoveStarted (d : SoloDesk) (run : List Input) (e : PointerEvent) (rect : Rect) : Prop :=
  ∃ before since, run = before ++ .move e rect :: since ∧
    (d.after before).controller.phase ≠ .moving ∧
    ∀ part, part <+: since → (d.after (before ++ .move e rect :: part)).controller.phase = .moving

/-- A move that an input starts took hold of the window with an event given to the move. -/
theorem tookHold_of_starts {i : Input} (hbefore : d.controller.phase ≠ .moving)
    (hafter : (d.perform i).controller.phase = .moving) :
    ∃ e rect g, i = .move e rect ∧ (d.perform i).controller.gesture = some g ∧
      g.TookHold e rect := by
  have hruns : (d.perform i).controller.phase ≠ .idle := by
    rw [hafter]
    decide
  rcases starts_cases hruns (fun h => hbefore (h.symm.trans hafter)) with
    ⟨e, rect, rfl, -, hg⟩ | ⟨e, w, area, rfl, hphase, -⟩
  · exact ⟨e, rect, _, rfl, hg, ⟨rfl, rfl⟩⟩
  · rw [hphase] at hafter
    cases hafter

/-- As long as a move goes on, its gesture is the one that took hold of the window. -/
theorem tookHold_since {before since : List Input}
    (hbefore : (d.after before).controller.phase ≠ .moving)
    (hsince : ∀ part, part <+: since →
      (d.after (before ++ .move e rect :: part)).controller.phase = .moving) :
    ∃ g, (d.after (before ++ .move e rect :: since)).controller.gesture = some g ∧
      g.TookHold e rect := by
  have hfirst := hsince [] List.nil_prefix
  rw [after_concat] at hfirst
  obtain ⟨e', rect', g, hi, hg, hhold⟩ := tookHold_of_starts hbefore hfirst
  obtain ⟨rfl, rfl⟩ := Input.move.inj hi
  rw [← after_concat] at hg
  obtain ⟨g', hg', hgrip⟩ := goesOn_from hg fun part hpart => by
    rw [hsince part hpart]
    decide
  exact ⟨g', hg', hhold.of_grip hgrip⟩

/-- How a move that took hold of the window with an event answers the next one. -/
structure KeepsGrabbed (d : SoloDesk) (e₀ : PointerEvent) (rect₀ : Rect) : Prop where
  /-- A movement that drives the move is to bring the grabbed point under the pointer. -/
  movement : ∀ e rect, d.controller.DrivesMove e → e.action = .move →
    let s := d.control (·.moveEvent e rect)
    s.desk.controller.pending = some ⟨grabbedAt e₀ rect₀ e.onDisplay, .dragMove⟩ ∧ s.outputs = []
  /-- A press or a release that drives the move brings it there at once, and ends the move. -/
  ending : ∀ e rect, d.controller.DrivesMove e → e.action ≠ .move →
    let s := d.control (·.moveEvent e rect)
    s.desk.controller.phase = .idle ∧ s.desk.controller.pending = none ∧
      s.outputs = [.rect (grabbedAt e₀ rect₀ e.onDisplay) .dragEnd]
  /-- No other event brings the window anywhere. -/
  other : ∀ e rect, ¬ d.controller.DrivesMove e →
    let s := d.control (·.moveEvent e rect)
    s.desk.controller.pending = d.controller.pending ∧ s.outputs = []
  /-- Nor does an event that is given to the resize. -/
  resize : ∀ e w, d.control (·.dragEvent e w) = ⟨false, d, []⟩

theorem keepsGrabbed_of_tookHold (h : d.controller.Consistent)
    (hphase : d.controller.phase = .moving) {g : Gesture} (hg : d.controller.gesture = some g)
    (hhold : g.TookHold e rect) : d.KeepsGrabbed e rect where
  movement := by
    intro e' rect' he haction
    obtain ⟨hpending, houtputs⟩ := Controller.moveEvent_movement hphase hg he haction rect'
    refine ⟨by rw [← hhold.target_moveTo]; exact hpending, ?_⟩
    refine List.filter_eq_nil_iff.mpr fun o ho => ?_
    simp [houtputs o ho]
  ending := by
    intro e' rect' he haction
    obtain ⟨hidle, hpending, houtputs⟩ :=
      Controller.moveEvent_ending h hphase hg he haction rect'
    refine ⟨hidle, hpending, ?_⟩
    show (d.controller.moveEvent e' rect').outputs.filter _ = _
    rw [houtputs, hhold.target_moveTo]
    rfl
  other := by
    intro e' rect' he
    obtain ⟨hpending, houtputs⟩ := Controller.moveEvent_other hphase he rect'
    refine ⟨hpending, ?_⟩
    show (d.controller.moveEvent e' rect').outputs.filter _ = _
    rw [houtputs]
    rfl
  resize := fun e' w => control_of_pass (Controller.dragEvent_of_moving hphase e' w)

variable (window : SessionId) (hotZone : HotZone) (ratio : Float32) (shapesCursor : Bool)

/-- **The grabbed point stays under the pointer.** Every move that runs was started by some event,
and from then on every rectangle that an event schedules or delivers is told by that event and the
position of the pointer alone. -/
theorem grabbedPoint_stays (run : List Input) :
    let start := fresh window hotZone ratio shapesCursor
    ((start.after run).controller.phase = .moving ↔ ∃ e rect, start.MoveStarted run e rect) ∧
      ∀ e rect, start.MoveStarted run e rect → (start.after run).KeepsGrabbed e rect := by
  intro start
  refine ⟨⟨?_, ?_⟩, ?_⟩
  · intro hmoving
    have hidle : ¬ (start.after []).controller.phase = .moving := GesturePhase.noConfusion
    obtain ⟨before, i, since, hrun, hbefore, hsince⟩ := exists_onset
      (fun run => (start.after run).controller.phase = .moving) hidle hmoving
    have hfirst := hsince [] List.nil_prefix
    rw [after_concat] at hfirst
    obtain ⟨e, rect, g, rfl, -⟩ := tookHold_of_starts hbefore hfirst
    exact ⟨e, rect, before, since, hrun, hbefore, hsince⟩
  · rintro ⟨e, rect, before, since, rfl, -, hsince⟩
    exact hsince since (List.prefix_refl since)
  · rintro e rect ⟨before, since, rfl, hbefore, hsince⟩
    obtain ⟨g, hg, hhold⟩ := tookHold_since hbefore hsince
    exact keepsGrabbed_of_tookHold (consistent_after window hotZone ratio shapesCursor _)
      (hsince since (List.prefix_refl since)) hg hhold

/-- The finger of `grabbingRun` wanders about. Meanwhile the window is said to be elsewhere, and of
another size, a second finger touches the border, and a frame comes. -/
def wandering : List Input :=
  [.move (.touch 0 .move ⟨530, 100⟩ ⟨7, 7⟩) ⟨9, 9, 40, 30⟩,
    .drag (.touch 1 .down ⟨100, 600⟩ ⟨0, 500⟩) (.free ⟨100, 100, 1000, 1000⟩ .unrestricted),
    .frame,
    .move (.touch 0 .move ⟨531, 90⟩ ⟨7, 7⟩) .zero]

theorem grabbedPoint_stays_wandering :
    let d := (fresh ⟨3⟩ .standard 1 false).after (grabbingRun ++ wandering)
    d.controller.DrivesMove liftedFinger ∧
      (d.control (·.moveEvent liftedFinger .zero)).outputs =
        [.rect ⟨140, 120, 1000, 1000⟩ .dragEnd] := by
  intro d
  have hmoving : ∀ part ∈ wandering.inits, ((fresh ⟨3⟩ .standard 1 false).after
      (grabbingRun ++ part)).controller.phase = .moving := by decide
  have hstarted : (fresh ⟨3⟩ .standard 1 false).MoveStarted (grabbingRun ++ wandering)
      (.touch 0 .move ⟨500, 120⟩ ⟨400, 20⟩) ⟨100, 100, 1000, 1000⟩ :=
    ⟨grabbingRun.take 2, wandering, rfl, by decide,
      fun part hpart => hmoving part ((List.mem_inits part wandering).mpr hpart)⟩
  have hkeeps :=
    (grabbedPoint_stays ⟨3⟩ .standard 1 false (grabbingRun ++ wandering)).2 _ _ hstarted
  have hdrives : d.controller.DrivesMove liftedFinger := ⟨by decide, by decide, by decide⟩
  exact ⟨hdrives, (hkeeps.ending liftedFinger .zero hdrives (by decide)).2.2⟩

end SoloDesk

end DisplayServer
