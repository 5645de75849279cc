import DisplayServer.Proofs.PointerIsolation

/-!
# Only the left button counts, unless a move is armed

A mouse drives gestures with its left button. The resize asks for that before anything else, so
an event of another button never reaches it. The move asks only while it is not armed. An armed
move therefore takes every mouse event of its pointer: a movement carries the window along
whatever is pressed, and any button that goes down or up ends the move.
-/

namespace DisplayServer

namespace Controller

variable {c : Controller} {e : PointerEvent}

/-- The event is passed on without a word, and leaves gesture, flags and what waits as they
were. -/
structure Ignores (c : Controller) (s : Step Bool) : Prop where
  result : s.result = false
  phase : s.controller.phase = c.phase
  gesture : s.controller.gesture = c.gesture
  armed : s.controller.moveArmed = c.moveArmed
  down : s.controller.pointerDown = c.pointerDown
  pending : s.controller.pending = c.pending
  outputs : s.outputs = []

theorem ignores_pass (c : Controller) : c.Ignores (c.pass false) :=
  ⟨rfl, rfl, rfl, rfl, rfl, rfl, rfl⟩

theorem isIdleMouse_iff : e.isIdleMouse = true ↔ e.source = .mouse ∧ e.button ≠ .left := by
  simp [PointerEvent.isIdleMouse, PointerEvent.isMouse]

/-! ## The resize -/

theorem dragEvent_of_isIdleMouse (he : e.isIdleMouse = true) (w : WindowContext) :
    c.dragEvent e w = c.pass false := by
  unfold dragEvent
  split
  · rfl
  · rfl

/-! ## The move -/

/-- A move is armed, and the event is of its pointer and of a kind that a move goes by. -/
structure DrivesMove (c : Controller) (e : PointerEvent) : Prop where
  armed : c.moveArmed = true
  accepted : c.accepts e = true
  action : e.action ≠ .axisUpdate

theorem result_carry (c : Controller) (e : PointerEvent) (rect : Rect) :
    (c.carry e rect).result = true := by
  unfold carry
  cases c.gesture <;> rfl

theorem moveArmed_endMove (hdown : c.pointerDown = true) (e : PointerEvent) :
    (c.endMove e).controller.moveArmed = false := by
  unfold endMove
  rw [hdown]
  cases c.gesture <;> rfl

/-- An armed move does not ask for the button. -/
theorem moveEvent_of_armed (hphase : c.phase ≠ .dragging) (haccepted : c.accepts e = true)
    (harmed : c.moveArmed = true) (rect : Rect) :
    c.moveEvent e rect =
      if e.action = .move then { c with trace := c.trace.after e }.carry e rect
      else if e.action.isDown || e.action.isRelease then
        { c with trace := c.trace.after e }.endMove e
      else { c with trace := c.trace.after e }.pass false := by
  simp [moveEvent, hphase, haccepted, harmed]

/-- What reaches an armed move carries the window or ends the move. -/
theorem DrivesMove.not_ignores (h : Consistent c) (he : c.DrivesMove e) (rect : Rect) :
    ¬ c.Ignores (c.moveEvent e rect) := by
  intro hignored
  obtain ⟨hdown, hphase⟩ := h.armed he.armed
  rw [moveEvent_of_armed hphase he.accepted he.armed] at hignored
  split at hignored
  · exact absurd ((result_carry _ e rect).symm.trans hignored.result) (by decide)
  · rename_i hmove
    have hends : (e.action.isDown || e.action.isRelease) = true := by
      cases haction : e.action with
      | move => exact absurd haction hmove
      | axisUpdate => exact absurd haction he.action
      | _ => rfl
    rw [if_pos hends] at hignored
    have hdisarmed := moveArmed_endMove (c := { c with trace := c.trace.after e }) hdown e
    exact absurd (hdisarmed.symm.trans (hignored.armed.trans he.armed)) (by decide)

/-- A move that is not armed asks for the left button, and an armed one for its pointer. -/
theorem ignores_moveEvent (hidle : e.isIdleMouse = true) (hnot : ¬ c.DrivesMove e) (rect : Rect) :
    c.Ignores (c.moveEvent e rect) := by
  by_cases hphase : c.phase = .dragging
  · rw [show c.moveEvent e rect = c.pass false from if_pos hphase]
    exact ignores_pass c
  · cases haccepted : c.accepts e with
    | false =>
      rw [moveEvent_of_not_accepts haccepted]
      exact ignores_pass c
    | true =>
      cases harmed : c.moveArmed with
      | false =>
        rw [show c.moveEvent e rect = c.pass false by simp [moveEvent, haccepted, harmed, hidle]]
        exact ignores_pass c
      | true =>
        have haction : e.action = .axisUpdate :=
          Classical.byContradiction fun hne => hnot ⟨harmed, haccepted, hne⟩
        -- a turning wheel is neither a movement nor a press nor a release
        rw [moveEvent_of_armed hphase haccepted harmed, haction, if_neg (by decide),
          if_neg (by decide)]
        exact ⟨rfl, rfl, rfl, rfl, rfl, rfl, rfl⟩

end Controller

namespace SoloDesk

open Controller (Input)

variable (window : SessionId) (hotZone : HotZone) (ratio : Float32) (shapesCursor : Bool)

/-- **An event of another mouse button is ignored by the resize, and by the move unless the move
is armed.** After any run the resize ignores it; the move ignores it exactly if it does not drive
an armed move. -/
theorem otherButtons_ignored_iff (run : List Input) {e : PointerEvent} (hmouse : e.source = .mouse)
    (hbutton : e.button ≠ .left) (rect : Rect) (w : WindowContext) :
    let c := ((fresh window hotZone ratio shapesCursor).after run).controller
    c.Ignores (c.dragEvent e w) ∧ (c.Ignores (c.moveEvent e rect) ↔ ¬ c.DrivesMove e) := by
  intro c
  have hc : c.Consistent := consistent_after window hotZone ratio shapesCursor run
  have hidle := Controller.isIdleMouse_iff.mpr ⟨hmouse, hbutton⟩
  refine ⟨?_, ?_, ?_⟩
  · rw [Controller.dragEvent_of_isIdleMouse hidle]
    exact Controller.ignores_pass c
  · intro hignored he
    exact he.not_ignores hc rect hignored
  · intro hnot
    exact Controller.ignores_moveEvent hidle hnot rect

/-- The left button goes down, the move is armed, and the mouse takes hold of the window. -/
def mouseRun : List Input :=
  [.move (.mouse .buttonDown .left ⟨500, 120⟩ ⟨400, 20⟩) ⟨100, 100, 1000, 1000⟩,
    .arm true,
    .move (.mouse .move .left ⟨500, 120⟩ ⟨400, 20⟩) ⟨100, 100, 1000, 1000⟩]

/-- The right button comes up, further to the right. -/
def rightReleased : PointerEvent := .mouse .buttonUp .right ⟨540, 140⟩ ⟨440, 40⟩

/-- It would drive the move, but the move is disarmed. -/
theorem otherButtons_ignored_iff_disarmed :
    let c := ((fresh ⟨3⟩ .standard 1 false).after (mouseRun ++ [.arm false])).controller
    c.phase = .moving ∧ c.Ignores (c.dragEvent rightReleased (.free .zero .unrestricted)) ∧
      c.Ignores (c.moveEvent rightReleased .zero) := by
  intro c
  have hlaw := otherButtons_ignored_iff ⟨3⟩ .standard 1 false (mouseRun ++ [.arm false])
    (e := rightReleased) rfl (by decide) .zero (.free .zero .unrestricted)
  exact ⟨rfl, hlaw.1, hlaw.2.mpr fun hdrives => absurd hdrives.armed (by decide)⟩

/-- The release of the right button ends a move of the left one, with its last rectangle. -/
theorem otherButtons_ignored_fails_mouseRun :
    let c := ((fresh ⟨3⟩ .standard 1 false).after mouseRun).controller
    (c.moveEvent rightReleased ⟨100, 100, 1000, 1000⟩).outputs =
        [.rect ⟨140, 120, 1000, 1000⟩ .dragEnd] ∧
      ¬ c.Ignores (c.moveEvent rightReleased ⟨100, 100, 1000, 1000⟩) := by
  refine ⟨by decide, fun hignored => ?_⟩
  exact absurd hignored.phase (by decide)

end SoloDesk

end DisplayServer
