import DisplayServer.Proofs.ControllerRuns

/-!
# Flags, phase and gesture agree

Phase, gesture and the two flags of a controller are written by different entries, and the flag
that arms a move is set and cleared from outside at any time. After every run they fit together:
a gesture is held while one runs, a move is armed after a press only and never during a resize,
and the side that is held tells a move from a resize (`Controller.FlagsAgree`).

The end of a move looks once more whether there was a press, and would keep the event from the
window's content if there was none. It never finds that: an event gets there only while a move is
armed. `moveEventEnding` is the entry of the move with its end left open, so this can be said of
every function that could stand there.
-/

namespace DisplayServer

namespace Controller

/-- Gives an event to the move, which `finish` ends. -/
def moveEventEnding (finish : Controller → PointerEvent → Step Bool) (c : Controller)
    (e : PointerEvent) (rect : Rect) : Step Bool :=
  if c.phase = .dragging then c.pass false
  else if !c.accepts e then c.pass false
  else if !c.moveArmed && e.isIdleMouse then c.pass false
  else
    let c := { c with trace := c.trace.after e }
    if !c.moveArmed then (c.notePress e).pass false
    else if e.action = .move then c.carry e rect
    else if e.action.isDown || e.action.isRelease then finish c e
    else c.pass false

theorem moveEventEnding_endMove (c : Controller) (e : PointerEvent) (rect : Rect) :
    c.moveEventEnding endMove e rect = c.moveEvent e rect := rfl

/-- How flags, phase and gesture of a controller fit together. -/
structure FlagsAgree (c : Controller) : Prop where
  /-- A gesture is held exactly while one runs. -/
  held : c.gesture.isSome = true ↔ c.phase ≠ .idle
  /-- A move is armed after a press, and not during a resize. -/
  armed : c.moveArmed = true → c.pointerDown = true ∧ c.phase ≠ .dragging
  /-- A resize follows a press, and holds some side of the window. -/
  dragging : c.phase = .dragging →
    c.pointerDown = true ∧ ∃ g, c.gesture = some g ∧ g.area ≠ .undefined
  /-- A move holds no side. -/
  moving : c.phase = .moving → ∃ g, c.gesture = some g ∧ g.area = .undefined
  /-- No event gets to the end of a move without a press: whatever the end did then, every event
  would be taken as it is. -/
  ending : ∀ finish : Controller → PointerEvent → Step Bool,
    (∀ c e, c.pointerDown = true → finish c e = c.endMove e) →
      ∀ e rect, c.moveEventEnding finish e rect = c.moveEvent e rect
  /-- So the move keeps nothing but movements from the window's content. -/
  kept : ∀ e rect, (c.moveEvent e rect).result = true → e.action = .move

variable {c : Controller}

/-- What is asked at the end of a move matters only if an armed move may lack a press. -/
theorem moveEventEnding_eq (hdown : c.moveArmed = true → c.pointerDown = true)
    {finish : Controller → PointerEvent → Step Bool}
    (hfinish : ∀ c e, c.pointerDown = true → finish c e = c.endMove e) (e : PointerEvent)
    (rect : Rect) : c.moveEventEnding finish e rect = c.moveEvent e rect := by
  rw [← moveEventEnding_endMove]
  unfold moveEventEnding
  by_cases harmed : c.moveArmed = true
  · have hend := hfinish { c with trace := c.trace.after e } e (hdown harmed)
    simp only [hend]
  · -- a move that is not armed has nothing to end
    simp [harmed]

theorem result_endMove (hdown : c.pointerDown = true) (e : PointerEvent) :
    (c.endMove e).result = false := by
  unfold endMove
  rw [hdown]
  cases c.gesture <;> rfl

theorem Consistent.action_of_kept (h : Consistent c) {e : PointerEvent} {rect : Rect}
    (hkept : (c.moveEvent e rect).result = true) : e.action = .move := by
  rcases moveEvent_cases c e rect with ⟨c', heq, -, -, -⟩ | ⟨-, haction, -⟩ | ⟨harmed, -, heq⟩
  · rw [heq] at hkept
    cases hkept
  · exact haction
  · have hrefused := result_endMove (c := { c with trace := c.trace.after e }) (h.armed harmed).1 e
    rw [heq, hrefused] at hkept
    cases hkept

theorem Consistent.flagsAgree (h : Consistent c) : FlagsAgree c where
  held := by
    rw [Option.isSome_iff_ne_none]
    exact not_congr h.held
  armed := h.armed
  dragging := by
    intro hphase
    obtain ⟨g, hg⟩ := h.gesture_of_not_idle (by rw [hphase]; decide)
    obtain ⟨harea, hdown⟩ := h.dragging g hg hphase
    exact ⟨hdown, g, hg, harea⟩
  moving := by
    intro hphase
    obtain ⟨g, hg⟩ := h.gesture_of_not_idle (by rw [hphase]; decide)
    exact ⟨g, hg, h.moving g hg hphase⟩
  ending := by
    intro finish hfinish e rect
    exact moveEventEnding_eq (fun harmed => (h.armed harmed).1) hfinish e rect
  kept := fun _ _ hkept => h.action_of_kept hkept

end Controller

namespace SoloDesk

open Controller (Input)

/-- **Flags, phase and gesture of a controller agree after every run**, with any events, requests
and frames in any order. -/
theorem flagsAgree_after (window : SessionId) (hotZone : HotZone) (ratio : Float32)
    (shapesCursor : Bool) (run : List Input) :
    ((fresh window hotZone ratio shapesCursor).after run).controller.FlagsAgree :=
  (consistent_after window hotZone ratio shapesCursor run).flagsAgree

end SoloDesk

end DisplayServer
