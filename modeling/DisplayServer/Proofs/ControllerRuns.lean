import DisplayServer.Proofs.Runs
import DisplayServer.Window.Desk
import Mathlib.Data.List.Induction

/-!
# Inputs and runs of a controller

Whatever reaches a controller is an `Input`: an event given to the move or to the resize, a
request of the session, a hovering mouse, a frame. A run is a list of inputs, taken one after the
other by one controller and its clock, from an idle controller on (`SoloDesk.after`), in any
order and with any arguments.

`Consistent` says which flags, phases and gestures occur together, and every input keeps it. It
is proved function by function, so that nothing above has to open the functions that move and
resize. So is which inputs start a gesture, and with what grip (`starts_cases`), and what they all
leave alone: the grip of a gesture that does not end (`goesOn_take`), what the controller was made
with, and, unless the mouse hovers, the shape of the cursor (`sparesCursor_take`).
-/

namespace DisplayServer

namespace Gesture

variable (g : Gesture) (p : Point)

/-! ## What a new target leaves alone -/

@[simp] theorem area_aim (target : Rect) : (g.aim target).area = g.area := rfl

@[simp] theorem grip_lead (d : Point) : (g.lead d).grip = g.grip := by
  unfold lead
  split
  · split <;> rfl
  · rfl

@[simp] theorem area_lead (d : Point) : (g.lead d).area = g.area := by
  unfold lead
  split
  · split <;> rfl
  · rfl

@[simp] theorem source_moveTo : (g.moveTo p).grip.source = g.grip.source := rfl

@[simp] theorem area_moveTo : (g.moveTo p).area = g.area := rfl

/-- Of what was taken hold of, a resize changes the target only. -/
theorem grip_dragTo : (g.dragTo p).grip = { g.grip with target := (g.dragTo p).grip.target } := by
  have haim : ∀ target, ((g.lead (g.grip.travel p)).aim target).grip = { g.grip with target } := by
    intro target
    rw [aim, grip_lead]
  unfold dragTo
  simp only
  split
  · split
    · exact haim _
    · exact haim _
  · rfl

@[simp] theorem source_dragTo : (g.dragTo p).grip.source = g.grip.source := by
  rw [grip_dragTo]

@[simp] theorem pointer_dragTo : (g.dragTo p).grip.pointer = g.grip.pointer := by
  rw [grip_dragTo]

@[simp] theorem initial_dragTo : (g.dragTo p).grip.initial = g.grip.initial := by
  rw [grip_dragTo]

@[simp] theorem area_dragTo : (g.dragTo p).area = g.area := by
  unfold dragTo
  simp only
  split
  · split <;> simp
  · rfl

variable (grip : Grip) (area : Area) (ratio : Float32) (limits : WindowLimits)
  (decoration : Option Decoration) (pixelRatio : Float32)

@[simp] theorem source_ofDrag :
    (ofDrag grip area ratio limits decoration pixelRatio).grip.source = grip.source := by
  unfold ofDrag
  split <;> rfl

@[simp] theorem pointer_ofDrag :
    (ofDrag grip area ratio limits decoration pixelRatio).grip.pointer = grip.pointer := by
  unfold ofDrag
  split <;> rfl

@[simp] theorem area_ofDrag :
    (ofDrag grip area ratio limits decoration pixelRatio).area = area := by
  unfold ofDrag
  split <;> rfl

end Gesture

namespace Controller

/-! ## Inputs -/

/-- One thing that reaches a controller. -/
inductive Input
  /-- An event is given to the move. -/
  | move (e : PointerEvent) (rect : Rect)
  /-- An event is given to the resize. -/
  | drag (e : PointerEvent) (w : WindowContext)
  | arm (armed : Bool)
  | interrupt (reset : Bool)
  /-- The mouse hovers; `taken` says whether the cursor takes the shape it is asked for. -/
  | hover (e : PointerEvent) (rect : Rect) (pixelRatio : Option Float32) (taken : Bool)
  | frame
  deriving DecidableEq

/-- Takes an input; the answer is left out. -/
def take (c : Controller) : Input → Step Unit
  | .move e rect => (fun _ => ()) <$> c.moveEvent e rect
  | .drag e w => (fun _ => ()) <$> c.dragEvent e w
  | .arm armed => (c.armMove armed).pass ()
  | .interrupt reset => (fun _ => ()) <$> c.interrupt reset
  | .hover e rect pixelRatio taken => (fun _ => ()) <$> c.hover e rect pixelRatio taken
  | .frame => c.onFrame

/-- The last rectangle of a gesture that this input ends. -/
def lastRect (g : Gesture) : Input → Rect
  | .move e _ => (g.moveTo e.onDisplay).grip.target
  | .drag e _ => (g.dragTo e.onDisplay).grip.target
  | .interrupt true => g.grip.initial
  | _ => g.grip.target

/-! ## Flags, phase and gesture -/

/-- Which flags, phases and gestures occur together. -/
structure Consistent (c : Controller) : Prop where
  /-- A gesture is held while one runs. -/
  held : c.gesture = none ↔ c.phase = .idle
  /-- A gesture knows the device that its pointer is of. -/
  latched : ∀ g, c.gesture = some g → ∃ source, g.grip.source = some source
  /-- A move is armed after a press, and not during a resize. -/
  armed : c.moveArmed = true → c.pointerDown = true ∧ c.phase ≠ .dragging
  /-- A move holds no side of the window. -/
  moving : ∀ g, c.gesture = some g → c.phase = .moving → g.area = .undefined
  /-- A resize holds some side, and follows a press. -/
  dragging : ∀ g, c.gesture = some g → c.phase = .dragging →
    g.area ≠ .undefined ∧ c.pointerDown = true

theorem consistent_make (window : SessionId) (hotZone : HotZone) (ratio : Float32)
    (shapesCursor : Bool) : Consistent (make window hotZone ratio shapesCursor) where
  held := ⟨fun _ => rfl, fun _ => rfl⟩
  latched := by intro g hg; cases hg
  armed := by intro h; cases h
  moving := by intro g hg; cases hg
  dragging := by intro g hg; cases hg

variable {c c' : Controller}

/-- What is said of a controller that holds no gesture. -/
theorem consistent_of_idle (hgesture : c.gesture = none) (hphase : c.phase = .idle)
    (harmed : c.moveArmed = true → c.pointerDown = true) : Consistent c where
  held := ⟨fun _ => hphase, fun _ => hgesture⟩
  latched := by intro g hg; rw [hgesture] at hg; cases hg
  armed := by
    intro h
    refine ⟨harmed h, ?_⟩
    rw [hphase]
    exact GesturePhase.noConfusion
  moving := by intro g hg; rw [hgesture] at hg; cases hg
  dragging := by intro g hg; rw [hgesture] at hg; cases hg

/-- The same gesture runs in the same phase. Trace, cursor and pacing may differ, and the press
where it does not matter. -/
structure Undisturbed (c c' : Controller) : Prop where
  gesture : c'.gesture = c.gesture
  phase : c'.phase = c.phase
  armed : c'.moveArmed = c.moveArmed
  down : c.moveArmed = true ∨ c.phase = .dragging → c'.pointerDown = c.pointerDown

theorem Undisturbed.refl (c : Controller) : Undisturbed c c := ⟨rfl, rfl, rfl, fun _ => rfl⟩

theorem Consistent.undisturbed (h : Consistent c) (hu : Undisturbed c c') : Consistent c' where
  held := by rw [hu.gesture, hu.phase]; exact h.held
  latched := by rw [hu.gesture]; exact h.latched
  armed := by
    rw [hu.armed, hu.phase]
    intro harmed
    rw [hu.down (.inl harmed)]
    exact h.armed harmed
  moving := by rw [hu.gesture, hu.phase]; exact h.moving
  dragging := by
    rw [hu.gesture, hu.phase]
    intro g hg hphase
    rw [hu.down (.inr hphase)]
    exact h.dragging g hg hphase

theorem Consistent.not_idle (h : Consistent c) {g : Gesture} (hg : c.gesture = some g) :
    c.phase ≠ .idle := by
  intro hidle
  rw [h.held.mpr hidle] at hg
  cases hg

theorem Consistent.gesture_of_not_idle (h : Consistent c) (hphase : c.phase ≠ .idle) :
    ∃ g, c.gesture = some g :=
  Option.ne_none_iff_exists'.mp fun hg => hphase (h.held.mp hg)

/-- The gesture that runs gets a new target. -/
theorem Consistent.retarget (h : Consistent c) {g g' : Gesture} (hg : c.gesture = some g)
    (hsource : g'.grip.source = g.grip.source) (harea : g'.area = g.area) :
    Consistent { c with gesture := some g' } where
  held := by exact iff_of_false (Option.some_ne_none g') (h.not_idle hg)
  latched := by
    intro w hw
    obtain rfl := Option.some.inj hw
    rw [hsource]
    exact h.latched g hg
  armed := h.armed
  moving := by
    intro w hw hp
    obtain rfl := Option.some.inj hw
    rw [harea]
    exact h.moving g hg hp
  dragging := by
    intro w hw hp
    obtain rfl := Option.some.inj hw
    rw [harea]
    exact h.dragging g hg hp

theorem consistent_armMove (h : Consistent c) (armed : Bool) : Consistent (c.armMove armed) := by
  unfold armMove
  split
  · exact h
  · rename_i hgranted
    refine ⟨h.held, h.latched, ?_, h.moving, h.dragging⟩
    intro harmed
    obtain rfl : armed = true := harmed
    simpa using hgranted

/-- Outside a move, presses are noted while no resize runs. -/
theorem undisturbed_notePress (harmed : c.moveArmed = false) (hphase : c.phase ≠ .dragging)
    (e : PointerEvent) : Undisturbed c (c.notePress e) := by
  have hflag : ∀ down, Undisturbed c { c with pointerDown := down } := by
    intro down
    refine ⟨rfl, rfl, rfl, ?_⟩
    intro h
    rcases h with h | h
    · rw [harmed] at h
      cases h
    · exact absurd h hphase
  unfold notePress
  split
  · exact hflag true
  · split
    · exact hflag false
    · exact .refl c

theorem pacing_notePress (c : Controller) (e : PointerEvent) :
    (c.notePress e).pending = c.pending ∧ (c.notePress e).frameRequested = c.frameRequested := by
  unfold notePress
  split
  · exact ⟨rfl, rfl⟩
  · split <;> exact ⟨rfl, rfl⟩

/-- The three ways of an event through the move: it is passed on, it is a movement that carries
the window along, or it may end the move. -/
theorem moveEvent_cases (c : Controller) (e : PointerEvent) (rect : Rect) :
    (∃ c', c.moveEvent e rect = c'.pass false ∧ Undisturbed c c' ∧ c'.pending = c.pending ∧
        c'.frameRequested = c.frameRequested) ∨
      c.moveArmed = true ∧ e.action = .move ∧
        c.moveEvent e rect = { c with trace := c.trace.after e }.carry e rect ∨
      c.moveArmed = true ∧ e.action ≠ .move ∧
        c.moveEvent e rect = { c with trace := c.trace.after e }.endMove e := by
  unfold moveEvent
  split
  · exact .inl ⟨c, rfl, .refl c, rfl, rfl⟩
  · rename_i hphase
    split
    · exact .inl ⟨c, rfl, .refl c, rfl, rfl⟩
    · split
      · exact .inl ⟨c, rfl, .refl c, rfl, rfl⟩
      · simp only
        split
        · rename_i harmed
          obtain ⟨hpending, hasked⟩ := pacing_notePress { c with trace := c.trace.after e } e
          have hnoted := undisturbed_notePress (c := { c with trace := c.trace.after e })
            (by simpa using harmed) hphase e
          exact .inl ⟨_, rfl, ⟨hnoted.gesture, hnoted.phase, hnoted.armed, hnoted.down⟩,
            hpending, hasked⟩
        · rename_i harmed
          have harmed : c.moveArmed = true := by simpa using harmed
          split
          · rename_i haction
            exact .inr (.inl ⟨harmed, haction, rfl⟩)
          · rename_i haction
            split
            · exact .inr (.inr ⟨harmed, haction, rfl⟩)
            · exact .inl ⟨_, rfl, ⟨rfl, rfl, rfl, fun _ => rfl⟩, rfl, rfl⟩

/-- The four ways of an event through the resize: it is passed on, or it starts, stretches or
ends the resize. -/
theorem dragEvent_cases (c : Controller) (e : PointerEvent) (w : WindowContext) :
    c.dragEvent e w = c.pass false ∨
      c.moveArmed = false ∧ e.action.isDown = true ∧ c.dragEvent e w = c.startDrag e w ∨
      c.phase = .dragging ∧ e.action = .move ∧ c.dragEvent e w = c.stretch e ∨
      c.moveArmed = false ∧ c.phase = .dragging ∧ e.action ≠ .move ∧
        c.dragEvent e w = c.endDrag e := by
  unfold dragEvent
  split
  · exact .inl rfl
  · rename_i hmoving
    have harmed : c.moveArmed = false := by
      simp only [Bool.or_eq_true, not_or, Bool.not_eq_true] at hmoving
      exact hmoving.1
    split
    · exact .inl rfl
    · split
      · exact .inl rfl
      · split
        · rename_i hdown
          exact .inr (.inl ⟨harmed, hdown, rfl⟩)
        · split
          · rename_i hmove
            simp only [Bool.and_eq_true, decide_eq_true_eq, beq_iff_eq] at hmove
            exact .inr (.inr (.inl ⟨hmove.2, hmove.1, rfl⟩))
          · rename_i hmove
            split
            · rename_i hrelease
              simp only [Bool.and_eq_true, beq_iff_eq] at hrelease
              have haction : e.action ≠ .move := by
                intro haction
                simp [haction, hrelease.2] at hmove
              exact .inr (.inr (.inr ⟨harmed, hrelease.2, haction, rfl⟩))
            · exact .inl rfl

theorem consistent_carry (h : Consistent c) (e : PointerEvent) (rect : Rect) :
    Consistent (c.carry e rect).controller := by
  unfold carry
  cases hg : c.gesture with
  | none =>
    exact {
      held := by exact iff_of_false (Option.some_ne_none _) GesturePhase.noConfusion
      latched := by
        intro g hg
        rw [← Option.some.inj hg]
        exact ⟨e.source, rfl⟩
      armed := fun ha => ⟨(h.armed ha).1, GesturePhase.noConfusion⟩
      moving := by
        intro g hg _
        rw [← Option.some.inj hg]
        rfl
      dragging := by intro g _ hp; cases hp }
  | some g =>
    exact (h.retarget hg (g.source_moveTo _) (g.area_moveTo _)).undisturbed
      ⟨rfl, rfl, rfl, fun _ => rfl⟩

/-- A gesture that ends leaves nothing behind. -/
theorem consistent_ended (hgesture : c.gesture = none) (hphase : c.phase = .idle)
    (harmed : c.moveArmed = false) : Consistent c :=
  consistent_of_idle hgesture hphase fun h => by rw [harmed] at h; cases h

theorem consistent_endMove (h : Consistent c) (e : PointerEvent) :
    Consistent (c.endMove e).controller := by
  unfold endMove
  split
  · exact h
  · cases c.gesture <;> exact consistent_ended rfl rfl rfl

theorem consistent_moveEvent (h : Consistent c) (e : PointerEvent) (rect : Rect) :
    Consistent (c.moveEvent e rect).controller := by
  have htraced : Consistent { c with trace := c.trace.after e } :=
    h.undisturbed ⟨rfl, rfl, rfl, fun _ => rfl⟩
  rcases moveEvent_cases c e rect with ⟨c', heq, hu, -, -⟩ | ⟨-, -, heq⟩ | ⟨-, -, heq⟩
  · rw [heq]
    exact h.undisturbed hu
  · rw [heq]
    exact consistent_carry htraced e rect
  · rw [heq]
    exact consistent_endMove htraced e

theorem consistent_startDrag (h : Consistent c) (harmed : c.moveArmed = false)
    (e : PointerEvent) (w : WindowContext) : Consistent (c.startDrag e w).controller := by
  unfold startDrag
  split
  · exact h
  · simp only
    split
    · exact h
    · rename_i harea
      exact {
        held := by exact iff_of_false (Option.some_ne_none _) GesturePhase.noConfusion
        latched := by
          intro g hg
          rw [← Option.some.inj hg]
          exact ⟨e.source, by simp [Grip.hold]⟩
        armed := by
          intro ha
          have ha : c.moveArmed = true := ha
          rw [harmed] at ha
          cases ha
        moving := by intro g _ hp; cases hp
        dragging := by
          intro g hg _
          rw [← Option.some.inj hg]
          exact ⟨by simpa using harea, rfl⟩ }

theorem consistent_stretch (h : Consistent c) (e : PointerEvent) :
    Consistent (c.stretch e).controller := by
  unfold stretch
  cases hg : c.gesture with
  | none => exact h
  | some g =>
    exact (h.retarget hg (g.source_dragTo _) (g.area_dragTo _)).undisturbed
      ⟨rfl, rfl, rfl, fun _ => rfl⟩

theorem consistent_endDrag (harmed : c.moveArmed = false) (e : PointerEvent) :
    Consistent (c.endDrag e).controller := by
  unfold endDrag
  cases c.gesture <;> exact consistent_ended rfl rfl harmed

theorem consistent_dragEvent (h : Consistent c) (e : PointerEvent) (w : WindowContext) :
    Consistent (c.dragEvent e w).controller := by
  rcases dragEvent_cases c e w with heq | ⟨harmed, -, heq⟩ | ⟨-, -, heq⟩ | ⟨harmed, -, -, heq⟩
  · rw [heq]
    exact h
  · rw [heq]
    exact consistent_startDrag h harmed e w
  · rw [heq]
    exact consistent_stretch h e
  · rw [heq]
    exact consistent_endDrag harmed e

theorem consistent_interrupt (h : Consistent c) (reset : Bool) :
    Consistent (c.interrupt reset).controller := by
  unfold interrupt
  split
  · exact h
  · cases c.gesture <;> exact consistent_ended rfl rfl rfl

theorem undisturbed_hover (c : Controller) (e : PointerEvent) (rect : Rect)
    (pixelRatio : Option Float32) (taken : Bool) :
    Undisturbed c (c.hover e rect pixelRatio taken).controller := by
  unfold hover
  split
  · exact .refl c
  · simp only
    split
    · exact .refl c
    · cases taken <;> exact ⟨rfl, rfl, rfl, fun _ => rfl⟩

/-- **Every input keeps a controller consistent.** -/
theorem consistent_take (h : Consistent c) (i : Input) : Consistent (c.take i).controller := by
  cases i with
  | move e rect => exact consistent_moveEvent h e rect
  | drag e w => exact consistent_dragEvent h e w
  | arm armed => exact consistent_armMove h armed
  | interrupt reset => exact consistent_interrupt h reset
  | hover e rect pixelRatio taken =>
    exact h.undisturbed (undisturbed_hover c e rect pixelRatio taken)
  | frame => exact h.undisturbed ⟨rfl, rfl, rfl, fun _ => rfl⟩

/-! ## A gesture that goes on -/

section GoingOn

variable {g : Gesture}

/-- The gesture goes on: of what it took hold of, only the target may be another by now. -/
def GoesOn (c : Controller) (g : Gesture) : Prop :=
  ∃ g', c.gesture = some g' ∧ g'.grip = { g.grip with target := g'.grip.target }

theorem goesOn_of_gesture_eq (hg : c.gesture = some g) (heq : c'.gesture = c.gesture) :
    c'.GoesOn g :=
  ⟨g, heq.trans hg, rfl⟩

theorem goesOn_moveEvent (hg : c.gesture = some g) (e : PointerEvent) (rect : Rect) :
    (c.moveEvent e rect).controller.phase = .idle ∨
      (c.moveEvent e rect).controller.GoesOn g := by
  rcases moveEvent_cases c e rect with ⟨c', heq, hu, -, -⟩ | ⟨-, -, heq⟩ | ⟨-, -, heq⟩
  · rw [heq]
    exact .inr (goesOn_of_gesture_eq hg hu.gesture)
  · rw [heq]
    simp only [carry, hg]
    exact .inr ⟨_, rfl, rfl⟩
  · rw [heq]
    unfold endMove
    split
    · exact .inr (goesOn_of_gesture_eq hg rfl)
    · simp only [hg]
      exact .inl rfl

/-- A move that runs keeps its events from the resize. -/
theorem dragEvent_of_moving (hphase : c.phase = .moving) (e : PointerEvent) (w : WindowContext) :
    c.dragEvent e w = c.pass false := by
  simp [dragEvent, hphase]

theorem goesOn_dragEvent (hphase : c.phase ≠ .idle) (hg : c.gesture = some g) (e : PointerEvent)
    (w : WindowContext) :
    (c.dragEvent e w).controller.phase = .idle ∨ (c.dragEvent e w).controller.GoesOn g := by
  cases hkind : c.phase with
  | idle => exact absurd hkind hphase
  | moving =>
    rw [dragEvent_of_moving hkind]
    exact .inr (goesOn_of_gesture_eq hg rfl)
  | dragging =>
    rcases dragEvent_cases c e w with heq | ⟨-, -, heq⟩ | ⟨-, -, heq⟩ | ⟨-, -, -, heq⟩
    · rw [heq]
      exact .inr (goesOn_of_gesture_eq hg rfl)
    · -- a second press does not start the resize anew
      rw [heq, show c.startDrag e w = c.pass true from if_pos hkind]
      exact .inr (goesOn_of_gesture_eq hg rfl)
    · rw [heq]
      simp only [stretch, hg]
      exact .inr ⟨_, rfl, g.grip_dragTo e.onDisplay⟩
    · rw [heq]
      simp only [endDrag, hg]
      exact .inl rfl

/-- **A gesture that does not end goes on with what it took hold of**: pointer, device, place and
initial rectangle. -/
theorem goesOn_take (hphase : c.phase ≠ .idle) (hg : c.gesture = some g) (i : Input) :
    (c.take i).controller.phase = .idle ∨ (c.take i).controller.GoesOn g := by
  cases i with
  | move e rect => exact goesOn_moveEvent hg e rect
  | drag e w => exact goesOn_dragEvent hphase hg e w
  | arm armed =>
    refine .inr (goesOn_of_gesture_eq hg ?_)
    show (c.armMove armed).gesture = c.gesture
    unfold armMove
    split <;> rfl
  | interrupt reset =>
    have hended : (c.interrupt reset).controller.phase = .idle := by
      simp [interrupt, hphase, hg, deliver]
    exact .inl hended
  | hover e rect pixelRatio taken =>
    exact .inr (goesOn_of_gesture_eq hg (undisturbed_hover c e rect pixelRatio taken).gesture)
  | frame => exact .inr (goesOn_of_gesture_eq hg rfl)

end GoingOn

/-! ## A gesture that starts -/

section Starting

variable {e : PointerEvent} {rect : Rect} {w : WindowContext} {i : Input}

/-- The move that an event starts. -/
def moveFrom (e : PointerEvent) (rect : Rect) : Gesture :=
  .ofMove (.hold e.pointer e.source e.onDisplay e.inWindow (moveOrigin e rect))

/-- The resize that an event on some area starts. -/
def resizeFrom (e : PointerEvent) (w : WindowContext) (area : Area) (fallback : Float32) :
    Gesture :=
  (Gesture.ofDrag (.hold e.pointer e.source e.onDisplay e.inWindow w.rect) area w.aspectRatio
    w.limits w.decoration (w.pixelRatio.getD fallback)).dragTo e.onDisplay

theorem moveEvent_starts (hruns : (c.moveEvent e rect).controller.phase ≠ .idle)
    (hchanged : (c.moveEvent e rect).controller.phase ≠ c.phase) :
    (c.moveEvent e rect).controller.phase = .moving ∧
      (c.moveEvent e rect).controller.gesture = some (moveFrom e rect) := by
  rcases moveEvent_cases c e rect with ⟨c', heq, hu, -, -⟩ | ⟨-, -, heq⟩ | ⟨-, -, heq⟩
  · rw [heq] at hchanged
    exact absurd hu.phase hchanged
  · rw [heq] at hchanged ⊢
    cases hg : c.gesture with
    | none =>
      simp only [carry]
      exact ⟨rfl, rfl⟩
    | some g =>
      -- the gesture that runs is carried along
      simp only [carry, hg] at hchanged
      exact absurd rfl hchanged
  · rw [heq] at hruns hchanged
    by_cases hdown : c.pointerDown = true
    · cases hg : c.gesture <;> simp [endMove, hdown, hg, deliver, pass] at hruns
    · simp [endMove, hdown, pass] at hchanged

theorem dragEvent_starts (hruns : (c.dragEvent e w).controller.phase ≠ .idle)
    (hchanged : (c.dragEvent e w).controller.phase ≠ c.phase) :
    (c.dragEvent e w).controller.phase = .dragging ∧
      ∃ area, (c.dragEvent e w).controller.gesture =
        some (resizeFrom e w area c.fallbackRatio) := by
  rcases dragEvent_cases c e w with heq | ⟨-, -, heq⟩ | ⟨-, -, heq⟩ | ⟨-, -, -, heq⟩
  · rw [heq] at hchanged
    exact absurd rfl hchanged
  · rw [heq] at hchanged ⊢
    unfold startDrag at hchanged ⊢
    split
    · rename_i hphase
      rw [if_pos hphase] at hchanged
      exact absurd rfl hchanged
    · rename_i hphase
      rw [if_neg hphase] at hchanged
      simp only at hchanged ⊢
      split
      · rename_i harea
        rw [if_pos harea] at hchanged
        exact absurd rfl hchanged
      · exact ⟨rfl, _, rfl⟩
  · rw [heq] at hchanged
    cases hg : c.gesture <;> simp [stretch, hg, schedule, pass] at hchanged
  · rw [heq] at hruns
    cases hg : c.gesture <;> simp [endDrag, hg, deliver, pass] at hruns

/-- **Two inputs start a gesture**: an event that is given to the move, and one that is given to
the resize. -/
theorem starts_cases (hruns : (c.take i).controller.phase ≠ .idle)
    (hchanged : (c.take i).controller.phase ≠ c.phase) :
    (∃ e rect, i = .move e rect ∧ (c.take i).controller.phase = .moving ∧
        (c.take i).controller.gesture = some (moveFrom e rect)) ∨
      ∃ e w area, i = .drag e w ∧ (c.take i).controller.phase = .dragging ∧
        (c.take i).controller.gesture = some (resizeFrom e w area c.fallbackRatio) := by
  cases i with
  | move e rect =>
    obtain ⟨hphase, hg⟩ := moveEvent_starts hruns hchanged
    exact .inl ⟨e, rect, rfl, hphase, hg⟩
  | drag e w =>
    obtain ⟨hphase, area, hg⟩ := dragEvent_starts hruns hchanged
    exact .inr ⟨e, w, area, rfl, hphase, hg⟩
  | arm armed =>
    refine absurd ?_ hchanged
    show (c.armMove armed).phase = c.phase
    unfold armMove
    split <;> rfl
  | interrupt reset =>
    replace hruns : (c.interrupt reset).controller.phase ≠ .idle := hruns
    replace hchanged : (c.interrupt reset).controller.phase ≠ c.phase := hchanged
    by_cases hidle : c.phase = .idle
    · simp [interrupt, hidle, pass] at hruns
    · cases hg : c.gesture <;> simp [interrupt, hidle, hg, deliver, pass] at hruns
  | hover e rect pixelRatio taken =>
    exact absurd (undisturbed_hover c e rect pixelRatio taken).phase hchanged
  | frame => exact absurd rfl hchanged

end Starting

/-! ## What a step leaves alone -/

section Making

variable (c)

/-- The controller as it was made. -/
def asMade : Controller := make c.window c.hotZone c.fallbackRatio c.shapesCursor

/-- The controller at rest: as it was made, but for the shape that the cursor has. -/
def atRest : Controller := { c.asMade with cursor := c.cursor }

theorem atRest_notePress (e : PointerEvent) : (c.notePress e).atRest = c.atRest := by
  unfold notePress
  split
  · rfl
  · split <;> rfl

end Making

/-- The step neither touches what the controller was made with, nor the shape of the cursor, nor
asks for a shape. -/
structure SparesCursor {α : Type} (c : Controller) (s : Step α) : Prop where
  rest : s.controller.atRest = c.atRest
  outputs : ∀ style, .cursor style ∉ s.outputs

namespace SparesCursor

variable {α : Type}

theorem asMade {s : Step α} (h : c.SparesCursor s) : s.controller.asMade = c.asMade := by
  have hmade := congrArg Controller.asMade h.rest
  exact hmade

theorem cursor {s : Step α} (h : c.SparesCursor s) : s.controller.cursor = c.cursor := by
  have hcursor := congrArg Controller.cursor h.rest
  exact hcursor

theorem map {β : Type} {s : Step α} (h : c.SparesCursor s) (f : α → β) :
    c.SparesCursor (f <$> s) :=
  ⟨h.rest, h.outputs⟩

theorem pass {a : α} (h : c'.atRest = c.atRest) : c.SparesCursor (c'.pass a) where
  rest := h
  outputs := by
    intro style hmem
    cases hmem

theorem schedule {rect : Rect} {reason : ChangeReason} {a : α} (h : c'.atRest = c.atRest) :
    c.SparesCursor (c'.schedule rect reason a) where
  rest := h
  outputs := by
    intro style hmem
    unfold Controller.schedule at hmem
    split at hmem
    · cases hmem
    · exact ControllerOutput.noConfusion (List.mem_singleton.mp hmem)

theorem deliver {rect : Rect} {reason : ChangeReason} {a : α} (h : c'.atRest = c.atRest) :
    c.SparesCursor (c'.deliver rect reason a) where
  rest := h
  outputs := by
    intro style hmem
    exact ControllerOutput.noConfusion (List.mem_singleton.mp hmem)

theorem carry {e : PointerEvent} {rect : Rect} (h : c'.atRest = c.atRest) :
    c.SparesCursor (c'.carry e rect) := by
  unfold Controller.carry
  split
  · exact pass h
  · exact schedule h

theorem endMove {e : PointerEvent} (h : c'.atRest = c.atRest) :
    c.SparesCursor (c'.endMove e) := by
  unfold Controller.endMove
  split
  · exact pass h
  · simp only
    split
    · exact deliver h
    · exact pass h

theorem moveEvent (c : Controller) (e : PointerEvent) (rect : Rect) :
    c.SparesCursor (c.moveEvent e rect) := by
  unfold Controller.moveEvent
  split
  · exact pass rfl
  · split
    · exact pass rfl
    · split
      · exact pass rfl
      · simp only
        split
        · exact pass (atRest_notePress _ e)
        · split
          · exact carry rfl
          · split
            · exact endMove rfl
            · exact pass rfl

theorem startDrag (c : Controller) (e : PointerEvent) (w : WindowContext) :
    c.SparesCursor (c.startDrag e w) := by
  unfold Controller.startDrag
  split
  · exact pass rfl
  · simp only
    split
    · exact pass rfl
    · exact schedule rfl

theorem dragEvent (c : Controller) (e : PointerEvent) (w : WindowContext) :
    c.SparesCursor (c.dragEvent e w) := by
  rcases dragEvent_cases c e w with h | ⟨-, -, h⟩ | ⟨-, -, h⟩ | ⟨-, -, -, h⟩
  · rw [h]
    exact pass rfl
  · rw [h]
    exact startDrag c e w
  · rw [h, stretch]
    split
    · exact schedule rfl
    · exact pass rfl
  · rw [h, endDrag]
    split
    · exact deliver rfl
    · exact pass rfl

theorem interrupt (c : Controller) (reset : Bool) : c.SparesCursor (c.interrupt reset) := by
  unfold Controller.interrupt
  split
  · exact pass rfl
  · simp only
    split
    · exact deliver rfl
    · exact pass rfl

theorem onFrame (c : Controller) : c.SparesCursor c.onFrame where
  rest := rfl
  outputs := by
    intro style hmem
    unfold Controller.onFrame at hmem
    cases hpending : c.pending with
    | none => simp [hpending] at hmem
    | some p => simp [hpending] at hmem

end SparesCursor

/-- Only a hovering mouse speaks to the cursor. -/
theorem sparesCursor_take (c : Controller) {i : Input}
    (hi : ∀ e rect pixelRatio taken, i ≠ .hover e rect pixelRatio taken) :
    c.SparesCursor (c.take i) := by
  cases i with
  | move e rect => exact (SparesCursor.moveEvent c e rect).map _
  | drag e w => exact (SparesCursor.dragEvent c e w).map _
  | arm armed =>
    refine SparesCursor.pass ?_
    unfold armMove
    split <;> rfl
  | interrupt reset => exact (SparesCursor.interrupt c reset).map _
  | hover e rect pixelRatio taken => exact absurd rfl (hi e rect pixelRatio taken)
  | frame => exact SparesCursor.onFrame c

section Making

variable (c)

/-- A controller stays with its window, and with all else that it was made with. -/
theorem asMade_take (i : Input) : (c.take i).controller.asMade = c.asMade := by
  cases i with
  | hover e rect pixelRatio taken =>
    simp only [take, Functor.map, hover]
    split
    · rfl
    · split
      · rfl
      · cases taken <;> rfl
  | _ => exact (sparesCursor_take c fun _ _ _ _ h => by cases h).asMade

theorem window_take (i : Input) : (c.take i).controller.window = c.window := by
  have hmade := congrArg Controller.window (c.asMade_take i)
  exact hmade

end Making

end Controller

/-! ## Runs -/

namespace SoloDesk

open Controller (Input)

/-- Takes an input; a frame runs the callbacks that wait for it. -/
def take (d : SoloDesk) : Input → Step Unit
  | .frame => (fun _ => ()) <$> d.frame
  | i => d.control (·.take i)

/-- The desk after an input. -/
def perform (d : SoloDesk) (i : Input) : SoloDesk := (d.take i).desk

/-- The desk after a run that begins at `d`. -/
def after (d : SoloDesk) (run : List Input) : SoloDesk := run.foldl perform d

/-- What listener and cursor are asked during a run that begins at `d`, oldest first. -/
def told (d : SoloDesk) (run : List Input) : List ControllerOutput :=
  collect perform (fun d i => (d.take i).outputs) d run

/-- A desk whose controller has taken nothing yet. -/
def fresh (window : SessionId) (hotZone : HotZone) (ratio : Float32) (shapesCursor : Bool) :
    SoloDesk :=
  .make (.make window hotZone ratio shapesCursor)

theorem after_concat (d : SoloDesk) (run : List Input) (i : Input) :
    d.after (run ++ [i]) = (d.after run).perform i :=
  List.foldl_concat perform d i run

theorem after_append (d : SoloDesk) (before since : List Input) :
    d.after (before ++ since) = (d.after before).after since :=
  List.foldl_append

variable {d : SoloDesk} {i : Input}

theorem take_of_ne_frame (d : SoloDesk) (hi : i ≠ .frame) : d.take i = d.control (·.take i) := by
  cases i with
  | frame => exact absurd rfl hi
  | _ => rfl

/-- What holds before the first callback of a frame, and is kept by each, holds after the frame. -/
theorem frame_induction (P : Step Nat → Prop)
    (hfirst : P ⟨d.clock.queue.length, { d with clock := d.clock.taken }, []⟩)
    (hnext : ∀ s, P s →
      let done := s.desk.control Controller.onFrame
      P ⟨s.result, done.desk, s.outputs ++ done.outputs⟩) : P d.frame :=
  List.foldlRecOn d.clock.queue _ hfirst fun s hs _ _ => hnext s hs

/-- A frame leaves the controller alone when nothing waits, and reaches it otherwise. -/
theorem controller_frame (P : Controller → Prop) (hP : ∀ c, P c → P c.onFrame.controller)
    (h : P d.controller) : P d.frame.desk.controller :=
  frame_induction (fun s => P s.desk.controller) h fun s hs => hP s.desk.controller hs

/-- As long as a gesture does not end, it goes on with what it took hold of. -/
theorem goesOn_perform (hphase : d.controller.phase ≠ .idle) {g : Gesture}
    (hg : d.controller.gesture = some g) (hstill : (d.perform i).controller.phase ≠ .idle) :
    (d.perform i).controller.GoesOn g := by
  by_cases hi : i = .frame
  · subst hi
    exact controller_frame (fun c => c.GoesOn g) (fun _ hc => hc)
      (Controller.goesOn_of_gesture_eq hg rfl)
  · rw [perform, take_of_ne_frame d hi] at hstill ⊢
    exact (Controller.goesOn_take hphase hg i).resolve_left hstill

/-- What the gesture took hold of outlasts every run during which it goes on. -/
theorem goesOn_since {g : Gesture} (hg : d.controller.gesture = some g) {since : List Input}
    (hsince : ∀ part, part <+: since → (d.after part).controller.phase ≠ .idle) :
    (d.after since).controller.GoesOn g := by
  induction since using List.reverseRecOn with
  | nil => exact Controller.goesOn_of_gesture_eq hg rfl
  | append_singleton part i ih =>
    have hearlier := List.prefix_append part [i]
    obtain ⟨g', hg', hgrip⟩ := ih fun earlier h => hsince earlier (h.trans hearlier)
    have hstill := hsince (part ++ [i]) (List.prefix_refl _)
    rw [after_concat] at hstill ⊢
    obtain ⟨g'', hg'', hgrip'⟩ := goesOn_perform (hsince part hearlier) hg' hstill
    exact ⟨g'', hg'', by rw [hgrip', hgrip]⟩

/-- The same of a gesture that an input of a run left. -/
theorem goesOn_from {g : Gesture} {before since : List Input}
    (hg : (d.after (before ++ [i])).controller.gesture = some g)
    (hsince : ∀ part, part <+: since → (d.after (before ++ i :: part)).controller.phase ≠ .idle) :
    (d.after (before ++ i :: since)).controller.GoesOn g := by
  have hsplit : ∀ part, d.after (before ++ i :: part) = (d.after (before ++ [i])).after part := by
    intro part
    rw [← after_append, List.append_assoc, List.singleton_append]
  rw [hsplit]
  exact goesOn_since hg fun part hpart => hsplit part ▸ hsince part hpart

/-- What an input starts, it starts in the controller. -/
theorem starts_cases (hruns : (d.perform i).controller.phase ≠ .idle)
    (hchanged : (d.perform i).controller.phase ≠ d.controller.phase) :
    (∃ e rect, i = .move e rect ∧ (d.perform i).controller.phase = .moving ∧
        (d.perform i).controller.gesture = some (Controller.moveFrom e rect)) ∨
      ∃ e w area, i = .drag e w ∧ (d.perform i).controller.phase = .dragging ∧
        (d.perform i).controller.gesture =
          some (Controller.resizeFrom e w area d.controller.fallbackRatio) := by
  by_cases hi : i = .frame
  · subst hi
    have hkept : (d.perform .frame).controller.phase = d.controller.phase :=
      controller_frame (fun c => c.phase = d.controller.phase) (fun _ hc => hc) rfl
    exact absurd hkept hchanged
  · rw [perform, take_of_ne_frame d hi] at hruns hchanged ⊢
    exact Controller.starts_cases hruns hchanged

theorem consistent_perform (h : d.controller.Consistent) (i : Input) :
    (d.perform i).controller.Consistent := by
  cases i with
  | frame =>
    exact controller_frame Controller.Consistent
      (fun _ hc => Controller.consistent_take hc .frame) h
  | _ => exact Controller.consistent_take h _

variable (window : SessionId) (hotZone : HotZone) (ratio : Float32) (shapesCursor : Bool)

theorem consistent_after (run : List Input) :
    ((fresh window hotZone ratio shapesCursor).after run).controller.Consistent := by
  induction run using List.reverseRecOn with
  | nil => exact Controller.consistent_make window hotZone ratio shapesCursor
  | append_singleton before i ih =>
    rw [after_concat]
    exact consistent_perform ih i

theorem asMade_perform (d : SoloDesk) (i : Input) :
    (d.perform i).controller.asMade = d.controller.asMade := by
  cases i with
  | frame =>
    exact controller_frame (fun c => c.asMade = d.controller.asMade) (fun _ hc => hc) rfl
  | _ => exact Controller.asMade_take _ _

theorem asMade_after (run : List Input) :
    ((fresh window hotZone ratio shapesCursor).after run).controller.asMade =
      .make window hotZone ratio shapesCursor := by
  induction run using List.reverseRecOn with
  | nil => rfl
  | append_singleton before i ih => rw [after_concat, asMade_perform, ih]

/-- A finger presses, the move is armed, and the finger takes hold of the window. -/
def grabbingRun : List Input :=
  [.move (.touch 0 .down ⟨500, 120⟩ ⟨400, 20⟩) ⟨100, 100, 1000, 1000⟩,
    .arm true,
    .move (.touch 0 .move ⟨500, 120⟩ ⟨400, 20⟩) ⟨100, 100, 1000, 1000⟩]

end SoloDesk

end DisplayServer
