import DisplayServer.Gesture.Basic
import DisplayServer.Identity
import DisplayServer.Window.State

/-!
# Moving and resizing one window

A controller turns the pointer events of one window into rectangles. A press on the border
starts a resize; a move is armed from outside after a press and starts with the next movement.
While a gesture runs, only the pointer that started it counts.

Rectangles are paced by frames: a new one replaces the one that still waits, and at most one
frame is asked for at a time (`Controller.schedule`). The last rectangle of a gesture is
delivered at once, and whatever waits is dropped (`Controller.deliver`).

Each step returns what went out, in order, as `ControllerOutput`s.
-/

namespace DisplayServer

/-- Whether a gesture runs, and which. -/
inductive GesturePhase
  | idle
  | moving
  | dragging
  deriving DecidableEq, Inhabited

instance : Symbol GesturePhase where
  all := [.idle, .moving, .dragging]
  name
    | .idle => "Idle"
    | .moving => "Moving"
    | .dragging => "Dragging"

/-- What has to be known of a window when its resize starts. -/
structure WindowContext where
  rect : Rect
  /-- None while the window is on no display. -/
  pixelRatio : Option Float32
  /-- Width over height to be kept; zero for a free resize. -/
  aspectRatio : Float32
  limits : WindowLimits
  decoration : Option Decoration
  deriving DecidableEq

/-- A window that is resized freely. -/
def WindowContext.free (rect : Rect) (limits : WindowLimits) : WindowContext :=
  { rect, pixelRatio := some 1, aspectRatio := 0, limits, decoration := none }

/-- Where the pointer last went down and last was, whatever gesture runs. -/
structure PointerTrace where
  lastDown : Option Point
  lastMove : Option Point
  deriving DecidableEq

namespace PointerTrace

def empty : PointerTrace := ⟨none, none⟩

instance : Inhabited PointerTrace := ⟨empty⟩

def isEmpty (t : PointerTrace) : Bool := t.lastDown.isNone && t.lastMove.isNone

/-- The trace after an event: a press starts it anew, a movement extends it, a release ends
it. -/
def after (t : PointerTrace) (e : PointerEvent) : PointerTrace :=
  if e.action.isDown then ⟨some e.onDisplay, some e.onDisplay⟩
  else if e.action = .move then { t with lastMove := some e.onDisplay }
  else if e.action.isRelease then empty
  else t

end PointerTrace

/-- A rectangle that waits for a frame. -/
structure PendingRect where
  rect : Rect
  reason : ChangeReason
  deriving DecidableEq

/-- What goes out of a controller. -/
inductive ControllerOutput
  /-- The window takes a rectangle. -/
  | rect (rect : Rect) (reason : ChangeReason)
  /-- A frame is asked for. -/
  | frameRequest
  /-- The cursor is asked to take a shape. -/
  | cursor (style : CursorStyle)
  deriving DecidableEq

/-- Turns the pointer events of one window into rectangles. -/
structure Controller where
  window : SessionId
  hotZone : HotZone
  /-- The pixel ratio of a window that is on no display. -/
  fallbackRatio : Float32
  /-- Whether there is someone to ask for cursor shapes. -/
  shapesCursor : Bool
  phase : GesturePhase
  /-- A move is armed. -/
  moveArmed : Bool
  pointerDown : Bool
  gesture : Option Gesture
  trace : PointerTrace
  /-- The cursor shape that was last taken. -/
  cursor : CursorStyle
  pending : Option PendingRect
  frameRequested : Bool
  deriving DecidableEq

namespace Controller

/-- A step's answer, the controller after it, and what went out. -/
structure Step (α : Type) where
  result : α
  controller : Controller
  outputs : List ControllerOutput

instance : Functor Step where
  map f s := ⟨f s.result, s.controller, s.outputs⟩

/-- The pixel ratio assumed for a window that is on no display. -/
def standardFallbackRatio : Float32 := 1.5

/-- An idle controller. -/
def make (window : SessionId) (hotZone : HotZone) (fallbackRatio : Float32)
    (shapesCursor : Bool) : Controller :=
  { window, hotZone, fallbackRatio, shapesCursor
    phase := .idle
    moveArmed := false
    pointerDown := false
    gesture := none
    trace := .empty
    cursor := .standard
    pending := none
    frameRequested := false }

def target? (c : Controller) : Option Rect := c.gesture.map fun g => g.grip.target

/-- An answer that leaves the controller as it is. -/
def pass {α : Type} (c : Controller) (a : α) : Step α := ⟨a, c, []⟩

/-! ## Pacing -/

/-- A rectangle waits for the next frame, over the one that waited; a frame is asked for unless
one already is. -/
def schedule {α : Type} (c : Controller) (rect : Rect) (reason : ChangeReason) (a : α) :
    Step α :=
  ⟨a, { c with pending := some ⟨rect, reason⟩, frameRequested := true },
    if c.frameRequested then [] else [.frameRequest]⟩

/-- A rectangle is delivered at once, and the one that waited is dropped. -/
def deliver {α : Type} (c : Controller) (rect : Rect) (reason : ChangeReason) (a : α) : Step α :=
  ⟨a, { c with pending := none }, [.rect rect reason]⟩

/-- A frame came: the rectangle that waited is delivered. -/
def onFrame (c : Controller) : Step Unit :=
  ⟨(), { c with pending := none, frameRequested := false },
    match c.pending with
    | some p => [.rect p.rect p.reason]
    | none => []⟩

/-! ## Moving -/

/-- Whether the event's pointer may drive the running gesture. -/
def accepts (c : Controller) (e : PointerEvent) : Bool :=
  match c.gesture with
  | some g => g.grip.accepts e.pointer e.source
  | none => true

/-- Arms or disarms a move. Arming needs a press and no resize, and is ignored otherwise. -/
def armMove (c : Controller) (armed : Bool) : Controller :=
  if armed && (!c.pointerDown || c.phase == .dragging) then c else { c with moveArmed := armed }

/-- Keeps track of the press outside a move. -/
def notePress (c : Controller) (e : PointerEvent) : Controller :=
  if e.action.isDown then { c with pointerDown := true }
  else if e.action.isRelease then { c with pointerDown := false }
  else c

/-- The rectangle that a move starts from: its corner is recovered from the pointer, since the
window may have moved since `rect` was taken. -/
def moveOrigin (e : PointerEvent) (rect : Rect) : Rect :=
  ⟨e.onDisplay.x - e.inWindow.x, e.onDisplay.y - e.inWindow.y, rect.width, rect.height⟩

/-- The pointer moves while a move is armed: the first movement takes hold of the window, the
later ones carry it along. -/
def carry (c : Controller) (e : PointerEvent) (rect : Rect) : Step Bool :=
  match c.gesture with
  | none =>
    let grip := Grip.hold e.pointer e.source e.onDisplay e.inWindow (moveOrigin e rect)
    { c with gesture := some (.ofMove grip), phase := .moving }.pass true
  | some g =>
    let g := g.moveTo e.onDisplay
    { c with gesture := some g }.schedule g.grip.target .dragMove true

/-- The move ends; the event goes on to the window's content. -/
def endMove (c : Controller) (e : PointerEvent) : Step Bool :=
  if !c.pointerDown then c.pass true
  else
    let idle := { c with
      moveArmed := false, pointerDown := false, gesture := none, phase := .idle }
    match c.gesture with
    | some g => idle.deliver (g.moveTo e.onDisplay).grip.target .dragEnd false
    | none => idle.pass false

/-- Gives an event to the move. Answers whether it was consumed; the rectangle is the window's,
as far as it is known. -/
def moveEvent (c : Controller) (e : PointerEvent) (rect : Rect) : Step Bool :=
  if c.phase = .dragging then c.pass false
  else if !c.accepts e then c.pass false
  else if !c.moveArmed && e.isIdleMouse then c.pass false
  else
    let c := { c with trace := c.trace.after e }
    if !c.moveArmed then (c.notePress e).pass false
    else if e.action = .move then c.carry e rect
    else if e.action.isDown || e.action.isRelease then c.endMove e
    else c.pass false

/-! ## Resizing -/

/-- A press on the border starts a resize. -/
def startDrag (c : Controller) (e : PointerEvent) (w : WindowContext) : Step Bool :=
  if c.phase = .dragging then c.pass true
  else
    let ratio := w.pixelRatio.getD c.fallbackRatio
    let area := c.hotZone.classify e.inWindow w.rect.width w.rect.height e.source ratio
    if area = .undefined then c.pass false
    else
      let grip := Grip.hold e.pointer e.source e.onDisplay e.inWindow w.rect
      let g := (Gesture.ofDrag grip area w.aspectRatio w.limits w.decoration ratio).dragTo
        e.onDisplay
      { c with
        gesture := some g
        phase := .dragging
        pointerDown := true
        trace := c.trace.after e }.schedule g.grip.target .dragStart true

def stretch (c : Controller) (e : PointerEvent) : Step Bool :=
  match c.gesture with
  | some g =>
    let g := g.dragTo e.onDisplay
    { c with gesture := some g }.schedule g.grip.target .drag true
  | none => c.pass true

def endDrag (c : Controller) (e : PointerEvent) : Step Bool :=
  let idle := { c with
    pointerDown := false, trace := c.trace.after e, gesture := none, phase := .idle }
  match c.gesture with
  | some g => idle.deliver (g.dragTo e.onDisplay).grip.target .dragEnd true
  | none => idle.pass true

/-- Gives an event to the resize. Answers whether it started or belongs to one. -/
def dragEvent (c : Controller) (e : PointerEvent) (w : WindowContext) : Step Bool :=
  if c.moveArmed || c.phase == .moving then c.pass false
  else if e.isIdleMouse then c.pass false
  else if !c.accepts e then c.pass false
  else if e.action.isDown then c.startDrag e w
  else if e.action = .move && c.phase == .dragging then c.stretch e
  else if e.action.isRelease && c.phase == .dragging then c.endDrag e
  else c.pass false

/-- Ends the running gesture without the pointer, at its target or, when `reset`, at its
initial rectangle. Answers whether one was running. -/
def interrupt (c : Controller) (reset : Bool) : Step Bool :=
  if c.phase = .idle then c.pass false
  else
    let idle := { c with
      moveArmed := false, pointerDown := false, gesture := none, phase := .idle }
    match c.gesture with
    | some g => idle.deliver (if reset then g.grip.initial else g.grip.target) .dragEnd true
    | none => idle.pass true

/-! ## Cursor and full screen -/

/-- Whether the event may change the cursor's shape. -/
def shapes (c : Controller) (e : PointerEvent) : Bool :=
  e.isMouse &&
    (e.action == .move || e.action == .buttonDown || e.action == .buttonUp) &&
    c.phase != .dragging && c.shapesCursor

/-- The mouse hovers over a window: the cursor is asked for the shape of the area under it,
unless it has that shape. `taken` says whether the shape was taken if it is asked for. Answers
whether the shape changed. -/
def hover (c : Controller) (e : PointerEvent) (rect : Rect) (pixelRatio : Option Float32)
    (taken : Bool) : Step Bool :=
  if !c.shapes e then c.pass false
  else
    let ratio := pixelRatio.getD c.fallbackRatio
    let style := (c.hotZone.classify e.inWindow rect.width rect.height .mouse ratio).dragKind.cursor
    if style = c.cursor then c.pass false
    else ⟨taken, if taken then { c with cursor := style } else c, [.cursor style]⟩

/-- Where a full-screen window should float at the size of `window`: under the last press, at
the same relative place across. -/
def floatingRect (c : Controller) (fullScreen window : Rect) : Rect :=
  match c.trace.lastDown with
  | none => fullScreen
  | some down =>
    if fullScreen.width = 0 then window
    else
      let offset := Measure.ofPixels window.width / Measure.ofPixels fullScreen.width *
        Measure.ofPixels (down.x - fullScreen.x)
      ⟨down.x - Measure.toPixels offset, fullScreen.y, window.width, window.height⟩

end Controller

end DisplayServer
