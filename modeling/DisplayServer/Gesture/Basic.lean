import DisplayServer.Gesture.Target

/-!
# Gestures

A gesture is one move or one resize from pointer-down to release. Its `Grip` is what was taken
hold of at the start: the pointer, where it was, and the window's rectangle. A `Gesture` adds
what a resize needs, and each sample of the pointer asks it for a target rectangle
(`Gesture.moveTo`, `Gesture.dragTo`). Targets are computed from the initial rectangle, never
from the previous target.
-/

namespace DisplayServer

/-- The pointer number that stands for no pointer; a grip that holds it takes any pointer. -/
def noPointer : Int := -1

/-- What was taken hold of when the gesture started. -/
structure Grip where
  pointer : Int
  source : Option PointerSource
  /-- The pointer in display space at the start. -/
  origin : Point
  /-- The pointer in window space at the start. -/
  originInWindow : Point
  initial : Rect
  target : Rect
  deriving DecidableEq

namespace Grip

def empty : Grip :=
  { pointer := noPointer, source := none, origin := .origin, originInWindow := .origin
    initial := .zero, target := .zero }

instance : Inhabited Grip := ⟨empty⟩

/-- The grip at the start of a gesture. -/
def hold (pointer : Int) (source : PointerSource) (origin originInWindow : Point)
    (initial : Rect) : Grip :=
  { pointer, source := some source, origin, originInWindow, initial, target := initial }

def isEmpty (g : Grip) : Bool := g.pointer == noPointer && g.source.isNone

/-- Whether a sample of this pointer may drive the gesture. -/
def accepts (g : Grip) (pointer : Int) (source : PointerSource) : Bool :=
  g.pointer == noPointer ||
    (g.pointer == pointer && match g.source with
      | none => true
      | some s => s == source)

def travel (g : Grip) (p : Point) : Point := ⟨p.x - g.origin.x, p.y - g.origin.y⟩

/-- The initial rectangle carried along with the pointer. -/
def carried (g : Grip) (p : Point) : Rect :=
  let d := g.travel p
  g.initial.movedTo ⟨g.initial.x + d.x, g.initial.y + d.y⟩

end Grip

/-- A move or a resize under way. -/
structure Gesture where
  grip : Grip
  area : Area
  /-- The leading axis of a resize at a fixed ratio, once chosen. -/
  axis : Axis
  /-- Width over height of the content; zero for a free resize. -/
  aspectRatio : Float32
  limits : WindowLimits
  /-- Pixels of decoration, horizontal and vertical. -/
  decoration : Option (Int × Int)
  travel : TravelLimits
  deriving DecidableEq

namespace Gesture

def ofMove (grip : Grip) : Gesture :=
  { grip, area := .undefined, axis := .undefined, aspectRatio := 0
    limits := .unrestricted, decoration := none, travel := .unbounded }

/-- A resize by an area. A free resize knows its travel limits at once; at a fixed ratio the
initial rectangle is first brought to the ratio, and the limits wait for the leading axis. -/
def ofDrag (grip : Grip) (area : Area) (aspectRatio : Float32) (limits : WindowLimits)
    (decoration : Option Decoration) (pixelRatio : Float32) : Gesture :=
  let pixels := decoration.map fun d => (d.horizontal pixelRatio, d.vertical pixelRatio)
  if Measure.nearZero aspectRatio then
    { grip, area, axis := .undefined, aspectRatio, limits, decoration := pixels
      travel := .free area grip.initial limits }
  else
    { grip := { grip with initial := grip.initial.heldTo limits pixels aspectRatio }
      area, axis := .undefined, aspectRatio, limits, decoration := pixels
      travel := .unbounded }

/-- Whether the resize keeps an aspect ratio. -/
def isFixed (g : Gesture) : Bool := !Measure.nearZero g.aspectRatio

/-- The gesture with its target recorded. -/
def aim (g : Gesture) (target : Rect) : Gesture := { g with grip := { g.grip with target } }

def moveTo (g : Gesture) (p : Point) : Gesture := g.aim (g.grip.carried p)

/-- The gesture with its leading axis chosen and its travel limits set; the axis is chosen
once, and only where the travel leaves no doubt. -/
def lead (g : Gesture) (d : Point) : Gesture :=
  if g.axis = .undefined then
    match g.area.leadingAxis? d with
    | none => g
    | some axis =>
      { g with
        axis
        travel := .fixed g.area g.grip.initial
          (g.limits.tightened g.decoration g.aspectRatio) }
  else g

def dragTo (g : Gesture) (p : Point) : Gesture :=
  let d := g.grip.travel p
  if g.isFixed then
    let g := g.lead d
    if g.axis = .undefined then g.aim g.grip.initial
    else g.aim (g.area.fixedTarget g.axis d g.aspectRatio g.grip.initial g.travel)
  else g.aim (g.area.freeTarget d g.grip.initial g.travel g.limits)

end Gesture

end DisplayServer
