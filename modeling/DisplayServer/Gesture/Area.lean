import DisplayServer.Pointer

/-!
# Hot zones: which edge or corner of a window a pointer is on

A window is resized by grabbing a band along its border. The band reaches a little outside the
window and a little inside it, and the inner band is wider at the corners, so that a diagonal
resize is easy to start:

```text
     ┌────┬──────────────────┬────┐
     │ LT │       top        │ RT │  corner width
     ├────┼──────────────────┼────┤
     │ L  │                  │  R │  frame width
     │    │     content      │    │
     ├────┼──────────────────┼────┤
     │ LB │      bottom      │ RB │
     └────┴──────────────────┴────┘
```

Band widths are in virtual pixels and scaled by the pixel ratio. Corners are looked at before
edges, so a point in both kinds of band is on a corner.
-/

namespace DisplayServer

/-- A side of a window. -/
inductive Side
  | left
  | top
  | right
  | bottom
  deriving DecidableEq

/-- The edge or corner of a window that a pointer is on. -/
inductive Area
  | undefined
  | left
  | top
  | right
  | bottom
  | leftTop
  | rightTop
  | rightBottom
  | leftBottom
  deriving DecidableEq, Inhabited

/-- The families of resize directions. -/
inductive DragKind
  | undefined
  | bottomOrTop
  | leftOrRight
  | leftTopCorner
  | rightTopCorner
  deriving DecidableEq, Inhabited

/-- The shapes of the cursor over a window border. -/
inductive CursorStyle
  | standard
  | northSouth
  | westEast
  | northWestSouthEast
  | northEastSouthWest
  deriving DecidableEq, Inhabited

namespace Area

instance : Symbol Area where
  all := [undefined, left, top, right, bottom, leftTop, rightTop, rightBottom, leftBottom]
  name
    | undefined => "Undefined"
    | left => "Left"
    | top => "Top"
    | right => "Right"
    | bottom => "Bottom"
    | leftTop => "LeftTop"
    | rightTop => "RightTop"
    | rightBottom => "RightBottom"
    | leftBottom => "LeftBottom"

/-- Whether the area lies on the side: a corner lies on two. -/
def touches : Area → Side → Bool
  | left, .left | leftTop, .left | leftBottom, .left => true
  | top, .top | leftTop, .top | rightTop, .top => true
  | right, .right | rightTop, .right | rightBottom, .right => true
  | bottom, .bottom | leftBottom, .bottom | rightBottom, .bottom => true
  | _, _ => false

/-- The sides as a number: left, top, right and bottom count 1, 2, 4 and 8. -/
def bits (a : Area) : Nat :=
  (if a.touches .left then 1 else 0) + (if a.touches .top then 2 else 0) +
  (if a.touches .right then 4 else 0) + (if a.touches .bottom then 8 else 0)

def dragKind : Area → DragKind
  | undefined => .undefined
  | left | right => .leftOrRight
  | top | bottom => .bottomOrTop
  | leftTop | rightBottom => .leftTopCorner
  | rightTop | leftBottom => .rightTopCorner

end Area

instance : Symbol DragKind where
  all := [.undefined, .bottomOrTop, .leftOrRight, .leftTopCorner, .rightTopCorner]
  name
    | .undefined => "Undefined"
    | .bottomOrTop => "BottomOrTop"
    | .leftOrRight => "LeftOrRight"
    | .leftTopCorner => "LeftTopCorner"
    | .rightTopCorner => "RightTopCorner"

def DragKind.cursor : DragKind → CursorStyle
  | .undefined => .standard
  | .bottomOrTop => .northSouth
  | .leftOrRight => .westEast
  | .leftTopCorner => .northWestSouthEast
  | .rightTopCorner => .northEastSouthWest

namespace CursorStyle

instance : Symbol CursorStyle where
  all := [standard, northSouth, westEast, northWestSouthEast, northEastSouthWest]
  name
    | standard => "Default"
    | northSouth => "NorthSouth"
    | westEast => "WestEast"
    | northWestSouthEast => "NorthWestSouthEast"
    | northEastSouthWest => "NorthEastSouthWest"

/-- The icon number that the pointer service knows the shape by. -/
def icon : CursorStyle → Nat
  | standard => 0
  | westEast => 5
  | northSouth => 6
  | northEastSouthWest => 11
  | northWestSouthEast => 12

end CursorStyle

/-- Widths of the bands, in virtual pixels. -/
structure HotZone where
  /-- Inner band along an edge. -/
  frameWidth : Float32
  /-- Inner band at a corner. -/
  cornerWidth : Float32
  /-- Outer band for the mouse. -/
  pointerBand : Float32
  /-- Outer band for touch. -/
  touchBand : Float32
  deriving DecidableEq

namespace HotZone

/-- The usual widths. -/
def standard : HotZone := ⟨5, 16, 4, 24⟩

instance : Inhabited HotZone := ⟨standard⟩

/-- Pixels of the outer band for a class of device. -/
def outer (z : HotZone) (source : PointerSource) (ratio : Float32) : Int :=
  let band := match source with
    | .mouse => z.pointerBand
    | .touchScreen | .touchPad => z.touchBand
  Measure.toPixels (band * ratio)

/-- Pixels of the inner band at a corner. -/
def corner (z : HotZone) (ratio : Float32) : Int := Measure.toPixels (z.cornerWidth * ratio)

/-- Pixels of the inner band along an edge. -/
def edge (z : HotZone) (ratio : Float32) : Int := Measure.toPixels (z.frameWidth * ratio)

def within (low high v : Int) : Bool := low ≤ v && v ≤ high

/-- The area under a point, for bands of `outer`, `corner` and `edge` pixels around a window of
`width` by `height`: nothing past the outer band, then the corners, then the edges. -/
def areaAt (outer corner edge width height : Int) (p : Point) : Area :=
  let nearLeft := within (-outer) corner p.x
  let nearRight := within (width - corner) (width + outer) p.x
  let nearTop := within (-outer) corner p.y
  let nearBottom := within (height - corner) (height + outer) p.y
  if !within (-outer) (width + outer) p.x || !within (-outer) (height + outer) p.y then .undefined
  else if nearLeft && nearTop then .leftTop
  else if nearRight && nearTop then .rightTop
  else if nearRight && nearBottom then .rightBottom
  else if nearLeft && nearBottom then .leftBottom
  else if within (-outer) edge p.x then .left
  else if within (-outer) edge p.y then .top
  else if within (width - edge) (width + outer) p.x then .right
  else if within (height - edge) (height + outer) p.y then .bottom
  else .undefined

/-- The area under a point given relative to a window of `width` by `height`. -/
def classify (z : HotZone) (p : Point) (width height : Int) (source : PointerSource)
    (ratio : Float32) : Area :=
  areaAt (z.outer source ratio) (z.corner ratio) (z.edge ratio) width height p

end HotZone

end DisplayServer
