import DisplayServer.Measure

/-!
# Points, rectangles and size limits

All coordinates are pixels in display space unless stated otherwise. Widths and heights are
signed, because the resize rules work with signed deltas and an intermediate rectangle may
briefly have a negative size.
-/

namespace DisplayServer

/-- A point in pixels. -/
structure Point where
  x : Int
  y : Int
  deriving DecidableEq

namespace Point

def origin : Point := ⟨0, 0⟩

instance : Inhabited Point := ⟨origin⟩

end Point

/-- An axis-aligned rectangle, given by its top-left corner and its size. -/
structure Rect where
  x : Int
  y : Int
  width : Int
  height : Int
  deriving DecidableEq

namespace Rect

def zero : Rect := ⟨0, 0, 0, 0⟩

instance : Inhabited Rect := ⟨zero⟩

/-- The first column to the right of the rectangle. -/
def right (r : Rect) : Int := r.x + r.width

/-- The first row below the rectangle. -/
def bottom (r : Rect) : Int := r.y + r.height

def isEmpty (r : Rect) : Bool := r.width ≤ 0 || r.height ≤ 0

/-- Whether the point lies in the rectangle: the top and left edges belong to it, the bottom
and right edges do not. -/
def contains (r : Rect) (p : Point) : Bool :=
  r.x ≤ p.x && p.x < r.right && r.y ≤ p.y && p.y < r.bottom

def overlaps (r o : Rect) : Bool :=
  r.x < o.right && o.x < r.right && r.y < o.bottom && o.y < r.bottom

/-- The same size with its top-left corner at `p`. -/
def movedTo (r : Rect) (p : Point) : Rect := { r with x := p.x, y := p.y }

/-- The same corner with width and height exchanged. -/
def transposed (r : Rect) : Rect := { r with width := r.height, height := r.width }

end Rect

/-- Thickness of a window's decoration on each side of its content, in virtual pixels. -/
structure Decoration where
  left : Float32
  top : Float32
  right : Float32
  bottom : Float32
  deriving DecidableEq

namespace Decoration

def none : Decoration := ⟨0, 0, 0, 0⟩

/-- Pixels taken by both vertical borders together. -/
def horizontal (d : Decoration) (ratio : Float32) : Int :=
  Measure.toPixels ((d.left + d.right) * ratio)

/-- Pixels taken by both horizontal borders together. -/
def vertical (d : Decoration) (ratio : Float32) : Int :=
  Measure.toPixels ((d.top + d.bottom) * ratio)

end Decoration

/-- The size limits a window declares; the ratios bound width over height in a free resize. -/
structure WindowLimits where
  minWidth : Int
  minHeight : Int
  maxWidth : Int
  maxHeight : Int
  minRatio : Float32
  maxRatio : Float32
  deriving DecidableEq

namespace WindowLimits

/-- Limits on the size alone: every ratio is allowed. -/
def ofSizes (minWidth minHeight maxWidth maxHeight : Int) : WindowLimits :=
  { minWidth, minHeight, maxWidth, maxHeight, minRatio := 0, maxRatio := Measure.greatest }

/-- Limits that allow every size from one pixel on. -/
def unrestricted : WindowLimits := ofSizes 1 1 Pixel.greatest Pixel.greatest

end WindowLimits

end DisplayServer
