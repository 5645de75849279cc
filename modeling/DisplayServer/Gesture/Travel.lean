import DisplayServer.Gesture.Area

/-!
# How far the pointer may travel

A resize follows the pointer's travel from the start of the gesture, clamped on each axis so
that the window keeps to its limits. In a free resize the axes are bounded independently
(`TravelLimits.free`); at a fixed aspect ratio the limits are first tightened so that every
size inside them can hold the ratio (`WindowLimits.tightened`), and both axes are bounded for
every area (`TravelLimits.fixed`).
-/

namespace DisplayServer

/-- Inclusive bounds on the pointer's travel along each axis. -/
structure TravelLimits where
  minX : Int
  maxX : Int
  minY : Int
  maxY : Int
  deriving DecidableEq

namespace TravelLimits

def unbounded : TravelLimits := ⟨Pixel.least, Pixel.greatest, Pixel.least, Pixel.greatest⟩

instance : Inhabited TravelLimits := ⟨unbounded⟩

/-- The travel brought into the limits: first raised to the low bound, then lowered to the high
bound, which therefore wins where the two are inverted. -/
def clamp (t : TravelLimits) (d : Point) : Point :=
  ⟨min (max d.x t.minX) t.maxX, min (max d.y t.minY) t.maxY⟩

/-- Bounds of a free resize of `initial` by the area: an axis that the area does not touch
stays unbounded. -/
def free (area : Area) (initial : Rect) (limits : WindowLimits) : TravelLimits :=
  let sub (a b : Int) : Int := Pixel.saturate (a - b)
  let x : Int × Int :=
    if area.touches .left then
      (sub initial.width limits.maxWidth, sub initial.width limits.minWidth)
    else if area.touches .right then
      (sub limits.minWidth initial.width, sub limits.maxWidth initial.width)
    else (Pixel.least, Pixel.greatest)
  let y : Int × Int :=
    if area.touches .top then
      (sub initial.height limits.maxHeight, sub initial.height limits.minHeight)
    else if area.touches .bottom then
      (sub limits.minHeight initial.height, sub limits.maxHeight initial.height)
    else (Pixel.least, Pixel.greatest)
  ⟨x.1, x.2, y.1, y.2⟩

/-- Bounds of a resize of `initial` at a fixed ratio, for limits that were tightened to it:
along each axis the window shrinks or grows with positive travel, depending on the area. -/
def fixed (area : Area) (initial : Rect) (limits : WindowLimits) : TravelLimits :=
  let sub (a b : Int) : Int := Pixel.saturate (a - b)
  let shrinkX := (sub initial.width limits.maxWidth, sub initial.width limits.minWidth)
  let growX := (sub limits.minWidth initial.width, sub limits.maxWidth initial.width)
  let shrinkY := (sub initial.height limits.maxHeight, sub initial.height limits.minHeight)
  let growY := (sub limits.minHeight initial.height, sub limits.maxHeight initial.height)
  let both (x y : Int × Int) : TravelLimits := ⟨x.1, x.2, y.1, y.2⟩
  match area with
  | .left | .leftBottom => both shrinkX growY
  | .leftTop => both shrinkX shrinkY
  | .right | .rightBottom | .bottom => both growX growY
  | .rightTop | .top => both growX shrinkY
  | .undefined => unbounded

end TravelLimits

namespace WindowLimits

/-- Tightens the limits so that every size inside them can hold the aspect ratio. The ratio is
that of the content, so the decoration's pixels (horizontal and vertical) are taken off first
and put back at the end. A ratio of zero stands for none and changes nothing. -/
def tightened (limits : WindowLimits) (decoration : Option (Int × Int)) (ratio : Float32) :
    WindowLimits :=
  if Measure.nearZero ratio then limits
  else
    let (across, down) := decoration.getD (0, 0)
    let sub (a b : Int) : Int := Pixel.saturate (a - b)
    let minW := max (sub limits.minWidth across) 1
    let maxW := max (sub limits.maxWidth across) minW
    let minH := max (sub limits.minHeight down) 1
    let maxH := max (sub limits.maxHeight down) minH
    let widthFor (h : Int) : Int := Measure.toPixels (Measure.ofPixels h * ratio)
    let heightFor (w : Int) : Int := Measure.toPixels (Measure.ofPixels w / ratio)
    { limits with
      minWidth := Pixel.saturate (max minW (widthFor minH) + across)
      maxWidth := Pixel.saturate (min maxW (widthFor maxH) + across)
      minHeight := Pixel.saturate (max minH (heightFor minW) + down)
      maxHeight := Pixel.saturate (min maxH (heightFor maxW) + down) }

end WindowLimits

namespace Rect

/-- `v` brought between `low` and `high`; `low` wins where they are inverted. -/
def bound (low high v : Int) : Int := max low (min v (max high low))

/-- The rectangle resized, its top-left corner staying, so that its content holds the ratio.
The width is kept where the limits allow it and the height follows; where that height leaves
the limits it is brought back into them and the width follows. Without a ratio, or without
content, nothing changes. -/
def heldTo (r : Rect) (limits : WindowLimits) (decoration : Option (Int × Int))
    (ratio : Float32) : Rect :=
  if Measure.nearZero ratio then r
  else
    let (across, down) := decoration.getD (0, 0)
    if r.width ≤ across || r.height ≤ down then r
    else
      let tight := limits.tightened decoration ratio
      let width := bound tight.minWidth tight.maxWidth r.width
      let height := Measure.toPixels (Measure.ofPixels (width - across) / ratio) + down
      if height < tight.minHeight || tight.maxHeight < height then
        let height := bound tight.minHeight tight.maxHeight height
        { r with
          width := Measure.toPixels (Measure.ofPixels (height - down) * ratio) + across
          height }
      else { r with width, height }

end Rect

end DisplayServer
