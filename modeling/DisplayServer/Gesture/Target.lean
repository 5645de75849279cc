import DisplayServer.Gesture.Travel

/-!
# Where the window goes

Pure rules from the pointer's travel to the rectangle that the window should take. A free
resize moves the touched sides by the clamped travel and then snaps the aspect ratio back into
its limits (`Area.freeTarget`). At a fixed ratio one axis leads, the other follows through the
ratio with a sign that depends on the area (`Area.follow`), and both are clamped
(`Area.fixedTarget`).
-/

namespace DisplayServer

/-- The axis that leads a resize at a fixed ratio. -/
inductive Axis
  | undefined
  | x
  | y
  deriving DecidableEq, Inhabited

instance : Symbol Axis where
  all := [.undefined, .x, .y]
  name
    | .undefined => "Undefined"
    | .x => "X"
    | .y => "Y"

namespace Area

/-- The rectangle with the touched sides moved by `d`. -/
def stretch (area : Area) (r : Rect) (d : Point) : Rect :=
  { x := if area.touches .left then r.x + d.x else r.x
    y := if area.touches .top then r.y + d.y else r.y
    width :=
      if area.touches .left then r.width - d.x
      else if area.touches .right then r.width + d.x
      else r.width
    height :=
      if area.touches .top then r.height - d.y
      else if area.touches .bottom then r.height + d.y
      else r.height }

end Area

namespace Rect

def ratio (r : Rect) : Float32 := Measure.ofPixels r.width / Measure.ofPixels r.height

end Rect

namespace WindowLimits

/-- The ratio that the rectangle has to be snapped to: the limit that its own ratio passes, and
none when it keeps to the limits, has no height, or the limit is zero. -/
def snapRatio? (limits : WindowLimits) (r : Rect) : Option Float32 :=
  if r.height = 0 then none
  else if !Measure.exceeds limits.minRatio r.ratio && !Measure.exceeds r.ratio limits.maxRatio then
    none
  else
    let limit :=
      if Measure.exceeds limits.minRatio r.ratio then limits.minRatio else limits.maxRatio
    if Measure.nearZero limit then none else some limit

end WindowLimits

namespace Area

/-- The rectangle at the given ratio: an area on the left or right recomputes the height, any
other the width. -/
def snapped (area : Area) (r : Rect) (ratio : Float32) : Rect :=
  if area.touches .left || area.touches .right then
    { r with height := Measure.toPixels (Measure.ofPixels r.width / ratio) }
  else
    { r with width := Measure.toPixels (Measure.ofPixels r.height * ratio) }

def freeTarget (area : Area) (d : Point) (initial : Rect) (travel : TravelLimits)
    (limits : WindowLimits) : Rect :=
  let stretched := area.stretch initial (travel.clamp d)
  match limits.snapRatio? stretched with
  | none => stretched
  | some ratio => area.snapped stretched ratio

/-- The leading axis for a travel: an edge leads along its own axis, a corner along the axis of
the greater travel; without travel a corner leaves it open. -/
def leadingAxis? (area : Area) (d : Point) : Option Axis :=
  match area with
  | .left | .right => some .x
  | .top | .bottom => some .y
  | _ =>
    if d.x = 0 ∧ d.y = 0 then none
    else if d.x.natAbs > d.y.natAbs then some .x
    else some .y

/-- The sign with which the following axis goes along with the leading one. -/
def correlation : Area → Int
  | left | top | rightTop | leftBottom => -1
  | right | bottom | leftTop | rightBottom | undefined => 1

/-- The travel with its following axis derived from the leading one through the ratio. -/
def follow (area : Area) (axis : Axis) (d : Point) (ratio : Float32) : Point :=
  match axis with
  | .x => ⟨d.x, Measure.toPixels (Measure.ofPixels d.x / ratio) * area.correlation⟩
  | .y => ⟨Measure.toPixels (Measure.ofPixels d.y * ratio) * area.correlation, d.y⟩
  | .undefined => d

/-- The rectangle resized on both axes by the travel: the following axis of an edge changes the
size too. -/
def resize (area : Area) (r : Rect) (d : Point) : Rect :=
  match area with
  | leftTop => ⟨r.x + d.x, r.y + d.y, r.width - d.x, r.height - d.y⟩
  | rightTop | top => ⟨r.x, r.y + d.y, r.width + d.x, r.height - d.y⟩
  | rightBottom | right | bottom => ⟨r.x, r.y, r.width + d.x, r.height + d.y⟩
  | leftBottom | left => ⟨r.x + d.x, r.y, r.width - d.x, r.height + d.y⟩
  | undefined => r

def fixedTarget (area : Area) (axis : Axis) (d : Point) (ratio : Float32) (initial : Rect)
    (travel : TravelLimits) : Rect :=
  area.resize initial (travel.clamp (area.follow axis d ratio))

end Area

end DisplayServer
