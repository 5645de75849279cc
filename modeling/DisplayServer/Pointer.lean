import DisplayServer.Geometry
import DisplayServer.Symbol

/-!
# Pointer events

Every sample of a pointer carries its position in display space and its position relative to
the window, so a rule may use either.
-/

namespace DisplayServer

/-- What the pointer did. -/
inductive PointerAction
  /-- A finger touched down. -/
  | down
  /-- A finger lifted. -/
  | up
  | move
  /-- A mouse button was pressed. -/
  | buttonDown
  /-- A mouse button was released. -/
  | buttonUp
  /-- The input source withdrew the gesture. -/
  | cancel
  /-- A wheel or touchpad axis turned. -/
  | axisUpdate
  deriving DecidableEq, Inhabited

namespace PointerAction

instance : Symbol PointerAction where
  all := [down, up, move, buttonDown, buttonUp, cancel, axisUpdate]
  name
    | down => "Down"
    | up => "Up"
    | move => "Move"
    | buttonDown => "ButtonDown"
    | buttonUp => "ButtonUp"
    | cancel => "Cancel"
    | axisUpdate => "AxisUpdate"

/-- Whether the action may begin a gesture. -/
def isDown : PointerAction → Bool
  | down | buttonDown => true
  | _ => false

/-- Whether the action ends a gesture. -/
def isRelease : PointerAction → Bool
  | up | buttonUp | cancel => true
  | _ => false

end PointerAction

/-- The class of device that a sample comes from. -/
inductive PointerSource
  | mouse
  | touchScreen
  | touchPad
  deriving DecidableEq, Inhabited

instance : Symbol PointerSource where
  all := [.mouse, .touchScreen, .touchPad]
  name
    | .mouse => "Mouse"
    | .touchScreen => "TouchScreen"
    | .touchPad => "TouchPad"

/-- The mouse button of a sample; touches and hovering have none. -/
inductive MouseButton
  | none
  | left
  | right
  | middle
  deriving DecidableEq, Inhabited

instance : Symbol MouseButton where
  all := [.none, .left, .right, .middle]
  name
    | .none => "None"
    | .left => "Left"
    | .right => "Right"
    | .middle => "Middle"

/-- One sample of a pointer. -/
structure PointerEvent where
  pointer : Int
  source : PointerSource
  action : PointerAction
  button : MouseButton
  /-- Position in display space. -/
  onDisplay : Point
  /-- Position relative to the window's top-left corner. -/
  inWindow : Point
  deriving DecidableEq

namespace PointerEvent

def touch (pointer : Int) (action : PointerAction) (onDisplay inWindow : Point) : PointerEvent :=
  { pointer, source := .touchScreen, action, button := .none, onDisplay, inWindow }

/-- A sample of the mouse, which is pointer 0. -/
def mouse (action : PointerAction) (button : MouseButton) (onDisplay inWindow : Point) :
    PointerEvent :=
  { pointer := 0, source := .mouse, action, button, onDisplay, inWindow }

def isMouse (e : PointerEvent) : Bool := e.source == .mouse

/-- Mouse samples drive gestures with the left button only. -/
def isIdleMouse (e : PointerEvent) : Bool := e.isMouse && e.button != .left

end PointerEvent

end DisplayServer
