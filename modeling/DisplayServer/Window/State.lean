import DisplayServer.Symbol

/-!
# Words for window sessions

The lifecycle states of a session, the reasons for which a window's rectangle changes, and the
types of windows.
-/

namespace DisplayServer

/-- Lifecycle state of a session. -/
inductive SessionState
  | disconnected
  | connected
  | foreground
  | active
  | inactive
  | background
  deriving DecidableEq, Inhabited

namespace SessionState

instance : Symbol SessionState where
  all := [disconnected, connected, foreground, active, inactive, background]
  name
    | disconnected => "Disconnect"
    | connected => "Connect"
    | foreground => "Foreground"
    | active => "Active"
    | inactive => "Inactive"
    | background => "Background"

def isShown : SessionState → Bool
  | foreground | active | inactive => true
  | _ => false

end SessionState

/-- Why a window's rectangle changed. -/
inductive ChangeReason
  | undefined
  | move
  | resize
  | rotation
  | drag
  | dragStart
  | dragMove
  | dragEnd
  deriving DecidableEq, Inhabited

namespace ChangeReason

instance : Symbol ChangeReason where
  all := [undefined, move, resize, rotation, drag, dragStart, dragMove, dragEnd]
  name
    | undefined => "Undefined"
    | move => "Move"
    | resize => "Resize"
    | rotation => "Rotation"
    | drag => "Drag"
    | dragStart => "DragStart"
    | dragMove => "DragMove"
    | dragEnd => "DragEnd"

/-- Whether a rectangle with this reason stays provisional until the gesture ends. -/
def isProvisional : ChangeReason → Bool
  | drag | dragStart | dragMove => true
  | _ => false

end ChangeReason

/-- The type of a window. -/
inductive WindowType
  | appMain
  | appSub
  | dialog
  | systemFloat
  | statusBar
  deriving DecidableEq, Inhabited

namespace WindowType

instance : Symbol WindowType where
  all := [appMain, appSub, dialog, systemFloat, statusBar]
  name
    | appMain => "AppMainWindow"
    | appSub => "AppSubWindow"
    | dialog => "Dialog"
    | systemFloat => "SystemFloat"
    | statusBar => "StatusBar"

/-- System windows may connect without a surface. -/
def isSystem : WindowType → Bool
  | systemFloat | statusBar => true
  | _ => false

/-- Windows that belong to another window. -/
def isSubordinate : WindowType → Bool
  | appSub | dialog => true
  | _ => false

end WindowType

end DisplayServer
