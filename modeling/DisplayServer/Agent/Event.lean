import DisplayServer.Display

/-!
# What agents are told

Clients follow the server through agents, and an agent subscribes to kinds of events. Every
event belongs to exactly one kind (`AgentEvent.kind`).
-/

namespace DisplayServer

/-- The kinds of events that an agent can subscribe to. -/
inductive AgentKind
  | displayPower
  | displayState
  | screen
  | display
  | foldStatus
  | foldDisplayMode
  | availableArea
  deriving DecidableEq, Inhabited

instance : Symbol AgentKind where
  all := [.displayPower, .displayState, .screen, .display, .foldStatus, .foldDisplayMode,
    .availableArea]
  name
    | .displayPower => "DisplayPowerEventListener"
    | .displayState => "DisplayStateListener"
    | .screen => "ScreenEventListener"
    | .display => "DisplayEventListener"
    | .foldStatus => "FoldStatusChangedListener"
    | .foldDisplayMode => "FoldDisplayModeListener"
    | .availableArea => "AvailableAreaChangedListener"

/-- What changed on a screen. -/
inductive ScreenChange
  | rotation
  | mode
  deriving DecidableEq, Inhabited

instance : Symbol ScreenChange where
  all := [.rotation, .mode]
  name
    | .rotation => "UpdateRotation"
    | .mode => "ChangeMode"

/-- What changed in a screen group. -/
inductive GroupChange
  | joined
  | left
  | dissolved
  deriving DecidableEq, Inhabited

instance : Symbol GroupChange where
  all := [.joined, .left, .dissolved]
  name
    | .joined => "AddToGroup"
    | .left => "RemoveFromGroup"
    | .dissolved => "GroupDissolved"

/-- What changed on a display. -/
inductive DisplayChange
  | rotation
  | size
  deriving DecidableEq, Inhabited

instance : Symbol DisplayChange where
  all := [.rotation, .size]
  name
    | .rotation => "UpdateRotation"
    | .size => "DisplaySizeChanged"

/-- One notification. -/
inductive AgentEvent
  | displayPower (transition : PowerTransition) (phase : Phase) (reason : PowerReason)
  | displayStateChanged (state : DisplayState) (displays : List DisplayId)
  | screenConnected (screen : ScreenReport)
  | screenDisconnected (screen : ScreenId)
  | screenChanged (screen : ScreenReport) (change : ScreenChange)
  | groupChanged (group : ScreenId) (screens : List ScreenReport) (change : GroupChange)
  | displayCreated (display : Display)
  | displayDestroyed (display : DisplayId)
  | displayChanged (display : Display) (change : DisplayChange)
  | foldStatusChanged (status : FoldStatus)
  | foldDisplayModeChanged (mode : FoldDisplayMode)
  | availableAreaChanged (display : DisplayId) (area : Rect)
  deriving DecidableEq

/-- The kind of an event: the agents subscribed to it are told. -/
def AgentEvent.kind : AgentEvent → AgentKind
  | displayPower _ _ _ => .displayPower
  | displayStateChanged _ _ => .displayState
  | screenConnected _ | screenDisconnected _ | screenChanged _ _ | groupChanged _ _ _ => .screen
  | displayCreated _ | displayDestroyed _ | displayChanged _ _ => .display
  | foldStatusChanged _ => .foldStatus
  | foldDisplayModeChanged _ => .foldDisplayMode
  | availableAreaChanged _ _ => .availableArea

end DisplayServer
