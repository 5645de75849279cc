import DisplayServer.Topology.Basic

/-!
# What happened to the topology

Every change of the topology is reported as a `TopologyEvent` that carries what a reader needs
to follow it: reports taken at the moment of the change. The display registry follows these
events, and most of them are told to agents (`TopologyEvent.announcement?`).
-/

namespace DisplayServer

/-- Why a screen left its group. -/
inductive LeaveReason
  /-- It stands alone now, or is about to join another group. -/
  | detached
  /-- It is going away. -/
  | destroyed
  /-- It is being made unique. -/
  | madeUnique
  deriving DecidableEq, Inhabited

instance : Symbol LeaveReason where
  all := [.detached, .destroyed, .madeUnique]
  name
    | .detached => "Detached"
    | .destroyed => "Destroyed"
    | .madeUnique => "MadeUnique"

/-- One change of the topology. -/
inductive TopologyEvent
  | connected (screen : ScreenReport)
  | disconnected (screen : ScreenId)
  | changed (screen : ScreenReport) (change : ScreenChange)
  | joinedGroup (screen : ScreenReport) (group : GroupReport)
  /-- The group is reported without the screen. -/
  | leftGroup (screen : ScreenReport) (group : GroupReport) (reason : LeaveReason)
  | groupDissolved (group : ScreenId)
  | becameUnique (screen : ScreenReport) (display : DisplayId)
  deriving DecidableEq

/-- What agents are told of the change; that a screen became unique shows in its display. -/
def TopologyEvent.announcement? : TopologyEvent → Option AgentEvent
  | connected screen => some (.screenConnected screen)
  | disconnected screen => some (.screenDisconnected screen)
  | changed screen change => some (.screenChanged screen change)
  | joinedGroup screen group => some (.groupChanged group.id [screen] .joined)
  | leftGroup screen group _ => some (.groupChanged group.id [screen] .left)
  | groupDissolved group => some (.groupChanged group [] .dissolved)
  | becameUnique _ _ => none

end DisplayServer
