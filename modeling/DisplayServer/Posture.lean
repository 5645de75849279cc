import DisplayServer.Agent.Event
import DisplayServer.Error

/-!
# Posture of a foldable device

The hinge sensor reports a posture, and a client may force a display mode that implies one.
While the status is locked neither changes the status; the last sensor reading is remembered
and can be restored. Every step returns the events that tell agents of what changed, and none
when nothing did.
-/

namespace DisplayServer

/-- What the hardware can do: the creases are in coordinates of the default display. -/
structure FoldCapability where
  foldable : Bool
  creases : List Rect
  deriving DecidableEq

instance : Inhabited FoldCapability := ⟨⟨false, []⟩⟩

/-- The status and mode that readers see, the last sensor reading, and the lock. -/
structure Posture where
  status : FoldStatus
  sensed : FoldStatus
  mode : FoldDisplayMode
  locked : Bool
  deriving DecidableEq

namespace Posture

def initial : Posture := ⟨.unknown, .unknown, .unknown, false⟩

instance : Inhabited Posture := ⟨initial⟩

/-- Shows another status, telling agents if it is another. -/
def reveal (p : Posture) (status : FoldStatus) : Posture × List AgentEvent :=
  if p.status = status then (p, []) else ({ p with status }, [.foldStatusChanged status])

/-- A reading of the sensor: always remembered, and shown unless the status is locked. -/
def sense (p : Posture) (reading : FoldStatus) : Posture × List AgentEvent :=
  let p := { p with sensed := reading }
  if p.locked then (p, []) else p.reveal reading

/-- Locks or releases the status, which stays as it is. -/
def setLocked (p : Posture) (locked : Bool) : Posture := { p with locked }

/-- Forces a mode that implies a status; the status follows unless it is locked. -/
def force (p : Posture) (mode : FoldDisplayMode) (implied : FoldStatus) :
    Posture × List AgentEvent :=
  let modeEvents := if p.mode = mode then [] else [AgentEvent.foldDisplayModeChanged mode]
  let p := { p with mode }
  if p.locked then (p, modeEvents)
  else
    let (p, statusEvents) := p.reveal implied
    (p, modeEvents ++ statusEvents)

/-- Releases the status and shows the last sensor reading. -/
def restore (p : Posture) : Posture × List AgentEvent :=
  { p with locked := false }.reveal p.sensed

end Posture

end DisplayServer
