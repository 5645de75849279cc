import DisplayServer.Posture
import DisplayServer.Topology.Event

/-!
# The display registry

The registry keeps a display for every screen that shows something of its own: it follows the
topology's events, and never reads the topology itself. Each step returns the registry and the
events that tell agents of what was written, in the order of writing. New displays are numbered
from a source that the registry shares with the topology.
-/

namespace DisplayServer

/-- Displays, the screens they are bound to, and the posture of the device. -/
structure Registry where
  displays : Table DisplayId Display
  /-- The display of each screen that has one. -/
  bindings : Table ScreenId DisplayId
  defaultDisplay : Option DisplayId
  state : DisplayState
  capability : FoldCapability
  posture : Posture
  deriving DecidableEq

namespace Registry

def empty (capability : FoldCapability) : Registry :=
  { displays := .empty
    bindings := .empty
    defaultDisplay := none
    state := .unknown
    capability
    posture := .initial }

/-! ## Looking up -/

def display? (r : Registry) (id : DisplayId) : Option Display := r.displays.get? id

def default? (r : Registry) : Option Display := r.defaultDisplay.bind r.display?

def displayOf? (r : Registry) (screen : ScreenId) : Option Display :=
  (r.bindings.get? screen).bind r.display?

/-! ## Following the topology -/

/-- A new display of the screen, in the state that all displays are in. -/
def create (r : Registry) (id : DisplayId) (screen : ScreenReport) : Registry × List AgentEvent :=
  let display := { Display.ofScreen id screen with state := r.state }
  ({ r with
     displays := r.displays.insert id display
     bindings := r.bindings.insert screen.id id
     defaultDisplay := if r.defaultDisplay.isNone then some id else r.defaultDisplay },
    [.displayCreated display])

/-- The display of the screen goes away; the default passes to the display of the least
number. -/
def remove (r : Registry) (screen : ScreenId) : Registry × List AgentEvent :=
  match r.bindings.get? screen with
  | none => (r, [])
  | some id =>
    let displays := r.displays.erase id
    ({ r with
       displays
       bindings := r.bindings.erase screen
       defaultDisplay :=
         if r.defaultDisplay = some id then displays.keys.head? else r.defaultDisplay },
      [.displayDestroyed id])

/-- The screen gets a display unless it has one. -/
def ensure (r : Registry) (ids : IdSource) (screen : ScreenReport) :
    Registry × IdSource × List AgentEvent :=
  if r.bindings.contains screen.id then (r, ids, [])
  else
    let (r, events) := r.create ⟨ids.peek⟩ screen
    (r, ids.advance, events)

/-- The screen's geometry changed: its display reads it again, and agents are told if that
shows. -/
def refresh (r : Registry) (screen : ScreenReport) (change : ScreenChange) :
    Registry × List AgentEvent :=
  match r.displayOf? screen.id with
  | none => (r, [])
  | some display =>
    let fresh := display.refreshed screen
    let displayChange : DisplayChange := match change with
      | .rotation => .rotation
      | .mode => .size
    ({ r with displays := r.displays.insert display.id fresh },
      if display.changesWith screen then [.displayChanged fresh displayChange] else [])

/-- Follows one change of the topology. A mirrored screen has no display, a screen that stands
alone or extends a desktop has one, and a screen made unique has one of the number it was
given. -/
def follow (r : Registry) (ids : IdSource) :
    TopologyEvent → Registry × IdSource × List AgentEvent
  | .joinedGroup screen group =>
    match group.combination with
    | .mirror =>
      let (r, events) := r.remove screen.id
      (r, ids, events)
    | .alone | .expand => r.ensure ids screen
  | .leftGroup screen group reason =>
    if reason = .detached ∧ group.combination = .mirror then r.ensure ids screen
    else (r, ids, [])
  | .disconnected screen =>
    let (r, events) := r.remove screen
    (r, ids, events)
  | .becameUnique screen display =>
    let (r, gone) := r.remove screen.id
    let (r, made) := r.create display screen
    (r, ids, gone ++ made)
  | .changed screen change =>
    let (r, events) := r.refresh screen change
    (r, ids, events)
  | .connected _ => (r, ids, [])
  | .groupDissolved _ => (r, ids, [])

/-! ## Updates by clients -/

/-- What a step answered, how it left the registry, and what agents are told. -/
structure Step (α : Type) where
  result : α
  registry : Registry
  events : List AgentEvent

/-- Updates the display of a screen, and tells agents about it. -/
def updateDisplay (r : Registry) (screen : ScreenId) (f : Display → Display)
    (announce : Display → AgentEvent) : Step (Except Error Unit) :=
  match r.displayOf? screen with
  | none => ⟨.error (.invalidScreen screen), r, []⟩
  | some display =>
    let display := f display
    ⟨.ok (), { r with displays := r.displays.insert display.id display }, [announce display]⟩

/-- Records what area of a screen's display is free of system bars. -/
def setAvailableArea (r : Registry) (screen : ScreenId) (area : Rect) :
    Step (Except Error Unit) :=
  r.updateDisplay screen (fun d => { d with availableArea := area })
    fun d => .availableAreaChanged d.id area

/-- Overrides rotation and presented size of a screen's display. -/
def overrideRotation (r : Registry) (screen : ScreenId) (rotation : Rotation)
    (width height : Nat) : Step (Except Error Unit) :=
  r.updateDisplay screen
    (fun d =>
      { d with
        rotation, width, height
        physicalWidth := if rotation.swapsSides then height else width
        physicalHeight := if rotation.swapsSides then width else height })
    fun d => .displayChanged d .rotation

/-- Puts every display into a state; answers whether that is a change. -/
def setState (r : Registry) (state : DisplayState) : Step Bool :=
  if r.state = state then ⟨false, r, []⟩
  else
    ⟨true,
      { r with state, displays := r.displays.map fun d => { d with state } },
      [.displayStateChanged state r.displays.keys]⟩

/-! ## Folding -/

/-- A step of the posture, for a device that folds. -/
def fold (r : Registry) (step : Posture → Posture × List AgentEvent) :
    Step (Except Error Unit) :=
  if r.capability.foldable then
    let (posture, events) := step r.posture
    ⟨.ok (), { r with posture }, events⟩
  else ⟨.error (.unsupported "fold"), r, []⟩

/-- A reading of the hinge sensor. -/
def senseFold (r : Registry) (reading : FoldStatus) : Step (Except Error Unit) :=
  r.fold fun p => p.sense reading

/-- Locks or releases the fold status. -/
def lockFold (r : Registry) (locked : Bool) : Step (Except Error Unit) :=
  r.fold fun p => (p.setLocked locked, [])

/-- Forces a fold display mode; a device that folds takes any mode but the unknown one. -/
def forceFoldMode (r : Registry) (mode : FoldDisplayMode) : Step (Except Error Unit) :=
  if r.capability.foldable then
    match mode.impliedStatus with
    | some implied => r.fold fun p => p.force mode implied
    | none => ⟨.error (.invalidParameter .unknownFoldMode), r, []⟩
  else ⟨.error (.unsupported "fold"), r, []⟩

/-- Releases the fold status and shows the last sensor reading. -/
def restoreFold (r : Registry) : Step (Except Error Unit) := r.fold Posture.restore

/-- The fold status that readers see; unknown on a device that does not fold. -/
def foldStatus (r : Registry) : FoldStatus :=
  if r.capability.foldable then r.posture.status else .unknown

/-- The fold display mode that readers see; unknown on a device that does not fold. -/
def foldMode (r : Registry) : FoldDisplayMode :=
  if r.capability.foldable then r.posture.mode else .unknown

/-- The crease on the default display; none on a device that does not fold. -/
def crease? (r : Registry) : Option CreaseRegion :=
  if r.capability.foldable then some ⟨r.defaultDisplay, r.capability.creases⟩ else none

end Registry

end DisplayServer
