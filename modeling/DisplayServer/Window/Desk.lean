import DisplayServer.Controller
import DisplayServer.FrameClock
import DisplayServer.Window.Registry

/-!
# A desk: windows, their controllers and one frame clock

All controllers of a desk are paced by the same clock, use the same hot zones and write their
rectangles back into the sessions. A session's controller may be replaced by a new one; the old
one still answers the frame that it asked for. So controllers are numbered, the clock queues
numbers, and every session has at most one current controller.
-/

namespace DisplayServer

/-- Windows, controllers and clock. -/
structure Desk where
  windows : Windows
  /-- All controllers ever made, by number. -/
  controllers : Table Nat Controller
  /-- The controller of each session that has one. -/
  current : Table SessionId Nat
  clock : FrameClock Nat
  hotZone : HotZone
  fallbackRatio : Float32
  /-- Sessions whose stages cannot be reached. -/
  unreachable : List SessionId
  /-- What such a stage answers. -/
  stageError : Error
  deriving DecidableEq

namespace Desk

/-- A step's answer, the desk after it, and what went out of the sessions. -/
structure Step (α : Type) where
  result : α
  desk : Desk
  outputs : List WindowOutput

instance : Functor Step where
  map f s := ⟨f s.result, s.desk, s.outputs⟩

/-- A desk without controllers. -/
def make (windows : Windows) (hotZone : HotZone) (fallbackRatio : Float32) (stageError : Error) :
    Desk :=
  { windows
    controllers := .empty
    current := .empty
    clock := .idle
    hotZone, fallbackRatio
    unreachable := []
    stageError }

def stageAnswer (d : Desk) (id : SessionId) : Except Error Unit :=
  if id ∈ d.unreachable then .error d.stageError else .ok ()

/-- From now on the stages of a session can be reached, or cannot. -/
def setReachable (d : Desk) (id : SessionId) (reachable : Bool) : Desk :=
  { d with unreachable :=
      if reachable then d.unreachable.filter (· ≠ id) else id :: d.unreachable }

def step {α : Type} (d : Desk) (f : Windows → Windows.Step α) : Step (Except Error α) :=
  let done := f d.windows
  ⟨done.result, { d with windows := done.windows }, done.outputs⟩

/-- Takes a step of a session that is there; none if it is not. -/
def stepOf? (d : Desk) (id : SessionId) (f : Session → Session.Step) :
    Step (Option (Except Error Unit)) :=
  if (d.windows.session? id).isSome then some <$> d.step fun w => w.step id f else ⟨none, d, []⟩

/-- Sets attributes of a session that is there; none if it is not. -/
def adjust? (d : Desk) (id : SessionId) (f : Session → Session) : Step (Option Unit) :=
  if (d.windows.session? id).isSome then ⟨some (), { d with windows := d.windows.modify id f }, []⟩
  else ⟨none, d, []⟩

/-- A rectangle of a controller arrives at its session, which may refuse it. -/
def receive (d : Desk) (id : SessionId) (rect : Rect) (reason : ChangeReason) : Step Unit :=
  let done := d.step fun w => w.updateRect (d.stageAnswer id) id rect reason
  { done with result := () }

def controller? (d : Desk) (id : SessionId) : Option Controller :=
  (d.current.get? id).bind d.controllers.get?

/-- Gives a known session a new controller. -/
def equip (d : Desk) (id : SessionId) : Step (Except Error Unit) :=
  if (d.windows.session? id).isNone then ⟨.error (.invalidSession id .absent), d, []⟩
  else
    let number := d.controllers.size
    ⟨.ok (),
      { d with
        controllers :=
          d.controllers.insert number (.make id d.hotZone d.fallbackRatio false)
        current := d.current.insert id number },
      []⟩

/-- What goes out of a controller takes effect: rectangles arrive at the session and frames are
asked for. -/
def absorb (number : Nat) (window : SessionId) (d : Desk) :
    List ControllerOutput → Desk × List WindowOutput
  | [] => (d, [])
  | .rect rect reason :: rest =>
    let arrived := d.receive window rect reason
    let (d, later) := absorb number window arrived.desk rest
    (d, arrived.outputs ++ later)
  | .frameRequest :: rest =>
    absorb number window { d with clock := d.clock.request number } rest
  | .cursor _ :: rest => absorb number window d rest

def drive {α : Type} (d : Desk) (number : Nat) (c : Controller)
    (f : Controller → Controller.Step α) : Step α :=
  let done := f c
  let d := { d with controllers := d.controllers.insert number done.controller }
  let (d, outputs) := absorb number c.window d done.outputs
  ⟨done.result, d, outputs⟩

/-- Takes a step of the controller that a session has; none if it has none. -/
def control {α : Type} (d : Desk) (id : SessionId) (f : Controller → Controller.Step α) :
    Step (Option α) :=
  match d.current.get? id with
  | none => ⟨none, d, []⟩
  | some number =>
    match d.controllers.get? number with
    | none => ⟨none, d, []⟩
    | some c =>
      let done := d.drive number c f
      ⟨some done.result, done.desk, done.outputs⟩

/-- The frame reaches the controllers that asked for it. -/
def frameOf (d : Desk) : List Nat → Desk × List WindowOutput
  | [] => (d, [])
  | number :: rest =>
    match d.controllers.get? number with
    | none => d.frameOf rest
    | some c =>
      let done := d.drive number c Controller.onFrame
      let (d, later) := done.desk.frameOf rest
      (d, done.outputs ++ later)

/-- A frame. Answers how many callbacks ran. -/
def frame (d : Desk) : Step Nat :=
  let numbers := d.clock.queue
  let (d, outputs) := { d with clock := d.clock.taken }.frameOf numbers
  ⟨numbers.length, d, outputs⟩

end Desk

/-- One controller with a clock of its own, and a listener that takes every rectangle. -/
structure SoloDesk where
  controller : Controller
  clock : FrameClock Unit
  deriving DecidableEq

namespace SoloDesk

/-- A step's answer, the desk after it, and what the listener and the cursor were asked. -/
structure Step (α : Type) where
  result : α
  desk : SoloDesk
  outputs : List ControllerOutput

instance : Functor Step where
  map f s := ⟨f s.result, s.desk, s.outputs⟩

/-- A desk whose controller was just made. -/
def make (controller : Controller) : SoloDesk := ⟨controller, .idle⟩

/-- The clock after the requests among the outputs. -/
def requests (clock : FrameClock Unit) (outputs : List ControllerOutput) : FrameClock Unit :=
  (outputs.filter (· = .frameRequest)).foldl (fun c _ => c.request ()) clock

def control {α : Type} (d : SoloDesk) (f : Controller → Controller.Step α) : Step α :=
  let done := f d.controller
  ⟨done.result, ⟨done.controller, requests d.clock done.outputs⟩,
    done.outputs.filter (· ≠ .frameRequest)⟩

/-- A frame. Answers how many callbacks ran. -/
def frame (d : SoloDesk) : Step Nat :=
  d.clock.queue.foldl
    (fun s _ =>
      let done := s.desk.control Controller.onFrame
      ⟨s.result, done.desk, s.outputs ++ done.outputs⟩)
    ⟨d.clock.queue.length, { d with clock := d.clock.taken }, []⟩

end SoloDesk

end DisplayServer
