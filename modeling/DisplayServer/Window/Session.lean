import DisplayServer.Error
import DisplayServer.Geometry

/-!
# Window sessions

A session is the server's side of one window. It is connected to a client stage and, unless the
window belongs to the system, to a surface; it moves between states; and it passes rectangles
on to stage and surface and keeps the last one that the stage took.

What goes out of a session is listed as `WindowOutput`s, in order. Whether the stage can be
reached is the stage's answer, given to the steps that may ask it: a step that fails leaves the
session as it was.
-/

namespace DisplayServer

/-- The server's side of one window. -/
structure Session where
  id : SessionId
  name : String
  type : WindowType
  parent : Option SessionId
  /-- Modal windows keep receiving pointer-downs while a dialog is shown. -/
  modal : Bool
  state : SessionState
  /-- Whether a client stage is connected. -/
  staged : Bool
  surface : Option Nat
  rect : Rect
  reason : ChangeReason
  /-- Whether the rectangle comes from an unfinished resize or move. -/
  provisional : Bool
  focusable : Bool
  touchable : Bool
  focused : Bool
  /-- The dialogs of this window, oldest first. -/
  dialogs : List SessionId
  /-- Whether transitions are reported. -/
  watched : Bool
  deriving DecidableEq

/-- What goes out of a session. -/
inductive WindowOutput
  /-- The stage is asked to take a rectangle. -/
  | stageRect (session : SessionId) (rect : Rect) (reason : ChangeReason)
  /-- The stage is asked to become active or inactive. -/
  | stageActive (session : SessionId) (active : Bool)
  /-- A surface gets new bounds. -/
  | bounds (surface : Nat) (rect : Rect)
  /-- A transition is reported. -/
  | entered (session : SessionId) (state : SessionState)
  deriving DecidableEq

namespace Session

/-- A step's answer, the session after it, and what went out. -/
structure Step where
  result : Except Error Unit
  session : Session
  outputs : List WindowOutput

/-- A new session, not connected. -/
def create (id : SessionId) (name : String) (type : WindowType) (parent : Option SessionId) :
    Session :=
  { id, name, type, parent
    modal := false
    state := .disconnected
    staged := false
    surface := none
    rect := .zero
    reason := .undefined
    provisional := false
    focusable := true
    touchable := true
    focused := false
    dialogs := []
    watched := false }

/-- Focuses the window, which only a focusable window can be. -/
def setFocused (s : Session) (focused : Bool) : Session :=
  { s with focused := focused && s.focusable }

/-- Nothing was done because of an error. -/
def refuse (s : Session) (e : Error) : Step := ⟨.error e, s, []⟩

/-- The state does not allow the step. -/
def refuseStep (s : Session) (step : SessionStep) : Step :=
  s.refuse (.invalidSession s.id (.notAllowed step s.state))

/-- Enters a state; a watched session reports it. -/
def enter (s : Session) (next : SessionState) : Step :=
  ⟨.ok (), { s with state := next }, if s.watched then [.entered s.id next] else []⟩

/-- Asks the stage, if there is one; goes on where it can be reached. -/
def ask (s : Session) (answer : Except Error Unit) (question : WindowOutput)
    (goOn : Step) : Step :=
  if s.staged then
    match answer with
    | .ok () => { goOn with outputs := question :: goOn.outputs }
    | .error e => ⟨.error (.collaboratorFailed e.message), s, [question]⟩
  else goOn

/-- Connects the session to a client stage and a surface. Only system windows do without a
surface. -/
def connect (s : Session) (stage : Bool) (surface : Option Nat) : Step :=
  if s.state ≠ .disconnected then s.refuseStep .connect
  else if !stage then s.refuse (.missingHandle "session stage")
  else if surface.isNone && !s.type.isSystem then s.refuse (.missingHandle "surface node")
  else { s with staged := true, surface }.enter .connected

def foreground (s : Session) : Step :=
  match s.state with
  | .connected | .background | .inactive => s.enter .foreground
  | _ => s.refuseStep .foreground

/-- Makes a shown window active or inactive, which the stage has to take. -/
def setActive (s : Session) (answer : Except Error Unit) (active : Bool) : Step :=
  if !s.state.isShown then s.refuseStep .activate
  else
    match active, s.state with
    | true, .active | false, .inactive | false, .foreground => ⟨.ok (), s, []⟩
    | true, _ => s.ask answer (.stageActive s.id true) (s.enter .active)
    | false, _ => s.ask answer (.stageActive s.id false) (s.enter .inactive)

/-- Sends a shown window to the background; an active one is made inactive first. -/
def toBackground (s : Session) (answer : Except Error Unit) : Step :=
  if !s.state.isShown then s.refuseStep .background
  else if s.state = .active then
    let quiet := s.setActive answer false
    match quiet.result with
    | .error _ => quiet
    | .ok () =>
      let away := quiet.session.enter .background
      { away with outputs := quiet.outputs ++ away.outputs }
  else s.enter .background

def disconnect (s : Session) : Step :=
  if s.state = .disconnected then ⟨.ok (), s, []⟩
  else { s with staged := false, surface := none, provisional := false }.enter .disconnected

/-- Passes a rectangle on to the stage and, when the stage takes it, to the surface, and keeps
it. -/
def updateRect (s : Session) (answer : Except Error Unit) (rect : Rect)
    (reason : ChangeReason) : Step :=
  if !s.state.isShown then s.refuseStep .updateRect
  else
    s.ask answer (.stageRect s.id rect reason)
      ⟨.ok (),
        { s with rect, reason, provisional := reason.isProvisional },
        match s.surface with
        | some surface => [.bounds surface rect]
        | none => []⟩

end Session

end DisplayServer
