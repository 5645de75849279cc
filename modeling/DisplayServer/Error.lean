import DisplayServer.Identity
import DisplayServer.Window.State

/-!
# Refusals

Every operation that can be refused answers with an `Error`, which says why in terms of the
domain. Three functions say how a refusal leaves the server: its kind (`Error.kind`), its number
(`Error.code`, 0 stands for success) and its text (`Error.message`).
-/

namespace DisplayServer

/-- What is wrong with the arguments of an operation. -/
inductive ParameterFault
  | panelWithoutModes
  | activeModeOutOfRange (index count : Nat)
  | pixelRatioNotPositive
  | alreadyConnected (screen : RenderId)
  | notConnected (screen : RenderId)
  | emptyVirtualScreen (width height : Nat)
  | densityNotPositive
  | nothingToMirror
  | mirrorsItself (screen : ScreenId)
  | nothingToExpand
  | startPointMismatch (screens points : Nat)
  | listedTwice
  | nothingToMakeUnique
  | unknownScreen (screen : ScreenId)
  | notALeaf (group : ScreenId)
  | modeOutOfRange (index count : Nat)
  | unknownFoldMode
  /-- A fault in the words of a client. -/
  | described (text : String)
  deriving DecidableEq

namespace ParameterFault

def text : ParameterFault → String
  | panelWithoutModes => "physical screen reports no modes"
  | activeModeOutOfRange index count =>
    "active mode " ++ toString index ++ " out of range (" ++ toString count ++ " modes)"
  | pixelRatioNotPositive => "virtual pixel ratio must be positive"
  | alreadyConnected screen => "render screen " ++ toString screen.val ++ " already connected"
  | notConnected screen => "render screen " ++ toString screen.val ++ " is not connected"
  | emptyVirtualScreen width height =>
    "virtual screen size " ++ toString width ++ "x" ++ toString height ++ " is empty"
  | densityNotPositive => "virtual screen density must be positive"
  | nothingToMirror => "mirror screen list is empty"
  | mirrorsItself screen => screen.label ++ " cannot mirror itself"
  | nothingToExpand => "expand screen list is empty"
  | startPointMismatch screens points =>
    toString screens ++ " screens but " ++ toString points ++ " start points"
  | listedTwice => "duplicate screen in expand list"
  | nothingToMakeUnique => "unique screen list is empty"
  | unknownScreen screen => "unknown screen " ++ screen.label
  | notALeaf group => group.label ++ " is a screen group"
  | modeOutOfRange index count =>
    "mode " ++ toString index ++ " out of range (" ++ toString count ++ " modes)"
  | unknownFoldMode => "fold display mode must be known"
  | described text => text

end ParameterFault

/-- A step in a session's life that only some states allow. -/
inductive SessionStep
  | connect
  | foreground
  | background
  | activate
  | updateRect
  deriving DecidableEq

/-- What the step asks of the session. -/
def SessionStep.requirement : SessionStep → String
  | .connect => "connect requires a disconnected session"
  | .foreground => "foreground not allowed"
  | .background => "background not allowed"
  | .activate => "activation requires a foreground session"
  | .updateRect => "update_rect requires a foreground session"

/-- What is wrong with a session. -/
inductive SessionFault
  /-- No session has this number. -/
  | unknown
  /-- No session has this number, so nothing can be built for it. -/
  | absent
  | disconnected
  | notAllowed (step : SessionStep) (state : SessionState)
  /-- A fault in the words of a client. -/
  | described (text : String)
  deriving DecidableEq

def SessionFault.text : SessionFault → String
  | .unknown => "unknown session"
  | .absent => "no such session"
  | .disconnected => "session is disconnected"
  | .notAllowed step state =>
    step.requirement ++ " (state " ++ Symbol.name state ++ ")"
  | .described text => text

/-- Why an event may not be passed on. -/
inductive PermissionFault
  | coveredByDialog (session : SessionId)
  /-- A fault in the words of a client. -/
  | described (text : String)
  deriving DecidableEq

def PermissionFault.text : PermissionFault → String
  | .coveredByDialog session =>
    "session " ++ toString session.val ++ " is covered by a dialog"
  | .described text => text

/-- The kinds of refusals. -/
inductive ErrorKind
  | invalidParameter
  | invalidScreen
  | invalidDisplay
  | invalidSession
  | missingHandle
  | unsupported
  | notPermitted
  | collaboratorFailed
  deriving DecidableEq, Inhabited

namespace ErrorKind

instance : Symbol ErrorKind where
  all := [invalidParameter, invalidScreen, invalidDisplay, invalidSession, missingHandle,
    unsupported, notPermitted, collaboratorFailed]
  name
    | invalidParameter => "InvalidParam"
    | invalidScreen => "InvalidScreen"
    | invalidDisplay => "InvalidDisplay"
    | invalidSession => "InvalidSession"
    | missingHandle => "NullReference"
    | unsupported => "DeviceNotSupport"
    | notPermitted => "InvalidPermission"
    | collaboratorFailed => "IpcFailed"

/-- The number of a kind of refusal. -/
def code : ErrorKind → Nat
  | invalidParameter => 1
  | invalidScreen => 2
  | invalidDisplay => 3
  | invalidSession => 4
  | missingHandle => 5
  | unsupported => 6
  | notPermitted => 7
  | collaboratorFailed => 8

end ErrorKind

/-- Why an operation was refused. -/
inductive Error
  | invalidParameter (fault : ParameterFault)
  /-- The screen does not exist, or cannot be used this way. -/
  | invalidScreen (screen : ScreenId)
  | invalidDisplay (display : DisplayId)
  /-- The session is unknown, or in a state that does not allow the operation. -/
  | invalidSession (session : SessionId) (fault : SessionFault)
  | missingHandle (handle : String)
  | unsupported (capability : String)
  /-- An event may not be passed on. -/
  | notPermitted (fault : PermissionFault)
  /-- A collaborator outside the server failed. -/
  | collaboratorFailed (reason : String)
  deriving DecidableEq

namespace Error

/-- The kind of a refusal. -/
def kind : Error → ErrorKind
  | invalidParameter _ => .invalidParameter
  | invalidScreen _ => .invalidScreen
  | invalidDisplay _ => .invalidDisplay
  | invalidSession _ _ => .invalidSession
  | missingHandle _ => .missingHandle
  | unsupported _ => .unsupported
  | notPermitted _ => .notPermitted
  | collaboratorFailed _ => .collaboratorFailed

/-- The number of a refusal. -/
def code (e : Error) : Nat := e.kind.code

/-- A refusal about the thing of a number, in the words of a client; each kind takes what it
needs. -/
def described (kind : ErrorKind) (number : Int) (text : String) : Error :=
  match kind with
  | .invalidParameter => .invalidParameter (.described text)
  | .invalidScreen => .invalidScreen ⟨number.toNat⟩
  | .invalidDisplay => .invalidDisplay ⟨number.toNat⟩
  | .invalidSession => .invalidSession ⟨number⟩ (.described text)
  | .missingHandle => .missingHandle text
  | .unsupported => .unsupported text
  | .notPermitted => .notPermitted (.described text)
  | .collaboratorFailed => .collaboratorFailed text

def message : Error → String
  | invalidParameter fault => "invalid parameter: " ++ fault.text
  | invalidScreen screen => "invalid screen: " ++ screen.label
  | invalidDisplay display => "invalid display: " ++ display.label
  | invalidSession session fault =>
    "invalid session " ++ toString session.val ++ ": " ++ fault.text
  | missingHandle handle => "required handle missing: " ++ handle
  | unsupported capability => "device does not support " ++ capability
  | notPermitted fault => "permission denied: " ++ fault.text
  | collaboratorFailed reason => "ipc to collaborator failed: " ++ reason

end Error

/-- The number that answers an operation: 0 for success, else the refusal's. -/
def resultCode {α : Type} : Except Error α → Nat
  | .ok _ => 0
  | .error e => e.code

theorem resultCode_eq_zero_iff {α : Type} (r : Except Error α) :
    resultCode r = 0 ↔ ∃ a, r = .ok a := by
  cases r with
  | ok a => exact ⟨fun _ => ⟨a, rfl⟩, fun _ => rfl⟩
  | error e => cases e <;> simp [resultCode, Error.code, Error.kind, ErrorKind.code]

end DisplayServer
