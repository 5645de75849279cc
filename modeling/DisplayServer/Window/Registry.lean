import DisplayServer.Window.Session

/-!
# Windows and their dialogs

All sessions by number. A window keeps the numbers of its dialogs in order of binding; while one
of them is shown, pointer-downs on the window go to the dialog on top, and key events to the
window and its sub-windows are refused.
-/

namespace DisplayServer

/-- Where a pointer-down ends up. -/
inductive PointerRoute
  /-- At the window that was hit. -/
  | dispatched
  /-- At a dialog that is shown above it. -/
  | redirected (dialog : SessionId)
  /-- Nowhere: a dialog of the window's parent is shown. -/
  | blocked
  deriving DecidableEq

/-- All window sessions, and the number that comes next. It counts without bound: the number fits
into 32 bits as long as sessions have numbers below 2³¹ − 1, and of windows that have gone further
nothing is said. -/
structure Windows where
  sessions : Table SessionId Session
  nextId : Int
  deriving DecidableEq

namespace Windows

/-- No windows, to be numbered from `first`, or from 1 where that is less. -/
def startingAt (first : Int) : Windows := ⟨.empty, first⟩

def empty : Windows := startingAt 1

instance : Inhabited Windows := ⟨empty⟩

/-- A step's answer, the windows after it, and what went out. -/
structure Step (α : Type) where
  result : Except Error α
  windows : Windows
  outputs : List WindowOutput

def session? (w : Windows) (id : SessionId) : Option Session := w.sessions.get? id

def size (w : Windows) : Nat := w.sessions.size

/-- No session has this number. -/
def unknown (id : SessionId) : Error := .invalidSession id .unknown

/-- Nothing was done because of an error. -/
def refuse {α : Type} (w : Windows) (e : Error) : Step α := ⟨.error e, w, []⟩

/-- Something was done that nobody outside is told about. -/
def quiet {α : Type} (w : Windows) (a : α) : Step α := ⟨.ok a, w, []⟩

def put (w : Windows) (s : Session) : Windows := { w with sessions := w.sessions.insert s.id s }

/-- Updates a session, where there is one. -/
def modify (w : Windows) (id : SessionId) (f : Session → Session) : Windows :=
  { w with sessions := w.sessions.modify id f }

def step (w : Windows) (id : SessionId) (f : Session → Session.Step) : Step Unit :=
  match w.session? id with
  | none => w.refuse (unknown id)
  | some s =>
    let done := f s
    ⟨done.result, { w with sessions := w.sessions.insert id done.session }, done.outputs⟩

/-! ## Dialogs -/

/-- Lists the dialog under its parent, once, and names the parent in the dialog. -/
def link (w : Windows) (parent dialog : SessionId) : Windows :=
  (w.modify parent fun p =>
    if dialog ∈ p.dialogs then p else { p with dialogs := p.dialogs ++ [dialog] }).modify dialog
    fun d => { d with parent := some parent }

def bindDialog (w : Windows) (parent dialog : SessionId) : Step Unit :=
  if (w.session? dialog).isNone then w.refuse (unknown dialog)
  else if (w.session? parent).isNone then w.refuse (unknown parent)
  else (w.link parent dialog).quiet ()

def isShowing (w : Windows) (dialog : SessionId) : Bool :=
  match w.session? dialog with
  | some d => d.state.isShown
  | none => false

/-- The dialogs of a window, oldest first. -/
def dialogsOf (w : Windows) (parent : SessionId) : List SessionId :=
  match w.session? parent with
  | some p => p.dialogs
  | none => []

def hasShownDialog (w : Windows) (parent : SessionId) : Bool :=
  (w.dialogsOf parent).any w.isShowing

/-- The shown dialog of the window that was bound last. -/
def topDialog? (w : Windows) (parent : SessionId) : Option SessionId :=
  (w.dialogsOf parent).reverse.find? w.isShowing

/-! ## Sessions -/

/-- A new session. A dialog with a parent is bound to it. -/
def create (w : Windows) (name : String) (type : WindowType) (parent : Option SessionId) :
    Step SessionId :=
  match parent.filter fun p => (w.session? p).isNone with
  | some missing => w.refuse (unknown missing)
  | none =>
    let number := max w.nextId 1
    let id : SessionId := ⟨number⟩
    let w := { (w.put (.create id name type parent)) with nextId := number + 1 }
    match type, parent with
    | .dialog, some p => (w.link p id).quiet id
    | _, _ => w.quiet id

def setModal (w : Windows) (id : SessionId) (modal : Bool) : Step Unit :=
  if (w.session? id).isNone then w.refuse (unknown id)
  else (w.modify id fun s => { s with modal }).quiet ()

def updateRect (w : Windows) (answer : Except Error Unit) (id : SessionId) (rect : Rect)
    (reason : ChangeReason) : Step Unit :=
  w.step id fun s => s.updateRect answer rect reason

/-- Disconnects and forgets a session; its parent no longer lists it. -/
def remove (w : Windows) (id : SessionId) : Step Unit :=
  match w.session? id with
  | none => w.refuse (unknown id)
  | some s =>
    let gone := s.disconnect
    let w := { w with sessions := w.sessions.erase id }
    let w := match s.parent with
      | some p => w.modify p fun s => { s with dialogs := s.dialogs.filter (· ≠ id) }
      | none => w
    ⟨.ok (), w, gone.outputs⟩

/-! ## Routing -/

/-- Where a pointer-down on a known window goes. -/
def routeOf (w : Windows) (s : Session) : PointerRoute :=
  match s.type, s.parent with
  | .dialog, some parent =>
    if w.hasShownDialog parent then
      match w.topDialog? parent with
      | some top => if top = s.id then .dispatched else .redirected top
      | none => .dispatched
    else .dispatched
  | .appSub, some parent =>
    if !s.modal && w.hasShownDialog parent then .blocked else .dispatched
  | type, _ =>
    if !type.isSubordinate && !s.modal && w.hasShownDialog s.id then
      match w.topDialog? s.id with
      | some top => .redirected top
      | none => .dispatched
    else .dispatched

def routePointerDown (w : Windows) (id : SessionId) : Except Error PointerRoute :=
  match w.session? id with
  | none => .error (unknown id)
  | some s => .ok (w.routeOf s)

/-- Whether a dialog covers a known window. -/
def isCovered (w : Windows) (s : Session) : Bool :=
  match s.type, s.parent with
  | .dialog, some parent => w.hasShownDialog parent && w.topDialog? parent != some s.id
  | .appSub, some parent => w.hasShownDialog parent
  | _, _ => w.hasShownDialog s.id

/-- Whether a key event may reach the window. -/
def passKeyEvent (w : Windows) (id : SessionId) : Except Error Unit :=
  match w.session? id with
  | none => .error (unknown id)
  | some s =>
    if s.state = .disconnected then .error (.invalidSession id .disconnected)
    else if w.isCovered s then .error (.notPermitted (.coveredByDialog id))
    else .ok ()

end Windows

end DisplayServer
