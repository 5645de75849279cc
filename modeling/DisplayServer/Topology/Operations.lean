import DisplayServer.Error
import DisplayServer.Topology.Draft

/-!
# Operations on the topology

What hardware and clients may ask of the topology: plugging panels, making software screens,
composing screens in groups, rotating them and switching modes. Each operation is a function of
the topology; its `Outcome` says what it answered, how it left the topology, and what it
reported on the way. Requests are checked before anything is changed, in the order given in
each operation.
-/

namespace DisplayServer

/-- What an operation answered, how it left the topology, and the events it reported. -/
structure Outcome (α : Type) where
  result : Except Error α
  topology : Topology
  events : List TopologyEvent

/-- How screens made unique are turned: where `locked`, to `rotation`. -/
structure UniqueRotation where
  locked : Bool
  rotation : Rotation
  deriving DecidableEq

instance : Inhabited UniqueRotation := ⟨⟨false, .deg0⟩⟩

namespace Outcome

/-- The operation was refused and nothing was done. -/
def refuse {α : Type} (t : Topology) (e : Error) : Outcome α := ⟨.error e, t, []⟩

/-- The operation was refused because of its arguments. -/
def reject {α : Type} (t : Topology) (fault : ParameterFault) : Outcome α :=
  refuse t (.invalidParameter fault)

/-- The operation was done by an edit. -/
def done {α : Type} (d : Draft) (a : α) : Outcome α := ⟨.ok a, d.topology, d.events⟩

end Outcome

namespace Topology

/-! ## Checks -/

/-- What is wrong with the first of these numbers that names no live screen. -/
def leafFault? (t : Topology) : List ScreenId → Option ParameterFault
  | [] => none
  | id :: rest =>
    match t.nodes.get? id with
    | none => some (.unknownScreen id)
    | some (.group _) => some (.notALeaf id)
    | some (.leaf _) => t.leafFault? rest

/-- The numbers without repetitions, each at its first place. -/
def distinct : List ScreenId → List ScreenId
  | [] => []
  | id :: rest => id :: (distinct rest).filter (· ≠ id)

/-! ## Panels -/

def panelFault? (panel : PanelDescription) : Option ParameterFault :=
  if panel.modes.isEmpty then some .panelWithoutModes
  else if panel.modes.length ≤ panel.activeMode then
    some (.activeModeOutOfRange panel.activeMode panel.modes.length)
  else if panel.pixelRatio > 0 then none
  else some .pixelRatioNotPositive

/-- The group that panels join: the default group, or a new one that the panel `id` heads. -/
def homeGroup (t : Topology) (id : ScreenId) : Topology × ScreenId :=
  match t.defaultGroup with
  | some g => (t, g)
  | none =>
    let g := t.nextScreenId
    ({ t.drawScreenId.createGroup g .alone (some id) with defaultGroup := some g }, g)

/-- A panel was plugged in. The first one becomes the default screen; all join the default
group. -/
def connect (t : Topology) (renderId : RenderId) (panel : PanelDescription) :
    Outcome ScreenId :=
  match panelFault? panel with
  | some fault => .reject t fault
  | none =>
    if t.renderIndex.contains renderId then .reject t (.alreadyConnected renderId)
    else
      let id := t.nextScreenId
      let screen := Screen.ofPanel id renderId panel
      let t := t.drawScreenId.putScreen screen
      let t := { t with
        renderIndex := t.renderIndex.insert renderId id
        defaultScreen := if t.defaultScreen.isNone then some id else t.defaultScreen }
      let (t, home) := t.homeGroup id
      .done (((Draft.begin t).emit (.connected screen.report)).attach id home .origin) id

/-- The screen under a render-engine number was unplugged. -/
def disconnect (t : Topology) (renderId : RenderId) : Outcome ScreenId :=
  match t.screenOf? renderId with
  | none => .reject t (.notConnected renderId)
  | some id => .done ((Draft.begin t).erase id) id

/-! ## Software screens -/

/-- What is wrong with the request for a software screen. -/
def requestFault? (request : VirtualScreenRequest) : Option ParameterFault :=
  if request.width = 0 ∨ request.height = 0 then
    some (.emptyVirtualScreen request.width request.height)
  else if request.density > 0 then none
  else some .densityNotPositive

/-- Makes a software screen that is in no group. -/
def create (t : Topology) (request : VirtualScreenRequest) : Outcome ScreenId :=
  match requestFault? request with
  | some fault => .reject t fault
  | none =>
    let id := t.nextScreenId
    let renderId : RenderId := ⟨t.virtualRenderIds.peek⟩
    let screen := Screen.ofRequest id renderId request
    let t := t.drawScreenId.putScreen screen
    let t := { t with
      virtualRenderIds := t.virtualRenderIds.advance
      renderIndex := t.renderIndex.insert renderId id }
    .done ((Draft.begin t).emit (.connected screen.report)) id

/-- The live software screen of this number. -/
def virtual? (t : Topology) (id : ScreenId) : Option Screen :=
  (t.screen? id).filter Screen.isVirtual

def destroy (t : Topology) (id : ScreenId) : Outcome Unit :=
  match t.virtual? id with
  | none => .refuse t (.invalidScreen id)
  | some _ => .done ((Draft.begin t).erase id) ()

/-- Gives a software screen another surface, or takes its surface away. -/
def setSurface (t : Topology) (id : ScreenId) (surface : Option SurfaceHandle) : Outcome Unit :=
  match t.virtual? id with
  | none => .refuse t (.invalidScreen id)
  | some _ => .done (.begin (t.modifyScreen id fun s => { s with surface })) ()

/-! ## Composition -/

/-- Moves a screen into a group, unless it names the group already. -/
def mirrorOnto (groupId : ScreenId) (d : Draft) (id : ScreenId) : Draft :=
  if d.topology.parent? id = some groupId then d
  else (d.leave id .detached).attach id groupId .origin

/-- Shows `main` on the listed screens too. The mirror that `main` already has is used again;
the source is not one of its children. -/
def mirror (t : Topology) (main : ScreenId) (ids : List ScreenId) : Outcome ScreenId :=
  if ids.isEmpty then .reject t .nothingToMirror
  else if ids.contains main then .reject t (.mirrorsItself main)
  else
    match t.leafFault? (main :: ids) with
    | some fault => .reject t fault
    | none =>
      let (t, groupId) := match t.mirrorsOf main with
        | g :: _ => (t, g)
        | [] =>
          let g := t.nextScreenId
          (t.drawScreenId.createGroup g .mirror (some main), g)
      .done ((distinct ids).foldl (mirrorOnto groupId) (.begin t)) groupId

/-- Gives a screen its place on an extended desktop, moving it there unless it names the group
already. -/
def expandOnto (groupId : ScreenId) (d : Draft) (placed : ScreenId × Point) : Draft :=
  if d.topology.parent? placed.1 = some groupId then
    d.edit fun t => t.modifyGroup groupId fun c => c.place placed.1 placed.2
  else (d.leave placed.1 .detached).attach placed.1 groupId placed.2

/-- Extends one desktop over the listed screens, each at its start point. The desktop that the
first screen is already part of is used again. -/
def expand (t : Topology) (ids : List ScreenId) (starts : List Point) : Outcome ScreenId :=
  match ids with
  | [] => .reject t .nothingToExpand
  | first :: _ =>
    if ids.length ≠ starts.length then
      .reject t (.startPointMismatch ids.length starts.length)
    else if (distinct ids).length ≠ ids.length then .reject t .listedTwice
    else
      match t.leafFault? ids with
      | some fault => .reject t fault
      | none =>
        let desktop? := (t.parent? first).filter fun g => t.combination? g == some .expand
        let (t, groupId) := match desktop? with
          | some g => (t, g)
          | none =>
            let g := t.nextScreenId
            (t.drawScreenId.createGroup g .expand (some first), g)
        .done ((ids.zip starts).foldl (expandOnto groupId) (.begin t)) groupId

/-- Makes one screen unique: it leaves its group, turns where the rotation is locked, and gets
a new display number. -/
def makeUniqueStep (turn : UniqueRotation) (id : ScreenId) (d : Draft) :
    Except Error DisplayId × Draft :=
  let d := d.leave id .madeUnique
  match d.topology.screen? id with
  | none => (.error (.invalidScreen id), d)
  | some s =>
    let s := if turn.locked then { s with rotation := turn.rotation } else s
    let display : DisplayId := ⟨d.topology.displayIds.peek⟩
    let d := d.edit fun t =>
      { t.putScreen s with displayIds := t.displayIds.advance }
    (.ok display, d.emit (.becameUnique s.report display))

/-- Makes the listed screens unique, one after the other. -/
def makeUniqueSteps (turn : UniqueRotation) :
    List ScreenId → Draft → Except Error (List DisplayId) × Draft
  | [], d => (.ok [], d)
  | id :: rest, d =>
    match makeUniqueStep turn id d with
    | (.error e, d) => (.error e, d)
    | (.ok display, d) =>
      match makeUniqueSteps turn rest d with
      | (.error e, d) => (.error e, d)
      | (.ok displays, d) => (.ok (display :: displays), d)

/-- Makes each listed screen stand on its own with a display of a new number; the numbers are
answered in order. -/
def makeUnique (t : Topology) (ids : List ScreenId) (turn : UniqueRotation) :
    Outcome (List DisplayId) :=
  if ids.isEmpty then .reject t .nothingToMakeUnique
  else
    match ids.find? fun id => (t.screen? id).isNone with
    | some id => .refuse t (.invalidScreen id)
    | none =>
      let (result, d) := makeUniqueSteps turn (distinct ids) (.begin t)
      ⟨result, d.topology, d.events⟩

/-- A screen leaves its group if the group composes that way. -/
def stopStep (combination : Combination) (d : Draft) (id : ScreenId) : Draft :=
  match d.topology.parent? id with
  | some groupId =>
    if d.topology.combination? groupId = some combination then d.leave id .detached else d
  | none => d

/-- The listed screens leave groups that compose that way. -/
def stop (t : Topology) (combination : Combination) (ids : List ScreenId) : Outcome Unit :=
  match t.leafFault? ids with
  | some fault => .reject t fault
  | none => .done (ids.foldl (stopStep combination) (.begin t)) ()

def stopMirror (t : Topology) (ids : List ScreenId) : Outcome Unit := t.stop .mirror ids

def stopExpand (t : Topology) (ids : List ScreenId) : Outcome Unit := t.stop .expand ids

/-- A software screen leaves its group; any other number is skipped. -/
def ungroupStep (d : Draft) (id : ScreenId) : Draft :=
  if (d.topology.virtual? id).isSome then d.leave id .detached else d

/-- The listed software screens leave their groups. -/
def ungroup (t : Topology) (ids : List ScreenId) : Outcome Unit :=
  .done (ids.foldl ungroupStep (.begin t)) ()

/-! ## Properties of screens -/

def rotate (t : Topology) (id : ScreenId) (rotation : Rotation) : Outcome Unit :=
  match t.screen? id with
  | none => .refuse t (.invalidScreen id)
  | some s =>
    if s.rotation = rotation then .done (.begin t) ()
    else
      let s := { s with rotation }
      .done ((Draft.begin (t.putScreen s)).emit (.changed s.report .rotation)) ()

def setMode (t : Topology) (id : ScreenId) (index : Nat) : Outcome Unit :=
  match t.screen? id with
  | none => .refuse t (.invalidScreen id)
  | some s =>
    if s.modes.length ≤ index then .reject t (.modeOutOfRange index s.modes.length)
    else if s.activeMode = index then .done (.begin t) ()
    else
      let s := { s with activeMode := index }
      .done ((Draft.begin (t.putScreen s)).emit (.changed s.report .mode)) ()

def gamuts (t : Topology) (id : ScreenId) : Except Error (List ColorGamut) :=
  match t.screen? id with
  | none => .error (.invalidScreen id)
  | some s => if s.gamuts.isEmpty then .error (.unsupported "color gamut query") else .ok s.gamuts

/-- Records the power state of a screen, and says whether there is such a screen. -/
def setPower (t : Topology) (id : ScreenId) (power : ScreenPower) : Topology × Bool :=
  (t.modifyScreen id fun s => { s with power }, (t.screen? id).isSome)

/-- Gives every panel the power state. -/
def powerPanel (power : ScreenPower) : Node → Node
  | .leaf s => if s.isVirtual then .leaf s else .leaf { s with power }
  | .group g => .group g

/-- Records the power state of all panels, and says how many there are. -/
def setPanelPower (t : Topology) (power : ScreenPower) : Topology × Nat :=
  ({ t with nodes := t.nodes.map (powerPanel power) },
    (t.screens.filter fun s => !s.isVirtual).length)

end Topology

end DisplayServer
