import DisplayServer.Agent.Event

/-!
# The topology: screens, groups and how they hang together

A topology holds the live screens and groups in one table by identifier. A screen names the
group that lists it (`Screen.parent`) and the group lists the screen (`Composition.slots`).
Beside the table stand the index by render-engine number, the default screen, the group that
newly plugged panels join, and the sources of identifiers. Display identifiers are drawn here
when a screen is made unique and by the display registry otherwise.
-/

namespace DisplayServer

/-- An entry of the topology: a screen, which is a leaf, or a group. -/
inductive Node
  | leaf (screen : Screen)
  | group (group : ScreenGroup)
  deriving DecidableEq

namespace Node

def leaf? : Node → Option Screen
  | leaf s => some s
  | group _ => none

def group? : Node → Option ScreenGroup
  | leaf _ => none
  | group g => some g

/-- What a reader is told about the entry. -/
def report : Node → ScreenReport
  | leaf s => s.report
  | group g => g.report

end Node

/-- Screens, groups and the sources of their identifiers. -/
structure Topology where
  nodes : Table ScreenId Node
  /-- Which screen the render engine means by a number. -/
  renderIndex : Table RenderId ScreenId
  defaultScreen : Option ScreenId
  /-- The group that newly plugged panels join. -/
  defaultGroup : Option ScreenId
  screenIds : IdSource
  displayIds : IdSource
  virtualRenderIds : IdSource
  deriving DecidableEq

namespace Topology

/-- The render engine numbers software screens from here. -/
def firstVirtualRenderId : Nat := 1000

def empty : Topology :=
  { nodes := .empty
    renderIndex := .empty
    defaultScreen := none
    defaultGroup := none
    screenIds := .startingAt 0
    displayIds := .startingAt 0
    virtualRenderIds := .startingAt firstVirtualRenderId }

instance : Inhabited Topology := ⟨empty⟩

/-! ## Looking up -/

def screen? (t : Topology) (id : ScreenId) : Option Screen := (t.nodes.get? id).bind Node.leaf?

def group? (t : Topology) (id : ScreenId) : Option ScreenGroup :=
  (t.nodes.get? id).bind Node.group?

/-- The group that the screen names as its parent. -/
def parent? (t : Topology) (id : ScreenId) : Option ScreenId := (t.screen? id).bind Screen.parent

def combination? (t : Topology) (id : ScreenId) : Option Combination :=
  (t.group? id).map fun g => g.composition.combination

def screens (t : Topology) : List Screen := t.nodes.values.filterMap Node.leaf?

def groups (t : Topology) : List ScreenGroup := t.nodes.values.filterMap Node.group?

def report? (t : Topology) (id : ScreenId) : Option ScreenReport :=
  (t.nodes.get? id).map Node.report

/-- What a reader is told about the membership of a group. -/
def membership? (t : Topology) (id : ScreenId) : Option GroupReport :=
  (t.group? id).map ScreenGroup.membership

/-- Reports of all screens and groups, by ascending number. -/
def reports (t : Topology) : List ScreenReport := t.nodes.values.map Node.report

/-- The children of a group, in order of joining; nothing else has any. -/
def children (t : Topology) (id : ScreenId) : List ScreenId :=
  match t.group? id with
  | some g => g.composition.children
  | none => []

/-- The screen that the render engine means by a number. -/
def screenOf? (t : Topology) (r : RenderId) : Option ScreenId := t.renderIndex.get? r

def isMirrorOf (main : ScreenId) (g : ScreenGroup) : Bool :=
  g.composition.combination == .mirror && g.composition.main == some main

/-- The groups that mirror `main`, by ascending number. -/
def mirrorsOf (t : Topology) (main : ScreenId) : List ScreenId :=
  (t.groups.filter (isMirrorOf main)).map ScreenGroup.id

/-- The panel of the least number. -/
def firstPanel? (t : Topology) : Option ScreenId :=
  (t.screens.find? fun s => !s.isVirtual).map Screen.id

/-! ## Writing -/

def putScreen (t : Topology) (s : Screen) : Topology :=
  { t with nodes := t.nodes.insert s.id (.leaf s) }

def modifyScreen (t : Topology) (id : ScreenId) (f : Screen → Screen) : Topology :=
  match t.screen? id with
  | some s => { t with nodes := t.nodes.insert id (.leaf (f s)) }
  | none => t

/-- Updates how a live group is composed. -/
def modifyGroup (t : Topology) (id : ScreenId) (f : Composition → Composition) : Topology :=
  match t.group? id with
  | some g =>
    { t with nodes := t.nodes.insert id (.group { g with composition := f g.composition }) }
  | none => t

/-- A group nobody has joined, under a number of its own. -/
def createGroup (t : Topology) (id : ScreenId) (combination : Combination)
    (main : Option ScreenId) : Topology :=
  { t with nodes := t.nodes.insert id (.group ⟨id, .fresh combination main⟩) }

/-- The next number for a screen or a group. -/
def nextScreenId (t : Topology) : ScreenId := ⟨t.screenIds.peek⟩

/-- The topology with that number drawn. -/
def drawScreenId (t : Topology) : Topology := { t with screenIds := t.screenIds.advance }

end Topology

end DisplayServer
