import DisplayServer.Geometry
import DisplayServer.Identity
import DisplayServer.Symbol

/-!
# Screens and screen groups

A screen is something that can be drawn on: a panel, or a software screen that renders into a
surface. A screen group composes screens: each child alone, every child showing one source, or
the children spread over one desktop. Groups are numbered and reported like screens.

Screens and groups belong to the topology; everyone else sees the reports taken here
(`Screen.report`, `ScreenGroup.report`, `ScreenGroup.membership`).
-/

namespace DisplayServer

/-- One resolution and refresh rate that a screen can show. -/
structure ScreenMode where
  width : Nat
  height : Nat
  refreshRate : Nat
  deriving DecidableEq

/-- Rotation of the picture on a screen. -/
inductive Rotation
  | deg0
  | deg90
  | deg180
  | deg270
  deriving DecidableEq, Inhabited

namespace Rotation

instance : Symbol Rotation where
  all := [deg0, deg90, deg180, deg270]
  name
    | deg0 => "Rotation0"
    | deg90 => "Rotation90"
    | deg180 => "Rotation180"
    | deg270 => "Rotation270"

/-- Whether width and height trade places. -/
def swapsSides : Rotation → Bool
  | deg90 | deg270 => true
  | _ => false

end Rotation

/-- The orientation that a client asked for. -/
inductive Orientation
  | unspecified
  | vertical
  | horizontal
  | reverseVertical
  | reverseHorizontal
  | sensor
  deriving DecidableEq, Inhabited

instance : Symbol Orientation where
  all := [.unspecified, .vertical, .horizontal, .reverseVertical, .reverseHorizontal, .sensor]
  name
    | .unspecified => "Unspecified"
    | .vertical => "Vertical"
    | .horizontal => "Horizontal"
    | .reverseVertical => "ReverseVertical"
    | .reverseHorizontal => "ReverseHorizontal"
    | .sensor => "Sensor"

/-- How the children of a group are composed. -/
inductive Combination
  /-- Each child stands alone. -/
  | alone
  /-- Every child shows the source's picture. -/
  | mirror
  /-- The children extend one desktop, each from its start point. -/
  | expand
  deriving DecidableEq, Inhabited

instance : Symbol Combination where
  all := [.alone, .mirror, .expand]
  name
    | .alone => "Alone"
    | .mirror => "Mirror"
    | .expand => "Expand"

/-- What a report is about: a panel, a software screen or a group. -/
inductive ScreenKind
  | physical
  | virtual
  | group
  deriving DecidableEq, Inhabited

instance : Symbol ScreenKind where
  all := [.physical, .virtual, .group]
  name
    | .physical => "Physical"
    | .virtual => "Virtual"
    | .group => "Group"

/-- Power state of a panel. -/
inductive ScreenPower
  | on
  | standBy
  | suspend
  | off
  deriving DecidableEq, Inhabited

instance : Symbol ScreenPower where
  all := [.on, .standBy, .suspend, .off]
  name
    | .on => "PowerOn"
    | .standBy => "PowerStandBy"
    | .suspend => "PowerSuspend"
    | .off => "PowerOff"

/-- Color gamuts that a panel may report. -/
inductive ColorGamut
  | native
  | srgb
  | displayP3
  | bt2020
  deriving DecidableEq, Inhabited

instance : Symbol ColorGamut where
  all := [.native, .srgb, .displayP3, .bt2020]
  name
    | .native => "Native"
    | .srgb => "Srgb"
    | .displayP3 => "DisplayP3"
    | .bt2020 => "Bt2020"

/-- Names the surface that a software screen renders into. -/
structure SurfaceHandle where
  val : Nat
  deriving DecidableEq

/-! ## Groups -/

/-- The place of a child in a group. -/
structure ChildSlot where
  screen : ScreenId
  /-- Where the child's top-left corner lies on an extended desktop. -/
  start : Point
  deriving DecidableEq

/-- What makes a group: how it composes, its children in order of joining, and its main
screen, which is the source of a mirror. -/
structure Composition where
  combination : Combination
  slots : List ChildSlot
  main : Option ScreenId
  deriving DecidableEq

namespace Composition

def fresh (combination : Combination) (main : Option ScreenId) : Composition :=
  { combination, slots := [], main }

/-- The children, in order of joining. -/
def children (c : Composition) : List ScreenId := c.slots.map ChildSlot.screen

def contains (c : Composition) (s : ScreenId) : Bool := c.slots.any fun slot => slot.screen == s

theorem contains_iff (c : Composition) (s : ScreenId) : c.contains s ↔ s ∈ c.children := by
  simp only [contains, children, List.any_eq_true, List.mem_map, beq_iff_eq]

def isEmpty (c : Composition) : Bool := c.slots.isEmpty

/-- Gives `s` the start point: a child keeps its place, another screen joins at the end. -/
def place (c : Composition) (s : ScreenId) (start : Point) : Composition :=
  if c.contains s then
    { c with slots := c.slots.map fun slot =>
        if slot.screen = s then { slot with start } else slot }
  else
    { c with slots := c.slots ++ [⟨s, start⟩] }

theorem children_place (c : Composition) (s : ScreenId) (start : Point) :
    (c.place s start).children =
      if s ∈ c.children then c.children else c.children ++ [s] := by
  unfold place
  by_cases h : c.contains s
  · rw [if_pos h, if_pos ((c.contains_iff s).mp h)]
    simp only [children, List.map_map]
    refine List.map_congr_left fun slot _ => ?_
    simp only [Function.comp_apply]
    split <;> rfl
  · rw [if_neg h, if_neg fun hs => h ((c.contains_iff s).mpr hs)]
    simp [children]

/-- Takes `s` off the list of children. -/
def remove (c : Composition) (s : ScreenId) : Composition :=
  { c with slots := c.slots.filter fun slot => slot.screen != s }

theorem children_remove (c : Composition) (s : ScreenId) :
    (c.remove s).children = c.children.filter (· != s) := by
  simp only [remove, children, List.filter_map]
  rfl

end Composition

/-! ## Screens -/

/-- What is asked of a new software screen. -/
structure VirtualScreenRequest where
  name : String
  width : Nat
  height : Nat
  density : Float32
  surface : Option SurfaceHandle
  deriving DecidableEq

/-- What the hardware says about a panel that was plugged in. -/
structure PanelDescription where
  name : String
  modes : List ScreenMode
  activeMode : Nat
  pixelRatio : Float32
  gamuts : List ColorGamut
  deriving DecidableEq

/-- A screen: a panel, or a software screen when `isVirtual`. -/
structure Screen where
  id : ScreenId
  renderId : RenderId
  isVirtual : Bool
  name : String
  modes : List ScreenMode
  activeMode : Nat
  pixelRatio : Float32
  rotation : Rotation
  orientation : Orientation
  power : ScreenPower
  gamuts : List ColorGamut
  surface : Option SurfaceHandle
  /-- The group that lists this screen. -/
  parent : Option ScreenId
  deriving DecidableEq

/-- A screen group. It stands at the top: groups are not put into groups, so there is no parent to
keep, and a report names none. -/
structure ScreenGroup where
  id : ScreenId
  composition : Composition
  deriving DecidableEq

/-- What a reader is told about a screen or a group. -/
structure ScreenReport where
  id : ScreenId
  name : String
  kind : ScreenKind
  width : Nat
  height : Nat
  refreshRate : Nat
  modes : List ScreenMode
  activeMode : Nat
  pixelRatio : Float32
  rotation : Rotation
  orientation : Orientation
  power : ScreenPower
  parent : Option ScreenId
  isGroup : Bool
  deriving DecidableEq

/-- What a reader is told about the membership of a group; `positions` go with `children`. -/
structure GroupReport where
  id : ScreenId
  combination : Combination
  children : List ScreenId
  positions : List Point
  main : Option ScreenId
  deriving DecidableEq

namespace Screen

/-- A panel as the hardware describes it. -/
def ofPanel (id : ScreenId) (renderId : RenderId) (panel : PanelDescription) : Screen :=
  { id, renderId
    isVirtual := false
    name := panel.name
    modes := panel.modes
    activeMode := panel.activeMode
    pixelRatio := panel.pixelRatio
    rotation := .deg0
    orientation := .unspecified
    power := .on
    gamuts := panel.gamuts
    surface := none
    parent := none }

/-- Software screens are refreshed at this rate. -/
def virtualRefreshRate : Nat := 60

/-- A software screen: its only mode is the size asked for. -/
def ofRequest (id : ScreenId) (renderId : RenderId) (request : VirtualScreenRequest) : Screen :=
  { id, renderId
    isVirtual := true
    name := request.name
    modes := [⟨request.width, request.height, virtualRefreshRate⟩]
    activeMode := 0
    pixelRatio := request.density
    rotation := .deg0
    orientation := .unspecified
    power := .on
    gamuts := []
    surface := request.surface
    parent := none }

/-- The mode being shown; none when the screen has no mode of that index. -/
def shownMode? (s : Screen) : Option ScreenMode := s.modes[s.activeMode]?

/-- Width and height as presented: the shown mode's size, with the sides swapped by a quarter
turn, and no size without a mode. -/
def presentedSize (s : Screen) : Nat × Nat :=
  let size := match s.shownMode? with
    | some m => (m.width, m.height)
    | none => (0, 0)
  if s.rotation.swapsSides then (size.2, size.1) else size

def refreshRate (s : Screen) : Nat :=
  match s.shownMode? with
  | some m => m.refreshRate
  | none => 0

def kind (s : Screen) : ScreenKind := if s.isVirtual then .virtual else .physical

/-- What a reader is told about the screen. -/
def report (s : Screen) : ScreenReport :=
  { id := s.id
    name := s.name
    kind := s.kind
    width := s.presentedSize.1
    height := s.presentedSize.2
    refreshRate := s.refreshRate
    modes := s.modes
    activeMode := s.activeMode
    pixelRatio := s.pixelRatio
    rotation := s.rotation
    orientation := s.orientation
    power := s.power
    parent := s.parent
    isGroup := false }

end Screen

namespace ScreenGroup

/-- A group is reported like a screen that has no modes, no size and no parent. -/
def report (g : ScreenGroup) : ScreenReport :=
  { id := g.id
    name := "group-" ++ toString g.id.val
    kind := .group
    width := 0
    height := 0
    refreshRate := 0
    modes := []
    activeMode := 0
    pixelRatio := 1
    rotation := .deg0
    orientation := .unspecified
    power := .on
    parent := none
    isGroup := true }

/-- What a reader is told about the group's membership. -/
def membership (g : ScreenGroup) : GroupReport :=
  { id := g.id
    combination := g.composition.combination
    children := g.composition.children
    positions := g.composition.slots.map ChildSlot.start
    main := g.composition.main }

end ScreenGroup

end DisplayServer
