import DisplayServer.Screen

/-!
# Displays

A display is what a compositor draws for: it is bound to one screen at a time and caches that
screen's geometry (`Display.ofScreen`, `Display.refreshed`). This file also holds the words for
display states, power transitions and the posture of a foldable device.
-/

namespace DisplayServer

/-- State of all displays of the device. -/
inductive DisplayState
  | unknown
  | off
  | on
  | doze
  | dozeSuspend
  | onSuspend
  | vr
  deriving DecidableEq, Inhabited

instance : Symbol DisplayState where
  all := [.unknown, .off, .on, .doze, .dozeSuspend, .onSuspend, .vr]
  name
    | .unknown => "Unknown"
    | .off => "Off"
    | .on => "On"
    | .doze => "Doze"
    | .dozeSuspend => "DozeSuspend"
    | .onSuspend => "OnSuspend"
    | .vr => "Vr"

/-- Dots per inch at a pixel ratio of 1. -/
def baselineDensity : Float32 := 160

/-- A display, with the geometry of its screen as last read. -/
structure Display where
  id : DisplayId
  screen : ScreenId
  name : String
  /-- Size as presented. -/
  width : Nat
  height : Nat
  /-- Size of the panel before rotation. -/
  physicalWidth : Nat
  physicalHeight : Nat
  refreshRate : Nat
  pixelRatio : Float32
  dpi : Float32
  rotation : Rotation
  orientation : Orientation
  state : DisplayState
  alive : Bool
  availableArea : Rect
  deriving DecidableEq

namespace Display

def wholeArea (width height : Nat) : Rect := ⟨0, 0, Pixel.wrap width, Pixel.wrap height⟩

def ofScreen (id : DisplayId) (s : ScreenReport) : Display :=
  { id
    screen := s.id
    name := "display-" ++ toString id.val
    width := s.width
    height := s.height
    physicalWidth := if s.rotation.swapsSides then s.height else s.width
    physicalHeight := if s.rotation.swapsSides then s.width else s.height
    refreshRate := s.refreshRate
    pixelRatio := s.pixelRatio
    dpi := s.pixelRatio * baselineDensity
    rotation := s.rotation
    orientation := s.orientation
    state := .unknown
    alive := true
    availableArea := wholeArea s.width s.height }

/-- The display with its geometry read again. Identity, name, state and liveness stay, and so
does the available area unless the size changed. -/
def refreshed (d : Display) (s : ScreenReport) : Display :=
  { ofScreen d.id s with
    name := d.name
    state := d.state
    alive := d.alive
    availableArea :=
      if s.width = d.width ∧ s.height = d.height then d.availableArea
      else wholeArea s.width s.height }

/-- Whether an observer sees no difference between two records: measures are compared as
numbers, so not-a-number differs from itself and the zeros are one. -/
def looksLike (a b : Display) : Bool :=
  a.id == b.id && a.screen == b.screen && a.name == b.name &&
  a.width == b.width && a.height == b.height &&
  a.physicalWidth == b.physicalWidth && a.physicalHeight == b.physicalHeight &&
  a.refreshRate == b.refreshRate && a.pixelRatio == b.pixelRatio && a.dpi == b.dpi &&
  a.rotation == b.rotation && a.orientation == b.orientation && a.state == b.state &&
  a.alive == b.alive && a.availableArea == b.availableArea

/-- Whether reading the geometry again changes what an observer sees. -/
def changesWith (d : Display) (s : ScreenReport) : Bool := !(d.refreshed s).looksLike d

end Display

/-! ## Foldable devices -/

/-- Posture of a foldable device. -/
inductive FoldStatus
  | unknown
  | expand
  | folded
  | halfFold
  deriving DecidableEq, Inhabited

instance : Symbol FoldStatus where
  all := [.unknown, .expand, .folded, .halfFold]
  name
    | .unknown => "Unknown"
    | .expand => "Expand"
    | .folded => "Folded"
    | .halfFold => "HalfFold"

/-- Which panels of a foldable device show content. -/
inductive FoldDisplayMode
  | unknown
  | full
  | main
  | sub
  | coordination
  deriving DecidableEq, Inhabited

namespace FoldDisplayMode

instance : Symbol FoldDisplayMode where
  all := [unknown, full, main, sub, coordination]
  name
    | unknown => "Unknown"
    | full => "Full"
    | main => "Main"
    | sub => "Sub"
    | coordination => "Coordination"

def impliedStatus : FoldDisplayMode → Option FoldStatus
  | main | sub => some .folded
  | full | coordination => some .expand
  | unknown => none

end FoldDisplayMode

/-- The part of a display that the hinge covers. -/
structure CreaseRegion where
  display : Option DisplayId
  rects : List Rect
  deriving DecidableEq

/-! ## Power -/

/-- Power transitions that listeners hear of. -/
inductive PowerTransition
  | wakeUp
  | sleep
  | displayOn
  | displayOff
  | desktopReady
  deriving DecidableEq, Inhabited

instance : Symbol PowerTransition where
  all := [.wakeUp, .sleep, .displayOn, .displayOff, .desktopReady]
  name
    | .wakeUp => "WakeUp"
    | .sleep => "Sleep"
    | .displayOn => "DisplayOn"
    | .displayOff => "DisplayOff"
    | .desktopReady => "DesktopReady"

/-- Whether a transition begins or has ended. -/
inductive Phase
  | beginning
  | ending
  deriving DecidableEq, Inhabited

instance : Symbol Phase where
  all := [.beginning, .ending]
  name
    | .beginning => "Begin"
    | .ending => "End"

/-- Why a power transition was asked for. -/
inductive PowerReason
  | application
  | powerButton
  | timeout
  | collaboration
  deriving DecidableEq, Inhabited

instance : Symbol PowerReason where
  all := [.application, .powerButton, .timeout, .collaboration]
  name
    | .application => "Application"
    | .powerButton => "PowerButton"
    | .timeout => "Timeout"
    | .collaboration => "Collaboration"

end DisplayServer
