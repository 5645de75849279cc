import DisplayServer.Gesture.Area
import DisplayServer.Posture
import DisplayServer.Screen

/-!
# Settings

What can be set for a server: what it is called and how much it logs, the panel it is built
with, the hot zones of windows, the pace of frames, and whether the device folds. Every setting
has a default. Where the settings file lies is decided by the environment.
-/

namespace DisplayServer

/-- The panel that is connected from the start. -/
structure ScreenSettings where
  name : String
  width : Nat
  height : Nat
  refreshRate : Nat
  pixelRatio : Float32
  gamuts : List ColorGamut
  deriving DecidableEq

/-- The settings of a server. -/
structure Settings where
  /-- The version of the settings themselves. -/
  version : String
  logLevel : String
  screen : ScreenSettings
  hotZone : HotZone
  /-- The pixel ratio assumed for windows without a display. -/
  fallbackRatio : Float32
  /-- Milliseconds from frame to frame. -/
  framePeriod : Nat
  fold : FoldCapability
  deriving DecidableEq

namespace ScreenSettings

def standard : ScreenSettings :=
  { name := "builtin"
    width := 1920
    height := 1080
    refreshRate := 60
    pixelRatio := 1.5
    gamuts := [.native, .srgb] }

instance : Inhabited ScreenSettings := ⟨standard⟩

/-- The panel as it is connected: with one mode. -/
def panel (s : ScreenSettings) : PanelDescription :=
  { name := s.name
    modes := [⟨s.width, s.height, s.refreshRate⟩]
    activeMode := 0
    pixelRatio := s.pixelRatio
    gamuts := s.gamuts }

/-- Whether two panels agree; measures are compared as numbers. -/
def agrees (a b : ScreenSettings) : Bool :=
  a.name == b.name && a.width == b.width && a.height == b.height &&
    a.refreshRate == b.refreshRate && a.pixelRatio == b.pixelRatio && a.gamuts == b.gamuts

end ScreenSettings

namespace Settings

def standard : Settings :=
  { version := "1.0"
    logLevel := "info"
    screen := .standard
    hotZone := .standard
    fallbackRatio := 1.5
    framePeriod := 16
    fold := ⟨false, []⟩ }

instance : Inhabited Settings := ⟨standard⟩

/-- Whether two settings agree; measures are compared as numbers, so what is not a number agrees
with nothing. -/
def agrees (a b : Settings) : Bool :=
  a.version == b.version && a.logLevel == b.logLevel && a.screen.agrees b.screen &&
    a.hotZone.frameWidth == b.hotZone.frameWidth &&
    a.hotZone.cornerWidth == b.hotZone.cornerWidth &&
    a.hotZone.pointerBand == b.hotZone.pointerBand &&
    a.hotZone.touchBand == b.hotZone.touchBand && a.fallbackRatio == b.fallbackRatio &&
    a.framePeriod == b.framePeriod && a.fold == b.fold

end Settings

/-- Why settings cannot be loaded or saved. -/
inductive SettingsError
  /-- The environment names no directory for settings. -/
  | noDirectory
  /-- The file cannot be read or written. -/
  | inaccessible
  /-- The file is no settings file. -/
  | malformed
  /-- A setting has no written form. -/
  | unwritable
  deriving DecidableEq, Inhabited

namespace SettingsError

instance : Symbol SettingsError where
  all := [noDirectory, inaccessible, malformed, unwritable]
  name
    | noDirectory => "NoPlatformConfigDir"
    | inaccessible => "Io"
    | malformed => "Parse"
    | unwritable => "Serialize"

/-- The error in words, where they do not depend on the file. -/
def message? : SettingsError → Option String
  | noDirectory => some "could not determine platform config directory"
  | unwritable => some "failed to serialize config: out-of-range value for u64 type"
  | inaccessible | malformed => none

end SettingsError

/-! ## Where the settings file lies -/

/-- What the environment says about directories. -/
structure Environment where
  /-- The directory of all settings, if one is named. -/
  configHome : Option String
  home : Option String
  deriving DecidableEq

def joinPath (base name : String) : String :=
  if base.isEmpty || base.endsWith "/" then base ++ name else base ++ "/" ++ name

namespace Environment

def settingsDirectory (e : Environment) : Except SettingsError String :=
  match e.configHome, e.home with
  | some base, _ => .ok (joinPath base "dmserver")
  | none, some home => .ok (joinPath (joinPath home ".config") "dmserver")
  | none, none => .error .noDirectory

/-- The server's settings file. -/
def settingsFile (e : Environment) : Except SettingsError String :=
  e.settingsDirectory.map fun directory => joinPath directory "config.toml"

end Environment

end DisplayServer
