import DisplayServer.Settings.Reader
import DisplayServer.Toml.Text

/-!
# Settings files

Settings are written with every setting in it, in groups and in a fixed order. A file system is
seen only as far as loading and saving depend on it: what stands where the file is looked for
(`SettingsFile`), and what stands where it is to be written (`SettingsPlace`).
-/

namespace DisplayServer

namespace Settings

/-! ## Text -/

/-- A setting on a line of its own. -/
def line (name value : String) : String := name ++ " = " ++ value ++ "\n"

def heading (name : String) : String := "[" ++ name ++ "]\n"

/-- A measure as it is written: in double precision. -/
def written (v : Float32) : String := Toml.measureText (widen v)

def writtenTruth (b : Bool) : String := if b then "true" else "false"

/-- A list of names; more than one are written one to a line. -/
def writtenNames : List String → String
  | [] => "[]"
  | [name] => "[" ++ Toml.quoted name ++ "]"
  | names =>
    "[\n" ++ String.join (names.map fun name => "    " ++ Toml.quoted name ++ ",\n") ++ "]"

def writtenCrease (r : Rect) : String :=
  "\n[[fold.crease_rects]]\n" ++ line "pos_x" (toString r.x) ++ line "pos_y" (toString r.y) ++
    line "width" (toString r.width) ++ line "height" (toString r.height)

def writtenCreases : List Rect → String
  | [] => line "crease_rects" "[]"
  | creases => String.join (creases.map writtenCrease)

/-- The text of a settings file. The numbers of a file have 63 bits, which a frame period may
not fit. -/
def text? (s : Settings) : Option String :=
  if s.framePeriod ≤ 9223372036854775807 then
    some (heading "service" ++ line "version" (Toml.quoted s.version) ++
      line "log_level" (Toml.quoted s.logLevel) ++ "\n" ++
      heading "default_screen" ++ line "name" (Toml.quoted s.screen.name) ++
      line "width" (toString s.screen.width) ++ line "height" (toString s.screen.height) ++
      line "refresh_rate" (toString s.screen.refreshRate) ++
      line "virtual_pixel_ratio" (written s.screen.pixelRatio) ++
      line "color_gamuts" (writtenNames (s.screen.gamuts.map Symbol.name)) ++ "\n" ++
      heading "drag" ++ line "window_frame_width" (written s.hotZone.frameWidth) ++
      line "window_frame_corner_width" (written s.hotZone.cornerWidth) ++
      line "hotzone_pointer" (written s.hotZone.pointerBand) ++
      line "hotzone_touch" (written s.hotZone.touchBand) ++
      line "fallback_vpr" (written s.fallbackRatio) ++ "\n" ++
      heading "vsync" ++ line "frame_period_ms" (toString s.framePeriod) ++ "\n" ++
      heading "fold" ++ line "foldable" (writtenTruth s.fold.foldable) ++
      writtenCreases s.fold.creases)
  else none

end Settings

/-! ## Files -/

/-- What stands where a settings file is looked for. -/
inductive SettingsFile
  | missing
  | file (content : ByteArray)
  /-- Something that is not a file. -/
  | directory

/-- What stands where a settings file is to be written. -/
inductive SettingsPlace
  /-- Nothing, or a file; directories on the way are made. -/
  | free
  /-- A directory stands there. -/
  | directory
  /-- A file stands on the way. -/
  | blocked
  deriving DecidableEq

namespace Settings

/-- Loads settings; a missing file sets nothing. -/
def load : SettingsFile → Except SettingsError Settings
  | .missing => .ok .standard
  | .directory => .error .inaccessible
  | .file content =>
    match String.fromUTF8? content with
    | none => .error .inaccessible
    | some text =>
      match ofText? text with
      | none => .error .malformed
      | some settings => .ok settings

/-- Saves settings. Answers the text that is written then. -/
def save (s : Settings) (place : SettingsPlace) : Except SettingsError String :=
  match place, s.text? with
  | .blocked, _ => .error .inaccessible
  | _, none => .error .unwritable
  | .directory, some _ => .error .inaccessible
  | .free, some text => .ok text

end Settings

end DisplayServer
