import DisplayServer.Measure
import DisplayServer.Settings.Basic
import DisplayServer.Toml.Reader

/-!
# Reading settings

`Settings.ofToml?` reads the settings that a document makes and leaves all others at their
defaults. Keys that are no settings are ignored; a setting of the wrong type or out of range
spoils the whole document.
-/

namespace DisplayServer

namespace Toml

/-! ## Values -/

def text? : Toml → Option String
  | .text s => some s
  | _ => none

def truth? : Toml → Option Bool
  | .truth b => some b
  | _ => none

def wholeIn? (low high : Int) : Toml → Option Int
  | .whole n => if low ≤ n ∧ n ≤ high then some n else none
  | _ => none

def natUpTo? (high : Nat) (v : Toml) : Option Nat := (v.wholeIn? 0 high).map Int.toNat

def coordinate? (v : Toml) : Option Int := v.wholeIn? Pixel.least Pixel.greatest

/-- A value as a measure; whole numbers are measures too. -/
def measure? : Toml → Option Float32
  | .measure v => some (narrow v)
  | .whole n =>
    some (Float32.ofBits (BinaryFormat.single.signed (n < 0)
      (BinaryFormat.single.nearest n.natAbs 1)).toUInt32)
  | _ => none

/-- The items of a list of values, or of repeated tables. -/
def items? : Toml → Option (List Toml)
  | .array items => some items
  | .tables items => some (items.map (.table .header))
  | _ => none

def list? {α : Type} (read? : Toml → Option α) (v : Toml) : Option (List α) :=
  v.items?.bind fun items => items.mapM read?

/-- Whether a value is a list or a table with nothing in it. -/
def isEmpty : Toml → Bool
  | .array [] | .tables [] | .table _ [] => true
  | _ => false

/-- A value of an enumeration: its name, or a table with that name and nothing in it. -/
def symbol? {α : Type} [Symbol α] : Toml → Option α
  | .text s => Symbol.ofName? s
  | .table _ [(s, v)] => if v.isEmpty then Symbol.ofName? s else none
  | _ => none

/-! ## Groups of settings -/

/-- The members of a group with these names. A list gives them in the order of the names, as
many as it has; a date names none of them. -/
def group? (names : List String) : Toml → Option Members
  | .table _ members => some members
  | .array items => some (names.zip items)
  | .tables items => some (names.zip (items.map (.table .header)))
  | .moment => some []
  | _ => none

/-- A member of a group; none where it is not readable. -/
def Members.field? {α : Type} (m : Members) (name : String) (read? : Toml → Option α)
    (default : α) : Option α :=
  match m.lookup name with
  | none => some default
  | some v => read? v

/-- A member that a group has to have. -/
def Members.required? {α : Type} (m : Members) (name : String) (read? : Toml → Option α) :
    Option α := (m.lookup name).bind read?

/-- A member that is a group itself; a missing one has nothing in it. -/
def Members.group? (m : Members) (name : String) (names : List String) : Option Members :=
  m.field? name (Toml.group? names) []

/-- A rectangle, of which nothing may be missing. -/
def rect? (v : Toml) : Option Rect := do
  let m ← v.group? ["pos_x", "pos_y", "width", "height"]
  some ⟨← m.required? "pos_x" coordinate?, ← m.required? "pos_y" coordinate?,
    ← m.required? "width" coordinate?, ← m.required? "height" coordinate?⟩

end Toml

namespace Settings

open Toml

def greatestSize : Nat := 4294967295

/-- The greatest number of 64 bits. -/
def greatestPeriod : Nat := 18446744073709551615

def screenOf? (m : Members) : Option ScreenSettings := do
  let d := ScreenSettings.standard
  some {
    name := ← m.field? "name" text? d.name
    width := ← m.field? "width" (natUpTo? greatestSize) d.width
    height := ← m.field? "height" (natUpTo? greatestSize) d.height
    refreshRate := ← m.field? "refresh_rate" (natUpTo? greatestSize) d.refreshRate
    pixelRatio := ← m.field? "virtual_pixel_ratio" measure? d.pixelRatio
    gamuts := ← m.field? "color_gamuts" (list? symbol?) d.gamuts }

def hotZoneOf? (m : Members) : Option HotZone := do
  let d := HotZone.standard
  some {
    frameWidth := ← m.field? "window_frame_width" measure? d.frameWidth
    cornerWidth := ← m.field? "window_frame_corner_width" measure? d.cornerWidth
    pointerBand := ← m.field? "hotzone_pointer" measure? d.pointerBand
    touchBand := ← m.field? "hotzone_touch" measure? d.touchBand }

def ofToml? (document : Members) : Option Settings := do
  let d := Settings.standard
  let service ← document.group? "service" ["version", "log_level"]
  let screen ← document.group? "default_screen"
    ["name", "width", "height", "refresh_rate", "virtual_pixel_ratio", "color_gamuts"]
  let drag ← document.group? "drag"
    ["window_frame_width", "window_frame_corner_width", "hotzone_pointer", "hotzone_touch",
      "fallback_vpr"]
  let vsync ← document.group? "vsync" ["frame_period_ms"]
  let fold ← document.group? "fold" ["foldable", "crease_rects"]
  some {
    version := ← service.field? "version" text? d.version
    logLevel := ← service.field? "log_level" text? d.logLevel
    screen := ← screenOf? screen
    hotZone := ← hotZoneOf? drag
    fallbackRatio := ← drag.field? "fallback_vpr" measure? d.fallbackRatio
    framePeriod := ← vsync.field? "frame_period_ms" (natUpTo? greatestPeriod) d.framePeriod
    fold := ⟨← fold.field? "foldable" truth? d.fold.foldable,
      ← fold.field? "crease_rects" (list? rect?) d.fold.creases⟩ }

def ofText? (text : String) : Option Settings := (Toml.parse? text.toList).bind ofToml?

end Settings

end DisplayServer
