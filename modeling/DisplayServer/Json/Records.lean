import DisplayServer.Display
import DisplayServer.Gesture.Basic
import DisplayServer.Json.Codec

/-!
# The records of the display server

How the types of the server are written in records: the names of their fields, in order.
-/

namespace DisplayServer

open Codec

def Point.codec : Codec Point :=
  record ((fields Point.mk).field "x" Point.x coordinate |>.field "y" Point.y coordinate)

def Rect.codec : Codec Rect :=
  record ((fields Rect.mk).field "pos_x" Rect.x coordinate |>.field "pos_y" Rect.y coordinate
    |>.field "width" Rect.width coordinate |>.field "height" Rect.height coordinate)

def Decoration.codec : Codec Decoration :=
  record ((fields Decoration.mk).field "left" Decoration.left measure
    |>.field "top" Decoration.top measure |>.field "right" Decoration.right measure
    |>.field "bottom" Decoration.bottom measure)

def WindowLimits.codec : Codec WindowLimits :=
  record ((fields WindowLimits.mk).field "min_width" WindowLimits.minWidth coordinate
    |>.field "min_height" WindowLimits.minHeight coordinate
    |>.field "max_width" WindowLimits.maxWidth coordinate
    |>.field "max_height" WindowLimits.maxHeight coordinate
    |>.field "min_ratio" WindowLimits.minRatio measure
    |>.field "max_ratio" WindowLimits.maxRatio measure)

def ScreenId.codec : Codec ScreenId := index.via ScreenId.mk ScreenId.val

def DisplayId.codec : Codec DisplayId := index.via DisplayId.mk DisplayId.val

def SurfaceHandle.codec : Codec SurfaceHandle := index.via SurfaceHandle.mk SurfaceHandle.val

def PointerEvent.codec : Codec PointerEvent :=
  record ((fields PointerEvent.mk).field "pointer_id" PointerEvent.pointer coordinate
    |>.field "source" PointerEvent.source symbol |>.field "action" PointerEvent.action symbol
    |>.field "button" PointerEvent.button symbol
    |>.field "display_pos" PointerEvent.onDisplay Point.codec
    |>.field "window_pos" PointerEvent.inWindow Point.codec)

def ScreenMode.codec : Codec ScreenMode :=
  record ((fields ScreenMode.mk).field "width" ScreenMode.width size
    |>.field "height" ScreenMode.height size
    |>.field "refresh_rate" ScreenMode.refreshRate size)

def ChildSlot.codec : Codec ChildSlot :=
  record ((fields ChildSlot.mk).field "screen_id" ChildSlot.screen ScreenId.codec
    |>.field "start_point" ChildSlot.start Point.codec)

def Composition.codec : Codec Composition :=
  record ((fields Composition.mk).field "combination" Composition.combination symbol
    |>.field "children" Composition.slots (list ChildSlot.codec)
    |>.field "main_screen" Composition.main (option ScreenId.codec))

def VirtualScreenRequest.codec : Codec VirtualScreenRequest :=
  record ((fields VirtualScreenRequest.mk).field "name" VirtualScreenRequest.name text
    |>.field "width" VirtualScreenRequest.width size
    |>.field "height" VirtualScreenRequest.height size
    |>.field "density" VirtualScreenRequest.density measure
    |>.field "surface" VirtualScreenRequest.surface (option SurfaceHandle.codec))

def PanelDescription.codec : Codec PanelDescription :=
  record ((fields PanelDescription.mk).field "name" PanelDescription.name text
    |>.field "modes" PanelDescription.modes (list ScreenMode.codec)
    |>.field "active_mode" PanelDescription.activeMode index
    |>.field "virtual_pixel_ratio" PanelDescription.pixelRatio measure
    |>.field "color_gamuts" PanelDescription.gamuts (list symbol))

def ScreenReport.codec : Codec ScreenReport :=
  record ((fields ScreenReport.mk).field "id" ScreenReport.id ScreenId.codec
    |>.field "name" ScreenReport.name text |>.field "kind" ScreenReport.kind symbol
    |>.field "width" ScreenReport.width size |>.field "height" ScreenReport.height size
    |>.field "refresh_rate" ScreenReport.refreshRate size
    |>.field "modes" ScreenReport.modes (list ScreenMode.codec)
    |>.field "active_mode" ScreenReport.activeMode index
    |>.field "virtual_pixel_ratio" ScreenReport.pixelRatio measure
    |>.field "rotation" ScreenReport.rotation symbol
    |>.field "orientation" ScreenReport.orientation symbol
    |>.field "power" ScreenReport.power symbol
    |>.field "parent" ScreenReport.parent (option ScreenId.codec)
    |>.field "is_group" ScreenReport.isGroup flag)

def GroupReport.codec : Codec GroupReport :=
  record ((fields GroupReport.mk).field "id" GroupReport.id ScreenId.codec
    |>.field "combination" GroupReport.combination symbol
    |>.field "children" GroupReport.children (list ScreenId.codec)
    |>.field "positions" GroupReport.positions (list Point.codec)
    |>.field "main_screen" GroupReport.main (option ScreenId.codec))

def Display.codec : Codec Display :=
  record ((fields Display.mk).field "id" Display.id DisplayId.codec
    |>.field "screen_id" Display.screen ScreenId.codec |>.field "name" Display.name text
    |>.field "width" Display.width size |>.field "height" Display.height size
    |>.field "physical_width" Display.physicalWidth size
    |>.field "physical_height" Display.physicalHeight size
    |>.field "refresh_rate" Display.refreshRate size
    |>.field "virtual_pixel_ratio" Display.pixelRatio measure
    |>.field "dpi" Display.dpi measure |>.field "rotation" Display.rotation symbol
    |>.field "orientation" Display.orientation symbol |>.field "state" Display.state symbol
    |>.field "alive" Display.alive flag
    |>.field "available_area" Display.availableArea Rect.codec)

def CreaseRegion.codec : Codec CreaseRegion :=
  record ((fields CreaseRegion.mk).field "display_id" CreaseRegion.display (option DisplayId.codec)
    |>.field "rects" CreaseRegion.rects (list Rect.codec))

def HotZone.codec : Codec HotZone :=
  record ((fields HotZone.mk).field "window_frame_width" HotZone.frameWidth measure
    |>.field "window_frame_corner_width" HotZone.cornerWidth measure
    |>.field "hotzone_pointer" HotZone.pointerBand measure
    |>.field "hotzone_touch" HotZone.touchBand measure)

def TravelLimits.codec : Codec TravelLimits :=
  record ((fields TravelLimits.mk).field "min_x" TravelLimits.minX coordinate
    |>.field "max_x" TravelLimits.maxX coordinate
    |>.field "min_y" TravelLimits.minY coordinate
    |>.field "max_y" TravelLimits.maxY coordinate)

def Grip.codec : Codec Grip :=
  record ((fields Grip.mk).field "pointer_id" Grip.pointer coordinate
    |>.field "pointer_source" Grip.source (option symbol)
    |>.field "origin_pointer" Grip.origin Point.codec
    |>.field "origin_pointer_window" Grip.originInWindow Point.codec
    |>.field "original_rect" Grip.initial Rect.codec
    |>.field "target_rect" Grip.target Rect.codec)

def Gesture.codec : Codec Gesture :=
  record ((fields Gesture.mk).field "property" Gesture.grip Grip.codec
    |>.field "area" Gesture.area symbol |>.field "axis" Gesture.axis symbol
    |>.field "aspect_ratio" Gesture.aspectRatio measure
    |>.field "limits" Gesture.limits WindowLimits.codec
    |>.field "decoration_px" Gesture.decoration (option (pair coordinate coordinate))
    |>.field "translate" Gesture.travel TravelLimits.codec)

/-- Reads a value from JSON text and writes it again on one line. -/
def Codec.reprint? {α : Type} (c : Codec α) (source : String) : Option String :=
  (Json.parse? source.toList).bind fun j => (c.read? j).map fun a =>
    String.ofList (c.write a).compact

end DisplayServer
