import DisplayServer.Json.Records
import DisplayServer.Service

/-!
# Dumps

The state of a service as text, for people to read: its screens, groups and displays, and what
holds for the device as a whole.
-/

namespace DisplayServer

open Codec

def Topology.dumped (t : Topology) : Json :=
  .object [
    ("default_screen", (option ScreenId.codec).write t.defaultScreen),
    ("screens", (list ScreenReport.codec).write (t.screens.map Screen.report)),
    ("groups", (list GroupReport.codec).write (t.groups.map ScreenGroup.membership))]

def Service.dumped {ι : Type} (s : Service ι) : Json :=
  .object [
    ("topology", s.topology.dumped),
    ("default_display", (option DisplayId.codec).write s.registry.defaultDisplay),
    ("displays", (list Display.codec).write s.registry.displays.values),
    ("display_state", symbol.write s.registry.state),
    ("fold_status", symbol.write s.registry.foldStatus),
    ("fold_display_mode", symbol.write s.registry.foldMode),
    ("rotation_locked", .bool s.rotationLocked)]

def Service.dump {ι : Type} (s : Service ι) : String := String.ofList s.dumped.pretty

end DisplayServer
