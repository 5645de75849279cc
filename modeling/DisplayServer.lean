import DisplayServer.Agent.Roster
import DisplayServer.Dump
import DisplayServer.Settings.Storage
import DisplayServer.Window.Desk
import DisplayServer.Proofs.Commands
import DisplayServer.Proofs.Requests
import DisplayServer.Proofs.Sound
import DisplayServer.Proofs.Writes
import DisplayServer.Proofs.Moves
import DisplayServer.Proofs.Decompose
import DisplayServer.Proofs.ScreenGraph
import DisplayServer.Proofs.Replay
import DisplayServer.Proofs.DisplayReplica
import DisplayServer.Proofs.Bindings
import DisplayServer.Proofs.Accounted
import DisplayServer.Proofs.Tracking
import DisplayServer.Proofs.Following
import DisplayServer.Proofs.DisplaysFollow
import DisplayServer.Proofs.Refusals
import DisplayServer.Proofs.Wiring
import DisplayServer.Proofs.RenderIndex
import DisplayServer.Proofs.Groupings
import DisplayServer.Proofs.Sources
import DisplayServer.Proofs.MirrorChains
import DisplayServer.Proofs.MirrorGroups
import DisplayServer.Proofs.Traffic
import DisplayServer.Proofs.Concurrent
import DisplayServer.Proofs.DisplaysAgree
import DisplayServer.Proofs.Defaults
import DisplayServer.Proofs.MainScreens
import DisplayServer.Proofs.Lifetimes
import DisplayServer.Proofs.IssuedOnce
import DisplayServer.Proofs.DisplaysCurrent
import DisplayServer.Proofs.ControllerRuns
import DisplayServer.Proofs.PointerIsolation
import DisplayServer.Proofs.FramePacing
import DisplayServer.Proofs.Releases
import DisplayServer.Proofs.SessionRuns
import DisplayServer.Proofs.DialogLinks
import DisplayServer.Proofs.DialogRouting
import DisplayServer.Proofs.DeskRuns
import DisplayServer.Proofs.Seats
import DisplayServer.Proofs.WindowsApart
import DisplayServer.Proofs.ProvisionalRects
import DisplayServer.Proofs.Lifecycle
import DisplayServer.Proofs.RectCopies
import DisplayServer.Proofs.HubDelivery
import DisplayServer.Proofs.Pictures
import DisplayServer.Proofs.ScreensAnnounced
import DisplayServer.Proofs.ClockRuns
import DisplayServer.Proofs.Shifts
import DisplayServer.Proofs.Composing
import DisplayServer.Proofs.Bystanders
import DisplayServer.Proofs.MadeUnique
import DisplayServer.Proofs.Erasing
import DisplayServer.Proofs.Spans
import DisplayServer.Proofs.FreeResize
import DisplayServer.Proofs.LeftButton
import DisplayServer.Proofs.Interrupts
import DisplayServer.Proofs.Unplugging
import DisplayServer.Proofs.RatioSnap
import DisplayServer.Proofs.FixedResize
import DisplayServer.Proofs.SquareResize
import DisplayServer.Proofs.DragPaths
import DisplayServer.Proofs.GrabbedPoint
import DisplayServer.Proofs.ZoneSymmetry
import DisplayServer.Proofs.CursorShapes
import DisplayServer.Proofs.GestureOwner
import DisplayServer.Proofs.ControllerFlags
import DisplayServer.Proofs.FoldListeners
