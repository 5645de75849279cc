import DisplayServer.Proofs.Runs
import DisplayServer.Topology.Operations

/-!
# Commands and runs of the topology

Whatever hardware and clients ask of a topology is a `Command`. A run is a list of commands,
carried out one after the other from the topology without screens, with any arguments and
whether or not each is granted. Every beginning of a run is a run, so what holds after every run
holds after every operation of a run.
-/

namespace DisplayServer

/-- The same outcome, keeping of the answer only whether it is a refusal. -/
def Outcome.void {α : Type} (o : Outcome α) : Outcome Unit :=
  ⟨o.result.map fun _ => (), o.topology, o.events⟩

namespace Topology

/-- One request to the topology. -/
inductive Command
  | connect (renderId : RenderId) (panel : PanelDescription)
  | disconnect (renderId : RenderId)
  | create (request : VirtualScreenRequest)
  | destroy (id : ScreenId)
  | setSurface (id : ScreenId) (surface : Option SurfaceHandle)
  | mirror (main : ScreenId) (ids : List ScreenId)
  | expand (ids : List ScreenId) (starts : List Point)
  | makeUnique (ids : List ScreenId) (turn : UniqueRotation)
  | stopMirror (ids : List ScreenId)
  | stopExpand (ids : List ScreenId)
  | ungroup (ids : List ScreenId)
  | rotate (id : ScreenId) (rotation : Rotation)
  | setMode (id : ScreenId) (index : Nat)
  | setPower (id : ScreenId) (power : ScreenPower)
  | setPanelPower (power : ScreenPower)

/-- Carries a command out. -/
def Command.outcome : Command → Topology → Outcome Unit
  | connect renderId panel, t => (t.connect renderId panel).void
  | disconnect renderId, t => (t.disconnect renderId).void
  | create request, t => (t.create request).void
  | destroy id, t => t.destroy id
  | setSurface id surface, t => t.setSurface id surface
  | mirror main ids, t => (t.mirror main ids).void
  | expand ids starts, t => (t.expand ids starts).void
  | makeUnique ids turn, t => (t.makeUnique ids turn).void
  | stopMirror ids, t => t.stopMirror ids
  | stopExpand ids, t => t.stopExpand ids
  | ungroup ids, t => t.ungroup ids
  | rotate id rotation, t => t.rotate id rotation
  | setMode id index, t => t.setMode id index
  | setPower id power, t => .done (.begin (t.setPower id power).1) ()
  | setPanelPower power, t => .done (.begin (t.setPanelPower power).1) ()

/-- The topology after a command, granted or refused. -/
def perform (t : Topology) (c : Command) : Topology := (c.outcome t).topology

/-- The topology after a run. -/
def after (run : List Command) : Topology := run.foldl perform .empty

/-- What is reported while the commands are carried out from `t`, oldest first. -/
def reported (t : Topology) (run : List Command) : List TopologyEvent :=
  collect perform (fun t c => (c.outcome t).events) t run

/-- Everything an observer has been told after a run. -/
def log (run : List Command) : List TopologyEvent := reported .empty run

end Topology

end DisplayServer
