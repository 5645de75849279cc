import DisplayServer.Topology.Event

/-!
# Edits of the topology

A `Draft` is a topology being edited together with the events reported so far. The steps here
are the ones that operations are made of: a screen leaves its group, an empty group dissolves,
a screen joins a group, a screen is erased with everything that depended on it. Each reports
what it did at the moment it did it.
-/

namespace DisplayServer

/-- A topology being edited, with the events reported so far, oldest first. -/
structure Draft where
  topology : Topology
  events : List TopologyEvent
  deriving DecidableEq

namespace Draft

def begin (t : Topology) : Draft := ⟨t, []⟩

def emit (d : Draft) (event : TopologyEvent) : Draft := { d with events := d.events ++ [event] }

/-- Edits the topology without a report. -/
def edit (d : Draft) (f : Topology → Topology) : Draft := { d with topology := f d.topology }

/-- Unlinks a screen from the group it names, and says which group that was. A group that does
not list the screen is left alone. -/
def detach (d : Draft) (id : ScreenId) (reason : LeaveReason) : Draft × Option ScreenId :=
  match d.topology.parent? id with
  | none => (d, none)
  | some groupId =>
    let d := d.edit fun t => t.modifyScreen id fun s => { s with parent := none }
    match d.topology.group? groupId with
    | none => (d, none)
    | some g =>
      if g.composition.contains id then
        let d := d.edit fun t => t.modifyGroup groupId fun c => c.remove id
        match d.topology.report? id, d.topology.membership? groupId with
        | some screen, some group => (d.emit (.leftGroup screen group reason), some groupId)
        | _, _ => (d, some groupId)
      else (d, none)

/-- Drops a group that nobody is left in. -/
def dissolveIfEmpty (d : Draft) (groupId : ScreenId) : Draft :=
  match d.topology.group? groupId with
  | none => d
  | some g =>
    if g.composition.isEmpty then
      let d := d.edit fun t =>
        { t with
          nodes := t.nodes.erase groupId
          defaultGroup := if t.defaultGroup = some groupId then none else t.defaultGroup }
      d.emit (.groupDissolved groupId)
    else d

/-- A screen leaves its group, and the group dissolves if that was its last child. -/
def leave (d : Draft) (id : ScreenId) (reason : LeaveReason) : Draft :=
  match d.detach id reason with
  | (d, some groupId) => d.dissolveIfEmpty groupId
  | (d, none) => d

/-- A screen joins a live group at a start point. -/
def attach (d : Draft) (id groupId : ScreenId) (start : Point) : Draft :=
  match d.topology.group? groupId with
  | none => d
  | some _ =>
    let d := d.edit fun t =>
      (t.modifyGroup groupId fun c => c.place id start).modifyScreen id fun s =>
        { s with parent := some groupId }
    match d.topology.report? id, d.topology.membership? groupId with
    | some screen, some group => d.emit (.joinedGroup screen group)
    | _, _ => d

/-- Empties and dissolves one mirror. -/
def stopMirror (d : Draft) (groupId : ScreenId) : Draft :=
  let d := (d.topology.children groupId).foldl (fun d child => (d.detach child .detached).1) d
  d.dissolveIfEmpty groupId

def stopMirrorsOf (d : Draft) (main : ScreenId) : Draft :=
  (d.topology.mirrorsOf main).foldl stopMirror d

/-- Takes the screen out of the tables; the default screen passes to the first panel left. -/
def forget (t : Topology) (id : ScreenId) : Topology :=
  let index := match t.screen? id with
    | some s => t.renderIndex.erase s.renderId
    | none => t.renderIndex
  let t := { t with nodes := t.nodes.erase id, renderIndex := index }
  { t with defaultScreen := if t.defaultScreen = some id then t.firstPanel? else t.defaultScreen }

/-- Removes a screen: the mirrors of it stop, it leaves its group, and it is forgotten. -/
def erase (d : Draft) (id : ScreenId) : Draft :=
  (((d.stopMirrorsOf id).leave id .destroyed).edit fun t => forget t id).emit (.disconnected id)

end Draft

end DisplayServer
