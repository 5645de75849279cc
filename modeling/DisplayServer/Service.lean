import DisplayServer.Agent.Hub
import DisplayServer.Registry
import DisplayServer.Topology.Operations

/-!
# The display service

The service joins topology, display registry and hub. An operation of the topology is carried
out at once; then its events are passed on one by one: the registry follows the event and its
agents are told, and after that the agents of the topology are told (`Service.passOn`).

A `Reply` says what an operation answered and everything that went out on the way. How agents
respond is a parameter, so the same service serves agents of any behaviour.
-/

namespace DisplayServer

/-- Topology, displays and subscribers of one device; `ι` names agents. -/
structure Service (ι : Type) where
  topology : Topology
  registry : Registry
  hub : Hub ι
  /-- Whether the device's sensor may not turn the default screen. -/
  rotationLocked : Bool

/-- What an operation answered, how it left the service, which agents were told of what, and
the topology's events, each in order. -/
structure Reply (ι α : Type) where
  result : α
  service : Service ι
  calls : List (Call ι)
  events : List TopologyEvent

instance {ι : Type} : Functor (Reply ι) where
  map f r := ⟨f r.result, r.service, r.calls, r.events⟩

namespace Service

variable {ι α : Type}

/-- A device without screens. -/
def start (capability : FoldCapability) : Service ι :=
  { topology := .empty, registry := .empty capability, hub := .empty, rotationLocked := false }

/-- An answer that changes nothing and tells nobody. -/
def answer (s : Service ι) (a : α) : Reply ι α := ⟨a, s, [], []⟩

variable [DecidableEq ι] (respond : ι → AgentEvent → Response ι)

/-! ## Passing events on -/

/-- Tells the agents of one event. -/
def announce (s : Service ι) (event : AgentEvent) : Service ι × List (Call ι) :=
  let (hub, calls) := s.hub.notify respond event
  ({ s with hub }, calls)

/-- Tells the agents of several events, one after the other. -/
def announceAll (s : Service ι) : List AgentEvent → Service ι × List (Call ι)
  | [] => (s, [])
  | event :: rest =>
    let (s, calls) := s.announce respond event
    let (s, later) := s.announceAll rest
    (s, calls ++ later)

/-- The registry follows one event of the topology, and its agents are told. -/
def follow (s : Service ι) (event : TopologyEvent) : Service ι × List (Call ι) :=
  let (registry, ids, events) := s.registry.follow s.topology.displayIds event
  { s with registry, topology := { s.topology with displayIds := ids } }.announceAll respond events

/-- Passes one event of the topology on: first the registry follows it, then the agents of
screens are told. -/
def passOn (s : Service ι) (event : TopologyEvent) : Service ι × List (Call ι) :=
  let (s, calls) := s.follow respond event
  match event.announcement? with
  | none => (s, calls)
  | some told =>
    let (s, later) := s.announce respond told
    (s, calls ++ later)

def passOnAll (s : Service ι) : List TopologyEvent → Service ι × List (Call ι)
  | [] => (s, [])
  | event :: rest =>
    let (s, calls) := s.passOn respond event
    let (s, later) := s.passOnAll rest
    (s, calls ++ later)

/-- Carries an operation of the topology out and passes its events on. -/
def arrange (s : Service ι) (operation : Topology → Outcome α) : Reply ι (Except Error α) :=
  let outcome := operation s.topology
  let (s, calls) := { s with topology := outcome.topology }.passOnAll respond outcome.events
  ⟨outcome.result, s, calls, outcome.events⟩

/-- Carries a step of the registry out and tells the agents of its events. -/
def update (s : Service ι) (step : Registry → Registry.Step α) : Reply ι α :=
  let done := step s.registry
  let (s, calls) := { s with registry := done.registry }.announceAll respond done.events
  ⟨done.result, s, calls, []⟩

/-! ## Power -/

/-- Tells of a power transition; answers whether anybody was told. -/
def powerTransition (s : Service ι) (transition : PowerTransition) (phase : Phase)
    (reason : PowerReason) : Reply ι Bool :=
  let (s, calls) := s.announce respond (.displayPower transition phase reason)
  ⟨!calls.isEmpty, s, calls, []⟩

def beginWakeUp (s : Service ι) (reason : PowerReason) : Reply ι Bool :=
  s.powerTransition respond .wakeUp .beginning reason

def endWakeUp (s : Service ι) : Reply ι Bool :=
  s.powerTransition respond .wakeUp .ending .application

def beginSleep (s : Service ι) (reason : PowerReason) : Reply ι Bool :=
  s.powerTransition respond .sleep .beginning reason

def endSleep (s : Service ι) : Reply ι Bool :=
  s.powerTransition respond .sleep .ending .application

/-- Puts all panels into a power state; refused without a panel. -/
def powerPanels (s : Service ι) (power : ScreenPower) (reason : PowerReason) : Reply ι Bool :=
  let (topology, count) := s.topology.setPanelPower power
  let s := { s with topology }
  if count = 0 then s.answer false
  else
    let transition := if power = .on then .displayOn else .displayOff
    { s.powerTransition respond transition .ending reason with result := true }

/-- Puts one screen into a power state; answers whether there is such a screen. -/
def powerScreen (s : Service ι) (id : ScreenId) (power : ScreenPower) : Reply ι Bool :=
  let (topology, found) := s.topology.setPower id power
  { s with topology }.answer found

/-! ## Rotation -/

/-- Locks or releases the rotation of the default screen. -/
def setRotationLocked (s : Service ι) (locked : Bool) : Service ι :=
  { s with rotationLocked := locked }

/-- The device's sensor turns the default screen; ignored while the rotation is locked and
without a default screen. Answers whether the screen was asked to turn. -/
def senseRotation (s : Service ι) (rotation : Rotation) : Reply ι Bool :=
  if s.rotationLocked then s.answer false
  else
    match s.topology.defaultScreen with
    | none => s.answer false
    | some id =>
      let reply := s.arrange respond fun t => t.rotate id rotation
      ⟨reply.result.isOk, reply.service, reply.calls, reply.events⟩

end Service

end DisplayServer
