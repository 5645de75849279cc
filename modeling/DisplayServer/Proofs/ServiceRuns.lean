import DisplayServer.Proofs.Commands
import DisplayServer.Proofs.Hearing
import DisplayServer.Proofs.Runs
import DisplayServer.Service

/-!
# Commands and runs of the service

Whatever hardware, clients and agents ask of the service is a `Service.Command`. A run is a list
of commands, carried out one after the other from a device without screens. How agents respond
to what they are told stays a parameter throughout.

Below the runs stands what passing events on does to the service: agents change nothing but the
hub, so registry and display numbers after an operation are those of the registry following the
events one by one (`Registry.followAll`).
-/

namespace DisplayServer

namespace Service

variable {ι : Type}

/-- One request to the service. -/
inductive Command (ι : Type)
  | arrange (c : Topology.Command)
  | powerScreen (id : ScreenId) (power : ScreenPower)
  | powerPanels (power : ScreenPower) (reason : PowerReason)
  | powerTransition (transition : PowerTransition) (phase : Phase) (reason : PowerReason)
  | lockRotation (locked : Bool)
  | senseRotation (rotation : Rotation)
  | setState (state : DisplayState)
  | setAvailableArea (screen : ScreenId) (area : Rect)
  | overrideRotation (screen : ScreenId) (rotation : Rotation) (width height : Nat)
  | senseFold (reading : FoldStatus)
  | lockFold (locked : Bool)
  | forceFoldMode (mode : FoldDisplayMode)
  | restoreFold
  | register (agent : ι) (kind : AgentKind)
  | unregister (agent : ι) (kind : AgentKind)

variable [DecidableEq ι] (respond : ι → AgentEvent → Response ι)

/-- Carries a command out; the answer is left out. -/
def Command.reply : Command ι → Service ι → Reply ι Unit
  | arrange c, s => (fun _ => ()) <$> s.arrange respond c.outcome
  | powerScreen id power, s => (fun _ => ()) <$> s.powerScreen id power
  | powerPanels power reason, s => (fun _ => ()) <$> s.powerPanels respond power reason
  | powerTransition transition phase reason, s =>
    (fun _ => ()) <$> s.powerTransition respond transition phase reason
  | lockRotation locked, s => (s.setRotationLocked locked).answer ()
  | senseRotation rotation, s => (fun _ => ()) <$> s.senseRotation respond rotation
  | setState state, s => (fun _ => ()) <$> s.update respond (·.setState state)
  | setAvailableArea screen area, s =>
    (fun _ => ()) <$> s.update respond (·.setAvailableArea screen area)
  | overrideRotation screen rotation width height, s =>
    (fun _ => ()) <$> s.update respond (·.overrideRotation screen rotation width height)
  | senseFold reading, s => (fun _ => ()) <$> s.update respond (·.senseFold reading)
  | lockFold locked, s => (fun _ => ()) <$> s.update respond (·.lockFold locked)
  | forceFoldMode mode, s => (fun _ => ()) <$> s.update respond (·.forceFoldMode mode)
  | restoreFold, s => (fun _ => ()) <$> s.update respond Registry.restoreFold
  | register agent kind, s => { s with hub := s.hub.register agent kind }.answer ()
  | unregister agent kind, s => { s with hub := s.hub.unregister agent kind }.answer ()

/-- The service after a command. -/
def perform (s : Service ι) (c : Command ι) : Service ι := (c.reply respond s).service

/-- The service after a run that begins at `s`. -/
def after (s : Service ι) (run : List (Command ι)) : Service ι := run.foldl (perform respond) s

/-- Which agents are told of what during a run that begins at `s`, oldest first. -/
def told (s : Service ι) (run : List (Command ι)) : List (Call ι) :=
  collect (perform respond) (fun s c => (c.reply respond s).calls) s run

@[simp] theorem told_cons (s : Service ι) (c : Command ι) (rest : List (Command ι)) :
    told respond s (c :: rest) =
      (c.reply respond s).calls ++ told respond (s.perform respond c) rest := rfl

/-- Agents that only listen. -/
def quiet (_ : Nat) (_ : AgentEvent) : Response Nat := ⟨true, []⟩

end Service

namespace Registry

/-- The registry follows several events of the topology, one after the other. -/
def followAll (r : Registry) (ids : IdSource) :
    List TopologyEvent → Registry × IdSource × List AgentEvent
  | [] => (r, ids, [])
  | e :: rest =>
    let (r, ids, events) := r.follow ids e
    let (r, ids, later) := r.followAll ids rest
    (r, ids, events ++ later)

end Registry

namespace Service

variable {ι : Type} [DecidableEq ι] (respond : ι → AgentEvent → Response ι)

theorem after_concat (s : Service ι) (run : List (Command ι)) (c : Command ι) :
    after respond s (run ++ [c]) = (after respond s run).perform respond c :=
  List.foldl_concat (perform respond) s c run

omit [DecidableEq ι] in
/-- If nobody unsubscribes an agent in a run, neither the first command does nor the rest. -/
theorem stays_cons {a : ι} {kinds : List AgentKind} {c : Command ι} {rest : List (Command ι)}
    (hrun : ∀ k ∈ kinds, Command.unregister a k ∉ c :: rest) :
    (∀ k ∈ kinds, c ≠ .unregister a k) ∧ ∀ k ∈ kinds, Command.unregister a k ∉ rest :=
  ⟨fun k hk he => hrun k hk (he ▸ List.mem_cons_self),
    fun k hk hm => hrun k hk (List.mem_cons_of_mem c hm)⟩

/-! ## What passing events on does -/

theorem announce_eq (s : Service ι) (e : AgentEvent) :
    (s.announce respond e).1 = { s with hub := (s.hub.notify respond e).1 } := rfl

/-- Telling agents changes nothing but the hub. -/
theorem announceAll_eq (s : Service ι) (es : List AgentEvent) :
    ∃ hub, (s.announceAll respond es).1 = { s with hub } := by
  induction es generalizing s with
  | nil => exact ⟨s.hub, rfl⟩
  | cons e rest ih => exact ih (s.announce respond e).1

theorem follow_eq (s : Service ι) (e : TopologyEvent) :
    ∃ hub, (s.follow respond e).1 =
      { s with
        hub
        registry := (s.registry.follow s.topology.displayIds e).1
        topology := { s.topology with
          displayIds := (s.registry.follow s.topology.displayIds e).2.1 } } :=
  announceAll_eq respond _ _

theorem passOn_eq (s : Service ι) (e : TopologyEvent) :
    ∃ hub, (s.passOn respond e).1 =
      { s with
        hub
        registry := (s.registry.follow s.topology.displayIds e).1
        topology := { s.topology with
          displayIds := (s.registry.follow s.topology.displayIds e).2.1 } } := by
  obtain ⟨hub, h⟩ := follow_eq respond s e
  unfold passOn
  cases e.announcement? with
  | none => exact ⟨hub, h⟩
  | some told =>
    refine ⟨(((s.follow respond e).1.announce respond told).1).hub, ?_⟩
    simp only [announce_eq, h]

/-- Passing events on, the registry follows them one by one. -/
theorem passOnAll_eq (s : Service ι) (es : List TopologyEvent) :
    ∃ hub, (s.passOnAll respond es).1 =
      { s with
        hub
        registry := (s.registry.followAll s.topology.displayIds es).1
        topology := { s.topology with
          displayIds := (s.registry.followAll s.topology.displayIds es).2.1 } } := by
  induction es generalizing s with
  | nil => exact ⟨s.hub, rfl⟩
  | cons e rest ih =>
    obtain ⟨hub, h⟩ := passOn_eq respond s e
    obtain ⟨hub', h'⟩ := ih (s.passOn respond e).1
    refine ⟨hub', h'.trans ?_⟩
    rw [h]
    rfl

/-- Of the kinds it is subscribed to, an agent hears exactly what is announced. -/
theorem filter_heard_announceAll {respond : ι → AgentEvent → Response ι} {a : ι}
    {kinds : List AgentKind} (hloyal : Hub.Loyal respond a kinds) (es : List AgentEvent)
    {s : Service ι} (hs : Hub.Subscribed a kinds s.hub) :
    Hub.Subscribed a kinds (s.announceAll respond es).1.hub ∧
      (heard a (s.announceAll respond es).2).filter (·.kind ∈ kinds) =
        es.filter (·.kind ∈ kinds) := by
  induction es generalizing s with
  | nil => exact ⟨hs, rfl⟩
  | cons e rest ih =>
    -- responses to the first event may change the hub, not the subscription
    have hs' : Hub.Subscribed a kinds (s.announce respond e).1.hub :=
      Hub.subscribed_notify hloyal hs e
    obtain ⟨hsub, hrest⟩ := ih hs'
    refine ⟨hsub, ?_⟩
    show (heard a ((s.hub.notify respond e).2 ++
      ((s.announce respond e).1.announceAll respond rest).2)).filter _ = _
    rw [Hub.heard_append, List.filter_append, Hub.filter_heard_notify hs, hrest,
      ← List.filter_append, List.singleton_append]

end Service

end DisplayServer
