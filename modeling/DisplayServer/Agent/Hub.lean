import DisplayServer.Agent.Event

/-!
# The hub: who is told, and in which order

For every kind of event the hub lists its subscribers in order of registration, each once. An
event is delivered to the list as it stood when the delivery began, whatever the agents answer
and whatever they register or unregister meanwhile; those changes take effect for the next
event.
-/

namespace DisplayServer

/-- The subscribers of every kind of event; `ι` names agents. -/
structure Hub (ι : Type) where
  subscribers : AgentKind → List ι

/-- An agent is told of an event. -/
structure Call (ι : Type) where
  agent : ι
  event : AgentEvent
  deriving DecidableEq

/-- What an agent may ask of the hub while it is being told of an event. -/
inductive HubRequest (ι : Type)
  | register (agent : ι) (kind : AgentKind)
  | unregister (agent : ι) (kind : AgentKind)

/-- What an agent does when it is told of an event: whether it could be reached, and its
requests. -/
structure Response (ι : Type) where
  reached : Bool
  requests : List (HubRequest ι)

namespace Hub

variable {ι : Type}

def empty : Hub ι := ⟨fun _ => []⟩

instance : Inhabited (Hub ι) := ⟨empty⟩

def setSubscribers (h : Hub ι) (kind : AgentKind) (agents : List ι) : Hub ι :=
  ⟨fun k => if k = kind then agents else h.subscribers k⟩

theorem subscribers_setSubscribers (h : Hub ι) (kind k : AgentKind) (agents : List ι) :
    (h.setSubscribers kind agents).subscribers k = if k = kind then agents else h.subscribers k :=
  rfl

def count (h : Hub ι) (kind : AgentKind) : Nat := (h.subscribers kind).length

variable [DecidableEq ι]

/-- Subscribes an agent; one that already is keeps its place. -/
def register (h : Hub ι) (agent : ι) (kind : AgentKind) : Hub ι :=
  if agent ∈ h.subscribers kind then h
  else h.setSubscribers kind (h.subscribers kind ++ [agent])

theorem subscribers_register (h : Hub ι) (agent : ι) (kind : AgentKind) :
    (h.register agent kind).subscribers kind =
      if agent ∈ h.subscribers kind then h.subscribers kind
      else h.subscribers kind ++ [agent] := by
  unfold register
  split
  · rfl
  · exact if_pos rfl

theorem subscribers_register_of_ne (h : Hub ι) (agent : ι) {kind k : AgentKind} (hk : k ≠ kind) :
    (h.register agent kind).subscribers k = h.subscribers k := by
  unfold register
  split
  · rfl
  · exact if_neg hk

def registerAll (h : Hub ι) (agent : ι) (kinds : List AgentKind) : Hub ι :=
  kinds.foldl (fun h kind => h.register agent kind) h

def unregister (h : Hub ι) (agent : ι) (kind : AgentKind) : Hub ι :=
  h.setSubscribers kind ((h.subscribers kind).filter (· ≠ agent))

@[simp] theorem subscribers_unregister (h : Hub ι) (agent : ι) (kind : AgentKind) :
    (h.unregister agent kind).subscribers kind =
      (h.subscribers kind).filter (· ≠ agent) :=
  if_pos rfl

theorem subscribers_unregister_of_ne (h : Hub ι) (agent : ι) {kind k : AgentKind} (hk : k ≠ kind) :
    (h.unregister agent kind).subscribers k = h.subscribers k :=
  if_neg hk

def unregisterAll (h : Hub ι) (agent : ι) (kinds : List AgentKind) : Hub ι :=
  kinds.foldl (fun h kind => h.unregister agent kind) h

def grant (h : Hub ι) : HubRequest ι → Hub ι
  | .register agent kind => h.register agent kind
  | .unregister agent kind => h.unregister agent kind

/-- Tells the listed agents of an event, one after the other: the requests of each are granted
before the next is told, and one that cannot be reached stops nobody. Returns the calls. -/
def tell (respond : ι → AgentEvent → Response ι) (event : AgentEvent) :
    List ι → Hub ι → Hub ι × List (Call ι)
  | [], h => (h, [])
  | agent :: rest, h =>
    let h := (respond agent event).requests.foldl grant h
    let (h, calls) := tell respond event rest h
    (h, ⟨agent, event⟩ :: calls)

/-- Whatever the agents ask for meanwhile, the calls are those of the list. -/
theorem calls_tell (respond : ι → AgentEvent → Response ι) (event : AgentEvent)
    (agents : List ι) (h : Hub ι) :
    (tell respond event agents h).2 = agents.map fun agent => ⟨agent, event⟩ := by
  induction agents generalizing h with
  | nil => rfl
  | cons agent rest ih => simp only [tell, List.map_cons, ih]

/-- Delivers an event to the subscribers of its kind. Returns the calls, in order. -/
def notify (respond : ι → AgentEvent → Response ι) (h : Hub ι) (event : AgentEvent) :
    Hub ι × List (Call ι) :=
  tell respond event (h.subscribers event.kind) h

end Hub

end DisplayServer
