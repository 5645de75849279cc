import DisplayServer.Proofs.Publishing
import DisplayServer.Proofs.ServiceRuns

/-!
# Listeners of displays hold a replica of them

An agent that listens to displays, display states and available areas from the start, and writes
down what it hears, has exactly the display records of the registry after every operation. The
registry tells what it writes (`Registry.Published`), and a subscriber hears every event of its
kinds once (`filter_heard_announceAll`); what is told besides is of other kinds.

Other agents may come and go, be out of reach, and ask the hub for whatever they like while they
are told of an event, except to unsubscribe this one.
-/

namespace DisplayServer

/-- What agents of the topology are told is of screens. -/
theorem TopologyEvent.kind_announcement {event : TopologyEvent} {told : AgentEvent}
    (h : event.announcement? = some told) : told.kind = .screen := by
  cases event with
  | becameUnique s d => cases h
  | _ =>
    rw [← Option.some.inj h]
    rfl

namespace Service

variable {ι : Type} [DecidableEq ι] {respond : ι → AgentEvent → Response ι} {a : ι}

/-- A device without screens, whose displays the agent listens to. -/
def listened (capability : FoldCapability) (a : ι) : Service ι :=
  { (start capability : Service ι) with hub := Hub.empty.registerAll a displayKinds }

/-- The listener `a` is subscribed, and what it wrote down, `t`, is what the registry has. -/
structure Synced (a : ι) (t : Table DisplayId Display) (s : Service ι) : Prop where
  /-- The listener is subscribed. -/
  subscribed : Hub.Subscribed a displayKinds s.hub
  /-- The registry is in order. -/
  kept : s.registry.Kept
  /-- Every screen that can be quoted has a positive pixel ratio. -/
  lit : ∀ x r, s.topology.report? x = some r → 0 < r.pixelRatio
  /-- The listener has the records. -/
  same : t = s.registry.displays

variable {t : Table DisplayId Display} {s : Service ι}

theorem writeDownAll_heard_notify {h : Hub ι} (hs : Hub.Subscribed a displayKinds h)
    (e : AgentEvent) (t : Table DisplayId Display) :
    writeDownAll t (heard a (h.notify respond e).2) = e.writeDown t := by
  rw [← writeDownAll_filter, Hub.filter_heard_notify hs, writeDownAll_filter]
  rfl

/-- From an announcement of several events the listener writes down all of them. -/
theorem writeDownAll_heard_announceAll (hloyal : Hub.Loyal respond a displayKinds)
    (es : List AgentEvent) {s : Service ι} (hs : Hub.Subscribed a displayKinds s.hub)
    (t : Table DisplayId Display) :
    writeDownAll t (heard a (s.announceAll respond es).2) = writeDownAll t es := by
  rw [← writeDownAll_filter, (filter_heard_announceAll hloyal es hs).2, writeDownAll_filter]

/-- A step of the registry that publishes what it writes keeps the listener up to date. -/
theorem synced_published (hloyal : Hub.Loyal respond a displayKinds) (h : Synced a t s)
    {r : Registry} {es : List AgentEvent} (hr : s.registry.Published es r)
    {u : Topology} (hu : ∀ x r, u.report? x = some r → 0 < r.pixelRatio) :
    Synced a (writeDownAll t (heard a
      ({ s with registry := r, topology := u }.announceAll respond es).2))
      ({ s with registry := r, topology := u }.announceAll respond es).1 := by
  have hs : Hub.Subscribed a displayKinds { s with registry := r, topology := u }.hub :=
    h.subscribed
  have hsub := (filter_heard_announceAll hloyal es hs).1
  obtain ⟨hub, heq⟩ := announceAll_eq respond { s with registry := r, topology := u } es
  rw [writeDownAll_heard_announceAll hloyal es hs, heq]
  rw [heq] at hsub
  exact ⟨hsub, hr.kept, hu, by rw [h.same]; exact hr.same⟩

/-- Telling of something else than displays leaves the listener where it was. -/
theorem synced_announce (hloyal : Hub.Loyal respond a displayKinds) (h : Synced a t s)
    {e : AgentEvent} (he : e.kind ∉ displayKinds) :
    Synced a (writeDownAll t (heard a (s.announce respond e).2)) (s.announce respond e).1 := by
  have hquiet : writeDownAll t (heard a (s.announce respond e).2) = t :=
    (writeDownAll_heard_notify h.subscribed e t).trans (writeDown_of_kind he t)
  rw [hquiet]
  exact ⟨Hub.subscribed_notify hloyal h.subscribed e, h.kept, h.lit, h.same⟩

theorem synced_follow (hloyal : Hub.Loyal respond a displayKinds) (h : Synced a t s)
    {e : TopologyEvent} (he : ∀ r, e.screen? = some r → 0 < r.pixelRatio) :
    Synced a (writeDownAll t (heard a (s.follow respond e).2)) (s.follow respond e).1 :=
  synced_published hloyal h (Registry.published_follow h.kept s.topology.displayIds he)
    (u := { s.topology with
      displayIds := (s.registry.follow s.topology.displayIds e).2.1 }) h.lit

/-- An event that is passed on. -/
theorem synced_passOn (hloyal : Hub.Loyal respond a displayKinds) (h : Synced a t s)
    {e : TopologyEvent} (he : ∀ r, e.screen? = some r → 0 < r.pixelRatio) :
    Synced a (writeDownAll t (heard a (s.passOn respond e).2)) (s.passOn respond e).1 := by
  have hfollowed := synced_follow hloyal h he
  unfold passOn
  cases htold : e.announcement? with
  | none => exact hfollowed
  | some told =>
    simp only
    -- first the registry follows, then agents of the topology are told
    rw [Hub.heard_append, writeDownAll_append]
    refine synced_announce hloyal hfollowed ?_
    rw [TopologyEvent.kind_announcement htold]
    decide

/-- The events of an operation, passed on in order. -/
theorem synced_passOnAll (hloyal : Hub.Loyal respond a displayKinds) (es : List TopologyEvent)
    (h : Synced a t s) (hes : ∀ e ∈ es, ∀ r, e.screen? = some r → 0 < r.pixelRatio) :
    Synced a (writeDownAll t (heard a (s.passOnAll respond es).2))
      (s.passOnAll respond es).1 := by
  induction es generalizing s t with
  | nil => exact h
  | cons e rest ih =>
    obtain ⟨he, hrest⟩ := List.forall_mem_cons.mp hes
    show Synced a (writeDownAll t (heard a ((s.passOn respond e).2 ++
      ((s.passOn respond e).1.passOnAll respond rest).2))) _
    rw [Hub.heard_append, writeDownAll_append]
    exact ih (synced_passOn hloyal h he) hrest

/-! ## Commands -/

omit [DecidableEq ι] in
theorem synced_outcome (h : Synced a t s) (c : Topology.Command) :
    Synced a t { s with topology := (c.outcome s.topology).topology } :=
  ⟨h.subscribed, h.kept, (Topology.lit_outcome h.lit c).entries, h.same⟩

/-- An operation of the topology. -/
theorem synced_arrange (hloyal : Hub.Loyal respond a displayKinds) (h : Synced a t s)
    (c : Topology.Command) :
    Synced a (writeDownAll t (heard a (s.arrange respond c.outcome).calls))
      (s.arrange respond c.outcome).service :=
  synced_passOnAll hloyal _ (synced_outcome h c) (Topology.lit_outcome h.lit c).reports

/-- A step of the registry that a client asks for. -/
theorem synced_update {α : Type} (hloyal : Hub.Loyal respond a displayKinds) (h : Synced a t s)
    (step : Registry → Registry.Step α)
    (hstep : s.registry.Published (step s.registry).events (step s.registry).registry) :
    Synced a (writeDownAll t (heard a (s.update respond step).calls))
      (s.update respond step).service :=
  synced_published hloyal h hstep h.lit

theorem synced_senseRotation (hloyal : Hub.Loyal respond a displayKinds) (h : Synced a t s)
    (rotation : Rotation) :
    Synced a (writeDownAll t (heard a (s.senseRotation respond rotation).calls))
      (s.senseRotation respond rotation).service := by
  unfold senseRotation
  split
  · exact h
  · cases s.topology.defaultScreen with
    | none => exact h
    | some x => exact synced_arrange hloyal h (.rotate x rotation)

theorem synced_powerPanels (hloyal : Hub.Loyal respond a displayKinds) (h : Synced a t s)
    (power : ScreenPower) (reason : PowerReason) :
    Synced a (writeDownAll t (heard a (s.powerPanels respond power reason).calls))
      (s.powerPanels respond power reason).service := by
  have hrecorded := synced_outcome h (.setPanelPower power)
  unfold powerPanels
  simp only
  split
  · exact hrecorded
  · exact synced_announce hloyal hrecorded (by simp [AgentEvent.kind, displayKinds])

/-- **A command keeps the listener up to date**, unless it unsubscribes the listener. -/
theorem synced_command (hloyal : Hub.Loyal respond a displayKinds) (h : Synced a t s)
    (c : Command ι) (hc : ∀ k ∈ displayKinds, c ≠ .unregister a k) :
    Synced a (writeDownAll t (heard a (c.reply respond s).calls)) (s.perform respond c) := by
  cases c with
  | arrange c => exact synced_arrange hloyal h c
  | powerScreen x power => exact synced_outcome h (.setPower x power)
  | powerPanels power reason => exact synced_powerPanels hloyal h power reason
  | powerTransition transition phase reason =>
    exact synced_announce hloyal h (by simp [AgentEvent.kind, displayKinds])
  | lockRotation locked => exact ⟨h.subscribed, h.kept, h.lit, h.same⟩
  | senseRotation rotation => exact synced_senseRotation hloyal h rotation
  | setState state =>
    exact synced_update hloyal h (·.setState state) (Registry.published_setState h.kept state)
  | setAvailableArea screen area =>
    exact synced_update hloyal h (·.setAvailableArea screen area)
      (Registry.published_setAvailableArea h.kept screen area)
  | overrideRotation screen rotation width height =>
    exact synced_update hloyal h (·.overrideRotation screen rotation width height)
      (Registry.published_overrideRotation h.kept screen rotation width height)
  | senseFold reading =>
    exact synced_update hloyal h (·.senseFold reading)
      (Registry.published_fold h.kept (Registry.kinds_sense reading))
  | lockFold locked =>
    exact synced_update hloyal h (·.lockFold locked)
      (Registry.published_fold h.kept fun _ _ he => (List.not_mem_nil he).elim)
  | forceFoldMode mode =>
    exact synced_update hloyal h (·.forceFoldMode mode)
      (Registry.published_forceFoldMode h.kept mode)
  | restoreFold =>
    exact synced_update hloyal h Registry.restoreFold
      (Registry.published_fold h.kept fun p => Registry.kinds_reveal _ p.sensed)
  | register b kind => exact ⟨Hub.subscribed_register h.subscribed b kind, h.kept, h.lit, h.same⟩
  | unregister b kind =>
    -- the run unsubscribes others, or the listener from other kinds
    have hother : b = a → kind ∉ displayKinds := by
      intro hb hk
      exact hc kind hk (by rw [hb])
    exact ⟨Hub.subscribed_unregister h.subscribed hother, h.kept, h.lit, h.same⟩

/-- A run keeps the listener up to date. -/
theorem synced_run (hloyal : Hub.Loyal respond a displayKinds) (run : List (Command ι))
    (h : Synced a t s) (hrun : ∀ k ∈ displayKinds, Command.unregister a k ∉ run) :
    Synced a (writeDownAll t (heard a (told respond s run))) (after respond s run) := by
  induction run generalizing s t with
  | nil => exact h
  | cons c rest ih =>
    obtain ⟨hc, hrest⟩ := stays_cons hrun
    simp only [told_cons, Hub.heard_append, writeDownAll_append]
    exact ih (synced_command hloyal h c hc) hrest

theorem synced_listened (capability : FoldCapability) (a : ι) :
    Synced a .empty (listened capability a) where
  subscribed := Hub.subscribed_of_empty a displayKinds
  kept := Registry.kept_empty capability
  lit := by intro x r hr; cases hr
  same := rfl

/-- **What the listener has written down after a run are the display records of the registry**,
for every run in which nobody unsubscribes it. -/
theorem writeDown_told (capability : FoldCapability)
    (hloyal : Hub.Loyal respond a displayKinds) (run : List (Command ι))
    (hrun : ∀ k ∈ displayKinds, Command.unregister a k ∉ run) :
    writeDownAll .empty (heard a (told respond (listened capability a) run)) =
      (after respond (listened capability a) run).registry.displays :=
  (synced_run hloyal run (synced_listened capability a) hrun).same

/-- Agent 1 cannot be reached and drops whatever it is told of; every other agent listens. -/
def fickle (b : Nat) (e : AgentEvent) : Response Nat :=
  if b = 1 then ⟨false, [.unregister 1 e.kind]⟩ else ⟨true, []⟩

theorem loyal_fickle {kinds : List AgentKind} : Hub.Loyal fickle 0 kinds := by
  intro b e k _
  unfold fickle
  split <;> simp

/-- A run that writes display records in every way, with a second agent that is lost. -/
def busyRun : List (Command Nat) :=
  [.arrange (.connect ⟨0⟩ ⟨"builtin", [⟨1080, 2340, 60⟩, ⟨720, 1560, 120⟩], 0, 2, []⟩),
    .register 1 .display,
    .arrange (.create ⟨"a", 640, 480, 1, none⟩),
    .arrange (.expand [⟨2⟩, ⟨0⟩] [⟨0, 0⟩, ⟨640, 0⟩]),
    .setAvailableArea ⟨2⟩ ⟨0, 20, 640, 460⟩,
    .setState .on,
    .senseRotation .deg90,
    .arrange (.setMode ⟨0⟩ 1),
    .overrideRotation ⟨2⟩ .deg180 640 480,
    .arrange (.makeUnique [⟨0⟩] ⟨true, .deg0⟩),
    .arrange (.mirror ⟨0⟩ [⟨2⟩]),
    .arrange (.disconnect ⟨0⟩)]

theorem writeDown_told_busyRun :
    Hub.Loyal fickle 0 displayKinds ∧
      (∀ k ∈ displayKinds, Command.unregister 0 k ∉ busyRun) ∧
      writeDownAll .empty (heard 0 (told fickle (listened ⟨false, []⟩ 0) busyRun)) =
        (after fickle (listened ⟨false, []⟩ 0) busyRun).registry.displays := by
  have hstays : ∀ k ∈ displayKinds, Command.unregister 0 k ∉ busyRun := by
    intro k _
    simp [busyRun]
  exact ⟨loyal_fickle, hstays, writeDown_told ⟨false, []⟩ loyal_fickle busyRun hstays⟩

end Service

end DisplayServer
