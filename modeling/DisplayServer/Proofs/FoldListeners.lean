import DisplayServer.Proofs.DisplayReplica
import DisplayServer.Proofs.FoldRequests
import DisplayServer.Proofs.ScreensAnnounced

/-!
# Listeners of the posture hold a replica of it

Of all commands to the service, the four fold requests alone reach the posture of the device, and
what agents are told of it is what these requests tell (`Service.relays_run`). Everything else
goes past it: an operation of the topology is told to listeners of screens and displays, power and
states to listeners of their own.

So what holds after a run of requests (`Posture.after`) holds after every run of the service, and
an agent that listens to the posture from the start, and keeps the last status and the last mode
that it was told, knows both.
-/

namespace DisplayServer

/-- The kinds of events that tell of the posture. -/
def foldKinds : List AgentKind := [.foldStatus, .foldDisplayMode]

theorem AgentEvent.foldStatus?_of_kind {e : AgentEvent} (h : e.kind ∉ foldKinds) :
    e.foldStatus? = none := by
  cases e with
  | foldStatusChanged status => exact absurd (by simp [AgentEvent.kind, foldKinds]) h
  | _ => rfl

theorem AgentEvent.foldMode?_of_kind {e : AgentEvent} (h : e.kind ∉ foldKinds) :
    e.foldMode? = none := by
  cases e with
  | foldDisplayModeChanged mode => exact absurd (by simp [AgentEvent.kind, foldKinds]) h
  | _ => rfl

namespace Registry

variable (r : Registry)

/-! ## Steps that leave the posture alone -/

/-- What fold requests look at. -/
def folding : FoldCapability × Posture := (r.capability, r.posture)

theorem folding_remove (x : ScreenId) : (r.remove x).1.folding = r.folding := by
  unfold remove
  split <;> rfl

theorem folding_ensure (ids : IdSource) (q : ScreenReport) :
    (r.ensure ids q).1.folding = r.folding := by
  unfold ensure
  split <;> rfl

theorem folding_refresh (q : ScreenReport) (change : ScreenChange) :
    (r.refresh q change).1.folding = r.folding := by
  unfold refresh
  split <;> rfl

theorem folding_follow (ids : IdSource) (event : TopologyEvent) :
    (r.follow ids event).1.folding = r.folding := by
  cases event with
  | connected q => rfl
  | groupDissolved g => rfl
  | disconnected x => exact r.folding_remove x
  | changed q change => exact r.folding_refresh q change
  | becameUnique q d => exact r.folding_remove q.id
  | joinedGroup q g =>
    cases hg : g.combination with
    | mirror =>
      simp only [follow, hg]
      exact r.folding_remove q.id
    | alone | expand =>
      simp only [follow, hg]
      exact r.folding_ensure ids q
  | leftGroup q g reason =>
    simp only [follow]
    split
    · exact r.folding_ensure ids q
    · rfl

theorem folding_updateDisplay (x : ScreenId) (f : Display → Display)
    (announce : Display → AgentEvent) :
    (r.updateDisplay x f announce).registry.folding = r.folding := by
  unfold updateDisplay
  split <;> rfl

theorem mem_updateDisplay {r : Registry} {x : ScreenId} {f : Display → Display}
    {announce : Display → AgentEvent} {e : AgentEvent}
    (he : e ∈ (r.updateDisplay x f announce).events) : ∃ d, e = announce d := by
  unfold updateDisplay at he
  split at he
  · cases he
  · exact ⟨_, List.mem_singleton.mp he⟩

end Registry

namespace Service

variable {ι : Type} [DecidableEq ι] {respond : ι → AgentEvent → Response ι} {a : ι}
  {s s' s'' : Service ι} {p p' : Posture} {calls more : List (Call ι)} {es fs : List AgentEvent}

/-! ## What a listener hears of the posture -/

/-- The service goes on with the posture `p`, and of the posture the listener hears these
events. -/
structure Relays (a : ι) (s s' : Service ι) (calls : List (Call ι)) (p : Posture)
    (es : List AgentEvent) : Prop where
  subscribed : Hub.Subscribed a foldKinds s'.hub
  folding : s'.registry.folding = (s.registry.capability, p)
  heard : (heard a calls).filter (·.kind ∈ foldKinds) = es.filter (·.kind ∈ foldKinds)

theorem relays_refl (hs : Hub.Subscribed a foldKinds s.hub) :
    Relays a s s [] s.registry.posture [] :=
  ⟨hs, rfl, rfl⟩

theorem Relays.capability (h : Relays a s s' calls p es) :
    s'.registry.capability = s.registry.capability :=
  congrArg Prod.fst h.folding

theorem Relays.posture (h : Relays a s s' calls p es) : s'.registry.posture = p :=
  congrArg Prod.snd h.folding

theorem Relays.trans (h : Relays a s s' calls p es) (h' : Relays a s' s'' more p' fs) :
    Relays a s s'' (calls ++ more) p' (es ++ fs) where
  subscribed := h'.subscribed
  folding := by rw [h'.folding, h.capability]
  heard := by
    rw [Hub.heard_append, List.filter_append, List.filter_append, h.heard, h'.heard]

/-- The later commands leave the posture as it is. -/
theorem Relays.andThen (h : Relays a s s' calls p es)
    (h' : Relays a s' s'' more s'.registry.posture fs) :
    Relays a s s'' (calls ++ more) p (es ++ fs) := by
  rw [h.posture] at h'
  exact h.trans h'

/-- Events of other kinds are as good as none. -/
theorem Relays.silent (h : Relays a s s' calls p es) (hes : ∀ e ∈ es, e.kind ∉ foldKinds) :
    Relays a s s' calls p [] where
  subscribed := h.subscribed
  folding := h.folding
  heard := by
    rw [h.heard]
    simpa using hes

theorem relays_announce (hloyal : Hub.Loyal respond a foldKinds)
    (hs : Hub.Subscribed a foldKinds s.hub) (e : AgentEvent) :
    Relays a s (s.announce respond e).1 (s.announce respond e).2 s.registry.posture [e] :=
  ⟨Hub.subscribed_notify hloyal hs e, rfl, Hub.filter_heard_notify hs e⟩

/-- Registry and topology are replaced, and agents are told of several events. -/
theorem relays_replaced (hloyal : Hub.Loyal respond a foldKinds)
    (hs : Hub.Subscribed a foldKinds s.hub) {r : Registry} (u : Topology)
    (hr : r.folding = (s.registry.capability, p)) (es : List AgentEvent) :
    Relays a s ({ s with registry := r, topology := u }.announceAll respond es).1
      ({ s with registry := r, topology := u }.announceAll respond es).2 p es := by
  obtain ⟨hsub, hheard⟩ :=
    filter_heard_announceAll hloyal es (s := { s with registry := r, topology := u }) hs
  obtain ⟨hub, heq⟩ := announceAll_eq respond { s with registry := r, topology := u } es
  refine ⟨hsub, ?_, hheard⟩
  rw [heq]
  exact hr

/-! ## Commands that go past the posture -/

theorem relays_follow (hloyal : Hub.Loyal respond a foldKinds)
    (hs : Hub.Subscribed a foldKinds s.hub) (event : TopologyEvent) :
    Relays a s (s.follow respond event).1 (s.follow respond event).2 s.registry.posture [] := by
  refine (relays_replaced hloyal hs _ (s.registry.folding_follow s.topology.displayIds event)
    _).silent ?_
  intro e he
  rw [Registry.kind_follow he]
  decide

theorem relays_passOn (hloyal : Hub.Loyal respond a foldKinds)
    (hs : Hub.Subscribed a foldKinds s.hub) (event : TopologyEvent) :
    Relays a s (s.passOn respond event).1 (s.passOn respond event).2 s.registry.posture [] := by
  have hfollowed := relays_follow hloyal hs event
  unfold passOn
  cases htold : event.announcement? with
  | none => exact hfollowed
  | some told =>
    -- listeners of screens are told after the registry has followed
    have hannounced := (relays_announce hloyal hfollowed.subscribed told).silent (by
      intro e he
      rw [List.mem_singleton.mp he, TopologyEvent.kind_announcement htold]
      decide)
    exact hfollowed.andThen hannounced

theorem relays_passOnAll (hloyal : Hub.Loyal respond a foldKinds) (events : List TopologyEvent)
    (hs : Hub.Subscribed a foldKinds s.hub) :
    Relays a s (s.passOnAll respond events).1 (s.passOnAll respond events).2
      s.registry.posture [] := by
  induction events generalizing s with
  | nil => exact relays_refl hs
  | cons event rest ih =>
    have hfirst := relays_passOn hloyal hs event
    exact hfirst.andThen (ih hfirst.subscribed)

theorem relays_arrange {α : Type} (hloyal : Hub.Loyal respond a foldKinds)
    (hs : Hub.Subscribed a foldKinds s.hub) (operation : Topology → Outcome α) :
    Relays a s (s.arrange respond operation).service (s.arrange respond operation).calls
      s.registry.posture [] := by
  have hpassed := relays_passOnAll hloyal (operation s.topology).events
    (s := { s with topology := (operation s.topology).topology }) hs
  exact ⟨hpassed.subscribed, hpassed.folding, hpassed.heard⟩

/-- A step of the registry that leaves the posture alone and tells of other things. -/
theorem relays_update_other {α : Type} (hloyal : Hub.Loyal respond a foldKinds)
    (hs : Hub.Subscribed a foldKinds s.hub) (step : Registry → Registry.Step α)
    (hfolding : (step s.registry).registry.folding = s.registry.folding)
    (hkinds : ∀ e ∈ (step s.registry).events, e.kind ∉ foldKinds) :
    Relays a s (s.update respond step).service (s.update respond step).calls
      s.registry.posture [] :=
  (relays_replaced hloyal hs s.topology hfolding _).silent hkinds

theorem relays_senseRotation (hloyal : Hub.Loyal respond a foldKinds)
    (hs : Hub.Subscribed a foldKinds s.hub) (rotation : Rotation) :
    Relays a s (s.senseRotation respond rotation).service (s.senseRotation respond rotation).calls
      s.registry.posture [] := by
  unfold senseRotation
  split
  · exact relays_refl hs
  · cases s.topology.defaultScreen with
    | none => exact relays_refl hs
    | some x => exact relays_arrange hloyal hs fun t => t.rotate x rotation

theorem relays_powerPanels (hloyal : Hub.Loyal respond a foldKinds)
    (hs : Hub.Subscribed a foldKinds s.hub) (power : ScreenPower) (reason : PowerReason) :
    Relays a s (s.powerPanels respond power reason).service
      (s.powerPanels respond power reason).calls s.registry.posture [] := by
  unfold powerPanels
  simp only
  split
  · exact ⟨hs, rfl, rfl⟩
  · have hannounced := (relays_announce hloyal
      (s := { s with topology := (s.topology.setPanelPower power).1 }) hs
      (.displayPower (if power = .on then .displayOn else .displayOff) .ending reason)).silent (by
        simp [AgentEvent.kind, foldKinds])
    exact ⟨hannounced.subscribed, hannounced.folding, hannounced.heard⟩

/-- The fold request that a command is. -/
def Command.fold? : Command ι → Option FoldRequest
  | senseFold reading => some (.sense reading)
  | lockFold locked => some (.lock locked)
  | forceFoldMode mode => some (.force mode)
  | restoreFold => some .restore
  | _ => none

theorem relays_other (hloyal : Hub.Loyal respond a foldKinds)
    (hs : Hub.Subscribed a foldKinds s.hub) {c : Command ι} (hc : c.fold? = none)
    (hstays : ∀ k ∈ foldKinds, c ≠ .unregister a k) :
    Relays a s (s.perform respond c) (c.reply respond s).calls s.registry.posture [] := by
  cases c with
  | arrange tc => exact relays_arrange hloyal hs tc.outcome
  | powerScreen x power => exact ⟨hs, rfl, rfl⟩
  | powerPanels power reason => exact relays_powerPanels hloyal hs power reason
  | powerTransition transition phase reason =>
    exact (relays_announce hloyal hs _).silent (by simp [AgentEvent.kind, foldKinds])
  | lockRotation locked => exact ⟨hs, rfl, rfl⟩
  | senseRotation rotation => exact relays_senseRotation hloyal hs rotation
  | setState state =>
    refine relays_update_other hloyal hs (·.setState state) ?_ ?_
    · unfold Registry.setState
      split <;> rfl
    · unfold Registry.setState
      split <;> simp [AgentEvent.kind, foldKinds]
  | setAvailableArea x area =>
    refine relays_update_other hloyal hs (·.setAvailableArea x area)
      (Registry.folding_updateDisplay _ _ _ _) fun e he => ?_
    obtain ⟨d, rfl⟩ := Registry.mem_updateDisplay he
    simp [AgentEvent.kind, foldKinds]
  | overrideRotation x rotation width height =>
    refine relays_update_other hloyal hs (·.overrideRotation x rotation width height)
      (Registry.folding_updateDisplay _ _ _ _) fun e he => ?_
    obtain ⟨d, rfl⟩ := Registry.mem_updateDisplay he
    simp [AgentEvent.kind, foldKinds]
  | register b kind => exact ⟨Hub.subscribed_register hs b kind, rfl, rfl⟩
  | unregister b kind =>
    have hother : b = a → kind ∉ foldKinds := by
      intro hb hk
      exact hstays kind hk (by rw [hb])
    exact ⟨Hub.subscribed_unregister hs hother, rfl, rfl⟩
  | senseFold | lockFold | forceFoldMode | restoreFold => cases hc

/-! ## Fold requests -/

theorem reply_of_fold? {c : Command ι} {q : FoldRequest} (hc : c.fold? = some q) :
    c.reply respond s = (fun _ => ()) <$> s.update respond q.step := by
  cases c with
  | senseFold | lockFold | forceFoldMode | restoreFold =>
    obtain rfl := Option.some.inj hc
    rfl
  | _ => cases hc

theorem relays_fold (hloyal : Hub.Loyal respond a foldKinds)
    (hs : Hub.Subscribed a foldKinds s.hub)
    (hfoldable : s.registry.capability.foldable = true) {c : Command ι} {q : FoldRequest}
    (hc : c.fold? = some q) :
    Relays a s (s.perform respond c) (c.reply respond s).calls (s.registry.posture.take q)
      (q.turn s.registry.posture).2 := by
  obtain ⟨hregistry, hevents⟩ := FoldRequest.registry_step hfoldable q
  have hfolding : (q.step s.registry).registry.folding =
      (s.registry.capability, s.registry.posture.take q) := by
    rw [hregistry]
    rfl
  have htold := relays_replaced hloyal hs s.topology hfolding (q.step s.registry).events
  rw [perform, reply_of_fold? hc, ← hevents]
  exact htold

/-- The fold requests of a run. -/
def foldRequests (run : List (Command ι)) : List FoldRequest := run.filterMap Command.fold?

/-- **Of a run the posture takes the fold requests, and a listener hears what they tell.** -/
theorem relays_run (hloyal : Hub.Loyal respond a foldKinds)
    (hs : Hub.Subscribed a foldKinds s.hub)
    (hfoldable : s.registry.capability.foldable = true) (run : List (Command ι))
    (hrun : ∀ k ∈ foldKinds, Command.unregister a k ∉ run) :
    Relays a s (after respond s run) (told respond s run)
      (s.registry.posture.after (foldRequests run))
      (s.registry.posture.told (foldRequests run)) := by
  induction run generalizing s with
  | nil => exact relays_refl hs
  | cons c rest ih =>
    obtain ⟨hstays, hrest⟩ := stays_cons hrun
    cases hc : c.fold? with
    | none =>
      have hfirst := relays_other hloyal hs hc hstays
      have hlater := ih hfirst.subscribed (hfirst.capability ▸ hfoldable) hrest
      rw [hfirst.posture] at hlater
      rw [foldRequests, List.filterMap_cons_none hc]
      exact hfirst.trans hlater
    | some q =>
      have hfirst := relays_fold hloyal hs hfoldable hc
      have hlater := ih hfirst.subscribed (hfirst.capability ▸ hfoldable) hrest
      rw [hfirst.posture] at hlater
      rw [foldRequests, List.filterMap_cons_some hc]
      exact hfirst.trans hlater

/-! ## The posture after every run -/

/-- A device without screens, whose posture the agent listens to. -/
def attended (capability : FoldCapability) (a : ι) : Service ι :=
  { (start capability : Service ι) with hub := Hub.empty.registerAll a foldKinds }

/-- The readings of the sensor in a run, locked or not. -/
def readings (run : List (Command ι)) : List FoldStatus :=
  (foldRequests run).filterMap FoldRequest.reading?

/-- The statuses that the agent is told of in a run that begins at `s`. -/
def statusesHeard (respond : ι → AgentEvent → Response ι) (a : ι) (s : Service ι)
    (run : List (Command ι)) : List FoldStatus :=
  (heard a (told respond s run)).filterMap AgentEvent.foldStatus?

/-- The modes that the agent is told of in a run that begins at `s`. -/
def modesHeard (respond : ι → AgentEvent → Response ι) (a : ι) (s : Service ι)
    (run : List (Command ι)) : List FoldDisplayMode :=
  (heard a (told respond s run)).filterMap AgentEvent.foldMode?

/-- How the posture stands after a run that begins at `s`, and what the listener `a` knows of
it. -/
structure PostureFollowed (respond : ι → AgentEvent → Response ι) (a : ι) (s : Service ι)
    (run : List (Command ι)) : Prop where
  /-- The status is locked if it was locked last. -/
  lock : (after respond s run).registry.posture.locked =
    ((foldRequests run).filterMap FoldRequest.lock?).getLastD false
  /-- While it is locked, nothing but a restoration changes it. -/
  locked : (after respond s run).registry.posture.locked = true → ∀ c, c ≠ .restoreFold →
    (after respond s (run ++ [c])).registry.foldStatus = (after respond s run).registry.foldStatus
  /-- A restoration releases it and shows the last reading, whenever that came. -/
  restored : (after respond s (run ++ [.restoreFold])).registry.foldStatus =
      (readings run).getLastD .unknown ∧
    (after respond s (run ++ [.restoreFold])).registry.posture.locked = false
  /-- Only the unknown mode is refused, which changes nothing and tells nobody. -/
  refused : ∀ (q : FoldRequest) (e : Error),
    ((after respond s run).update respond q.step).result = .error e →
      (q = .force .unknown ∧ e = .invalidParameter .unknownFoldMode) ∧
      ((after respond s run).update respond q.step).service = after respond s run ∧
      ((after respond s run).update respond q.step).calls = []
  /-- The listener knows the status. -/
  status : (statusesHeard respond a s run).getLastD .unknown =
    (after respond s run).registry.foldStatus
  /-- The listener knows the mode. -/
  mode : (modesHeard respond a s run).getLastD .unknown = (after respond s run).registry.foldMode
  /-- No status is told twice in a row, nor is the first one the unknown status. -/
  statuses : List.IsChain (· ≠ ·) (.unknown :: statusesHeard respond a s run)
  /-- No mode is told twice in a row, nor is the first one the unknown mode. -/
  modes : List.IsChain (· ≠ ·) (.unknown :: modesHeard respond a s run)

theorem filterMap_heard_of_relays {β : Type} (h : Relays a s s' calls p es)
    {view : AgentEvent → Option β} (hview : ∀ e : AgentEvent, e.kind ∉ foldKinds → view e = none) :
    (heard a calls).filterMap view = es.filterMap view := by
  have hfilter : ∀ es : List AgentEvent,
      (es.filter (·.kind ∈ foldKinds)).filterMap view = es.filterMap view := by
    intro es
    rw [List.filterMap_filter]
    refine List.filterMap_congr fun e _ => ?_
    split
    · rfl
    · rename_i hkind
      exact (hview e (by simpa using hkind)).symm
  rw [← hfilter, h.heard, hfilter]

omit [DecidableEq ι] in
theorem foldStatus_of_foldable (h : s.registry.capability.foldable = true) :
    s.registry.foldStatus = s.registry.posture.status :=
  if_pos h

/-- A command takes the posture on by the fold request that it is. -/
theorem folding_perform (hloyal : Hub.Loyal respond a foldKinds)
    (hs : Hub.Subscribed a foldKinds s.hub)
    (hfoldable : s.registry.capability.foldable = true) (c : Command ι) :
    (s.perform respond c).registry.folding =
      (s.registry.capability, c.fold?.elim s.registry.posture s.registry.posture.take) := by
  cases hc : c.fold? with
  | some q => exact (relays_fold hloyal hs hfoldable hc).folding
  | none =>
    by_cases hleaves : ∃ k ∈ foldKinds, c = .unregister a k
    · obtain ⟨k, -, rfl⟩ := hleaves
      rfl
    · have hstays : ∀ k ∈ foldKinds, c ≠ .unregister a k :=
        fun k hk he => hleaves ⟨k, hk, he⟩
      exact (relays_other hloyal hs hc hstays).folding

theorem posture_perform (hloyal : Hub.Loyal respond a foldKinds)
    (hs : Hub.Subscribed a foldKinds s.hub)
    (hfoldable : s.registry.capability.foldable = true) (c : Command ι) :
    (s.perform respond c).registry.posture =
      c.fold?.elim s.registry.posture s.registry.posture.take :=
  congrArg Prod.snd (folding_perform hloyal hs hfoldable c)

theorem foldStatus_perform (hloyal : Hub.Loyal respond a foldKinds)
    (hs : Hub.Subscribed a foldKinds s.hub)
    (hfoldable : s.registry.capability.foldable = true) (c : Command ι) :
    (s.perform respond c).registry.foldStatus =
      (c.fold?.elim s.registry.posture s.registry.posture.take).status := by
  have hcapability : (s.perform respond c).registry.capability = s.registry.capability :=
    congrArg Prod.fst (folding_perform hloyal hs hfoldable c)
  rw [foldStatus_of_foldable (hcapability ▸ hfoldable), posture_perform hloyal hs hfoldable]

/-- A locked status stays as it is under every command but a restoration. -/
theorem foldStatus_perform_of_locked (hloyal : Hub.Loyal respond a foldKinds)
    (hs : Hub.Subscribed a foldKinds s.hub)
    (hfoldable : s.registry.capability.foldable = true)
    (hlocked : s.registry.posture.locked = true) {c : Command ι} (hc : c ≠ .restoreFold) :
    (s.perform respond c).registry.foldStatus = s.registry.foldStatus := by
  rw [foldStatus_perform hloyal hs hfoldable, foldStatus_of_foldable hfoldable]
  cases c with
  | restoreFold => exact absurd rfl hc
  | senseFold | lockFold | forceFoldMode =>
    exact Posture.status_take_of_locked hlocked (by simp)
  | _ => rfl

/-- A request that is refused changes nothing and tells nobody. -/
theorem update_of_refused {q : FoldRequest} {e : Error}
    (h : (s.update respond q.step).result = .error e) :
    (s.update respond q.step).service = s ∧ (s.update respond q.step).calls = [] := by
  obtain ⟨hregistry, hevents⟩ := FoldRequest.step_of_refused h
  simp only [update, hregistry, hevents]
  exact ⟨rfl, rfl⟩

/-- **The posture of a device that folds is the business of fold requests, and whoever listens to
it knows it.** That holds after every run of any commands in which nobody unsubscribes the
listener, whatever the other agents do. -/
theorem posture_followed (capability : FoldCapability) (hfoldable : capability.foldable = true)
    (hloyal : Hub.Loyal respond a foldKinds) (run : List (Command ι))
    (hrun : ∀ k ∈ foldKinds, Command.unregister a k ∉ run) :
    PostureFollowed respond a (attended capability a) run := by
  have hsubscribed : Hub.Subscribed a foldKinds (attended capability a).hub :=
    Hub.subscribed_of_empty a foldKinds
  have hrelays := relays_run hloyal hsubscribed hfoldable run hrun
  have hposture : (after respond (attended capability a) run).registry.posture =
      Posture.initial.after (foldRequests run) := hrelays.posture
  have hfolds : (after respond (attended capability a) run).registry.capability.foldable = true :=
    hrelays.capability ▸ hfoldable
  -- what is heard of the posture is what the fold requests tell
  have hstatuses : statusesHeard respond a (attended capability a) run =
      (Posture.initial.told (foldRequests run)).filterMap AgentEvent.foldStatus? :=
    filterMap_heard_of_relays hrelays fun _ => AgentEvent.foldStatus?_of_kind
  have hmodes : modesHeard respond a (attended capability a) run =
      (Posture.initial.told (foldRequests run)).filterMap AgentEvent.foldMode? :=
    filterMap_heard_of_relays hrelays fun _ => AgentEvent.foldMode?_of_kind
  obtain ⟨hstatus, hstatusChain⟩ := Posture.initial.status_told (foldRequests run)
  obtain ⟨hmode, hmodeChain⟩ := Posture.initial.mode_told (foldRequests run)
  constructor
  case lock =>
    rw [hposture]
    exact Posture.initial.locked_after (foldRequests run)
  case locked =>
    intro hlocked c hc
    rw [after_concat]
    exact foldStatus_perform_of_locked hloyal hrelays.subscribed hfolds hlocked hc
  case restored =>
    rw [after_concat, foldStatus_perform hloyal hrelays.subscribed hfolds,
      posture_perform hloyal hrelays.subscribed hfolds, hposture]
    constructor
    · exact (Posture.status_take_restore _).trans (Posture.initial.sensed_after _)
    · exact (Posture.kept_take _ .restore).2
  case refused =>
    intro q e he
    exact ⟨(FoldRequest.refused_iff hfolds).mp he, update_of_refused he⟩
  case status =>
    rw [hstatuses, foldStatus_of_foldable hfolds, hposture]
    exact hstatus
  case mode =>
    have hseen : (after respond (attended capability a) run).registry.foldMode =
        (after respond (attended capability a) run).registry.posture.mode := if_pos hfolds
    rw [hmodes, hseen, hposture]
    exact hmode
  case statuses =>
    rw [hstatuses]
    exact hstatusChain
  case modes =>
    rw [hmodes]
    exact hmodeChain

/-- A run that locks an open device, closes it, and asks for a mode that there is not; a second
agent is lost. -/
def lockedRun : List (Command Nat) :=
  [.register 1 .foldStatus, .senseFold .expand, .lockFold true, .senseFold .halfFold,
    .forceFoldMode .main, .forceFoldMode .unknown, .senseFold .folded]

/-- The device is shown open until a restoration shows it closed. -/
theorem posture_followed_lockedRun :
    Hub.Loyal fickle 0 foldKinds ∧
      (∀ k ∈ foldKinds, Command.unregister 0 k ∉ lockedRun) ∧
      statusesHeard fickle 0 (attended ⟨true, []⟩ 0) lockedRun = [.expand] ∧
      modesHeard fickle 0 (attended ⟨true, []⟩ 0) lockedRun = [.main] ∧
      (after fickle (attended ⟨true, []⟩ 0) lockedRun).registry.foldStatus = .expand ∧
      (after fickle (attended ⟨true, []⟩ 0) (lockedRun ++ [.restoreFold])).registry.foldStatus =
        .folded ∧
      PostureFollowed fickle 0 (attended ⟨true, []⟩ 0) lockedRun := by
  have hstays : ∀ k ∈ foldKinds, Command.unregister 0 k ∉ lockedRun := by
    intro k _
    simp [lockedRun]
  have hfollowed := posture_followed ⟨true, []⟩ rfl loyal_fickle lockedRun hstays
  exact ⟨loyal_fickle, hstays, by decide, by decide, hfollowed.status.symm.trans (by decide),
    hfollowed.restored.1, hfollowed⟩

end Service

end DisplayServer
