import DisplayServer.Proofs.HubDelivery
import DisplayServer.Proofs.Pictures

/-!
# Who listens to screens learns of a new picture

Agents that listen to screens are told exactly the announcements of what happened to the topology:
what the registry says besides is of displays. So an agent that is subscribed when a command
begins, and whom nobody unsubscribes meanwhile, learns what these announcements report
(`mem_passOnAll`), and a command announces the picture that it gives to a screen unless it locks
the rotation of a screen that it makes unique (`Topology.tell_outcome_iff`).
-/

namespace DisplayServer

/-! ## Kinds of events -/

theorem AgentEvent.kind_of_reports {e : AgentEvent} {q : ScreenReport} (hq : q ∈ e.reports) :
    e.kind = .screen := by
  cases e with
  | screenChanged | groupChanged => rfl
  | _ => cases hq

theorem TopologyEvent.mem_told {e : TopologyEvent} {q : ScreenReport} :
    q ∈ e.told ↔ ∃ told, e.announcement? = some told ∧ q ∈ told.reports := by
  unfold TopologyEvent.told
  cases e.announcement? <;> simp

namespace Registry

variable {r : Registry} {ids : IdSource} {e : AgentEvent}

theorem kind_remove {x : ScreenId} (he : e ∈ (r.remove x).2) : e.kind = .display := by
  unfold remove at he
  split at he
  · cases he
  · rw [List.mem_singleton.mp he]
    rfl

theorem kind_create {d : DisplayId} {q : ScreenReport} (he : e ∈ (r.create d q).2) :
    e.kind = .display := by
  rw [List.mem_singleton.mp he]
  rfl

theorem kind_ensure {q : ScreenReport} (he : e ∈ (r.ensure ids q).2.2) : e.kind = .display := by
  unfold ensure at he
  split at he
  · cases he
  · exact kind_create he

theorem kind_refresh {q : ScreenReport} {change : ScreenChange} (he : e ∈ (r.refresh q change).2) :
    e.kind = .display := by
  unfold refresh at he
  split at he
  · cases he
  · simp only at he
    split at he
    · rw [List.mem_singleton.mp he]
      rfl
    · cases he

/-- Following the topology, the registry speaks of displays. -/
theorem kind_follow {event : TopologyEvent} (he : e ∈ (r.follow ids event).2.2) :
    e.kind = .display := by
  cases event with
  | connected q => cases he
  | groupDissolved g => cases he
  | disconnected x => exact kind_remove he
  | changed q change => exact kind_refresh he
  | becameUnique q d =>
    rcases List.mem_append.mp he with he | he
    · exact kind_remove he
    · exact kind_create he
  | joinedGroup q g =>
    cases hg : g.combination with
    | mirror =>
      simp only [follow, hg] at he
      exact kind_remove he
    | alone | expand =>
      simp only [follow, hg] at he
      exact kind_ensure he
  | leftGroup q g reason =>
    simp only [follow] at he
    split at he
    · exact kind_ensure he
    · cases he

end Registry

namespace Service

open DisplayServer.Topology

variable {ι : Type} [DecidableEq ι] {respond : ι → AgentEvent → Response ι} {s : Service ι}
  {a : ι} {told : AgentEvent}

/-! ## What passing events on does to the hub -/

theorem hub_announce (s : Service ι) (e : AgentEvent) : (s.announce respond e).1.hub =
    (Hub.answers respond (s.announce respond e).2).foldl Hub.grant s.hub :=
  Hub.hub_tell respond e _ s.hub

theorem hub_announceAll (s : Service ι) (es : List AgentEvent) :
    (s.announceAll respond es).1.hub =
      (Hub.answers respond (s.announceAll respond es).2).foldl Hub.grant s.hub := by
  induction es generalizing s with
  | nil => rfl
  | cons e rest ih =>
    show ((s.announce respond e).1.announceAll respond rest).1.hub =
      (Hub.answers respond ((s.announce respond e).2 ++
        ((s.announce respond e).1.announceAll respond rest).2)).foldl Hub.grant s.hub
    rw [Hub.answers_append, List.foldl_append, ih, ← hub_announce]

theorem hub_follow (s : Service ι) (event : TopologyEvent) :
    (s.follow respond event).1.hub =
      (Hub.answers respond (s.follow respond event).2).foldl Hub.grant s.hub :=
  hub_announceAll _ _

theorem hub_passOn (s : Service ι) (event : TopologyEvent) :
    (s.passOn respond event).1.hub =
      (Hub.answers respond (s.passOn respond event).2).foldl Hub.grant s.hub := by
  unfold passOn
  cases event.announcement? with
  | none => exact hub_follow s event
  | some told =>
    simp only
    rw [Hub.answers_append, List.foldl_append, ← hub_follow]
    exact hub_announce _ told

/-! ## What a listener is told -/

theorem mem_announce {e : AgentEvent} : ⟨a, told⟩ ∈ (s.announce respond e).2 ↔
    a ∈ s.hub.subscribers told.kind ∧ e = told := by
  have hcalls : (s.announce respond e).2 = (s.hub.subscribers e.kind).map fun b => ⟨b, e⟩ :=
    Hub.calls_tell respond e _ s.hub
  rw [hcalls, List.mem_map]
  constructor
  · rintro ⟨b, hb, heq⟩
    cases heq
    exact ⟨hb, rfl⟩
  · rintro ⟨ha, rfl⟩
    exact ⟨a, ha, rfl⟩

theorem mem_of_announceAll {es : List AgentEvent}
    (h : ⟨a, told⟩ ∈ (s.announceAll respond es).2) : told ∈ es := by
  induction es generalizing s with
  | nil => cases h
  | cons e rest ih =>
    rcases List.mem_append.mp h with h | h
    · rw [(mem_announce.mp h).2]
      exact List.mem_cons_self
    · exact List.mem_cons_of_mem e (ih h)

theorem not_mem_follow (hkind : told.kind = .screen) (event : TopologyEvent) :
    ⟨a, told⟩ ∉ (s.follow respond event).2 := by
  intro h
  have hdisplay := Registry.kind_follow (mem_of_announceAll h)
  rw [hkind] at hdisplay
  cases hdisplay

/-- Of one event a listener to screens is told the announcement. -/
theorem mem_passOn {event : TopologyEvent} (ha : a ∈ s.hub.subscribers .screen)
    (hstays : .unregister a .screen ∉ Hub.answers respond (s.passOn respond event).2)
    (hkind : told.kind = .screen) :
    ⟨a, told⟩ ∈ (s.passOn respond event).2 ↔ event.announcement? = some told := by
  unfold passOn at hstays ⊢
  cases hannounced : event.announcement? with
  | none => exact iff_of_false (not_mem_follow hkind event) nofun
  | some e =>
    simp only [hannounced, Hub.answers_append, List.mem_append, not_or] at hstays ⊢
    have ha' : a ∈ (s.follow respond event).1.hub.subscribers told.kind := by
      rw [hub_follow, hkind]
      exact Hub.mem_grants ha hstays.1
    rw [mem_announce, Option.some.injEq]
    constructor
    · rintro (hfollow | ⟨-, heq⟩)
      · exact absurd hfollow (not_mem_follow hkind event)
      · exact heq
    · exact fun heq => .inr ⟨ha', heq⟩

/-- Of several events a listener to screens is told the announcements. -/
theorem mem_passOnAll {es : List TopologyEvent} (ha : a ∈ s.hub.subscribers .screen)
    (hstays : .unregister a .screen ∉ Hub.answers respond (s.passOnAll respond es).2)
    (hkind : told.kind = .screen) :
    ⟨a, told⟩ ∈ (s.passOnAll respond es).2 ↔ ∃ e ∈ es, e.announcement? = some told := by
  induction es generalizing s with
  | nil => exact iff_of_false List.not_mem_nil (by simp)
  | cons e rest ih =>
    have hcalls : (s.passOnAll respond (e :: rest)).2 =
        (s.passOn respond e).2 ++ ((s.passOn respond e).1.passOnAll respond rest).2 := rfl
    rw [hcalls, Hub.answers_append, List.mem_append, not_or] at hstays
    have ha' : a ∈ (s.passOn respond e).1.hub.subscribers .screen := by
      rw [hub_passOn]
      exact Hub.mem_grants ha hstays.1
    rw [hcalls, List.mem_append, mem_passOn ha hstays.1 hkind, ih ha' hstays.2,
      List.exists_mem_cons_iff]

/-- Among the calls the agent is told that the screen shows the picture. -/
def Informs (calls : List (Call ι)) (a : ι) (x : ScreenId) (p : Picture) : Prop :=
  ∃ told, ⟨a, told⟩ ∈ calls ∧ ∃ q ∈ told.reports, q.id = x ∧ q.picture = p

variable {x : ScreenId} {p p' : Picture}

theorem informs_arrange_iff {α : Type} (operation : Topology → Outcome α)
    (ha : a ∈ s.hub.subscribers .screen)
    (hstays : .unregister a .screen ∉
      Hub.answers respond (s.arrange respond operation).calls) :
    Informs (s.arrange respond operation).calls a x p ↔
      Tell (operation s.topology).events x p := by
  have hmem : ∀ {told : AgentEvent}, told.kind = .screen →
      (⟨a, told⟩ ∈ (s.arrange respond operation).calls ↔
        ∃ e ∈ (operation s.topology).events, e.announcement? = some told) :=
    fun hkind => mem_passOnAll (s := { s with topology := (operation s.topology).topology })
      ha hstays hkind
  constructor
  · rintro ⟨told, hcall, q, hq, hshown⟩
    obtain ⟨e, he, hannounced⟩ := (hmem (AgentEvent.kind_of_reports hq)).mp hcall
    exact ⟨e, he, q, TopologyEvent.mem_told.mpr ⟨told, hannounced, hq⟩, hshown⟩
  · rintro ⟨e, he, q, hq, hshown⟩
    obtain ⟨told, hannounced, hq⟩ := TopologyEvent.mem_told.mp hq
    exact ⟨told, (hmem (AgentEvent.kind_of_reports hq)).mpr ⟨e, he, hannounced⟩, q, hq, hshown⟩

/-! ## Commands and runs -/

/-- The command turns screens while it makes them unique. -/
def Command.locks : Command ι → Bool
  | arrange c => c.locks
  | _ => false

/-- Commands that come to no operation that says how a screen is set leave pictures alone. -/
theorem picture?_perform (h : Sound s.topology) (ht : Tuned s.topology) {c : Command ι}
    (hc : ∀ tc, c.operation? s = some tc → tc.resets = false)
    (hcount : (s.perform respond c).topology.screenIds.count ≤ 2 ^ 64)
    (hp : s.topology.picture? x = some p)
    (hp' : (s.perform respond c).topology.picture? x = some p') : p' = p := by
  obtain ⟨tc, htc, harranged, -⟩ | ⟨-, htouched, -⟩ := perform_cases respond s c
  · rw [screenIds_arranged harranged] at hcount
    rw [harranged.topology] at hp'
    exact picture?_outcome h ht (hc tc htc) hcount hp hp'
  · rw [htouched.topology, hp] at hp'
    exact (Option.some.inj hp').symm

theorem informs_arranged_iff (h : Sound s.topology) (ht : Tuned s.topology)
    (tc : Topology.Command)
    (hcount : (s.arrange respond tc.outcome).service.topology.screenIds.count ≤ 2 ^ 64)
    (hp : s.topology.picture? x = some p)
    (hp' : (s.arrange respond tc.outcome).service.topology.picture? x = some p') (hne : p' ≠ p)
    (ha : a ∈ s.hub.subscribers .screen)
    (hstays : .unregister a .screen ∉
      Hub.answers respond (s.arrange respond tc.outcome).calls) :
    Informs (s.arrange respond tc.outcome).calls a x p' ↔ tc.locks = false := by
  have harranged := arranged_arrange respond s tc
  rw [screenIds_arranged harranged] at hcount
  rw [harranged.topology] at hp'
  exact (informs_arrange_iff tc.outcome ha hstays).trans
    (tell_outcome_iff h ht tc hcount hp hp' hne)

theorem informs_reply_iff (h : Sound s.topology) (ht : Tuned s.topology) (c : Command ι)
    (hcount : (s.perform respond c).topology.screenIds.count ≤ 2 ^ 64)
    (hp : s.topology.picture? x = some p)
    (hp' : (s.perform respond c).topology.picture? x = some p') (hne : p' ≠ p)
    (ha : a ∈ s.hub.subscribers .screen)
    (hstays : .unregister a .screen ∉ Hub.answers respond (c.reply respond s).calls) :
    Informs (c.reply respond s).calls a x p' ↔ c.locks = false := by
  have hkept : ¬ ∀ tc, c.operation? s = some tc → tc.resets = false :=
    fun hc => hne (picture?_perform h ht hc hcount hp hp')
  cases c with
  | arrange tc => exact informs_arranged_iff h ht tc hcount hp hp' hne ha hstays
  | senseRotation rotation =>
    cases hlocked : s.rotationLocked with
    | true =>
      refine absurd ?_ hkept
      simp [Command.operation?, hlocked]
    | false =>
      cases hdefault : s.topology.defaultScreen with
      | none =>
        refine absurd ?_ hkept
        simp [Command.operation?, hlocked, hdefault]
      | some y =>
        have hreply : (Command.senseRotation rotation : Command ι).reply respond s =
            ⟨(), (s.arrange respond (Topology.Command.rotate y rotation).outcome).service,
              (s.arrange respond (Topology.Command.rotate y rotation).outcome).calls,
              (s.arrange respond (Topology.Command.rotate y rotation).outcome).events⟩ := by
          simp only [Command.reply, senseRotation, hlocked, hdefault]
          rfl
        rw [perform, hreply] at hcount hp'
        rw [hreply] at hstays ⊢
        exact informs_arranged_iff h ht (.rotate y rotation) hcount hp hp' hne ha hstays
  | powerScreen y power =>
    refine absurd ?_ hkept
    rintro tc ⟨⟩
    rfl
  | powerPanels power reason =>
    refine absurd ?_ hkept
    rintro tc ⟨⟩
    rfl
  | _ =>
    refine absurd ?_ hkept
    rintro tc ⟨⟩

/-- After every run the topology is sound, and every screen shows a mode that it has. -/
theorem sound_tuned_after (respond : ι → AgentEvent → Response ι) (capability : FoldCapability)
    (run : List (Command ι))
    (hcount : (after respond (start capability) run).topology.screenIds.count ≤ 2 ^ 64) :
    Sound (after respond (start capability) run).topology ∧
      Tuned (after respond (start capability) run).topology := by
  induction run using List.reverseRecOn with
  | nil => exact ⟨sound_empty, fun x s hs => nomatch hs⟩
  | append_singleton run c ih =>
    rw [after_concat] at hcount ⊢
    generalize after respond (start capability) run = s at ih hcount ⊢
    obtain ⟨h, ht⟩ := ih (Nat.le_trans (counts_perform respond s c).1 hcount)
    obtain ⟨tc, -, harranged, -⟩ | ⟨-, htouched, -⟩ := perform_cases respond s c
    · rw [screenIds_arranged harranged] at hcount
      have hchanges := changes_outcome h tc hcount
      have htuned := tuned_changes hchanges ht
      rw [harranged.topology]
      exact ⟨sound_congr (sound_changes hchanges h) rfl (Nat.le_refl _) rfl rfl, htuned⟩
    · rw [htouched.topology]
      exact ⟨h, ht⟩

/-- **Of a command that changes the picture of a screen every listener to screens is told that
stays subscribed, unless the command locks the rotation of a screen that it makes unique; of that
no listener is told.** The agents may take this command in another way than those before. -/
theorem informs_iff (before respond : ι → AgentEvent → Response ι) (capability : FoldCapability)
    (run : List (Command ι)) (c : Command ι)
    (hcount : ((after before (start capability) run).perform respond c).topology.screenIds.count ≤
      2 ^ 64)
    (hp : (after before (start capability) run).topology.picture? x = some p)
    (hp' : ((after before (start capability) run).perform respond c).topology.picture? x = some p')
    (hne : p' ≠ p) (ha : a ∈ (after before (start capability) run).hub.subscribers .screen)
    (hstays : .unregister a .screen ∉
      Hub.answers respond (c.reply respond (after before (start capability) run)).calls) :
    Informs (c.reply respond (after before (start capability) run)).calls a x p' ↔
      c.locks = false := by
  obtain ⟨h, ht⟩ := sound_tuned_after before capability run
    (Nat.le_trans (counts_perform respond _ c).1 hcount)
  exact informs_reply_iff h ht c hcount hp hp' hne ha hstays

/-- A panel that is mirrored on a software screen, while two agents listen to screens. -/
def mirroredDesk : List (Command Nat) :=
  [.register 0 .screen,
    .register 1 .screen,
    .arrange (.connect ⟨0⟩ ⟨"builtin", [⟨1080, 2340, 60⟩, ⟨720, 1560, 120⟩], 0, 2, []⟩),
    .arrange (.create ⟨"a", 640, 480, 1, none⟩),
    .arrange (.mirror ⟨0⟩ [⟨2⟩])]

/-- Agent 1 takes one event and unsubscribes. -/
def onceOnly (b : Nat) (e : AgentEvent) : Response Nat :=
  ⟨true, if b = 1 then [.unregister 1 e.kind] else []⟩

theorem stays_onceOnly (calls : List (Call Nat)) :
    .unregister 0 .screen ∉ Hub.answers onceOnly calls := by
  intro h
  obtain ⟨call, -, hasked⟩ := List.mem_flatMap.mp h
  unfold onceOnly at hasked
  simp only at hasked
  split at hasked
  · cases List.mem_singleton.mp hasked
  · cases hasked

theorem informs_iff_mirroredDesk :
    (after quiet (start ⟨false, []⟩) mirroredDesk).topology.picture? ⟨0⟩ =
        some ⟨.deg0, 0, 1080, 2340⟩ ∧
      ((after quiet (start ⟨false, []⟩) mirroredDesk).perform onceOnly
        (.senseRotation .deg90)).topology.picture? ⟨0⟩ = some ⟨.deg90, 0, 2340, 1080⟩ ∧
      (Informs ((Command.senseRotation .deg90).reply onceOnly
          (after quiet (start ⟨false, []⟩) mirroredDesk)).calls 0 ⟨0⟩ ⟨.deg90, 0, 2340, 1080⟩ ↔
        (Command.senseRotation .deg90 : Command Nat).locks = false) :=
  ⟨by decide +kernel, by decide +kernel,
    informs_iff quiet onceOnly ⟨false, []⟩ mirroredDesk (.senseRotation .deg90)
      (by decide +kernel) (p := ⟨.deg0, 0, 1080, 2340⟩) (by decide +kernel) (by decide +kernel)
      (by decide) (by decide +kernel) (stays_onceOnly _)⟩

/-- A software screen, while an agent listens to screens. -/
def listenedDesk : List (Command Nat) :=
  [.register 0 .screen, .arrange (.create ⟨"a", 640, 480, 1, none⟩)]

/-- The screen is made unique and turned on its side, and its listener is told nothing at all. -/
theorem informs_fails_listenedDesk :
    (after quiet (start ⟨false, []⟩) listenedDesk).topology.picture? ⟨0⟩ =
        some ⟨.deg0, 0, 640, 480⟩ ∧
      ((after quiet (start ⟨false, []⟩) listenedDesk).perform quiet
        (.arrange (.makeUnique [⟨0⟩] ⟨true, .deg90⟩))).topology.picture? ⟨0⟩ =
          some ⟨.deg90, 0, 480, 640⟩ ∧
      0 ∈ (after quiet (start ⟨false, []⟩) listenedDesk).hub.subscribers .screen ∧
      ¬ Informs ((Command.arrange (.makeUnique [⟨0⟩] ⟨true, .deg90⟩)).reply quiet
        (after quiet (start ⟨false, []⟩) listenedDesk)).calls 0 ⟨0⟩ ⟨.deg90, 0, 480, 640⟩ := by
  refine ⟨by decide +kernel, by decide +kernel, by decide +kernel, ?_⟩
  have hsilent : ((Command.arrange (.makeUnique [⟨0⟩] ⟨true, .deg90⟩)).reply quiet
      (after quiet (start ⟨false, []⟩) listenedDesk)).calls = [] := rfl
  rintro ⟨told, hcall, -⟩
  rw [hsilent] at hcall
  cases hcall

end Service

end DisplayServer
