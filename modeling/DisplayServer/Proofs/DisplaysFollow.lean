import DisplayServer.Proofs.Accounted
import DisplayServer.Proofs.Following
import DisplayServer.Proofs.Tracking
import Mathlib.Data.List.Induction

/-!
# Displays follow the topology

After every run of the service, displays and bindings agree, and a live screen has a display
exactly when it shows something of its own: never on a mirror, always in any other group, and in
no group as soon as it has been composed once (`DisplaysFollow`).

The registry learns of the topology by events alone. Along an operation the bound screens fit
the topology, up to screens whose matter is open (`Topology.tracks_changes`); at its end no
matter is open, and what the events told of joining and of becoming unique is what the topology
and the command say (`Topology.accounted_outcome`).
-/

namespace DisplayServer

open TopologyEvent

namespace Service

open DisplayServer.Topology

variable {ι : Type} [DecidableEq ι] (respond : ι → AgentEvent → Response ι)

/-! ## What a command does to topology and registry -/

/-- The command is granted, and it makes the screen unique. -/
def Command.singles (s : Service ι) (x : ScreenId) : Command ι → Prop
  | arrange c => c.singles s.topology x
  | _ => False

/-- The registry has followed an operation of the topology. -/
structure Arranged (c : Topology.Command) (s s' : Service ι) : Prop where
  /-- The topology is as the operation left it, up to the numbers that the registry drew. -/
  topology : s'.topology = { (c.outcome s.topology).topology with
    displayIds := (s.registry.followAll (c.outcome s.topology).topology.displayIds
      (c.outcome s.topology).events).2.1 }
  /-- The registry has followed the events. -/
  registry : s'.registry = (s.registry.followAll (c.outcome s.topology).topology.displayIds
    (c.outcome s.topology).events).1

/-- Display records were touched at most. -/
structure Touched (s s' : Service ι) : Prop where
  /-- The topology stays. -/
  topology : s'.topology = s.topology
  /-- The registry binds nothing and unbinds nothing. -/
  registry : s.registry.Touches s'.registry

variable {s : Service ι}

theorem arranged_arrange (s : Service ι) (c : Topology.Command) :
    Arranged c s (s.arrange respond c.outcome).service := by
  obtain ⟨hub, heq⟩ := passOnAll_eq respond
    { s with topology := (c.outcome s.topology).topology } (c.outcome s.topology).events
  exact ⟨congrArg Service.topology heq, congrArg Service.registry heq⟩

theorem touched_update {α : Type} (step : Registry → Registry.Step α)
    (h : s.registry.Touches (step s.registry).registry) :
    Touched s (s.update respond step).service := by
  obtain ⟨hub, heq⟩ := announceAll_eq respond
    { s with registry := (step s.registry).registry } (step s.registry).events
  have htopology : (s.update respond step).service.topology = s.topology :=
    (congrArg Service.topology heq).trans rfl
  have hregistry : (s.update respond step).service.registry = (step s.registry).registry :=
    congrArg Service.registry heq
  exact ⟨htopology, hregistry ▸ h⟩

/-- The operation of the topology that a command comes to. -/
def Command.operation? (s : Service ι) : Command ι → Option Topology.Command
  | arrange c => some c
  | powerScreen id power => some (.setPower id power)
  | powerPanels power _ => some (.setPanelPower power)
  | senseRotation rotation =>
    if s.rotationLocked then none else s.topology.defaultScreen.map fun id => .rotate id rotation
  | _ => none

/-- A command is an operation of the topology that the registry follows and whose events it
passes on, or touches display records at most. -/
theorem perform_cases (s : Service ι) (c : Command ι) :
    (∃ tc : Topology.Command, c.operation? s = some tc ∧ Arranged tc s (s.perform respond c) ∧
        (c.reply respond s).events = (tc.outcome s.topology).events ∧
        ∀ x, c.singles s x ↔ tc.singles s.topology x) ∨
      (c.operation? s = none ∧ Touched s (s.perform respond c) ∧
        (c.reply respond s).events = [] ∧ ∀ x, ¬ c.singles s x) := by
  have hsame : Touched s s := ⟨rfl, Registry.Touches.refl _⟩
  cases c with
  | arrange c => exact .inl ⟨c, rfl, arranged_arrange respond s c, rfl, fun _ => Iff.rfl⟩
  | powerScreen x power =>
    exact .inl ⟨.setPower x power, rfl, arranged_arrange respond s _, rfl, fun _ => Iff.rfl⟩
  | powerPanels power reason =>
    refine .inl ⟨.setPanelPower power, rfl, ?_⟩
    simp only [perform, Command.reply, powerPanels]
    split
    · exact ⟨arranged_arrange respond s _, rfl, fun _ => Iff.rfl⟩
    · exact ⟨⟨rfl, rfl⟩, rfl, fun _ => Iff.rfl⟩
  | powerTransition transition phase reason =>
    exact .inr ⟨rfl, ⟨rfl, Registry.Touches.refl _⟩, rfl, fun _ => id⟩
  | lockRotation locked => exact .inr ⟨rfl, ⟨rfl, Registry.Touches.refl _⟩, rfl, fun _ => id⟩
  | senseRotation rotation =>
    simp only [perform, Command.reply, senseRotation, Command.operation?]
    split
    · exact .inr ⟨rfl, hsame, rfl, fun _ => id⟩
    · cases s.topology.defaultScreen with
      | none => exact .inr ⟨rfl, hsame, rfl, fun _ => id⟩
      | some x =>
        exact .inl ⟨.rotate x rotation, rfl, arranged_arrange respond s _, rfl, fun _ => Iff.rfl⟩
  | setState state =>
    exact .inr ⟨rfl,
      touched_update respond (·.setState state) (Registry.touches_setState _ state), rfl,
      fun _ => id⟩
  | setAvailableArea screen area =>
    exact .inr ⟨rfl, touched_update respond (·.setAvailableArea screen area)
      (Registry.touches_setAvailableArea _ screen area), rfl, fun _ => id⟩
  | overrideRotation screen rotation width height =>
    exact .inr ⟨rfl, touched_update respond (·.overrideRotation screen rotation width height)
      (Registry.touches_overrideRotation _ screen rotation width height), rfl, fun _ => id⟩
  | senseFold reading =>
    exact .inr ⟨rfl, touched_update respond (·.senseFold reading) (Registry.touches_fold _ _), rfl,
      fun _ => id⟩
  | lockFold locked =>
    exact .inr ⟨rfl, touched_update respond (·.lockFold locked) (Registry.touches_fold _ _), rfl,
      fun _ => id⟩
  | forceFoldMode mode =>
    exact .inr ⟨rfl, touched_update respond (·.forceFoldMode mode)
      (Registry.touches_forceFoldMode _ mode), rfl, fun _ => id⟩
  | restoreFold =>
    exact .inr ⟨rfl, touched_update respond Registry.restoreFold (Registry.touches_fold _ _), rfl,
      fun _ => id⟩
  | register b kind => exact .inr ⟨rfl, ⟨rfl, Registry.Touches.refl _⟩, rfl, fun _ => id⟩
  | unregister b kind => exact .inr ⟨rfl, ⟨rfl, Registry.Touches.refl _⟩, rfl, fun _ => id⟩

omit [DecidableEq ι] in
theorem screenIds_arranged {c : Topology.Command} {s' : Service ι} (h : Arranged c s s') :
    s'.topology.screenIds = (c.outcome s.topology).topology.screenIds := by
  rw [h.topology]

omit [DecidableEq ι] in
/-- Screens and groups are found as the operation left them. -/
theorem screen?_arranged {c : Topology.Command} {s' : Service ι} (h : Arranged c s s')
    (x : ScreenId) : s'.topology.screen? x = (c.outcome s.topology).topology.screen? x := by
  rw [h.topology]
  rfl

omit [DecidableEq ι] in
theorem group?_arranged {c : Topology.Command} {s' : Service ι} (h : Arranged c s s')
    (x : ScreenId) : s'.topology.group? x = (c.outcome s.topology).topology.group? x := by
  rw [h.topology]
  rfl

/-- Sources of numbers go forward. -/
theorem counts_perform (s : Service ι) (c : Command ι) :
    s.topology.screenIds.count ≤ (s.perform respond c).topology.screenIds.count ∧
      s.topology.displayIds.count ≤ (s.perform respond c).topology.displayIds.count := by
  obtain ⟨tc, -, harranged, -⟩ | ⟨-, htouched, -⟩ := perform_cases respond s c
  · have hwrites := writes_outcome tc s.topology
    refine ⟨?_, ?_⟩
    · rw [screenIds_arranged harranged]
      exact hwrites.screenIds_le
    · rw [harranged.topology]
      exact Nat.le_trans hwrites.displayIds_le (Registry.count_followAll _ _ _)
  · rw [htouched.topology]
    exact ⟨Nat.le_refl _, Nat.le_refl _⟩

/-- The beginning of a run has not drawn more numbers than the run. -/
theorem counts_le_of_beginning {s : Service ι} {beginning run : List (Command ι)}
    (h : beginning <+: run) :
    (after respond s beginning).topology.screenIds.count ≤
        (after respond s run).topology.screenIds.count ∧
      (after respond s beginning).topology.displayIds.count ≤
        (after respond s run).topology.displayIds.count :=
  ⟨measure_le_of_beginning (m := fun s => s.topology.screenIds.count)
      (fun s c => (counts_perform respond s c).1) h s,
    measure_le_of_beginning (m := fun s => s.topology.displayIds.count)
      (fun s c => (counts_perform respond s c).2) h s⟩

/-! ## The registry follows -/

/-- The registry follows the topology; `known` are the screens that have been composed. -/
structure Follows (known : ScreenId → Prop) (s : Service ι) : Prop where
  /-- The topology is sound. -/
  sound : Sound s.topology
  /-- The registry is in order. -/
  orderly : s.registry.Orderly
  /-- Numbers of displays have been drawn. -/
  drawn : ∀ d v, s.registry.displays.get? d = some v → d.val < s.topology.displayIds.count
  /-- The bound screens fit the topology, and no matter is open. -/
  tracks : Tracks ⟨known, [], s.registry.bindings.contains⟩ s.topology

variable {s' : Service ι} {known : ScreenId → Prop}

omit [DecidableEq ι] in
theorem follows_touched (h : Follows known s) (ht : Touched s s') : Follows known s' := by
  obtain ⟨horderly, hbindings, hold⟩ := ht.registry
  exact {
    sound := by
      rw [ht.topology]
      exact h.sound
    orderly := by
      exact horderly h.orderly
    drawn := by
      intro d v hv
      obtain ⟨u, hu⟩ := hold h.orderly d v hv
      rw [ht.topology]
      exact h.drawn d u hu
    tracks := by
      rw [ht.topology, hbindings]
      exact h.tracks }

omit [DecidableEq ι] in
/-- An operation has drawn its numbers before the registry draws any. -/
theorem Follows.numbered (h : Follows known s) (c : Topology.Command) :
    Registry.Numbered s.topology.displayIds.count (c.outcome s.topology).topology.displayIds.count
      (c.outcome s.topology).topology.displayIds s.registry where
  low_le := (writes_outcome c s.topology).displayIds_le
  high_le := Nat.le_refl _
  drawn := fun d v hv => .inl (h.drawn d v hv)

/-- What the events told of composed screens is what topology and command say. -/
theorem known_outcome {t : Topology} {c : Topology.Command} (hc : Accounted t c) {l : Ledger}
    (htracks : Tracks ((c.outcome t).events.foldl Ledger.record l) (c.outcome t).topology)
    (x : ScreenId) :
    ((c.outcome t).events.foldl Ledger.record l).known x ↔
      l.known x ∨ ((c.outcome t).topology.parent? x).isSome ∨ c.singles t x := by
  rw [Ledger.known_foldl]
  constructor
  · rintro (hk | ⟨e, he, hx⟩)
    · exact .inl hk
    · cases e with
      | joinedGroup r g =>
        obtain rfl := Option.some.inj hx
        exact .inr (.inl (hc.joined r g he))
      | becameUnique r d =>
        obtain rfl := Option.some.inj hx
        exact .inr (.inr ((hc.single r.id).mp ⟨r, d, he, rfl⟩))
      | _ => cases hx
  · rintro (hk | hp | hsingle)
    · exact .inl hk
    · -- a screen that is in a group at the end is known of by then
      obtain ⟨g, hg⟩ := Option.isSome_iff_exists.mp hp
      exact (Ledger.known_foldl _ l x).mp (htracks.member x g hg)
    · obtain ⟨r, d, he, rfl⟩ := (hc.single x).mpr hsingle
      exact .inr ⟨_, he, rfl⟩

omit [DecidableEq ι] in
theorem follows_arranged (h : Follows known s) {c : Topology.Command} (ha : Arranged c s s')
    (hscreens : s'.topology.screenIds.count ≤ 2 ^ 64)
    (hdisplays : s'.topology.displayIds.count ≤ 2 ^ 64) :
    Follows (fun x => known x ∨ (s'.topology.parent? x).isSome ∨ c.singles s.topology x) s' := by
  rw [screenIds_arranged ha] at hscreens
  have hchanges := changes_outcome h.sound c hscreens
  have haccounted := accounted_outcome h.sound c hscreens
  rw [ha.topology] at hdisplays
  obtain ⟨horderly, hnumbered'⟩ :=
    Registry.orderly_changes hchanges h.orderly (h.numbered c) (Nat.le_refl _) hdisplays
  have htracks := tracks_changes hchanges h.sound hscreens h.tracks
  exact {
    sound := by
      rw [ha.topology]
      exact sound_congr (sound_changes hchanges h.sound) rfl (Nat.le_refl _) rfl rfl
    orderly := by
      rw [ha.registry]
      exact horderly
    drawn := by
      rw [ha.topology, ha.registry]
      intro d v hv
      have hhigh := hnumbered'.high_le
      have := hnumbered'.drawn d v hv
      simp only at this hhigh ⊢
      omega
    tracks := by
      rw [ha.topology, ha.registry]
      refine tracks_none htracks (Nat.le_refl _) (fun _ => rfl) (fun _ => rfl)
        (fun x => (known_outcome haccounted htracks x).symm) ?_ ?_
      · rw [Ledger.unsettled_foldl]
        exact haccounted.settled.symm
      · rw [Ledger.bound_foldl]
        exact Registry.contains_followAll _ _ _ }

/-- **A command keeps the registry following the topology.** -/
theorem follows_perform (h : Follows known s) (c : Command ι)
    (hscreens : (s.perform respond c).topology.screenIds.count ≤ 2 ^ 64)
    (hdisplays : (s.perform respond c).topology.displayIds.count ≤ 2 ^ 64) :
    Follows (fun x => known x ∨ ((s.perform respond c).topology.parent? x).isSome ∨
      c.singles s x) (s.perform respond c) := by
  obtain ⟨tc, -, harranged, -, hsingles⟩ | ⟨-, htouched, -, hsingles⟩ :=
    perform_cases respond s c
  · simp only [hsingles]
    exact follows_arranged h harranged hscreens hdisplays
  · have hknown : (fun x => known x ∨ ((s.perform respond c).topology.parent? x).isSome ∨
        c.singles s x) = known := by
      funext x
      refine propext ⟨?_, .inl⟩
      -- a screen in a group has joined it before, and nothing is made unique
      rintro (hk | hp | hs)
      · exact hk
      · rw [htouched.topology] at hp
        obtain ⟨g, hg⟩ := Option.isSome_iff_exists.mp hp
        exact h.tracks.member x g hg
      · exact absurd hs (hsingles x)
    rw [hknown]
    exact follows_touched h htouched

/-! ## Runs -/

/-- The screen has been in a group after some command of the run, or some command of the run
made it unique. Numbers of screens are not issued twice, so all that is the same screen. -/
inductive Composed (capability : FoldCapability) : List (Command ι) → ScreenId → Prop
  | member (run : List (Command ι)) (x g : ScreenId)
      (h : (after respond (start capability) run).topology.parent? x = some g) :
      Composed capability run x
  | unique (run : List (Command ι)) (ids : List ScreenId) (turn : UniqueRotation) (x : ScreenId)
      (hx : x ∈ ids)
      (hgranted : ((after respond (start capability) run).topology.makeUnique ids
        turn).result.isOk) :
      Composed capability (run ++ [.arrange (.makeUnique ids turn)]) x
  | later (run : List (Command ι)) (c : Command ι) (x : ScreenId) (h : Composed capability run x) :
      Composed capability (run ++ [c]) x

variable {capability : FoldCapability}

theorem not_composed_nil (x : ScreenId) : ¬ Composed respond capability [] x := by
  generalize hrun : ([] : List (Command ι)) = run
  intro h
  cases h with
  | member _ _ g h =>
    subst hrun
    cases h
  | unique run ids turn x hx hgranted => simp at hrun
  | later run c x h => simp at hrun

theorem composed_append_singleton (run : List (Command ι)) (c : Command ι) (x : ScreenId) :
    Composed respond capability (run ++ [c]) x ↔
      Composed respond capability run x ∨
        ((after respond (start capability) (run ++ [c])).topology.parent? x).isSome ∨
        c.singles (after respond (start capability) run) x := by
  constructor
  · generalize hrun : run ++ [c] = longer
    intro h
    cases h with
    | member _ _ g h => exact .inr (.inl (by rw [h]; rfl))
    | unique run' ids turn x hx hgranted =>
      obtain ⟨rfl, hc⟩ := List.append_inj' hrun rfl
      obtain rfl := List.singleton_inj.mp hc
      exact .inr (.inr ⟨hx, hgranted⟩)
    | later run' c' x h =>
      obtain ⟨rfl, -⟩ := List.append_inj' hrun rfl
      exact .inl h
  · rintro (h | hp | hsingle)
    · exact .later run c x h
    · obtain ⟨g, hg⟩ := Option.isSome_iff_exists.mp hp
      exact .member _ x g hg
    · cases c with
      | arrange c =>
        cases c with
        | makeUnique ids turn => exact .unique run ids turn x hsingle.1 hsingle.2
        | _ => exact hsingle.elim
      | _ => exact hsingle.elim

theorem follows_start (capability : FoldCapability) :
    Follows (Composed respond capability []) (start capability : Service ι) where
  sound := sound_empty
  orderly := Registry.orderly_empty capability
  drawn := by intro d v h; cases h
  tracks := by
    constructor
    · exact fun x hx => absurd hx (not_composed_nil respond x)
    · intro x g hg
      cases hg
    · intro x s hs
      cases hs
    · refine fun x _ => iff_of_false Bool.false_ne_true ?_
      rintro ⟨s, hs, -⟩
      cases hs

/-- The registry follows the topology through every run. -/
theorem follows_after (run : List (Command ι))
    (hscreens : (after respond (start capability) run).topology.screenIds.count ≤ 2 ^ 64)
    (hdisplays : (after respond (start capability) run).topology.displayIds.count ≤ 2 ^ 64) :
    Follows (Composed respond capability run) (after respond (start capability) run) := by
  induction run using List.reverseRecOn with
  | nil => exact follows_start respond capability
  | append_singleton run c ih =>
    -- the bounds on the whole run bound its beginning
    have hle := counts_le_of_beginning respond (s := start capability) (List.prefix_append run [c])
    have hrun := ih (Nat.le_trans hle.1 hscreens) (Nat.le_trans hle.2 hdisplays)
    have hknown : Composed respond capability (run ++ [c]) = fun x =>
        Composed respond capability run x ∨
          ((after respond (start capability) (run ++ [c])).topology.parent? x).isSome ∨
          c.singles (after respond (start capability) run) x := by
      funext x
      exact propext (composed_append_singleton respond run c x)
    rw [hknown]
    rw [after_concat] at hscreens hdisplays ⊢
    exact follows_perform respond hrun c hscreens hdisplays

end Service

/-! ## The main result -/

/-- The display is one for the screen. -/
def Registry.Serves (r : Registry) (d : DisplayId) (x : ScreenId) : Prop :=
  ∃ v, r.displays.get? d = some v ∧ v.screen = x

/-- A screen has a display exactly when it is bound. -/
theorem Registry.Orderly.serves_iff {r : Registry} (h : r.Orderly) (x : ScreenId) :
    (∃ d, r.Serves d x) ↔ r.bindings.contains x := by
  show _ ↔ (r.bindings.get? x).isSome
  rw [Option.isSome_iff_exists]
  exact exists_congr fun d => (h.bound x d).symm

theorem Registry.Orderly.serves_unique {r : Registry} (h : r.Orderly) {d d' : DisplayId}
    {x : ScreenId} (hd : r.Serves d x) (hd' : r.Serves d' x) : d' = d := by
  obtain ⟨v, hv, hx⟩ := hd
  obtain ⟨v', hv', hx'⟩ := hd'
  exact h.display_unique hv' hv (hx'.trans hx.symm)

/-- The displays of a registry follow a topology; `composed` are the screens that have been in a
group or made unique. -/
structure DisplaysFollow (composed : ScreenId → Prop) (t : Topology) (r : Registry) : Prop where
  /-- A display stands under its own number. -/
  number : ∀ d v, r.displays.get? d = some v → v.id = d
  /-- A screen is bound to the display that names it, and to no other. -/
  binding : ∀ x d, r.bindings.get? x = some d ↔ r.Serves d x
  /-- Every display is one for a live screen. -/
  live : ∀ d x, r.Serves d x → ∃ s, t.screen? x = some s
  /-- A screen on a mirror has no display. -/
  mirrored : ∀ x g, t.parent? x = some g → t.combination? g = some .mirror → ∀ d, ¬ r.Serves d x
  /-- A screen in any other group has exactly one. -/
  grouped : ∀ x g, t.parent? x = some g →
    t.combination? g = some .alone ∨ t.combination? g = some .expand →
    ∃ d, r.Serves d x ∧ ∀ d', r.Serves d' x → d' = d
  /-- A panel in no group has exactly one. -/
  panel : ∀ x s, t.screen? x = some s → s.isVirtual = false → s.parent = none →
    ∃ d, r.Serves d x ∧ ∀ d', r.Serves d' x → d' = d
  /-- A software screen in no group has exactly one once it has been composed. -/
  software : ∀ x s, t.screen? x = some s → s.isVirtual = true → s.parent = none → composed x →
    ∃ d, r.Serves d x ∧ ∀ d', r.Serves d' x → d' = d
  /-- A software screen that has never been composed has none. -/
  uncomposed : ∀ x s, t.screen? x = some s → s.isVirtual = true → s.parent = none →
    ¬ composed x → ∀ d, ¬ r.Serves d x
  /-- Where there is a display, the default display is a live one. -/
  default : ∀ d v, r.displays.get? d = some v →
    ∃ d' v', r.defaultDisplay = some d' ∧ r.displays.get? d' = some v'
  /-- Without displays there is no default. -/
  no_default : (∀ d, r.displays.get? d = none) → r.defaultDisplay = none
  /-- Every display is in the state of the registry. -/
  state : ∀ d v, r.displays.get? d = some v → v.state = r.state

namespace Service

open DisplayServer.Topology

variable {ι : Type} [DecidableEq ι] {respond : ι → AgentEvent → Response ι} {s : Service ι}
variable {known : ScreenId → Prop}

omit [DecidableEq ι] in
/-- A screen has a display exactly when it shows something. -/
theorem Follows.serves_iff (h : Follows known s) (x : ScreenId) :
    (∃ d, s.registry.Serves d x) ↔ Shows known s.topology x := by
  rw [← h.tracks.shown x List.not_mem_nil]
  exact h.orderly.serves_iff x

omit [DecidableEq ι] in
theorem displaysFollow_of_follows (h : Follows known s) :
    DisplaysFollow known s.topology s.registry := by
  -- each clause on displays of a screen says whether the screen shows something
  have hone : ∀ {x}, Shows known s.topology x →
      ∃ d, s.registry.Serves d x ∧ ∀ d', s.registry.Serves d' x → d' = d := by
    intro x hx
    obtain ⟨d, hd⟩ := (h.serves_iff x).mpr hx
    exact ⟨d, hd, fun d' hd' => h.orderly.serves_unique hd hd'⟩
  have hnone : ∀ {x}, ¬ Shows known s.topology x → ∀ d, ¬ s.registry.Serves d x :=
    fun hx d hd => hx ((h.serves_iff _).mp ⟨d, hd⟩)
  exact {
    number := h.orderly.id
    binding := h.orderly.bound
    live := by
      intro d x hd
      obtain ⟨s', hs', -⟩ := (h.serves_iff x).mp ⟨d, hd⟩
      exact ⟨s', hs'⟩
    mirrored := by
      intro x g hg hmirror
      refine hnone ?_
      rw [shows_iff_of_parent? hg]
      exact not_not_intro hmirror
    grouped := by
      intro x g hg hother
      refine hone ((shows_iff_of_parent? hg).mpr ?_)
      rcases hother with hc | hc <;> simp [hc]
    panel := by
      intro x s' hs' hv hp
      refine hone ((shows_iff_of_alone hs' hp).mpr ?_)
      exact h.tracks.panel x s' hs' hv List.not_mem_nil
    software := by
      intro x s' hs' _ hp hknown
      exact hone ((shows_iff_of_alone hs' hp).mpr hknown)
    uncomposed := by
      intro x s' hs' _ hp hunknown
      refine hnone ?_
      rw [shows_iff_of_alone hs' hp]
      exact hunknown
    default := by
      intro d v hv
      obtain ⟨d', hd'⟩ := Option.ne_none_iff_exists'.mp (h.orderly.defaulted d v hv)
      obtain ⟨v', hv'⟩ := h.orderly.default d' hd'
      exact ⟨d', v', hd', hv'⟩
    no_default := by
      intro hempty
      cases hd : s.registry.defaultDisplay with
      | none => rfl
      | some d =>
        obtain ⟨v, hv⟩ := h.orderly.default d hd
        rw [hempty d] at hv
        cases hv
    state := h.orderly.state }

/-- **After every run the displays follow the topology**, as long as no number of a screen, a
group or a display has been issued twice. -/
theorem displays_follow (capability : FoldCapability) (run : List (Command ι))
    (hscreens : (after respond (start capability) run).topology.screenIds.count ≤ 2 ^ 64)
    (hdisplays : (after respond (start capability) run).topology.displayIds.count ≤ 2 ^ 64) :
    DisplaysFollow (Composed respond capability run)
      (after respond (start capability) run).topology
      (after respond (start capability) run).registry :=
  displaysFollow_of_follows (follows_after respond run hscreens hdisplays)

/-- A run in which a screen goes from one mirror to another and is made unique there, a mirror
loses its source, and one software screen is never composed. -/
def regroupedRun : List (Command Nat) :=
  [.arrange (.connect ⟨0⟩ ⟨"builtin", [⟨1080, 2340, 60⟩], 0, 2, []⟩),
    .arrange (.create ⟨"a", 640, 480, 1, none⟩),
    .arrange (.create ⟨"b", 640, 480, 1, none⟩),
    .arrange (.create ⟨"c", 640, 480, 1, none⟩),
    .setState .on,
    .arrange (.mirror ⟨0⟩ [⟨2⟩, ⟨3⟩]),
    .arrange (.mirror ⟨2⟩ [⟨3⟩, ⟨0⟩]),
    .arrange (.makeUnique [⟨3⟩] ⟨true, .deg90⟩),
    .arrange (.destroy ⟨2⟩),
    .arrange (.disconnect ⟨0⟩)]

theorem displays_follow_regroupedRun :
    (after quiet (start ⟨false, []⟩) regroupedRun).topology.screenIds.count ≤ 2 ^ 64 ∧
      (after quiet (start ⟨false, []⟩) regroupedRun).topology.displayIds.count ≤ 2 ^ 64 ∧
      DisplaysFollow (Composed quiet ⟨false, []⟩ regroupedRun)
        (after quiet (start ⟨false, []⟩) regroupedRun).topology
        (after quiet (start ⟨false, []⟩) regroupedRun).registry :=
  ⟨by decide +kernel, by decide +kernel,
    displays_follow ⟨false, []⟩ regroupedRun (by decide +kernel) (by decide +kernel)⟩

end Service

end DisplayServer
