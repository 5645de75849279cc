import DisplayServer.Proofs.DisplaysFollow
import DisplayServer.Proofs.Lifetimes
import DisplayServer.Proofs.Runs

/-!
# Numbers are issued once

Whatever screen, group or display comes into being in a run of the service, nothing had its number
at any earlier point of the run (`Service.issuedOnce_after`).

Screens and groups are numbered by the topology. Numbers of displays are drawn by two parties from
one source: by the topology for the screens that it makes unique, and later, while it follows the
events of the same operation, by the registry. Displays that have lived therefore have numbers
below what the topology had drawn for the events followed so far, or from where the operation
ended on (`Registry.Recorded`); what either party brings next is in between or at the end.
-/

namespace DisplayServer

open DisplayServer.Topology

/-! ## Displays -/

/-- The display that begins. -/
def AgentEvent.made? : AgentEvent → Option DisplayId
  | displayCreated display => some display.id
  | _ => none

/-- The display that ends. -/
def AgentEvent.unmade? : AgentEvent → Option DisplayId
  | displayDestroyed display => some display
  | _ => none

/-- The displays that begin, in order. -/
def made (news : List AgentEvent) : List DisplayId := news.filterMap AgentEvent.made?

/-- The displays that end, in order. -/
def unmade (news : List AgentEvent) : List DisplayId := news.filterMap AgentEvent.unmade?

@[simp] theorem made_append (es fs : List AgentEvent) : made (es ++ fs) = made es ++ made fs :=
  List.filterMap_append

@[simp] theorem unmade_append (es fs : List AgentEvent) :
    unmade (es ++ fs) = unmade es ++ unmade fs := List.filterMap_append

namespace Registry

/-- The number is that of a display. -/
def Has (r : Registry) (d : DisplayId) : Prop := (r.displays.get? d).isSome

variable {r : Registry}

theorem turnover_remove (h : Orderly r) (x : ScreenId) :
    Turnover r.Has (r.remove x).1.Has (made (r.remove x).2) (unmade (r.remove x).2) := by
  unfold remove
  cases hd : r.bindings.get? x with
  | none => exact .keeps fun _ => Iff.rfl
  | some d =>
    -- a screen is bound to a display that is there
    obtain ⟨v, hv, -⟩ := (h.bound x d).mp hd
    refine .ends d ?_ (isSome_dropped fun k => Table.get?_erase_ite _ _ _)
    rw [Has, hv]
    rfl

theorem turnover_create (r : Registry) (d : DisplayId) (s : ScreenReport) :
    Turnover r.Has (r.create d s).1.Has (made (r.create d s).2) (unmade (r.create d s).2) :=
  .begins d (isSome_written fun _ => Table.get?_insert_ite _ _ _ _)

theorem turnover_refresh (h : Orderly r) (s : ScreenReport) (change : ScreenChange) :
    Turnover r.Has (r.refresh s change).1.Has (made (r.refresh s change).2)
      (unmade (r.refresh s change).2) := by
  unfold refresh
  cases hv : r.displayOf? s.id with
  | none => exact .keeps fun _ => Iff.rfl
  | some v =>
    have hkept : Turnover r.Has
        { r with displays := r.displays.insert v.id (v.refreshed s) }.Has [] [] :=
      .keeps (isSome_rewritten (h.displayOf? hv).1 fun _ => Table.get?_insert_ite _ _ _ _)
    simp only
    split
    · exact hkept
    · exact hkept

/-- A step that only ends displays says of no other that it begins. -/
theorem made_remove (r : Registry) (x : ScreenId) : made (r.remove x).2 = [] := by
  unfold remove
  cases r.bindings.get? x <;> rfl

theorem made_refresh (r : Registry) (s : ScreenReport) (change : ScreenChange) :
    made (r.refresh s change).2 = [] := by
  unfold refresh
  cases r.displayOf? s.id with
  | none => rfl
  | some v =>
    simp only
    split <;> rfl

/-- What the registry has told says which displays have lived. While it follows an operation,
their numbers were drawn by the topology, below `low`, or by the registry, from `high` on. -/
structure Recorded (low high : Nat) (ids : IdSource) (news : List AgentEvent) (r : Registry) :
    Prop where
  /-- No number begins twice. -/
  lifetimes : Lifetimes (made news) (unmade news) r.Has
  /-- Numbers to come, of the topology and of the registry, have never begun. -/
  drawn : ∀ d ∈ made news, d.val < low ∨ (high ≤ d.val ∧ d.val < ids.count)

variable {low high : Nat} {ids : IdSource} {news : List AgentEvent}

/-- A step with which no display begins. -/
theorem recorded_of_made_nil (hr : Recorded low high ids news r) {r' : Registry}
    {es : List AgentEvent} (ht : Turnover r.Has r'.Has (made es) (unmade es))
    (hmade : made es = []) : Recorded low high ids (news ++ es) r' := by
  constructor
  · rw [made_append, unmade_append]
    exact hr.lifetimes.turnover ht (by rw [hmade]; exact fun k hk => absurd hk List.not_mem_nil)
  · rw [made_append, hmade, List.append_nil]
    exact hr.drawn

theorem recorded_remove (h : Orderly r) (hr : Recorded low high ids news r) (x : ScreenId) :
    Recorded low high ids (news ++ (r.remove x).2) (r.remove x).1 :=
  recorded_of_made_nil hr (turnover_remove h x) (made_remove r x)

theorem recorded_refresh (h : Orderly r) (hr : Recorded low high ids news r) (s : ScreenReport)
    (change : ScreenChange) :
    Recorded low high ids (news ++ (r.refresh s change).2) (r.refresh s change).1 :=
  recorded_of_made_nil hr (turnover_refresh h s change) (made_refresh r s change)

/-- The registry draws a number for a screen that has no display. -/
theorem recorded_ensure (hn : Numbered low high ids r) (hr : Recorded low high ids news r)
    (s : ScreenReport) (hcount : (r.ensure ids s).2.1.count ≤ 2 ^ 64) :
    Recorded low high (r.ensure ids s).2.1 (news ++ (r.ensure ids s).2.2) (r.ensure ids s).1 := by
  unfold ensure at hcount ⊢
  split
  · rw [List.append_nil]
    exact hr
  · rename_i hfree
    rw [if_neg hfree] at hcount
    have hpeek : ids.peek = ids.count := IdSource.peek_of_lt hcount
    have hlow := hn.low_le
    have hhigh := hn.high_le
    constructor
    · rw [made_append, unmade_append]
      refine hr.lifetimes.turnover (turnover_create r ⟨ids.peek⟩ s) fun d hd hold => ?_
      obtain rfl : d = ⟨ids.peek⟩ := List.mem_singleton.mp hd
      have : ids.peek < low ∨ (high ≤ ids.peek ∧ ids.peek < ids.count) := hr.drawn _ hold
      omega
    · intro d hd
      rw [made_append] at hd
      rw [IdSource.count_advance]
      rcases List.mem_append.mp hd with hold | hnew
      · have := hr.drawn d hold
        omega
      · obtain rfl : d = ⟨ids.peek⟩ := List.mem_singleton.mp hnew
        exact .inr ⟨by rw [hpeek]; exact hhigh, by rw [hpeek]; exact Nat.lt_succ_self _⟩

/-- A screen that becomes unique gets a display of the number that was drawn for it. -/
theorem recorded_renew (h : Orderly r) (hr : Recorded low high ids news r) (hlow : low < high)
    (s : ScreenReport) :
    Recorded (low + 1) high ids
      (news ++ ((r.remove s.id).2 ++ ((r.remove s.id).1.create ⟨low⟩ s).2))
      ((r.remove s.id).1.create ⟨low⟩ s).1 := by
  have hremoved := recorded_remove h hr s.id
  rw [← List.append_assoc]
  constructor
  · rw [made_append, unmade_append]
    refine hremoved.lifetimes.turnover (turnover_create _ ⟨low⟩ s) fun d hd hold => ?_
    obtain rfl : d = ⟨low⟩ := List.mem_singleton.mp hd
    have : low < low ∨ (high ≤ low ∧ low < ids.count) := hremoved.drawn _ hold
    omega
  · intro d hd
    rw [made_append] at hd
    rcases List.mem_append.mp hd with hold | hnew
    · have := hremoved.drawn d hold
      omega
    · obtain rfl : d = ⟨low⟩ := List.mem_singleton.mp hnew
      exact .inl (Nat.lt_succ_self low)

theorem recorded_follow (h : Orderly r) (hn : Numbered low high ids r)
    (hr : Recorded low high ids news r) {e : TopologyEvent}
    (hcount : (r.follow ids e).2.1.count ≤ 2 ^ 64)
    (hunique : ∀ s d, e = .becameUnique s d → d = ⟨low⟩ ∧ low < high) :
    Recorded (low + e.drawn) high (r.follow ids e).2.1 (news ++ (r.follow ids e).2.2)
      (r.follow ids e).1 := by
  have hsilent : Recorded low high ids (news ++ []) r := by
    rw [List.append_nil]
    exact hr
  cases e with
  | connected s => exact hsilent
  | groupDissolved g => exact hsilent
  | disconnected x => exact recorded_remove h hr x
  | changed s change => exact recorded_refresh h hr s change
  | becameUnique s d =>
    obtain ⟨rfl, hlow⟩ := hunique s d rfl
    exact recorded_renew h hr hlow s
  | joinedGroup s g =>
    cases hg : g.combination with
    | mirror =>
      simp only [follow, hg]
      exact recorded_remove h hr s.id
    | alone =>
      simp only [follow, hg] at hcount ⊢
      exact recorded_ensure hn hr s hcount
    | expand =>
      simp only [follow, hg] at hcount ⊢
      exact recorded_ensure hn hr s hcount
  | leftGroup s g reason =>
    simp only [follow] at hcount ⊢
    split
    · rename_i hdetached
      rw [if_pos hdetached] at hcount
      exact recorded_ensure hn hr s hcount
    · exact hsilent

/-- **A display that begins while the registry follows an operation has a number that no display
has ever had**, the ones that the topology drew for the operation included. -/
theorem recorded_followAll {t u : Topology} {es : List TopologyEvent} (hc : Changes t es u)
    (h : Orderly r) (hn : Numbered t.displayIds.count high ids r)
    (hr : Recorded t.displayIds.count high ids news r) (hhigh : u.displayIds.count ≤ high)
    (hcount : (r.followAll ids es).2.1.count ≤ 2 ^ 64) :
    Recorded u.displayIds.count high (r.followAll ids es).2.1
      (news ++ (r.followAll ids es).2.2) (r.followAll ids es).1 := by
  refine (law_changes (P := fun low ids news r =>
    Orderly r ∧ Numbered low high ids r ∧ Recorded low high ids news r) ?_ ?_ hc news ⟨h, hn, hr⟩
    hhigh hcount).2.2
  · exact fun hP => hP.2.1.high_le
  · intro low ids news r e ⟨h, hn, hr⟩ hcount hunique
    obtain ⟨h', hn'⟩ := orderly_follow h hn hcount hunique
    exact ⟨h', hn', recorded_follow h hn hr hcount hunique⟩

/-- A screen that becomes unique gets the display that was numbered for it. -/
theorem made_of_becameUnique {es : List TopologyEvent} {s : ScreenReport} {d : DisplayId}
    (he : .becameUnique s d ∈ es) (r : Registry) (ids : IdSource) :
    d ∈ made (r.followAll ids es).2.2 := by
  induction es generalizing r ids with
  | nil => cases he
  | cons e rest ih =>
    simp only [followAll, made_append, List.mem_append]
    rcases List.mem_cons.mp he with rfl | hrest
    · refine .inl ?_
      simp only [follow, made_append, List.mem_append]
      exact .inr (List.mem_singleton.mpr rfl)
    · exact .inr (ih hrest _ _)

/-- Steps that leave the bindings alone neither make displays nor end any. -/
theorem has_iff_of_touches (h : Orderly r) {r' : Registry} (ht : Touches r r') (d : DisplayId) :
    r'.Has d ↔ r.Has d := by
  constructor
  · intro hd
    obtain ⟨v, hv⟩ := Option.isSome_iff_exists.mp hd
    obtain ⟨w, hw⟩ := ht.old h d v hv
    rw [Has, hw]
    rfl
  · intro hd
    -- the screen that the display names is bound to it, before and after
    obtain ⟨v, hv⟩ := Option.isSome_iff_exists.mp hd
    have hbound : r.bindings.get? v.screen = some d := (h.bound v.screen d).mpr ⟨v, hv, rfl⟩
    rw [← ht.bindings] at hbound
    obtain ⟨w, hw, -⟩ := ((ht.orderly h).bound v.screen d).mp hbound
    rw [Has, hw]
    rfl

end Registry

/-! ## Runs of the service -/

namespace Service

variable {ι : Type} [DecidableEq ι] (respond : ι → AgentEvent → Response ι)

/-- What the registry has to tell of displays while it follows a command. -/
def Command.news (s : Service ι) (c : Command ι) : List AgentEvent :=
  match c.operation? s with
  | none => []
  | some tc =>
    (s.registry.followAll (tc.outcome s.topology).topology.displayIds
      (tc.outcome s.topology).events).2.2

/-- What the topology reports in a run that begins at `s`. -/
def log (s : Service ι) (run : List (Command ι)) : List TopologyEvent :=
  collect (perform respond) (fun s c => (c.reply respond s).events) s run

/-- What the registry tells of displays in a run that begins at `s`. -/
def news (s : Service ι) (run : List (Command ι)) : List AgentEvent :=
  collect (perform respond) (fun s c => c.news s) s run

/-- What topology and registry have told says which numbers have been in use. -/
structure Recorded (log : List TopologyEvent) (news : List AgentEvent) (s : Service ι) : Prop where
  /-- No number of a screen or group begins twice. -/
  screens : Topology.Recorded log s.topology
  /-- No number of a display begins twice. -/
  displays : Lifetimes (made news) (unmade news) s.registry.Has
  /-- Numbers of displays to come have never begun. -/
  drawn : ∀ d ∈ made news, d.val < s.topology.displayIds.count
  /-- A number that the topology drew for a screen is among those of displays. -/
  unique : ∀ x d, .becameUnique x d ∈ log → d ∈ made news

variable {respond} {s s' : Service ι} {log : List TopologyEvent} {news : List AgentEvent}
  {known : ScreenId → Prop}

omit [DecidableEq ι] in
theorem recorded_touched (h : Follows known s) (hr : Recorded log news s) (ht : Touched s s') :
    Recorded log news s' where
  screens := by
    rw [ht.topology]
    exact hr.screens
  displays := by
    have hkeeps := hr.displays.turnover
      (.keeps (Registry.has_iff_of_touches h.orderly ht.registry)) fun _ hk =>
        absurd hk List.not_mem_nil
    rw [List.append_nil, List.append_nil] at hkeeps
    exact hkeeps
  drawn := by
    rw [ht.topology]
    exact hr.drawn
  unique := hr.unique

omit [DecidableEq ι] in
theorem recorded_arranged (h : Follows known s) (hr : Recorded log news s)
    {c : Topology.Command} (ha : Arranged c s s')
    (hscreens : s'.topology.screenIds.count ≤ 2 ^ 64)
    (hdisplays : s'.topology.displayIds.count ≤ 2 ^ 64) :
    Recorded (log ++ (c.outcome s.topology).events)
      (news ++ (s.registry.followAll (c.outcome s.topology).topology.displayIds
        (c.outcome s.topology).events).2.2) s' := by
  rw [screenIds_arranged ha] at hscreens
  rw [ha.topology] at hdisplays
  have hchanges := changes_outcome h.sound c hscreens
  have hscreens' := Topology.recorded_changes hchanges h.sound hr.screens hscreens
  have hdisplays' := Registry.recorded_followAll hchanges h.orderly (h.numbered c)
    ⟨hr.displays, fun d hd => .inl (hr.drawn d hd)⟩ (Nat.le_refl _) hdisplays
  exact {
    screens := by
      rw [ha.topology]
      exact ⟨hscreens'.lifetimes, hscreens'.drawn⟩
    displays := by
      rw [ha.registry]
      exact hdisplays'.lifetimes
    drawn := by
      rw [ha.topology]
      intro d hd
      have hgrows := Registry.count_followAll s.registry
        (c.outcome s.topology).topology.displayIds (c.outcome s.topology).events
      have := hdisplays'.drawn d hd
      simp only at hgrows this ⊢
      omega
    unique := by
      intro x d hd
      rw [made_append, List.mem_append]
      rcases List.mem_append.mp hd with hd | hd
      · exact .inl (hr.unique x d hd)
      · exact .inr (Registry.made_of_becameUnique hd _ _) }

/-- **What begins with a command has never begun before.** -/
theorem recorded_perform (h : Follows known s) (hr : Recorded log news s) (c : Command ι)
    (hscreens : (s.perform respond c).topology.screenIds.count ≤ 2 ^ 64)
    (hdisplays : (s.perform respond c).topology.displayIds.count ≤ 2 ^ 64) :
    Recorded (log ++ (c.reply respond s).events) (news ++ c.news s) (s.perform respond c) := by
  obtain ⟨tc, hop, harranged, hevents, -⟩ | ⟨hop, htouched, hevents, -⟩ :=
    perform_cases respond s c
  · rw [hevents, Command.news, hop]
    exact recorded_arranged h hr harranged hscreens hdisplays
  · rw [hevents, Command.news, hop, List.append_nil, List.append_nil]
    exact recorded_touched h hr htouched

variable (respond) in
theorem recorded_after (capability : FoldCapability) (run : List (Command ι))
    (hscreens : (after respond (start capability) run).topology.screenIds.count ≤ 2 ^ 64)
    (hdisplays : (after respond (start capability) run).topology.displayIds.count ≤ 2 ^ 64) :
    Recorded (Service.log respond (start capability) run)
      (Service.news respond (start capability) run) (after respond (start capability) run) := by
  induction run using List.reverseRecOn with
  | nil =>
    exact ⟨Topology.recorded_empty, .nil fun _ => Bool.false_ne_true,
      fun _ hd => absurd hd List.not_mem_nil, fun _ _ hd => absurd hd List.not_mem_nil⟩
  | append_singleton run c ih =>
    have hle := counts_le_of_beginning respond (s := start capability) (List.prefix_append run [c])
    have hscreens' := Nat.le_trans hle.1 hscreens
    have hdisplays' := Nat.le_trans hle.2 hdisplays
    rw [after_concat] at hscreens hdisplays ⊢
    rw [Service.log, Service.news, collect_concat, collect_concat]
    exact recorded_perform (follows_after respond run hscreens' hdisplays')
      (ih hscreens' hdisplays') c hscreens hdisplays

/-- Numbers of a run are issued once. -/
structure IssuedOnce (respond : ι → AgentEvent → Response ι) (capability : FoldCapability)
    (run : List (Command ι)) : Prop where
  /-- No screen or group begins under a number that one has begun under, and those that have begun
  and not ended are those that are there. -/
  screens : Lifetimes (births (Service.log respond (start capability) run))
    (departures (Service.log respond (start capability) run))
    (after respond (start capability) run).topology.Has
  /-- So it is with displays, whoever drew their numbers. -/
  displays : Lifetimes (made (Service.news respond (start capability) run))
    (unmade (Service.news respond (start capability) run))
    (after respond (start capability) run).registry.Has
  /-- A number that the topology drew for a screen is one that a display began under. -/
  unique : ∀ s d, .becameUnique s d ∈ Service.log respond (start capability) run →
    d ∈ made (Service.news respond (start capability) run)
  /-- A new screen or group has a number that was in use at no earlier point. -/
  newScreens : Anew (fun run => (after respond (start capability) run).topology.Has) run
  /-- A new display has a number that was in use at no earlier point. -/
  newDisplays : Anew (fun run => (after respond (start capability) run).registry.Has) run

/-- **In a run that draws at most 2⁶⁴ numbers for screens and groups, and as many for displays, no
number is issued twice.** -/
theorem issuedOnce_after (capability : FoldCapability) (run : List (Command ι))
    (hscreens : (after respond (start capability) run).topology.screenIds.count ≤ 2 ^ 64)
    (hdisplays : (after respond (start capability) run).topology.displayIds.count ≤ 2 ^ 64) :
    IssuedOnce respond capability run := by
  have hrecorded : ∀ b, b <+: run → Recorded (Service.log respond (start capability) b)
      (Service.news respond (start capability) b) (after respond (start capability) b) := by
    intro b hb
    obtain ⟨hscreens', hdisplays'⟩ := counts_le_of_beginning respond (s := start capability) hb
    exact recorded_after respond capability b (Nat.le_trans hscreens' hscreens)
      (Nat.le_trans hdisplays' hdisplays)
  have hall := hrecorded run (List.prefix_refl run)
  exact {
    screens := hall.screens.lifetimes
    displays := hall.displays
    unique := hall.unique
    newScreens := by
      refine anew_of_lifetimes (fun b hb => (hrecorded b hb).screens.lifetimes) ?_ ?_ <;>
        exact fun _ _ hb => ((collect_beginning hb _).filterMap _).subset
    newDisplays := by
      refine anew_of_lifetimes (fun b hb => (hrecorded b hb).displays) ?_ ?_ <;>
        exact fun _ _ hb => ((collect_beginning hb _).filterMap _).subset }

/-- A run in which screens change mirrors, one of them is made unique twice, the source of a mirror
goes away, and the panel is plugged out and in again. -/
def renewedRun : List (Command Nat) :=
  [.arrange (.connect ⟨0⟩ ⟨"builtin", [⟨1080, 2340, 60⟩], 0, 2, []⟩),
    .arrange (.create ⟨"a", 640, 480, 1, none⟩),
    .arrange (.create ⟨"b", 640, 480, 1, none⟩),
    .arrange (.mirror ⟨0⟩ [⟨2⟩, ⟨3⟩]),
    .arrange (.mirror ⟨2⟩ [⟨3⟩, ⟨0⟩]),
    .arrange (.makeUnique [⟨3⟩] ⟨true, .deg90⟩),
    .setState .on,
    .arrange (.makeUnique [⟨3⟩, ⟨0⟩] ⟨false, .deg0⟩),
    .arrange (.destroy ⟨2⟩),
    .arrange (.disconnect ⟨0⟩),
    .arrange (.connect ⟨0⟩ ⟨"builtin", [⟨1080, 2340, 60⟩], 0, 2, []⟩)]

theorem issuedOnce_after_renewedRun :
    (after quiet (start ⟨false, []⟩) renewedRun).topology.screenIds.count ≤ 2 ^ 64 ∧
      (after quiet (start ⟨false, []⟩) renewedRun).topology.displayIds.count ≤ 2 ^ 64 ∧
      IssuedOnce quiet ⟨false, []⟩ renewedRun :=
  ⟨by decide +kernel, by decide +kernel,
    issuedOnce_after ⟨false, []⟩ renewedRun (by decide +kernel) (by decide +kernel)⟩

end Service

end DisplayServer
