import DisplayServer.Proofs.SessionHistories

/-!
# The life of a session

A session is `Wired`: it holds a stage and a surface while it is connected and neither when it
is not, and its rectangle is provisional only for a reason that says so. Every act keeps this.

Of an act that is granted the session reports each state on its path, once and in order, and
the path starts from the state before and never stands still; an act that is refused leaves
nothing behind but what the stage was asked. What holds of one act is carried to a run by
collecting the acts' histories.
-/

namespace DisplayServer

namespace Session

/-- Stage, surface and rectangle fit the state. -/
structure Wired (s : Session) : Prop where
  /-- The stage is held as long as the connection lasts. -/
  staged : s.staged = true ↔ s.state ≠ .disconnected
  /-- No surface is held without a connection. -/
  released : s.state = .disconnected → s.surface = none
  /-- Only a system window is connected without a surface. -/
  surfaced : s.state ≠ .disconnected → s.type.isSystem = false → s.surface.isSome = true
  /-- Nothing is provisional without a connection. -/
  settled : s.state = .disconnected → s.provisional = false
  /-- A provisional rectangle came with a provisional reason. -/
  provisional : s.provisional = true → s.reason.isProvisional = true

/-! ## One act -/

variable {s : Session}

theorem wired_create (id : SessionId) (name : String) (type : WindowType)
    (parent : Option SessionId) (modal : Bool) :
    Wired { create id name type parent with modal } where
  staged := iff_of_false Bool.noConfusion fun h => h rfl
  released _ := rfl
  surfaced h := absurd rfl h
  settled _ := rfl
  provisional := Bool.noConfusion

/-- All that `Wired` speaks of, apart from the state, is as it was, and the state is in the same
connection. -/
theorem Wired.of_turn (h : Wired s) {next : SessionState}
    (hnext : next = .disconnected ↔ s.state = .disconnected) : Wired { s with state := next } where
  staged := h.staged.trans (not_congr hnext.symm)
  released hs := h.released (hnext.mp hs)
  surfaced hs := h.surfaced (mt hnext.mpr hs)
  settled hs := h.settled (hnext.mp hs)
  provisional := h.provisional

theorem wired_take (h : Wired s) (answer : Except Error Unit) (c : Command) :
    Wired (s.take answer c).session := by
  have hdoes := does_take s answer c
  generalize s.take answer c = step at hdoes
  cases hdoes with
  | refused _ e asked hasked => exact h
  | turned _ asked hturns => exact h.of_turn hturns.next_eq_disconnected_iff
  | connected surface hstate hsurface =>
    exact {
      staged := iff_of_true rfl SessionState.noConfusion
      released := SessionState.noConfusion
      surfaced := by
        intro _ hsystem
        cases surface with
        | none =>
          rw [hsurface rfl] at hsystem
          cases hsystem
        | some n => rfl
      settled := SessionState.noConfusion
      provisional := h.provisional }
  | disconnected hstate =>
    exact {
      staged := iff_of_false Bool.noConfusion fun h => h rfl
      released := fun _ => rfl
      surfaced := fun h => absurd rfl h
      settled := fun _ => rfl
      provisional := Bool.noConfusion }
  | updated rect reason hshown hanswer =>
    exact {
      staged := h.staged
      released := h.released
      surfaced := h.surfaced
      settled := by
        intro hstate
        rw [show s.state = .disconnected from hstate] at hshown
        cases hshown
      provisional := fun hreason => hreason }

theorem wired_perform (h : Wired s) (act : Act) : Wired (s.next act) := by
  cases act with
  | take answer c => exact wired_take h answer c
  | set a =>
    cases a <;> exact ⟨h.staged, h.released, h.surfaced, h.settled, h.provisional⟩

/-- An act leads from the session's state along a path that never stands still. -/
theorem isChain_turns (s : Session) (act : Act) :
    List.IsChain (· ≠ ·) (s.state :: s.turns act) := by
  cases act with
  | set a => exact .singleton _
  | take answer c =>
    have hdoes := does_take s answer c
    simp only [turns, granted]
    generalize s.take answer c = step at hdoes
    cases hdoes with
    | refused _ e asked hasked => exact .singleton _
    | turned _ asked hturns => exact hturns.isChain
    | connected surface hstate hsurface =>
      rw [hstate]
      exact List.isChain_pair.mpr SessionState.noConfusion
    | disconnected hstate =>
      rw [Command.path_disconnect hstate]
      exact List.isChain_pair.mpr hstate
    | updated rect reason hshown hanswer => exact .singleton _

/-- An act leaves the session in the last state that it leads through. -/
theorem getLastD_turns (s : Session) (act : Act) :
    (s.turns act).getLastD s.state = (s.next act).state := by
  cases act with
  | set a => cases a <;> rfl
  | take answer c =>
    have hdoes := does_take s answer c
    simp only [turns, granted, next, perform]
    generalize s.take answer c = step at hdoes
    cases hdoes with
    | refused _ e asked hasked => rfl
    | turned _ asked hturns => rfl
    | connected surface hstate hsurface => rfl
    | disconnected hstate =>
      rw [Command.path_disconnect hstate]
      rfl
    | updated rect reason hshown hanswer => rfl

/-- A watched session reports the path of each act. -/
theorem reports_eq (s : Session) (act : Act) :
    s.reports act = if s.watched then (s.turns act).map fun state => (s.id, state) else [] := by
  have hsilent : (if s.watched then ([] : List SessionState).map fun state => (s.id, state)
      else []) = [] := ite_self _
  cases act with
  | set a => exact hsilent.symm
  | take answer c =>
    have hdoes := does_take s answer c
    simp only [turns, granted, reports, perform]
    generalize s.take answer c = step at hdoes
    cases hdoes with
    | refused _ e asked hasked =>
      exact (entered?_of_asks fun o ho => (hasked o ho).1).trans hsilent.symm
    | turned _ asked hturns =>
      have hasked : ∀ o ∈ asked.map (WindowOutput.stageActive s.id), s.Asks o :=
        List.forall_mem_map.mpr fun active _ => .stageActive active
      rw [List.filterMap_append, entered?_of_asks hasked]
      exact entered?_announce s _
    | connected surface hstate hsurface => exact entered?_announce s _
    | disconnected hstate =>
      rw [Command.path_disconnect hstate]
      exact entered?_announce s _
    | updated rect reason hshown hanswer =>
      refine Eq.trans ?_ hsilent.symm
      cases s.staged <;> cases s.surface <;> rfl

/-- A refused step leaves nothing behind but what the stage was asked. -/
theorem take_of_error {answer : Except Error Unit} {c : Command} {e : Error}
    (h : (s.take answer c).result = .error e) :
    (s.take answer c).session = s ∧
      ∀ o ∈ (s.take answer c).outputs, s.Asks o := by
  have hdoes := does_take s answer c
  generalize s.take answer c = step at hdoes h
  cases hdoes with
  | refused _ e asked hasked => exact ⟨rfl, fun o ho => (hasked o ho).1⟩
  | turned | connected | disconnected | updated => cases h

/-! ## A run -/

theorem wired_after (h : Wired s) (run : List Act) : Wired (s.after run) := by
  induction run using List.reverseRecOn with
  | nil => exact h
  | append_singleton run act ih =>
    rw [after_concat]
    exact wired_perform ih act

/-- A reason that becomes provisional was granted. -/
theorem grants_ne_nil {run : List Act} (hs : s.reason.isProvisional = false)
    (h : (s.after run).reason.isProvisional = true) : collect next grants s run ≠ [] := by
  intro hnil
  have hlast := getLastD_grants_after s run
  rw [hnil] at hlast
  rw [← show s.reason = (s.after run).reason from congrArg Prod.snd hlast, hs] at h
  cases h

theorem id_next (s : Session) (act : Act) : (s.next act).id = s.id := by
  cases act with
  | take answer c => exact congrArg Prod.fst (s.place_take answer c)
  | set a => exact congrArg Prod.fst (s.place_set a)

theorem watched_next (h : s.watched = true) (act : Act) : (s.next act).watched = true := by
  cases act with
  | take answer c =>
    have hbecomes := becomes_take s answer c
    simp only [next, perform]
    generalize (s.take answer c).session = s' at hbecomes
    cases hbecomes <;> exact h
  | set a =>
    cases a with
    | watched => rfl
    | focusable | touchable | focused => exact h

/-- A session that is watched reports every state that it is led through from then on. -/
theorem reports_of_watched (h : s.watched = true) (rest : List Act) :
    collect next reports s rest = (collect next turns s rest).map fun state => (s.id, state) := by
  induction rest generalizing s with
  | nil => rfl
  | cons act rest ih =>
    rw [collect, collect, List.map_append, reports_eq, if_pos h, ih (watched_next h act), id_next]

/-- What is promised of a session that went through a run. -/
structure Lives (first : Session) (run : List Act) : Prop where
  /-- Stage, surface and rectangle fit the state. -/
  wired : Wired (first.after run)
  /-- A provisional rectangle was granted last, for a provisional reason. -/
  provisional : (first.after run).provisional = true → ∃ last,
    (collect next grants first run).getLast? = some last ∧ last.2.isProvisional = true
  /-- From each state that the session was led through, it was led to another one. -/
  led : List.IsChain (· ≠ ·) (first.state :: collect next turns first run)
  /-- The last of them is its state. -/
  arrived : (collect next turns first run).getLastD first.state = (first.after run).state
  /-- Once it is watched, it reports the states that it is led through, each once and in order,
  whatever follows. -/
  reported : (first.after run).watched = true → ∀ rest,
    collect next reports (first.after run) rest =
      (collect next turns (first.after run) rest).map fun state => ((first.after run).id, state)
  /-- A refused step changes nothing, is not reported and leaves the surface alone. -/
  atomic : ∀ answer c e, ((first.after run).take answer c).result = .error e →
    (first.after run).next (.take answer c) = first.after run ∧
      (first.after run).reports (.take answer c) = [] ∧
      ∀ surface, (first.after run).bounds surface (.take answer c) = []

/-- **Whatever is done to a new session, its handles and flags fit its state, its reports tell
every transition once, and a refusal leaves no trace.** -/
theorem lives_after (id : SessionId) (name : String) (type : WindowType)
    (parent : Option SessionId) (modal : Bool) (run : List Act) :
    Lives { create id name type parent with modal } run := by
  have hwired := wired_after (wired_create id name type parent modal) run
  exact {
    wired := hwired
    provisional := by
      intro hprovisional
      have hreason := hwired.provisional hprovisional
      exact ⟨_, getLast?_grants (grants_ne_nil rfl hreason), hreason⟩
    led := isChain_collect isChain_turns getLastD_turns _ run
    arrived := getLastD_collect getLastD_turns _ run
    reported := fun hwatched rest => reports_of_watched hwatched rest
    atomic := by
      intro answer c e he
      obtain ⟨hsession, hasked⟩ := take_of_error he
      exact ⟨hsession, entered?_of_asks hasked, boundsOf?_of_asks hasked⟩ }

/-- An active window that goes to the background is reported inactive first, unless its client
does not take that. -/
example :
    let first := create ⟨1⟩ "editor" .appMain none
    let shown := [.take (.ok ()) (.connect true (some 7)), .take (.ok ()) .foreground,
      .take (.ok ()) (.activate true), .set .watched]
    collect next reports first
        (shown ++ [.take (.error (.collaboratorFailed "gone")) .background,
          .take (.ok ()) .background]) =
      [(⟨1⟩, .inactive), (⟨1⟩, .background)] := by
  decide

end Session

end DisplayServer
