import DisplayServer.Proofs.Runs
import DisplayServer.Registry

/-!
# What fold requests do to the posture

Four requests reach the posture of a device that folds. A reading of the sensor is always
remembered and a forced mode always taken, and both move the status unless it is locked. A
restoration releases the status and moves it to the last reading. Whatever moves, agents are told
of, and of nothing else (`Posture.tells_turn`).

So what was told of the status in a run ends with the status and names no value twice in a row,
and the same goes for the mode. The last reading and the lock are as the requests last set them.
-/

namespace DisplayServer

/-- The fold status that an event tells of. -/
def AgentEvent.foldStatus? : AgentEvent → Option FoldStatus
  | foldStatusChanged status => some status
  | _ => none

/-- The fold display mode that an event tells of. -/
def AgentEvent.foldMode? : AgentEvent → Option FoldDisplayMode
  | foldDisplayModeChanged mode => some mode
  | _ => none

/-- One request to the posture of a device. -/
inductive FoldRequest
  | sense (reading : FoldStatus)
  | lock (locked : Bool)
  | force (mode : FoldDisplayMode)
  | restore
  deriving DecidableEq

namespace FoldRequest

/-- Carries a request out. -/
def step : FoldRequest → Registry → Registry.Step (Except Error Unit)
  | sense reading, r => r.senseFold reading
  | lock locked, r => r.lockFold locked
  | force mode, r => r.forceFoldMode mode
  | restore, r => r.restoreFold

/-- What a request does to the posture of a device that folds; the unknown mode is refused. -/
def turn : FoldRequest → Posture → Posture × List AgentEvent
  | sense reading, p => p.sense reading
  | lock locked, p => (p.setLocked locked, [])
  | force mode, p =>
    match mode.impliedStatus with
    | some implied => p.force mode implied
    | none => (p, [])
  | restore, p => p.restore

/-- The reading that a request brings. -/
def reading? : FoldRequest → Option FoldStatus
  | sense reading => some reading
  | _ => none

/-- How a request sets the lock. -/
def lock? : FoldRequest → Option Bool
  | lock locked => some locked
  | restore => some false
  | _ => none

/-! ## Requests to a registry -/

variable {r : Registry}

/-- A device that folds refuses nothing but the unknown mode, and another device everything. -/
theorem step_eq (q : FoldRequest) (r : Registry) :
    q.step r =
      if r.capability.foldable then
        if q = .force .unknown then ⟨.error (.invalidParameter .unknownFoldMode), r, []⟩
        else
          ⟨.ok (), { r with posture := (q.turn r.posture).1 }, (q.turn r.posture).2⟩
      else ⟨.error (.unsupported "fold"), r, []⟩ := by
  have hfold : ∀ change : Posture → Posture × List AgentEvent, r.fold change =
      if r.capability.foldable then
        ⟨.ok (), { r with posture := (change r.posture).1 }, (change r.posture).2⟩
      else ⟨.error (.unsupported "fold"), r, []⟩ :=
    fun _ => rfl
  cases q with
  | sense reading => exact hfold (turn (.sense reading))
  | lock locked => exact hfold (turn (.lock locked))
  | restore => exact hfold (turn .restore)
  | force mode =>
    show r.forceFoldMode mode = _
    unfold Registry.forceFoldMode
    by_cases hfoldable : r.capability.foldable = true
    · rw [if_pos hfoldable, if_pos hfoldable]
      cases mode with
      | unknown => rfl
      | _ => exact (hfold _).trans (if_pos hfoldable)
    · rw [if_neg hfoldable, if_neg hfoldable]

theorem registry_step (hfoldable : r.capability.foldable = true) (q : FoldRequest) :
    (q.step r).registry = { r with posture := (q.turn r.posture).1 } ∧
      (q.step r).events = (q.turn r.posture).2 := by
  rw [step_eq, if_pos hfoldable]
  split
  · rename_i hunknown
    subst hunknown
    exact ⟨rfl, rfl⟩
  · exact ⟨rfl, rfl⟩

/-- A request that is refused changes nothing and tells nobody. -/
theorem step_of_refused {q : FoldRequest} {e : Error} (h : (q.step r).result = .error e) :
    (q.step r).registry = r ∧ (q.step r).events = [] := by
  rw [step_eq] at h ⊢
  split
  · split
    · exact ⟨rfl, rfl⟩
    · rename_i hfoldable hknown
      rw [if_pos hfoldable, if_neg hknown] at h
      cases h
  · exact ⟨rfl, rfl⟩

theorem refused_iff (hfoldable : r.capability.foldable = true) {q : FoldRequest} {e : Error} :
    (q.step r).result = .error e ↔
      q = .force .unknown ∧ e = .invalidParameter .unknownFoldMode := by
  rw [step_eq, if_pos hfoldable]
  split
  · rename_i hunknown
    simp [hunknown, eq_comm]
  · rename_i hknown
    exact iff_of_false nofun fun h => hknown h.1

end FoldRequest

namespace Posture

variable {p p' : Posture} {es : List AgentEvent}

/-! ## One request -/

/-- The posture after a request. -/
def take (p : Posture) (q : FoldRequest) : Posture := (q.turn p).1

/-- The events tell of status and mode exactly if these change, and then of the new ones. -/
structure Tells (p p' : Posture) (es : List AgentEvent) : Prop where
  status : es.filterMap AgentEvent.foldStatus? = changeTo p.status p'.status
  mode : es.filterMap AgentEvent.foldMode? = changeTo p.mode p'.mode

theorem tells_reveal (p : Posture) (status : FoldStatus) :
    Tells p (p.reveal status).1 (p.reveal status).2 := by
  unfold reveal
  split
  · exact ⟨by simp, by simp⟩
  · rename_i hother
    refine ⟨?_, by simp [AgentEvent.foldMode?]⟩
    simp [changeTo, AgentEvent.foldStatus?, Ne.symm hother]

theorem status_reveal (p : Posture) (status : FoldStatus) :
    (p.reveal status).1.status = status := by
  unfold reveal
  split
  · assumption
  · rfl

theorem kept_reveal (p : Posture) (status : FoldStatus) :
    (p.reveal status).1.sensed = p.sensed ∧ (p.reveal status).1.locked = p.locked ∧
      (p.reveal status).1.mode = p.mode := by
  unfold reveal
  split <;> exact ⟨rfl, rfl, rfl⟩

theorem tells_sense (p : Posture) (reading : FoldStatus) :
    Tells p (p.sense reading).1 (p.sense reading).2 := by
  unfold sense
  simp only
  split
  · exact ⟨by simp, by simp⟩
  · have hrevealed := tells_reveal { p with sensed := reading } reading
    exact ⟨hrevealed.status, hrevealed.mode⟩

theorem tells_force (p : Posture) (mode : FoldDisplayMode) (implied : FoldStatus) :
    Tells p (p.force mode implied).1 (p.force mode implied).2 := by
  -- the mode comes first, and the status is told after it
  have htaken : Tells p { p with mode }
      (if p.mode = mode then [] else [AgentEvent.foldDisplayModeChanged mode]) := by
    split
    · rename_i hsame
      exact ⟨by simp, by simp [hsame]⟩
    · rename_i hother
      refine ⟨by simp [AgentEvent.foldStatus?], ?_⟩
      simp [changeTo, AgentEvent.foldMode?, Ne.symm hother]
  unfold force
  simp only
  split
  · exact htaken
  · have hrevealed := tells_reveal { p with mode } implied
    have hmode := (kept_reveal { p with mode } implied).2.2
    constructor
    · rw [List.filterMap_append, htaken.status, hrevealed.status]
      simp
    · rw [List.filterMap_append, htaken.mode, hrevealed.mode, hmode]
      simp

/-- **A request tells of what it changes.** -/
theorem tells_turn (p : Posture) (q : FoldRequest) : Tells p (p.take q) (q.turn p).2 := by
  unfold take FoldRequest.turn
  cases q with
  | sense reading => exact tells_sense p reading
  | lock locked => exact ⟨by simp [setLocked], by simp [setLocked]⟩
  | force mode =>
    simp only
    split
    · exact tells_force p mode _
    · exact ⟨by simp, by simp⟩
  | restore =>
    have hrevealed := tells_reveal { p with locked := false } p.sensed
    exact ⟨hrevealed.status, hrevealed.mode⟩

/-- What a request remembers, and how it leaves the lock. -/
theorem kept_take (p : Posture) (q : FoldRequest) :
    (p.take q).sensed = q.reading?.getD p.sensed ∧ (p.take q).locked = q.lock?.getD p.locked := by
  unfold take FoldRequest.turn
  cases q with
  | sense reading =>
    obtain ⟨hsensed, hlocked, -⟩ := kept_reveal { p with sensed := reading } reading
    unfold sense
    simp only
    split
    · exact ⟨rfl, rfl⟩
    · exact ⟨hsensed, hlocked⟩
  | lock locked => exact ⟨rfl, rfl⟩
  | force mode =>
    simp only
    split
    · rename_i implied _
      obtain ⟨hsensed, hlocked, -⟩ := kept_reveal { p with mode } implied
      unfold force
      simp only
      split
      · exact ⟨rfl, rfl⟩
      · exact ⟨hsensed, hlocked⟩
    · exact ⟨rfl, rfl⟩
  | restore =>
    obtain ⟨hsensed, hlocked, -⟩ := kept_reveal { p with locked := false } p.sensed
    exact ⟨hsensed, hlocked⟩

/-- A locked status is moved by a restoration only. -/
theorem status_take_of_locked (hlocked : p.locked = true) {q : FoldRequest} (hq : q ≠ .restore) :
    (p.take q).status = p.status := by
  unfold take FoldRequest.turn
  cases q with
  | sense reading => simp [sense, hlocked]
  | lock locked => rfl
  | force mode =>
    simp only
    split
    · simp [force, hlocked]
    · rfl
  | restore => exact absurd rfl hq

theorem status_take_restore (p : Posture) : (p.take .restore).status = p.sensed :=
  status_reveal _ _

/-! ## Runs of requests -/

/-- The posture after a run that begins at `p`. -/
def after (p : Posture) (run : List FoldRequest) : Posture := run.foldl take p

/-- What agents are told in a run that begins at `p`, oldest first. -/
def told (p : Posture) (run : List FoldRequest) : List AgentEvent :=
  collect take (fun p q => (q.turn p).2) p run

variable (p) (run : List FoldRequest)

/-- The sensor's reading that is remembered is the last one. -/
theorem sensed_after :
    (p.after run).sensed = (run.filterMap FoldRequest.reading?).getLastD p.sensed :=
  view_foldl_of_writes sensed (fun p q => (p.kept_take q).1) p run

/-- The lock is as it was set last. -/
theorem locked_after :
    (p.after run).locked = (run.filterMap FoldRequest.lock?).getLastD p.locked :=
  view_foldl_of_writes locked (fun p q => (p.kept_take q).2) p run

/-- What is told of the status ends with it, and repeats nothing. -/
theorem status_told :
    ((p.told run).filterMap AgentEvent.foldStatus?).getLastD p.status = (p.after run).status ∧
      List.IsChain (· ≠ ·) (p.status :: (p.told run).filterMap AgentEvent.foldStatus?) := by
  unfold told
  rw [filterMap_collect]
  exact collect_changes status (fun p q => (p.tells_turn q).status) p run

/-- So does what is told of the mode. -/
theorem mode_told :
    ((p.told run).filterMap AgentEvent.foldMode?).getLastD p.mode = (p.after run).mode ∧
      List.IsChain (· ≠ ·) (p.mode :: (p.told run).filterMap AgentEvent.foldMode?) := by
  unfold told
  rw [filterMap_collect]
  exact collect_changes mode (fun p q => (p.tells_turn q).mode) p run

end Posture

end DisplayServer
