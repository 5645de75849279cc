import DisplayServer.Proofs.FramePacing
import DisplayServer.Proofs.Runs
import DisplayServer.Proofs.Seats

/-!
# When a gesture leaves a provisional rectangle behind

The rectangles of a running gesture are provisional, and its last one is not, so a gesture that
ends settles the rectangle of its window. That last rectangle is said once, and the session may
refuse it: the window may have gone to the background meanwhile, or its stage may not answer.
Then the session goes on holding a provisional rectangle although no gesture runs.

This is the only way. A rectangle reaches a session from a running gesture or from its end,
since nothing waits for a frame while the controller is idle (`Resting`).
-/

namespace DisplayServer

namespace Session

/-- A session takes a rectangle if its window is shown and its stage, if there is one, answers. -/
def Takes (s : Session) (answer : Except Error Unit) : Prop :=
  s.state.isShown = true ∧ (s.staged = true → answer = .ok ())

theorem session_updateRect_of_takes {s : Session} {answer : Except Error Unit}
    (h : s.Takes answer) (rect : Rect) (reason : ChangeReason) :
    (s.updateRect answer rect reason).session =
      { s with rect, reason, provisional := reason.isProvisional } := by
  obtain ⟨hshown, hanswer⟩ := h
  unfold updateRect ask
  rw [hshown]
  simp only [Bool.not_true, Bool.false_eq_true, if_false]
  split
  · rename_i hstaged
    rw [hanswer hstaged]
  · rfl

theorem session_updateRect_of_not_takes {s : Session} {answer : Except Error Unit}
    (h : ¬ s.Takes answer) (rect : Rect) (reason : ChangeReason) :
    (s.updateRect answer rect reason).session = s := by
  unfold updateRect ask
  split
  · rfl
  · rename_i hshown
    have hshown : s.state.isShown = true := by simpa using hshown
    split
    · rename_i hstaged
      cases answer with
      | ok => exact absurd ⟨hshown, fun _ => rfl⟩ h
      | error e => rfl
    · rename_i hstaged
      exact absurd ⟨hshown, fun hs => absurd hs hstaged⟩ h

/-- The last rectangle of a gesture settles the session's unless it is not taken. -/
theorem provisional_last_iff (s : Session) (answer : Except Error Unit) (rect : Rect) :
    (s.updateRect answer rect .dragEnd).session.provisional = false ↔
      ¬ (s.provisional = true ∧ ¬ s.Takes answer) := by
  by_cases h : s.Takes answer
  · rw [session_updateRect_of_takes h]
    simp [h, ChangeReason.isProvisional]
  · rw [session_updateRect_of_not_takes h]
    simp [h]

end Session

namespace Controller

/-- A consistent controller to which, while it is idle, nothing is left to deliver. -/
structure Resting (c : Controller) : Prop where
  consistent : c.Consistent
  empty : c.phase = .idle → c.pending = none

theorem resting_make (window : SessionId) (hotZone : HotZone) (ratio : Float32)
    (shapesCursor : Bool) : Resting (make window hotZone ratio shapesCursor) :=
  ⟨consistent_make window hotZone ratio shapesCursor, fun _ => rfl⟩

variable {c : Controller}

theorem resting_take (h : Resting c) (i : Input) : Resting (c.take i).controller := by
  refine ⟨consistent_take h.consistent i, ?_⟩
  by_cases hi : i = .frame
  · rw [hi]
    exact fun _ => rfl
  · have hpaces := paces_take h.consistent hi
    generalize (c.take i).controller = c' at hpaces
    generalize (c.take i).outputs = outputs at hpaces
    intro hidle
    cases hpaces with
    | quiet _ hpending _ hphase _ => rw [hpending, h.empty (hphase hidle)]
    | waits _ _ _ _ _ hphase => exact absurd hidle hphase
    | ends _ _ _ _ _ hpending _ => exact hpending

end Controller

namespace Seat

open Desk (Command)

/-- While the controller is idle and no rectangle waits in it, the session's is not
provisional. -/
def Settled (s : Seat) : Prop :=
  ∀ c x, s.controller? = some c → s.session? = some x → c.phase = .idle → c.pending = none →
    x.provisional = false

/-- Between two seats of one window, its gesture came to an end while the session, whose
rectangle is provisional, would not take the last one. -/
structure Strands (s s' : Seat) : Prop where
  ended : ∃ c c', s.controller? = some c ∧ c.phase ≠ .idle ∧ s'.controller? = some c' ∧
    c'.phase = .idle
  refused : ∃ x, s.session? = some x ∧ x.provisional = true ∧ ¬ x.Takes s.answer

/-- The controller, if there is one, rests while it is idle. -/
def Coherent (s : Seat) : Prop := ∀ c, s.controller? = some c → c.Resting

variable {s : Seat} {c : Controller}

/-! ## What a step leaves alone -/

theorem controller?_step (s : Seat) (f : Session → Session.Step) :
    (s.step f).seat.controller? = s.controller? := by
  unfold step
  split <;> rfl

theorem controller?_absorb (s : Seat) (outputs : List ControllerOutput) :
    (s.absorb outputs).seat.controller? = s.controller? := by
  induction outputs generalizing s with
  | nil => rfl
  | cons o rest ih =>
    cases o with
    | rect rect reason => exact (ih _).trans (controller?_step s _)
    | _ => exact ih _

theorem controller?_control (hc : s.controller? = some c)
    (f : Controller → Controller.Step Unit) :
    (s.control f).seat.controller? = some (f c).controller := by
  simp only [control, hc]
  exact controller?_absorb _ _

theorem control_of_none (hc : s.controller? = none) (f : Controller → Controller.Step Unit) :
    s.control f = s.stay := by
  simp only [control, hc]

theorem session?_step (s : Seat) (f : Session → Session.Step) :
    (s.step f).seat.session? = s.session?.map fun x => (f x).session := by
  unfold step
  cases hs : s.session? with
  | none => exact hs
  | some x => rfl

/-- Requests for frames and cursors do not reach the session. -/
theorem session?_absorb_of_silent (s : Seat) {outputs : List ControllerOutput}
    (h : ∀ rect reason, .rect rect reason ∉ outputs) :
    (s.absorb outputs).seat.session? = s.session? := by
  induction outputs generalizing s with
  | nil => rfl
  | cons o rest ih =>
    have hrest : ∀ rect reason, .rect rect reason ∉ rest :=
      fun rect reason hmem => h rect reason (List.mem_cons_of_mem _ hmem)
    cases o with
    | rect rect reason => exact absurd List.mem_cons_self (h rect reason)
    | frameRequest => exact ih { s with waiting := s.waiting + 1 } hrest
    | cursor style => exact ih s hrest

/-! ## Coherence -/

theorem coherent_control (h : s.Coherent) (i : Controller.Input) :
    (s.control (·.take i)).seat.Coherent := by
  cases hc : s.controller? with
  | none =>
    rw [control_of_none hc]
    exact h
  | some c =>
    intro c' hc'
    rw [controller?_control hc] at hc'
    rw [← Option.some.inj hc']
    exact Controller.resting_take (h c hc) i

theorem coherent_frames (n : Nat) (h : s.Coherent) : (frames n s).seat.Coherent := by
  induction n generalizing s with
  | zero => exact h
  | succ n ih => exact ih (coherent_control h .frame)

theorem coherent_follow (h : s.Coherent) (b : SessionId) (c : Command) :
    (s.follow b c).seat.Coherent := by
  cases c with
  | frame => exact coherent_frames (s := { s with waiting := 0 }) s.waiting h
  | ask window r =>
    simp only [follow]
    split
    · cases r with
      | control i => exact coherent_control h i
      | session step =>
        intro c hc
        rw [take, controller?_step] at hc
        exact h c hc
      | reach reachable => exact h
    · exact h

/-! ## What a step may do to controller and session -/

/-- What a step may do to the controller and to the session's rectangle. -/
inductive Goes (s s' : Seat) : Prop
  /-- An idle controller was idle before, and a provisional rectangle was there before. -/
  | on : (∀ c', s'.controller? = some c' → c'.phase = .idle →
        ∃ c, s.controller? = some c ∧ c.phase = .idle ∧ c.pending = none) →
      (∀ x', s'.session? = some x' → x'.provisional = true →
        ∃ x, s.session? = some x ∧ x.provisional = true) → Goes s s'
  /-- A gesture runs. -/
  | runs : (∀ c', s'.controller? = some c' → c'.phase ≠ .idle) → Goes s s'
  /-- A gesture ends with its last rectangle. -/
  | ends (c c' : Controller) (rect : Rect) : s.controller? = some c → c.phase ≠ .idle →
      s'.controller? = some c' → c'.phase = .idle → c'.pending = none →
      s'.session? = s.session?.map (fun x => (x.updateRect s.answer rect .dragEnd).session) →
      Goes s s'

/-- Controller and session are left as they were. -/
theorem goes_of_same {s' : Seat} (h : s.Coherent) (hcontroller : s'.controller? = s.controller?)
    (hsession : s'.session? = s.session?) : Goes s s' := by
  refine .on ?_ ?_
  · intro c' hc' hidle
    rw [hcontroller] at hc'
    exact ⟨c', hc', hidle, (h c' hc').empty hidle⟩
  · intro x' hx' hprovisional
    rw [hsession] at hx'
    exact ⟨x', hx', hprovisional⟩

/-- The controller stays in its phase, and an idle one leaves the session alone. -/
theorem goes_of_phase {s' : Seat} {c c' : Controller} (h : s.Coherent)
    (hc : s.controller? = some c) (hc' : s'.controller? = some c') (hphase : c'.phase = c.phase)
    (hsession : c.phase = .idle → s'.session? = s.session?) : Goes s s' := by
  by_cases hidle : c.phase = .idle
  · refine .on ?_ ?_
    · intro _ _ _
      exact ⟨c, hc, hidle, (h c hc).empty hidle⟩
    · intro x hx hprovisional
      rw [hsession hidle] at hx
      exact ⟨x, hx, hprovisional⟩
  · refine .runs ?_
    intro y hy
    rw [hc'] at hy
    rw [← Option.some.inj hy, hphase]
    exact hidle

/-- A frame delivers what waits, which is nothing in an idle controller. -/
theorem session?_onFrame (h : c.Resting) (hc : s.controller? = some c) (hidle : c.phase = .idle) :
    (s.control Controller.onFrame).seat.session? = s.session? := by
  simp only [control, hc, Controller.onFrame, h.empty hidle]
  rfl

theorem frames_of_none (n : Nat) (hc : s.controller? = none) : frames n s = s.stay := by
  induction n with
  | zero => rfl
  | succ n ih => simp only [frames, control_of_none hc, stay, ih, List.append_nil]

theorem frames_phase (n : Nat) (h : c.Resting) (hc : s.controller? = some c) :
    ∃ c', (frames n s).seat.controller? = some c' ∧ c'.phase = c.phase ∧
      (c.phase = .idle → (frames n s).seat.session? = s.session?) := by
  induction n generalizing s c with
  | zero => exact ⟨c, hc, rfl, fun _ => rfl⟩
  | succ n ih =>
    obtain ⟨c', hc', hphase, hsession⟩ :=
      ih (Controller.resting_take h .frame) (controller?_control hc Controller.onFrame)
    exact ⟨c', hc', hphase, fun hidle => (hsession hidle).trans (session?_onFrame h hc hidle)⟩

theorem goes_frame (h : s.Coherent) : Goes s s.frame.seat := by
  cases hc : s.controller? with
  | none =>
    rw [frame, frames_of_none _ (s := { s with waiting := 0 }) hc]
    exact goes_of_same h rfl rfl
  | some c =>
    obtain ⟨c', hc', hphase, hsession⟩ :=
      frames_phase s.waiting (h c hc) (s := { s with waiting := 0 }) hc
    exact goes_of_phase h hc hc' hphase hsession

theorem goes_control (h : s.Coherent) (i : Controller.Input) :
    Goes s (s.control (·.take i)).seat := by
  cases hc : s.controller? with
  | none =>
    rw [control_of_none hc]
    exact goes_of_same h rfl rfl
  | some c =>
    have hc' := controller?_control hc (·.take i)
    have hresting := h c hc
    by_cases hi : i = .frame
    · subst hi
      exact goes_of_phase h hc hc' rfl (session?_onFrame hresting hc)
    · have hsession : (s.control (·.take i)).seat.session? =
          ({ s with controller? := some (c.take i).controller }.absorb
            (c.take i).outputs).seat.session? := by
        simp only [control, hc]
      have hpaces := Controller.paces_take hresting.consistent hi
      generalize (c.take i).controller = c' at hpaces hc' hsession
      generalize (c.take i).outputs = outputs at hpaces hsession
      cases hpaces with
      | quiet _ hpending _ hphase hcursor =>
        refine .on ?_ ?_
        · intro y hy hidle
          rw [hc'] at hy
          rw [← Option.some.inj hy] at hidle
          exact ⟨c, hc, hphase hidle, hresting.empty (hphase hidle)⟩
        · intro x hx hprovisional
          rw [hsession, session?_absorb_of_silent] at hx
          · exact ⟨x, hx, hprovisional⟩
          · intro rect reason hmem
            obtain ⟨style, heq⟩ := hcursor _ hmem
            cases heq
      | waits p _ _ _ _ hphase =>
        refine .runs ?_
        intro y hy
        rw [hc'] at hy
        rw [← Option.some.inj hy]
        exact hphase
      | ends g _ hg _ hidle hpending _ =>
        refine .ends c c' (Controller.lastRect g i) hc (hresting.consistent.not_idle hg) hc' hidle
          hpending ?_
        rw [hsession]
        exact session?_step _ _

/-- A step of the session other than a provisional rectangle. -/
theorem goes_session (h : s.Coherent) {step : Session.Command}
    (hstep : ∀ rect reason, step = .update rect reason → reason.isProvisional = false) :
    Goes s (s.take (.session step)).seat := by
  refine .on ?_ ?_
  · intro c hc hidle
    rw [take, controller?_step] at hc
    exact ⟨c, hc, hidle, (h c hc).empty hidle⟩
  · intro x' hx' hprovisional
    rw [take, session?_step, Option.map_eq_some_iff] at hx'
    obtain ⟨x, hx, rfl⟩ := hx'
    refine ⟨x, hx, ?_⟩
    have hbecomes := x.becomes_take s.answer step
    generalize (x.take s.answer step).session = x' at hbecomes hprovisional
    cases hbecomes with
    | turned _ next => exact hprovisional
    | connected surface => exact hprovisional
    | disconnected => cases hprovisional
    | updated rect reason =>
      have hreason := hstep rect reason rfl
      rw [hreason] at hprovisional
      cases hprovisional

theorem goes_follow (h : s.Coherent) (b : SessionId) {c : Command}
    (hc : ∀ rect reason, c = .ask b (.session (.update rect reason)) →
      reason.isProvisional = false) : Goes s (s.follow b c).seat := by
  cases c with
  | frame => exact goes_frame h
  | ask window r =>
    simp only [follow]
    split
    · rename_i hb
      cases r with
      | control i => exact goes_control h i
      | session step =>
        refine goes_session h ?_
        rintro rect reason rfl
        exact hc rect reason (by rw [hb])
      | reach reachable => exact goes_of_same h rfl rfl
    · exact goes_of_same h rfl rfl

/-- A settled seat stays settled exactly if the step does not strand it. -/
theorem Goes.settled_iff {s' : Seat} (h : Goes s s') (hs : s.Settled) :
    s'.Settled ↔ ¬ Strands s s' := by
  cases h with
  | on hidle hprovisional =>
    refine iff_of_true ?_ ?_
    · intro c' x' hc' hx' hphase _
      obtain ⟨c, hc, hcidle, hpending⟩ := hidle c' hc' hphase
      by_contra hx
      obtain ⟨x, hsx, hxp⟩ := hprovisional x' hx' (by simpa using hx)
      rw [hs c x hc hsx hcidle hpending] at hxp
      cases hxp
    · rintro ⟨⟨c, c', hc, hne, hc', hphase⟩, -⟩
      obtain ⟨y, hy, hyidle, -⟩ := hidle c' hc' hphase
      rw [hc] at hy
      rw [← Option.some.inj hy] at hyidle
      exact hne hyidle
  | runs hruns =>
    refine iff_of_true ?_ ?_
    · intro c' x' hc' _ hphase _
      exact absurd hphase (hruns c' hc')
    · rintro ⟨⟨-, c', -, -, hc', hphase⟩, -⟩
      exact hruns c' hc' hphase
  | ends c c' rect hc hne hc' hidle hpending hsession =>
    constructor
    · rintro hsettled ⟨-, x, hx, hrefused⟩
      rw [hx, Option.map_some] at hsession
      have hflag := hsettled c' _ hc' hsession hidle hpending
      exact (x.provisional_last_iff s.answer rect).mp hflag hrefused
    · intro hkept y x' _ hx' _ _
      rw [hsession, Option.map_eq_some_iff] at hx'
      obtain ⟨x, hx, rfl⟩ := hx'
      refine (x.provisional_last_iff s.answer rect).mpr fun hrefused => ?_
      exact hkept ⟨⟨c, c', hc, hne, hc', hidle⟩, x, hx, hrefused⟩

end Seat

namespace Desk

/-! ## Runs -/

variable {b : SessionId}

theorem coherent_after {d : Desk} (h : Seated d) (hb : (d.seat b).Coherent) (run : List Command) :
    ((d.after run).seat b).Coherent := by
  induction run using List.reverseRecOn with
  | nil => exact hb
  | append_singleton before c ih =>
    rw [after_concat, seat_perform (h.after before)]
    exact Seat.coherent_follow ih b c

/-- **A window is settled throughout a run exactly if no step of it strands the window**, where
only the controller gives the window provisional rectangles. -/
theorem settled_after_iff (windows : Windows) (hotZone : HotZone) (ratio : Float32)
    (stageError : Error)
    (hnew : ∀ s, windows.session? b = some s → s.provisional = false) (run : List Command)
    (hrun : ∀ rect reason, .ask b (.session (.update rect reason)) ∈ run →
      reason.isProvisional = false) :
    (∀ beginning, beginning <+: run →
        (((fitted windows hotZone ratio stageError).after beginning).seat b).Settled) ↔
      ∀ beginning c, beginning ++ [c] <+: run →
        ¬ Seat.Strands (((fitted windows hotZone ratio stageError).after beginning).seat b)
          (((fitted windows hotZone ratio stageError).after (beginning ++ [c])).seat b) := by
  have h := seated_fitted windows hotZone ratio stageError
  have hwindows := windows_fitted windows hotZone ratio stageError
  have hcontroller := controller?_fitted windows hotZone ratio stageError b
  generalize fitted windows hotZone ratio stageError = d at h hwindows hcontroller
  have hcoherent : (d.seat b).Coherent := by
    intro c hc
    obtain ⟨s, -, rfl⟩ := Option.map_eq_some_iff.mp (hcontroller.symm.trans hc)
    exact Controller.resting_make b hotZone ratio false
  refine forall_beginning_iff (P := fun beginning => ((d.after beginning).seat b).Settled) ?_ ?_
  · intro c s _ hs _ _
    exact hnew s (hwindows ▸ hs)
  · intro beginning c hprefix hsettled
    rw [after_concat, seat_perform (h.after beginning)]
    refine (Seat.goes_follow (coherent_after h hcoherent beginning) b ?_).settled_iff hsettled
    rintro rect reason rfl
    exact hrun rect reason (List.IsPrefix.subset hprefix (by simp))

/-- A desk with one window, which nobody has connected yet. -/
def loneDesk : Desk :=
  fitted (.after 1 [.create "mail" .appMain none]) .standard 1 (.collaboratorFailed "peer gone")

/-- The window is shown, and a finger takes hold of its left side; a frame comes. -/
def grabbedRun : List Command :=
  [.ask ⟨1⟩ (.session (.connect true (some 7))),
    .ask ⟨1⟩ (.session .foreground),
    .ask ⟨1⟩ (.control (.drag (.touch 0 .down ⟨100, 400⟩ ⟨0, 300⟩)
      (.free ⟨100, 100, 1000, 1000⟩ .unrestricted))),
    .frame]

/-- The finger lifts. -/
def lifted : Command :=
  .ask ⟨1⟩ (.control (.drag (.touch 0 .up ⟨90, 400⟩ ⟨0, 300⟩)
    (.free ⟨100, 100, 1000, 1000⟩ .unrestricted)))

theorem settled_after_iff_liftedRun :
    (∀ s, (Windows.after 1 [.create "mail" .appMain none]).session? ⟨1⟩ = some s →
        s.provisional = false) ∧
      (∀ rect reason, .ask ⟨1⟩ (.session (.update rect reason)) ∈ grabbedRun ++ [lifted] →
        reason.isProvisional = false) ∧
      ((∀ beginning, beginning <+: grabbedRun ++ [lifted] →
          ((loneDesk.after beginning).seat ⟨1⟩).Settled) ↔
        ∀ beginning c, beginning ++ [c] <+: grabbedRun ++ [lifted] →
          ¬ Seat.Strands ((loneDesk.after beginning).seat ⟨1⟩)
            ((loneDesk.after (beginning ++ [c])).seat ⟨1⟩)) := by
  have hnew : ∀ s, (Windows.after 1 [.create "mail" .appMain none]).session? ⟨1⟩ = some s →
      s.provisional = false := by
    intro s hs
    rw [← Option.some.inj hs]
    rfl
  have hrun : ∀ rect reason, .ask ⟨1⟩ (.session (.update rect reason)) ∈ grabbedRun ++ [lifted] →
      reason.isProvisional = false := by
    intro rect reason hmem
    simp [grabbedRun, lifted] at hmem
  exact ⟨hnew, hrun, settled_after_iff _ .standard 1 _ hnew _ hrun⟩

/-- The window goes to the background before the finger lifts. -/
def hiddenRun : List Command := grabbedRun ++ [.ask ⟨1⟩ (.session .background), lifted]

/-- The gesture is over and nothing waits, and the rectangle is still provisional. -/
theorem settled_fails_hiddenRun :
    ((loneDesk.after hiddenRun).controller? ⟨1⟩).map (fun c => (c.phase, c.pending)) =
        some (.idle, none) ∧
      ((loneDesk.after hiddenRun).windows.session? ⟨1⟩).map (·.provisional) = some true ∧
      ¬ ((loneDesk.after hiddenRun).seat ⟨1⟩).Settled := by
  have hidle : ((loneDesk.after hiddenRun).controller? ⟨1⟩).map (fun c => (c.phase, c.pending)) =
      some (.idle, none) := by rfl
  have hprovisional :
      ((loneDesk.after hiddenRun).windows.session? ⟨1⟩).map (·.provisional) = some true := by rfl
  refine ⟨hidle, hprovisional, ?_⟩
  intro hsettled
  obtain ⟨c, hc, hphase⟩ := Option.map_eq_some_iff.mp hidle
  obtain ⟨s, hs, hflag⟩ := Option.map_eq_some_iff.mp hprovisional
  obtain ⟨hphase, hpending⟩ := Prod.mk.inj hphase
  rw [hsettled c s hc hs hphase hpending] at hflag
  cases hflag

end Desk

end DisplayServer
