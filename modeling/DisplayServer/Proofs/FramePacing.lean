import DisplayServer.Proofs.ControllerRuns
import DisplayServer.Proofs.Runs

/-!
# Frames neither lose a rectangle nor go back

A rectangle on its way to the window is kept in three places: the one that waits in the
controller, the flag that a frame was asked for, and the callbacks on the clock. They move
together. A callback is queued exactly while the flag is set (`Paced.queue`), and nothing waits
without one (`Paced.waits`).

The rectangles themselves are followed through a run's `history`: when each was scheduled, which
is when a movement was consumed and aimed the gesture anew, and what was delivered. What an
input may do to it is one of three things (`Paces`): nothing, schedule a rectangle, or end the
gesture. So a history is `Coalesced`: a rectangle is followed by its own delivery, by the next
one, or by the last of its gesture, and a frame delivers what was scheduled immediately before.
-/

namespace DisplayServer

/-- What happens to a rectangle. -/
inductive RectEvent
  /-- It is to go out with the next frame. -/
  | scheduled (p : PendingRect)
  /-- The listener gets it. -/
  | delivered (p : PendingRect)
  deriving DecidableEq

/-- The delivery that an output is, if it is one. -/
def ControllerOutput.delivery? : ControllerOutput → Option RectEvent
  | .rect target reason => some (.delivered ⟨target, reason⟩)
  | _ => none

/-! ## Histories -/

/-- A history, and the rectangle that waits at its end. -/
inductive Coalesced : List RectEvent → Option PendingRect → Prop
  | empty : Coalesced [] none
  /-- Whatever waited is superseded. -/
  | schedule {log : List RectEvent} {waiting : Option PendingRect} (p : PendingRect) :
      Coalesced log waiting → p.reason ≠ .dragEnd → Coalesced (log ++ [.scheduled p]) (some p)
  /-- A frame delivers what waits. -/
  | frame {log : List RectEvent} {p : PendingRect} :
      Coalesced log (some p) → Coalesced (log ++ [.delivered p]) none
  /-- The last rectangle of a gesture goes out at once; whatever waited is superseded. -/
  | finish {log : List RectEvent} {waiting : Option PendingRect} (rect : Rect) :
      Coalesced log waiting → Coalesced (log ++ [.delivered ⟨rect, .dragEnd⟩]) none

/-- The event settles what becomes of the rectangle that waits. -/
def RectEvent.Settles (p : PendingRect) : RectEvent → Prop
  | .scheduled _ => True
  | .delivered q => q = p ∨ q.reason = .dragEnd

namespace Coalesced

variable {log before later : List RectEvent} {waiting : Option PendingRect} {p : PendingRect}

theorem waiting_last (h : Coalesced log (some p)) : ∃ before, log = before ++ [.scheduled p] := by
  cases h with
  | schedule _ _ _ => exact ⟨_, rfl⟩

theorem waiting_reason (h : Coalesced log (some p)) : p.reason ≠ .dragEnd := by
  cases h with
  | schedule _ _ hreason => exact hreason

/-- What a frame delivers was scheduled immediately before. -/
theorem fresh (h : Coalesced log waiting) (hlog : log = before ++ .delivered p :: later)
    (hreason : p.reason ≠ .dragEnd) : ∃ earlier, before = earlier ++ [.scheduled p] := by
  induction h generalizing later with
  | empty => simp at hlog
  | schedule q _ _ ih =>
    rcases eq_append_cons_concat hlog with ⟨-, -, heq⟩ | ⟨rest, rfl, hrest⟩
    · cases heq
    · exact ih hrest
  | frame hwaiting ih =>
    rcases eq_append_cons_concat hlog with ⟨-, rfl, heq⟩ | ⟨rest, rfl, hrest⟩
    · obtain rfl := RectEvent.delivered.inj heq
      exact hwaiting.waiting_last
    · exact ih hrest
  | finish rect _ ih =>
    rcases eq_append_cons_concat hlog with ⟨-, -, heq⟩ | ⟨rest, rfl, hrest⟩
    · rw [RectEvent.delivered.inj heq] at hreason
      exact absurd rfl hreason
    · exact ih hrest

/-- A scheduled rectangle still waits, or the event after it settles what becomes of it. -/
theorem settled (h : Coalesced log waiting) (hlog : log = before ++ .scheduled p :: later) :
    (later = [] ∧ waiting = some p) ∨ ∃ e rest, later = e :: rest ∧ e.Settles p := by
  cases later with
  | nil =>
    refine .inl ⟨rfl, ?_⟩
    cases h with
    | empty => simp at hlog
    | schedule q _ _ =>
      obtain ⟨-, -, heq⟩ | ⟨rest, hnil, -⟩ := eq_append_cons_concat hlog
      · rw [RectEvent.scheduled.inj heq]
      · simp at hnil
    | _ =>
      obtain ⟨-, -, heq⟩ | ⟨rest, hnil, -⟩ := eq_append_cons_concat hlog
      · cases heq
      · simp at hnil
  | cons e rest =>
    refine .inr ⟨e, rest, rfl, ?_⟩
    cases e with
    | scheduled q => trivial
    | delivered q =>
      by_cases hreason : q.reason = .dragEnd
      · exact .inr hreason
      · -- a frame delivers what stands right before it, which is `p`
        have hsplit : log = (before ++ [.scheduled p]) ++ .delivered q :: rest := by
          simpa using hlog
        obtain ⟨earlier, hearlier⟩ := h.fresh hsplit hreason
        obtain ⟨-, hq⟩ := List.append_inj' hearlier rfl
        simp only [List.cons.injEq, RectEvent.scheduled.injEq, and_true] at hq
        exact .inl hq.symm

/-- What is delivered after the last rectangle of a gesture was scheduled after it, or is the
last of a later gesture. -/
theorem onward {rect : Rect} {between : List RectEvent} (h : Coalesced log waiting)
    (hlog : log = before ++ .delivered ⟨rect, .dragEnd⟩ :: (between ++ .delivered p :: later)) :
    p.reason = .dragEnd ∨ ∃ earlier, between = earlier ++ [.scheduled p] := by
  by_cases hreason : p.reason = .dragEnd
  · exact .inl hreason
  · have hsplit : log = (before ++ .delivered ⟨rect, .dragEnd⟩ :: between) ++
        .delivered p :: later := by simpa using hlog
    obtain ⟨earlier, hearlier⟩ := h.fresh hsplit hreason
    rcases eq_append_cons_concat hearlier.symm with ⟨-, -, heq⟩ | ⟨rest, hrest, -⟩
    · cases heq
    · exact .inr ⟨rest, hrest⟩

end Coalesced

namespace Controller

/-! ## What an input schedules and delivers -/

/-- The rectangle that a consumed movement leaves the gesture aimed at. -/
def Step.aimed (s : Step Bool) (reason : ChangeReason) : Option PendingRect :=
  if s.result then s.controller.target?.map (⟨·, reason⟩) else none

/-- The rectangle that an input is to send out with the next frame: a movement that is consumed
while its gesture runs, or a press that starts a resize. -/
def scheduled? (c : Controller) : Input → Option PendingRect
  | .move e rect =>
    if c.phase = .moving ∧ e.action = .move then (c.moveEvent e rect).aimed .dragMove else none
  | .drag e w =>
    if c.phase = .dragging then
      if e.action = .move then (c.dragEvent e w).aimed .drag else none
    else (c.dragEvent e w).aimed .dragStart
  | _ => none

/-- What an input other than a frame may do to the pacing. -/
inductive Paces (c : Controller) (i : Input) : Controller → List ControllerOutput → Prop
  /-- Nothing is scheduled, nothing is delivered, and a gesture that runs goes on. -/
  | quiet {c' : Controller} {outputs : List ControllerOutput} :
      c.scheduled? i = none → c'.pending = c.pending → c'.frameRequested = c.frameRequested →
      (c'.phase = .idle → c.phase = .idle) → (∀ o ∈ outputs, ∃ style, o = .cursor style) →
      Paces c i c' outputs
  /-- A rectangle waits for the frame, which is asked for unless it already is. -/
  | waits {c' : Controller} (p : PendingRect) :
      c.scheduled? i = some p → p.reason ≠ .dragEnd → c'.pending = some p →
      c'.frameRequested = true → c'.phase ≠ .idle →
      Paces c i c' (if c.frameRequested then [] else [.frameRequest])
  /-- The gesture ends, and what waited is dropped. -/
  | ends {c' : Controller} (g : Gesture) :
      c.scheduled? i = none → c.gesture = some g → c'.gesture = none → c'.phase = .idle →
      c'.pending = none → c'.frameRequested = c.frameRequested →
      Paces c i c' [.rect (lastRect g i) .dragEnd]

variable {c : Controller}

/-- An answer that changes neither phase nor pacing. -/
theorem paces_pass {α : Type} {i : Input} {c' : Controller} (a : α)
    (hscheduled : c.scheduled? i = none) (hpending : c'.pending = c.pending)
    (hasked : c'.frameRequested = c.frameRequested) (hphase : c'.phase = c.phase) :
    Paces c i (c'.pass a).controller (c'.pass a).outputs :=
  .quiet hscheduled hpending hasked (fun h => by rw [← hphase]; exact h) (by simp [pass])

theorem paces_armMove (armed : Bool) : Paces c (.arm armed) (c.armMove armed) [] := by
  unfold armMove
  split <;> exact .quiet rfl rfl rfl id (by simp)

theorem paces_interrupt (h : Consistent c) (reset : Bool) :
    Paces c (.interrupt reset) (c.interrupt reset).controller (c.interrupt reset).outputs := by
  unfold interrupt
  split
  · exact paces_pass _ rfl rfl rfl rfl
  · rename_i hphase
    obtain ⟨g, hg⟩ := h.gesture_of_not_idle hphase
    rw [hg]
    cases reset <;> exact .ends g rfl hg rfl rfl rfl rfl

theorem paces_hover (e : PointerEvent) (rect : Rect) (pixelRatio : Option Float32)
    (taken : Bool) :
    Paces c (.hover e rect pixelRatio taken) (c.hover e rect pixelRatio taken).controller
      (c.hover e rect pixelRatio taken).outputs := by
  unfold hover
  split
  · exact paces_pass _ rfl rfl rfl rfl
  · simp only
    split
    · exact paces_pass _ rfl rfl rfl rfl
    · cases taken <;> exact .quiet rfl rfl rfl id (by simp)

theorem paces_moveEvent (h : Consistent c) (e : PointerEvent) (rect : Rect) :
    Paces c (.move e rect) (c.moveEvent e rect).controller (c.moveEvent e rect).outputs := by
  have hstill : e.action ≠ .move → c.scheduled? (.move e rect) = none :=
    fun haction => if_neg fun hmove => haction hmove.2
  rcases moveEvent_cases c e rect with ⟨c', heq, hu, hpending, hasked⟩ | ⟨harmed, haction, heq⟩ |
    ⟨-, haction, heq⟩
  · have hscheduled : c.scheduled? (.move e rect) = none := by
      simp [scheduled?, heq, Step.aimed, pass]
    rw [heq]
    exact paces_pass _ hscheduled hpending hasked hu.phase
  · cases hg : c.gesture with
    | none =>
      have hidle : c.phase = .idle := h.held.mp hg
      have hscheduled : c.scheduled? (.move e rect) = none := by simp [scheduled?, hidle]
      rw [heq]
      simp only [carry, hg]
      exact .quiet hscheduled rfl rfl (by simp [pass]) (by simp [pass])
    | some g =>
      have hmoving : c.phase = .moving := by
        cases hphase : c.phase with
        | idle => exact absurd hphase (h.not_idle hg)
        | moving => rfl
        | dragging => exact absurd hphase (h.armed harmed).2
      have hscheduled : c.scheduled? (.move e rect) =
          some ⟨(g.moveTo e.onDisplay).grip.target, .dragMove⟩ := by
        simp [scheduled?, hmoving, haction, heq, carry, hg, Step.aimed, schedule, target?]
      rw [heq]
      simp only [carry, hg]
      exact .waits _ hscheduled (by simp) rfl rfl (by simp [schedule, hmoving])
  · rw [heq]
    unfold endMove
    split
    · exact paces_pass _ (hstill haction) rfl rfl rfl
    · cases hg : c.gesture with
      | none => exact paces_pass _ (hstill haction) rfl rfl (h.held.mp hg).symm
      | some g => exact .ends g (hstill haction) hg rfl rfl rfl rfl

theorem paces_dragEvent (h : Consistent c) (e : PointerEvent) (w : WindowContext) :
    Paces c (.drag e w) (c.dragEvent e w).controller (c.dragEvent e w).outputs := by
  have hrunning : c.phase = .dragging → ∃ g, c.gesture = some g :=
    fun hphase => h.gesture_of_not_idle (by rw [hphase]; decide)
  rcases dragEvent_cases c e w with heq | ⟨-, hdown, heq⟩ | ⟨hphase, haction, heq⟩ |
    ⟨-, hphase, haction, heq⟩
  · have hscheduled : c.scheduled? (.drag e w) = none := by
      simp [scheduled?, heq, Step.aimed, pass]
    rw [heq]
    exact paces_pass _ hscheduled rfl rfl rfl
  · have haction : e.action ≠ .move := by
      intro haction
      rw [haction] at hdown
      cases hdown
    have hscheduled : c.scheduled? (.drag e w) =
        if c.phase = .dragging then none else (c.startDrag e w).aimed .dragStart := by
      simp [scheduled?, haction, heq]
    rw [heq]
    -- what it schedules is read off branch by branch, with what it does
    revert hscheduled
    unfold startDrag
    split
    · exact fun hscheduled => paces_pass _ hscheduled rfl rfl rfl
    · simp only
      split
      · exact fun hscheduled =>
          paces_pass _ (by simpa [Step.aimed, pass] using hscheduled) rfl rfl rfl
      · exact fun hscheduled =>
          .waits _ (by simpa [Step.aimed, schedule, target?] using hscheduled) (by simp) rfl rfl
            (by simp [schedule])
  · obtain ⟨g, hg⟩ := hrunning hphase
    have hscheduled : c.scheduled? (.drag e w) =
        some ⟨(g.dragTo e.onDisplay).grip.target, .drag⟩ := by
      simp [scheduled?, hphase, haction, heq, stretch, hg, Step.aimed, schedule, target?]
    rw [heq]
    simp only [stretch, hg]
    exact .waits _ hscheduled (by simp) rfl rfl (by simp [schedule, hphase])
  · obtain ⟨g, hg⟩ := hrunning hphase
    have hscheduled : c.scheduled? (.drag e w) = none := by simp [scheduled?, hphase, haction]
    rw [heq]
    simp only [endDrag, hg]
    exact .ends g hscheduled hg rfl rfl rfl rfl

theorem paces_take (h : Consistent c) {i : Input} (hi : i ≠ .frame) :
    Paces c i (c.take i).controller (c.take i).outputs := by
  cases i with
  | move e rect => exact paces_moveEvent h e rect
  | drag e w => exact paces_dragEvent h e w
  | arm armed => exact paces_armMove armed
  | interrupt reset => exact paces_interrupt h reset
  | hover e rect pixelRatio taken => exact paces_hover e rect pixelRatio taken
  | frame => exact absurd rfl hi

/-- What takes a gesture to its end says its last rectangle at once, and nothing else. -/
theorem Paces.last {i : Input} {c' : Controller} {outputs : List ControllerOutput}
    (h : Paces c i c' outputs) (hrunning : c.phase ≠ .idle) (hidle : c'.phase = .idle) :
    ∃ g, c.gesture = some g ∧ c'.gesture = none ∧ outputs = [.rect (lastRect g i) .dragEnd] := by
  cases h with
  | quiet _ _ _ hphase _ => exact absurd (hphase hidle) hrunning
  | waits _ _ _ _ _ hphase => exact absurd hidle hphase
  | ends g _ hg hgone _ _ _ => exact ⟨g, hg, hgone, rfl⟩

/-- Nothing else says a last rectangle. -/
theorem Paces.only_last {i : Input} {c' : Controller} {outputs : List ControllerOutput}
    (h : Paces c i c' outputs) (hc : Consistent c) {rect : Rect}
    (hsaid : .rect rect .dragEnd ∈ outputs) : c.phase ≠ .idle ∧ c'.phase = .idle := by
  cases h with
  | quiet _ _ _ _ houtputs =>
    obtain ⟨style, heq⟩ := houtputs _ hsaid
    cases heq
  | waits _ _ _ _ _ _ =>
    split at hsaid <;> simp at hsaid
  | ends g _ hg _ hidle _ _ => exact ⟨hc.not_idle hg, hidle⟩

end Controller

namespace SoloDesk

open Controller (Input Paces)

/-! ## Histories of a desk -/

/-- What an input does to the rectangles. -/
def happens (d : SoloDesk) (i : Input) : List RectEvent :=
  ((d.controller.scheduled? i).map .scheduled).toList ++
    (d.take i).outputs.filterMap (·.delivery?)

/-- What happens to the rectangles during a run that begins at `d`, oldest first. -/
def history (d : SoloDesk) (run : List Input) : List RectEvent := collect perform happens d run

theorem history_concat (d : SoloDesk) (run : List Input) (i : Input) :
    d.history (run ++ [i]) = d.history run ++ (d.after run).happens i :=
  collect_concat d run i

/-- The pacing of a desk, given what happened to the rectangles so far. -/
structure Paced (d : SoloDesk) (log : List RectEvent) : Prop where
  /-- One callback is queued while a frame is asked for, and none otherwise. -/
  queue : d.clock.queue = if d.controller.frameRequested then [()] else []
  /-- What waits has asked for a frame. -/
  waits : d.controller.pending ≠ none → d.controller.frameRequested = true
  coalesced : Coalesced log d.controller.pending

variable {d : SoloDesk} {log : List RectEvent} {i : Input}

theorem Paced.waiting (h : Paced d log) {p : PendingRect} (hp : d.controller.pending = some p) :
    Coalesced log (some p) := by
  rw [← hp]
  exact h.coalesced

theorem frame_of_none_queued (h : d.clock.queue = []) :
    d.frame = ⟨0, { d with clock := d.clock.taken }, []⟩ := by
  unfold SoloDesk.frame
  rw [h]
  rfl

theorem frame_of_one_queued (h : d.clock.queue = [()]) :
    d.frame =
      ⟨1, ⟨d.controller.onFrame.controller, requests d.clock.taken d.controller.onFrame.outputs⟩,
        d.controller.onFrame.outputs.filter (· ≠ .frameRequest)⟩ := by
  unfold SoloDesk.frame
  rw [h]
  rfl

/-- A frame empties the queue, clears the flag and delivers what waits. -/
theorem Paced.frame (h : Paced d log) :
    (d.perform .frame).clock.queue = [] ∧
      (d.perform .frame).controller =
        { d.controller with pending := none, frameRequested := false } ∧
      (d.take .frame).outputs =
        (d.controller.pending.map fun p => .rect p.rect p.reason).toList := by
  have hqueue := h.queue
  simp only [perform, take, Functor.map]
  cases hasked : d.controller.frameRequested with
  | false =>
    have hpending : d.controller.pending = none := by
      by_contra hne
      rw [h.waits hne] at hasked
      cases hasked
    have hcleared : { d.controller with pending := none, frameRequested := false } =
        d.controller := by
      rw [← hpending, ← hasked]
    rw [hasked] at hqueue
    rw [frame_of_none_queued hqueue, hcleared, hpending]
    exact ⟨rfl, rfl, rfl⟩
  | true =>
    rw [hasked] at hqueue
    rw [frame_of_one_queued hqueue]
    cases hpending : d.controller.pending <;>
      simp [Controller.onFrame, hpending, requests, FrameClock.taken]

/-- What happens between two frames keeps the pacing. -/
theorem Paced.paces {c' : Controller} {outputs : List ControllerOutput} (h : Paced d log)
    (hstep : Paces d.controller i c' outputs) :
    Paced ⟨c', requests d.clock outputs⟩
      (log ++ (((d.controller.scheduled? i).map .scheduled).toList ++
        (outputs.filter (· ≠ .frameRequest)).filterMap (·.delivery?))) := by
  cases hstep with
  | quiet hscheduled hpending hasked _ houtputs =>
    have hnone : outputs.filter (· = .frameRequest) = [] := by
      refine List.filter_eq_nil_iff.mpr fun o ho => ?_
      obtain ⟨style, rfl⟩ := houtputs o ho
      simp
    have hsilent : (outputs.filter (· ≠ .frameRequest)).filterMap (·.delivery?) = [] := by
      refine List.filterMap_eq_nil_iff.mpr fun o ho => ?_
      obtain ⟨style, rfl⟩ := houtputs o (List.mem_filter.mp ho).1
      rfl
    rw [hscheduled, hsilent]
    refine ⟨?_, ?_, ?_⟩
    · simpa [requests, hnone, hasked] using h.queue
    · simpa [hpending, hasked] using h.waits
    · simpa [hpending] using h.coalesced
  | waits p hscheduled hreason hpending hasked _ =>
    rw [hscheduled]
    refine ⟨?_, fun _ => hasked, ?_⟩
    · have hqueue := h.queue
      cases hrequested : d.controller.frameRequested <;>
        simp_all [requests]
    · have hcoalesced := h.coalesced.schedule p hreason
      cases hrequested : d.controller.frameRequested <;>
        simpa [hpending] using hcoalesced
  | ends g hscheduled _ _ _ hpending hasked =>
    rw [hscheduled]
    refine ⟨?_, ?_, ?_⟩
    · simpa [requests, hasked] using h.queue
    · simp [hpending]
    · simpa [hpending, ControllerOutput.delivery?] using h.coalesced.finish _

/-- **An input keeps the pacing.** -/
theorem paced_perform (hc : d.controller.Consistent) (h : Paced d log) (i : Input) :
    Paced (d.perform i) (log ++ d.happens i) := by
  by_cases hi : i = .frame
  · subst hi
    obtain ⟨hqueue, hcontroller, houtputs⟩ := h.frame
    refine ⟨by simp [hqueue, hcontroller], by simp [hcontroller], ?_⟩
    rw [hcontroller]
    cases hpending : d.controller.pending with
    | none =>
      have hcoalesced := h.coalesced
      rw [hpending] at hcoalesced
      simpa [happens, houtputs, hpending, Controller.scheduled?] using hcoalesced
    | some p =>
      simpa [happens, houtputs, hpending, Controller.scheduled?, ControllerOutput.delivery?]
        using (h.waiting hpending).frame
  · have hkept := h.paces (Controller.paces_take hc hi)
    unfold perform happens
    rw [take_of_ne_frame d hi]
    exact hkept

theorem Paced.last (hc : d.controller.Consistent) (h : Paced d log) (i : Input)
    (hrunning : d.controller.phase ≠ .idle) (hidle : (d.perform i).controller.phase = .idle) :
    ∃ g, d.controller.gesture = some g ∧ (d.perform i).controller.gesture = none ∧
      (d.take i).outputs = [.rect (Controller.lastRect g i) .dragEnd] := by
  by_cases hi : i = .frame
  · obtain ⟨-, hcontroller, -⟩ := h.frame
    rw [hi, hcontroller] at hidle
    exact absurd hidle hrunning
  · unfold perform at hidle ⊢
    rw [take_of_ne_frame d hi] at hidle ⊢
    obtain ⟨g, hg, hgone, hsaid⟩ := (Controller.paces_take hc hi).last hrunning hidle
    refine ⟨g, hg, hgone, ?_⟩
    show (d.controller.take i).outputs.filter (· ≠ .frameRequest) = _
    rw [hsaid]
    rfl

theorem Paced.only_last (hc : d.controller.Consistent) (h : Paced d log) (i : Input) (rect : Rect)
    (hsaid : .rect rect .dragEnd ∈ (d.take i).outputs) :
    d.controller.phase ≠ .idle ∧ (d.perform i).controller.phase = .idle := by
  by_cases hi : i = .frame
  · -- what waits for a frame is not the last of its gesture
    obtain ⟨-, -, houtputs⟩ := h.frame
    rw [hi, houtputs] at hsaid
    cases hpending : d.controller.pending with
    | none => simp [hpending] at hsaid
    | some p =>
      refine absurd ?_ (h.waiting hpending).waiting_reason
      simp only [hpending, Option.map_some, Option.toList_some, List.mem_singleton,
        ControllerOutput.rect.injEq] at hsaid
      exact hsaid.2.symm
  · unfold perform
    rw [take_of_ne_frame d hi] at hsaid ⊢
    exact (Controller.paces_take hc hi).only_last hc (List.mem_filter.mp hsaid).1

variable (window : SessionId) (hotZone : HotZone) (ratio : Float32) (shapesCursor : Bool)

theorem paced_after (run : List Input) :
    Paced ((fresh window hotZone ratio shapesCursor).after run)
      ((fresh window hotZone ratio shapesCursor).history run) := by
  induction run using List.reverseRecOn with
  | nil => exact ⟨rfl, fun hne => absurd rfl hne, .empty⟩
  | append_singleton before i ih =>
    rw [after_concat, history_concat]
    exact paced_perform (consistent_after window hotZone ratio shapesCursor before) ih i

/-- What is promised of the pacing, given what happened to the rectangles so far. -/
structure Promised (d : SoloDesk) (log : List RectEvent) : Prop where
  one_queued : d.clock.queue.length ≤ 1
  queued : d.controller.pending ≠ none → d.clock.queue ≠ []
  /-- A frame delivers what waits and nothing else; after it nothing waits, and no callback is
  queued. -/
  frame : (d.take .frame).outputs =
      (d.controller.pending.map fun p => .rect p.rect p.reason).toList ∧
    (d.perform .frame).controller.pending = none ∧ (d.perform .frame).clock.queue = []
  /-- What waits is the rectangle that was scheduled last. -/
  newest : ∀ p, d.controller.pending = some p → ∃ before, log = before ++ [.scheduled p]
  /-- A scheduled rectangle still waits, or the event after it settles what becomes of it. -/
  settled : ∀ before p later, log = before ++ .scheduled p :: later →
    (later = [] ∧ d.controller.pending = some p) ∨
      ∃ e rest, later = e :: rest ∧ e.Settles p
  /-- What ends a gesture says its last rectangle at once, and nothing else. -/
  last : ∀ i, d.controller.phase ≠ .idle → (d.perform i).controller.phase = .idle →
    ∃ g, d.controller.gesture = some g ∧ (d.perform i).controller.gesture = none ∧
      (d.take i).outputs = [.rect (Controller.lastRect g i) .dragEnd]
  /-- Nothing else says a last rectangle. -/
  only_last : ∀ i rect, .rect rect .dragEnd ∈ (d.take i).outputs →
    d.controller.phase ≠ .idle ∧ (d.perform i).controller.phase = .idle
  /-- What is delivered after the last rectangle of a gesture was scheduled after it, or is the
  last of a later gesture. -/
  onward : ∀ before rect between p later,
    log = before ++ .delivered ⟨rect, .dragEnd⟩ :: (between ++ .delivered p :: later) →
      p.reason = .dragEnd ∨ ∃ earlier, between = earlier ++ [.scheduled p]

/-- **Frames neither lose a rectangle nor go back**, after every run. -/
theorem pacing_after (run : List Input) :
    Promised ((fresh window hotZone ratio shapesCursor).after run)
      ((fresh window hotZone ratio shapesCursor).history run) := by
  have hc := consistent_after window hotZone ratio shapesCursor run
  have h := paced_after window hotZone ratio shapesCursor run
  obtain ⟨hqueue, hcontroller, houtputs⟩ := h.frame
  exact {
    one_queued := by
      rw [h.queue]
      split <;> simp
    queued := by
      intro hne
      rw [h.queue, h.waits hne]
      exact List.cons_ne_nil _ _
    frame := ⟨houtputs, congrArg Controller.pending hcontroller, hqueue⟩
    newest := fun _ hp => (h.waiting hp).waiting_last
    settled := fun _ _ _ => h.coalesced.settled
    last := h.last hc
    only_last := h.only_last hc
    onward := fun _ _ _ _ _ => h.coalesced.onward }

/-- The callback of a move that ended before the frame serves the next move. -/
example :
    (fresh ⟨3⟩ .standard 1 false).history
        [.move (.touch 0 .down ⟨500, 120⟩ ⟨400, 20⟩) ⟨100, 100, 1000, 1000⟩,
          .arm true,
          .move (.touch 0 .move ⟨500, 120⟩ ⟨400, 20⟩) ⟨100, 100, 1000, 1000⟩,
          .move (.touch 0 .move ⟨520, 120⟩ ⟨400, 20⟩) ⟨100, 100, 1000, 1000⟩,
          .move (.touch 0 .up ⟨540, 140⟩ ⟨400, 20⟩) ⟨100, 100, 1000, 1000⟩,
          .move (.touch 0 .down ⟨540, 140⟩ ⟨400, 20⟩) ⟨140, 120, 1000, 1000⟩,
          .arm true,
          .move (.touch 0 .move ⟨540, 140⟩ ⟨400, 20⟩) ⟨140, 120, 1000, 1000⟩,
          .move (.touch 0 .move ⟨550, 140⟩ ⟨400, 20⟩) ⟨140, 120, 1000, 1000⟩,
          .frame] =
      [.scheduled ⟨⟨120, 100, 1000, 1000⟩, .dragMove⟩,
        .delivered ⟨⟨140, 120, 1000, 1000⟩, .dragEnd⟩,
        .scheduled ⟨⟨150, 120, 1000, 1000⟩, .dragMove⟩,
        .delivered ⟨⟨150, 120, 1000, 1000⟩, .dragMove⟩] := by
  rfl

end SoloDesk

end DisplayServer
