import DisplayServer.Proofs.DeskRuns

/-!
# A desk is its seats

A window's seat is what it has at a desk: its session, its controller, the callbacks that wait
for the frame, and whether its stage can be reached. A seat goes its own way: what it is asked
and the frames decide what becomes of it and what goes out of it (`Seat.follow`), and what other
windows are asked does not touch it (`seat_perform`, `said_at`).

The clock is shared and its queue holds the callbacks of all windows in the order of their
requests. A seat counts its own.
-/

namespace DisplayServer

/-- What a window has at a desk. -/
structure Seat where
  session? : Option Session
  controller? : Option Controller
  /-- How many callbacks of the controller wait for the frame. -/
  waiting : Nat
  reachable : Bool
  /-- What the stage answers when it cannot be reached. -/
  stageError : Error

namespace Seat

open Desk (Request Command)

/-- A seat after a step, and what went out. -/
structure Step where
  seat : Seat
  outputs : List WindowOutput

def answer (s : Seat) : Except Error Unit := if s.reachable then .ok () else .error s.stageError

def stay (s : Seat) : Step := ⟨s, []⟩

/-- A step of the session, if there is one. -/
def step (s : Seat) (f : Session → Session.Step) : Step :=
  match s.session? with
  | none => s.stay
  | some x => ⟨{ s with session? := some (f x).session }, (f x).outputs⟩

/-- What goes out of the controller takes effect. -/
def absorb (s : Seat) : List ControllerOutput → Step
  | [] => s.stay
  | .rect rect reason :: rest =>
    let arrived := s.step fun x => x.updateRect s.answer rect reason
    let later := absorb arrived.seat rest
    ⟨later.seat, arrived.outputs ++ later.outputs⟩
  | .frameRequest :: rest => absorb { s with waiting := s.waiting + 1 } rest
  | .cursor _ :: rest => absorb s rest

/-- A step of the controller, if there is one. -/
def control (s : Seat) (f : Controller → Controller.Step Unit) : Step :=
  match s.controller? with
  | none => s.stay
  | some c => { s with controller? := some (f c).controller }.absorb (f c).outputs

/-- A frame reaches the controller so many times. -/
def frames : Nat → Seat → Step
  | 0, s => s.stay
  | n + 1, s =>
    let done := s.control Controller.onFrame
    let later := frames n done.seat
    ⟨later.seat, done.outputs ++ later.outputs⟩

def frame (s : Seat) : Step := frames s.waiting { s with waiting := 0 }

def take (s : Seat) : Request → Step
  | .control i => s.control (·.take i)
  | .session c => s.step fun x => x.take s.answer c
  | .reach reachable => { s with reachable }.stay

/-- What a command makes of the seat of window `b`. -/
def follow (b : SessionId) (s : Seat) : Command → Step
  | .ask window r => if b = window then s.take r else s.stay
  | .frame => s.frame

/-- The seat of window `b` after a run. -/
def after (b : SessionId) (s : Seat) (run : List Command) : Seat :=
  run.foldl (fun s c => (s.follow b c).seat) s

/-- What goes out of the seat of window `b` during a run, oldest first. -/
def told (b : SessionId) (s : Seat) (run : List Command) : List WindowOutput :=
  collect (fun s c => (s.follow b c).seat) (fun s c => (s.follow b c).outputs) s run

@[simp] theorem told_cons (b : SessionId) (s : Seat) (c : Command) (rest : List Command) :
    s.told b (c :: rest) = (s.follow b c).outputs ++ (s.follow b c).seat.told b rest := rfl

end Seat

namespace Desk

variable {d : Desk} {b : SessionId}

/-- The seat of a window. -/
def seat (d : Desk) (b : SessionId) : Seat where
  session? := d.windows.session? b
  controller? := d.controller? b
  waiting := d.clock.queue.countP fun n => d.current.get? b = some n
  reachable := b ∉ d.unreachable
  stageError := d.stageError

theorem answer_seat (d : Desk) (b : SessionId) : (d.seat b).answer = d.stageAnswer b := by
  by_cases h : b ∈ d.unreachable <;> simp [Seat.answer, seat, stageAnswer, h]

/-- A step at a desk takes place at one seat: it leaves the others alone, and what goes out goes
out there. -/
structure TakesPlace (d : Desk) (window : SessionId) (d' : Desk) (outputs : List WindowOutput)
    (done : Seat.Step) : Prop where
  here : d'.seat window = done.seat
  elsewhere : ∀ b, b ≠ window → d'.seat b = d.seat b
  outputs : outputs = done.outputs

variable {window : SessionId}

theorem takesPlace_stay (d : Desk) (window : SessionId) :
    TakesPlace d window d [] (d.seat window).stay :=
  ⟨rfl, fun _ _ => rfl, rfl⟩

/-- Two steps at one seat, one after the other. -/
theorem TakesPlace.andThen {d₁ d₂ : Desk} {outputs₁ outputs₂ : List WindowOutput}
    {done₁ done₂ : Seat.Step} (h₁ : TakesPlace d window d₁ outputs₁ done₁)
    (h₂ : TakesPlace d₁ window d₂ outputs₂ done₂) :
    TakesPlace d window d₂ (outputs₁ ++ outputs₂) ⟨done₂.seat, done₁.outputs ++ done₂.outputs⟩ where
  here := h₂.here
  elsewhere := fun b hb => (h₂.elsewhere b hb).trans (h₁.elsewhere b hb)
  outputs := by rw [h₁.outputs, h₂.outputs]

/-! ## Writes at one seat -/

theorem takesPlace_step (d : Desk) (window : SessionId) (f : Session → Session.Step) :
    TakesPlace d window { d with windows := (d.windows.step window f).windows }
      (d.windows.step window f).outputs ((d.seat window).step f) where
  here := by
    have hlook := Windows.session?_step d.windows window window f
    rw [if_pos rfl] at hlook
    unfold Seat.step
    cases hs : d.windows.session? window with
    | none =>
      rw [hs] at hlook
      simp only [seat, hs, hlook]
      rfl
    | some s =>
      rw [hs] at hlook
      simp only [seat, hs, hlook]
      rfl
  elsewhere := by
    intro b hb
    have hlook := Windows.session?_step d.windows b window f
    rw [if_neg hb] at hlook
    simp only [seat, hlook]
    rfl
  outputs := by
    unfold Windows.step Seat.step seat
    cases d.windows.session? window <;> rfl

theorem takesPlace_receive (d : Desk) (window : SessionId) (rect : Rect) (reason : ChangeReason) :
    TakesPlace d window (d.receive window rect reason).desk (d.receive window rect reason).outputs
      ((d.seat window).step fun x => x.updateRect (d.seat window).answer rect reason) := by
  rw [answer_seat]
  exact takesPlace_step d window _

/-- A callback waits at the seat of the window that has its controller. -/
theorem takesPlace_request {n : Nat} (hn : ∀ b, d.current.get? b = some n ↔ b = window) :
    TakesPlace d window { d with clock := d.clock.request n } []
      ({ d.seat window with waiting := (d.seat window).waiting + 1 } : Seat).stay where
  here := by
    have hcurrent := (hn window).mpr rfl
    simp [seat, Seat.stay, hcurrent, controller?]
  elsewhere := by
    intro b hb
    have hcurrent : d.current.get? b ≠ some n := mt (hn b).mp hb
    simp [seat, hcurrent, controller?]
  outputs := rfl

/-- What goes out of a controller takes effect at the seat of its window. -/
theorem takesPlace_absorb {n : Nat} (outputs : List ControllerOutput)
    (hn : ∀ b, d.current.get? b = some n ↔ b = window) :
    TakesPlace d window (absorb n window d outputs).1 (absorb n window d outputs).2
      ((d.seat window).absorb outputs) := by
  induction outputs generalizing d with
  | nil => exact takesPlace_stay d window
  | cons o rest ih =>
    cases o with
    | cursor _ => exact ih hn
    | frameRequest =>
      have hrequest := takesPlace_request hn
      have hrest := ih (d := { d with clock := d.clock.request n }) hn
      rw [hrequest.here] at hrest
      exact hrequest.andThen hrest
    | rect rect reason =>
      have harrived := takesPlace_receive d window rect reason
      have hrest := ih (d := (d.receive window rect reason).desk) hn
      rw [harrived.here] at hrest
      exact harrived.andThen hrest

/-- A controller is replaced at the seat of its window. -/
theorem takesPlace_put (h : Seated d) {n : Nat} {c : Controller}
    (hc : d.controllers.get? n = some c) (c' : Controller) :
    TakesPlace d c.window { d with controllers := d.controllers.insert n c' } []
      ({ d.seat c.window with controller? := some c' } : Seat).stay where
  here := by
    have hlook : (d.current.get? c.window).bind (d.controllers.insert n c').get? = some c' := by
      rw [h.owner n c hc]
      exact Table.get?_insert_self d.controllers n c'
    simp only [seat, controller?, hlook]
    rfl
  elsewhere := by
    intro b hb
    have hlook : (d.current.get? b).bind (d.controllers.insert n c').get? = d.controller? b := by
      cases hm : d.current.get? b with
      | none => rw [controller?, hm]; rfl
      | some m =>
        have hne : m ≠ n := by
          rintro rfl
          exact hb ((h.current_iff hc b).mp hm)
        rw [controller?, hm]
        exact Table.get?_insert_of_ne d.controllers c' (Ne.symm hne)
    simp only [seat]
    rw [← hlook]
    rfl
  outputs := rfl

/-- A step of a controller takes place at the seat of its window. -/
theorem takesPlace_drive (h : Seated d) {n : Nat} {c : Controller}
    (hc : d.controllers.get? n = some c) (f : Controller → Controller.Step Unit) :
    TakesPlace d c.window (d.drive n c f).desk (d.drive n c f).outputs
      ((d.seat c.window).control f) := by
  have hput := takesPlace_put h hc (f c).controller
  have hrest := takesPlace_absorb
    (d := { d with controllers := d.controllers.insert n (f c).controller })
    (f c).outputs (h.current_iff hc)
  have hcontrol : (d.seat c.window).control f =
      { d.seat c.window with controller? := some (f c).controller }.absorb (f c).outputs := by
    have hhas : (d.seat c.window).controller? = some c := h.controller?_iff.mpr ⟨n, hc, rfl⟩
    rw [Seat.control, hhas]
  rw [hput.here] at hrest
  rw [hcontrol]
  exact hput.andThen hrest

/-! ## A command, seen from a seat -/

/-- The callbacks of a frame come to the seats of their windows. -/
theorem frameOf_at (h : Seated d) (numbers : List Nat) :
    (d.frameOf numbers).1.seat b =
        (Seat.frames (numbers.countP fun n => d.current.get? b = some n) (d.seat b)).seat ∧
      (d.frameSaid numbers).filter (·.1 = b) =
        (Seat.frames (numbers.countP fun n => d.current.get? b = some n) (d.seat b)).outputs.map
          (b, ·) := by
  induction numbers generalizing d with
  | nil => exact ⟨rfl, rfl⟩
  | cons n rest ih =>
    rw [frameOf, frameSaid]
    cases hc : d.controllers.get? n with
    | none =>
      have hnone : d.current.get? b ≠ some n := by
        intro hb
        obtain ⟨c, hc', -⟩ := h.owned b n hb
        rw [hc] at hc'
        cases hc'
      rw [List.countP_cons_of_neg (by simpa using hnone)]
      exact ih h
    | some c =>
      have hdrive := takesPlace_drive h hc Controller.onFrame
      obtain ⟨hlater, hsaid⟩ := ih (h.drive (f := Controller.onFrame) hc rfl)
      rw [current_drive] at hlater hsaid
      simp only [List.filter_append]
      rw [hlater, hsaid]
      by_cases hb : b = c.window
      · -- the callback is one of those that the seat counts
        have hcurrent := (h.current_iff hc b).mpr hb
        rw [List.countP_cons_of_pos (by simpa using hcurrent), hdrive.outputs, hb, hdrive.here]
        refine ⟨rfl, ?_⟩
        simp [Seat.frames]
      · have hcurrent := mt (h.current_iff hc b).mp hb
        rw [List.countP_cons_of_neg (by simpa using hcurrent), hdrive.elsewhere b hb]
        refine ⟨rfl, ?_⟩
        simp [Ne.symm hb]

theorem takesPlace_control (h : Seated d) (window : SessionId)
    (f : Controller → Controller.Step Unit) :
    TakesPlace d window (d.control window f).desk (d.control window f).outputs
      ((d.seat window).control f) := by
  cases hc : d.controller? window with
  | none =>
    have hstay : d.control window f = ⟨none, d, []⟩ := by
      unfold control
      cases hn : d.current.get? window with
      | none => rfl
      | some n =>
        rw [controller?, hn] at hc
        simp only [Option.bind_some] at hc
        simp only [hc]
    have hseat : (d.seat window).control f = (d.seat window).stay := by
      rw [Seat.control, show (d.seat window).controller? = none from hc]
    rw [hstay, hseat]
    exact takesPlace_stay d window
  | some c =>
    obtain ⟨n, hn, rfl⟩ := h.controller?_iff.mp hc
    have hdrive : d.control c.window f =
        ⟨some (d.drive n c f).result, (d.drive n c f).desk, (d.drive n c f).outputs⟩ := by
      simp only [control, h.owner n c hn, hn]
    rw [hdrive]
    exact takesPlace_drive h hn f

theorem takesPlace_stepOf? (d : Desk) (window : SessionId) (f : Session → Session.Step) :
    TakesPlace d window (d.stepOf? window f).desk (d.stepOf? window f).outputs
      ((d.seat window).step f) := by
  unfold stepOf?
  split
  · exact takesPlace_step d window f
  · rename_i hnone
    have hs : d.windows.session? window = none := by simpa using hnone
    rw [Seat.step, show (d.seat window).session? = none from hs]
    exact takesPlace_stay d window

theorem takesPlace_setReachable (d : Desk) (window : SessionId) (reachable : Bool) :
    TakesPlace d window (d.setReachable window reachable) []
      ({ d.seat window with reachable } : Seat).stay where
  here := by cases reachable <;> simp [seat, setReachable, Seat.stay, controller?]
  elsewhere := by
    intro b hb
    cases reachable <;> simp [seat, setReachable, controller?, hb]
  outputs := rfl

/-- What a window is asked concerns its own seat. -/
theorem takesPlace_ask (h : Seated d) (window : SessionId) (r : Request) :
    TakesPlace d window (d.ask window r).desk (d.ask window r).outputs
      ((d.seat window).take r) := by
  cases r with
  | control i => exact takesPlace_control h window fun c => c.take i
  | session c =>
    rw [Seat.take, answer_seat]
    exact takesPlace_stepOf? d window _
  | reach reachable => exact takesPlace_setReachable d window reachable

/-- **A command makes of a seat what the seat makes of it.** -/
theorem seat_perform (h : Seated d) (c : Command) :
    (d.perform c).seat b = ((d.seat b).follow b c).seat := by
  cases c with
  | ask window r =>
    have hask := takesPlace_ask h window r
    simp only [Seat.follow]
    split
    · rename_i hb
      rw [hb]
      exact hask.here
    · rename_i hb
      exact hask.elsewhere b hb
  | frame =>
    have htaken : Seated { d with clock := d.clock.taken } := h.same rfl rfl
    exact (frameOf_at htaken d.clock.queue).1

/-- **What goes out of a window at a command goes out of its seat.** -/
theorem said_at (h : Seated d) (c : Command) :
    (d.said c).filter (·.1 = b) = ((d.seat b).follow b c).outputs.map (b, ·) := by
  cases c with
  | ask window r =>
    simp only [said, (takesPlace_ask h window r).outputs, Seat.follow]
    by_cases hb : b = window
    · rw [if_pos hb, hb]
      simp
    · rw [if_neg hb]
      simp [Ne.symm hb, Seat.stay]
  | frame =>
    have htaken : Seated { d with clock := d.clock.taken } := h.same rfl rfl
    exact (frameOf_at htaken d.clock.queue).2

/-! ## Runs, seen from a seat -/

theorem Seated.after (h : Seated d) (run : List Command) : Seated (d.after run) := by
  induction run generalizing d with
  | nil => exact h
  | cons c rest ih => exact ih (h.perform c)

theorem seat_after (h : Seated d) (run : List Command) :
    (d.after run).seat b = (d.seat b).after b run := by
  induction run generalizing d with
  | nil => rfl
  | cons c rest ih =>
    show ((d.perform c).after rest).seat b = _
    rw [ih (h.perform c), seat_perform h]
    rfl

theorem log_at (h : Seated d) (run : List Command) :
    (d.log run).filter (·.1 = b) = ((d.seat b).told b run).map (b, ·) := by
  induction run generalizing d with
  | nil => rfl
  | cons c rest ih =>
    rw [log_cons, List.filter_append, said_at h, ih (h.perform c), seat_perform h,
      Seat.told_cons, List.map_append]

end Desk

end DisplayServer
