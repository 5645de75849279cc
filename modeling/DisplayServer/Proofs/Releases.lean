import DisplayServer.Proofs.ControllerRuns

/-!
# A release ends the gesture

A gesture ends when its pointer lets go. A resize always does. A move asks first whether it is
still armed, and arming can be taken back while the move runs: the release is then only noted,
and the move goes on without its pointer.

So what has to be known is which runs leave a move that is not armed. A move starts armed, and
of all inputs only `Input.arm false` disarms a move without ending it (`disarmed_cases`); hence
a move that is not armed has been disarmed since it began (`disarmed_since`).
-/

namespace DisplayServer

/-- The event lets go of what is held: it is a release of the same pointer on the same device,
by the left button if it is a mouse. -/
structure Grip.Releases (g : Grip) (e : PointerEvent) : Prop where
  release : e.action.isRelease = true
  pointer : e.pointer = g.pointer
  source : some e.source = g.source
  left : e.source = .mouse → e.button = .left

namespace Grip.Releases

variable {g : Grip} {e : PointerEvent}

theorem accepts (h : g.Releases e) : g.accepts e.pointer e.source = true := by
  rw [Grip.accepts, ← h.source, h.pointer]
  simp

theorem not_isIdleMouse (h : g.Releases e) : e.isIdleMouse = false := by
  unfold PointerEvent.isIdleMouse PointerEvent.isMouse
  by_cases hmouse : e.source = .mouse
  · simp [h.left hmouse]
  · simp [hmouse]

theorem not_isDown (h : g.Releases e) : e.action.isDown = false := by
  have hrelease := h.release
  cases haction : e.action <;> rw [haction] at hrelease <;> first | rfl | cases hrelease

theorem ne_move (h : g.Releases e) : e.action ≠ .move := by
  intro haction
  have hrelease := h.release
  rw [haction] at hrelease
  cases hrelease

end Grip.Releases

namespace Controller

variable {c : Controller} {g : Gesture} {e : PointerEvent}

/-! ## Which inputs disarm a move -/

theorem moveArmed_carry (c : Controller) (e : PointerEvent) (rect : Rect) :
    (c.carry e rect).controller.moveArmed = c.moveArmed := by
  unfold carry
  cases c.gesture <;> rfl

theorem phase_endMove (hdown : c.pointerDown = true) (e : PointerEvent) :
    (c.endMove e).controller.phase = .idle := by
  unfold endMove
  rw [hdown]
  cases c.gesture <;> rfl

theorem undisturbed_moveEvent_or (h : Consistent c) (e : PointerEvent) (rect : Rect) :
    Undisturbed c (c.moveEvent e rect).controller ∨
      (c.moveEvent e rect).controller.phase ≠ .moving ∨
      (c.moveEvent e rect).controller.moveArmed = true := by
  rcases moveEvent_cases c e rect with ⟨c', heq, hu, -, -⟩ | ⟨harmed, -, heq⟩ | ⟨harmed, -, heq⟩
  · rw [heq]
    exact .inl hu
  · rw [heq, moveArmed_carry]
    exact .inr (.inr harmed)
  · have hidle := phase_endMove (c := { c with trace := c.trace.after e }) (h.armed harmed).1 e
    rw [heq, hidle]
    exact .inr (.inl GesturePhase.noConfusion)

theorem undisturbed_dragEvent_or (c : Controller) (e : PointerEvent) (w : WindowContext) :
    Undisturbed c (c.dragEvent e w).controller ∨
      (c.dragEvent e w).controller.phase ≠ .moving := by
  rcases dragEvent_cases c e w with heq | ⟨-, -, heq⟩ | ⟨hphase, -, heq⟩ | ⟨-, -, -, heq⟩
  · rw [heq]
    exact .inl (.refl c)
  · rw [heq]
    unfold startDrag
    split
    · exact .inl (.refl c)
    · simp only
      split
      · exact .inl (.refl c)
      · exact .inr GesturePhase.noConfusion
  · rw [heq]
    unfold stretch
    refine .inr ?_
    cases c.gesture <;> simp [schedule, pass, hphase]
  · rw [heq]
    unfold endDrag
    cases c.gesture <;> exact .inr GesturePhase.noConfusion

theorem undisturbed_interrupt_or (c : Controller) (reset : Bool) :
    Undisturbed c (c.interrupt reset).controller ∨
      (c.interrupt reset).controller.phase ≠ .moving := by
  unfold interrupt
  split
  · exact .inl (.refl c)
  · cases c.gesture <;> exact .inr GesturePhase.noConfusion

/-- A move that goes on disarmed was disarmed before, or is by this input. -/
theorem disarmed_cases (h : Consistent c) (i : Input)
    (hmoving : (c.take i).controller.phase = .moving)
    (hdisarmed : (c.take i).controller.moveArmed = false) :
    c.phase = .moving ∧ (c.moveArmed = false ∨ i = .arm false) := by
  have hundisturbed : Undisturbed c (c.take i).controller →
      c.phase = .moving ∧ (c.moveArmed = false ∨ i = .arm false) := by
    intro hu
    exact ⟨hu.phase.symm.trans hmoving, .inl (hu.armed.symm.trans hdisarmed)⟩
  cases i with
  | move e rect =>
    rcases undisturbed_moveEvent_or h e rect with hu | hphase | harmed
    · exact hundisturbed hu
    · exact absurd hmoving hphase
    · exact absurd (harmed.symm.trans hdisarmed) (by decide)
  | drag e w =>
    rcases undisturbed_dragEvent_or c e w with hu | hphase
    · exact hundisturbed hu
    · exact absurd hmoving hphase
  | arm armed =>
    cases armed with
    | false => exact ⟨hmoving, .inr rfl⟩
    | true =>
      -- a granted request leaves the move armed
      replace hmoving : (c.armMove true).phase = .moving := hmoving
      replace hdisarmed : (c.armMove true).moveArmed = false := hdisarmed
      unfold armMove at hmoving hdisarmed
      split at hdisarmed
      · rename_i hrefused
        rw [if_pos hrefused] at hmoving
        exact ⟨hmoving, .inl hdisarmed⟩
      · cases hdisarmed
  | interrupt reset =>
    rcases undisturbed_interrupt_or c reset with hu | hphase
    · exact hundisturbed hu
    · exact absurd hmoving hphase
  | hover e rect pixelRatio taken =>
    exact hundisturbed (undisturbed_hover c e rect pixelRatio taken)
  | frame => exact ⟨hmoving, .inl hdisarmed⟩

/-! ## What a release does -/

theorem accepts_of_releases (hg : c.gesture = some g) (he : g.grip.Releases e) :
    c.accepts e = true := by
  rw [accepts, hg]
  exact he.accepts

/-- A resize ends. -/
theorem dragEvent_release (hg : c.gesture = some g) (hphase : c.phase = .dragging)
    (harmed : c.moveArmed = false) (he : g.grip.Releases e) (w : WindowContext) :
    c.dragEvent e w =
      { c with
        pointerDown := false, trace := c.trace.after e, gesture := none, phase := .idle }.deliver
          (g.dragTo e.onDisplay).grip.target .dragEnd true := by
  have haccepted := accepts_of_releases hg he
  simp [dragEvent, harmed, hphase, he.not_isIdleMouse, haccepted, he.not_isDown, he.ne_move,
    he.release, endDrag, hg]

/-- An armed move ends. -/
theorem moveEvent_release (h : Consistent c) (hg : c.gesture = some g) (hphase : c.phase = .moving)
    (harmed : c.moveArmed = true) (he : g.grip.Releases e) (rect : Rect) :
    c.moveEvent e rect =
      { c with
        trace := c.trace.after e
        moveArmed := false, pointerDown := false, gesture := none, phase := .idle }.deliver
          (g.moveTo e.onDisplay).grip.target .dragEnd false := by
  have haccepted := accepts_of_releases hg he
  have hdown := (h.armed harmed).1
  simp [moveEvent, harmed, hphase, haccepted, he.ne_move, he.release, endMove, hdown, hg]

/-- A move that is not armed does not. -/
theorem moveEvent_release_disarmed (hg : c.gesture = some g) (hphase : c.phase = .moving)
    (harmed : c.moveArmed = false) (he : g.grip.Releases e) (rect : Rect) :
    c.moveEvent e rect = { c with trace := c.trace.after e, pointerDown := false }.pass false := by
  have haccepted := accepts_of_releases hg he
  simp [moveEvent, harmed, hphase, haccepted, he.not_isIdleMouse, notePress, he.not_isDown,
    he.release]

end Controller

namespace SoloDesk

open Controller (Input)

/-- An event goes to the resize while one runs, and to the move otherwise. -/
def given (d : SoloDesk) (e : PointerEvent) (rect : Rect) (w : WindowContext) : Input :=
  if d.controller.phase = .dragging then .drag e w else .move e rect

/-- The gesture is over with this input, which says its last rectangle and nothing else. -/
structure Ends (d : SoloDesk) (i : Input) (g : Gesture) : Prop where
  phase : (d.perform i).controller.phase = .idle
  gesture : (d.perform i).controller.gesture = none
  armed : (d.perform i).controller.moveArmed = false
  down : (d.perform i).controller.pointerDown = false
  outputs : (d.take i).outputs = [.rect (Controller.lastRect g i) .dragEnd]

/-- The move goes on without a word, though its pointer is up. -/
structure GoesOn (d : SoloDesk) (i : Input) (g : Gesture) : Prop where
  phase : (d.perform i).controller.phase = .moving
  gesture : (d.perform i).controller.gesture = some g
  down : (d.perform i).controller.pointerDown = false
  outputs : (d.take i).outputs = []

/-- The move that runs after `run` was disarmed while it ran, and has not been armed since. -/
def Disarmed (d : SoloDesk) (run : List Input) : Prop :=
  ∃ before since, run = before ++ .arm false :: since ∧ ∀ part, part <+: since →
    (d.after (before ++ .arm false :: part)).controller.phase = .moving ∧
      (d.after (before ++ .arm false :: part)).controller.moveArmed = false

variable {d : SoloDesk} {g : Gesture} {e : PointerEvent} {run : List Input}

theorem Disarmed.now (h : d.Disarmed run) :
    (d.after run).controller.phase = .moving ∧ (d.after run).controller.moveArmed = false := by
  obtain ⟨before, since, rfl, hall⟩ := h
  exact hall since (List.prefix_refl since)

theorem disarmed_of_perform (h : d.controller.Consistent) (i : Input)
    (hmoving : (d.perform i).controller.phase = .moving)
    (hdisarmed : (d.perform i).controller.moveArmed = false) :
    d.controller.phase = .moving ∧ (d.controller.moveArmed = false ∨ i = .arm false) := by
  by_cases hi : i = .frame
  · subst hi
    obtain ⟨hphase, harmed⟩ := controller_frame
      (fun c => c.phase = d.controller.phase ∧ c.moveArmed = d.controller.moveArmed)
      (fun c hc => hc) ⟨rfl, rfl⟩
    exact ⟨hphase.symm.trans hmoving, .inl (harmed.symm.trans hdisarmed)⟩
  · unfold perform at hmoving hdisarmed
    rw [take_of_ne_frame d hi] at hmoving hdisarmed
    exact Controller.disarmed_cases h i hmoving hdisarmed

/-- A step that goes idle and delivers the last rectangle ends the gesture. -/
theorem ends_of_deliver {i : Input} {c' : Controller} (hi : i ≠ .frame)
    (htake : d.controller.take i = c'.deliver (Controller.lastRect g i) .dragEnd ())
    (hphase : c'.phase = .idle) (hgesture : c'.gesture = none) (harmed : c'.moveArmed = false)
    (hdown : c'.pointerDown = false) : d.Ends i g := by
  have hcontroller : (d.perform i).controller = { c' with pending := none } := by
    rw [perform, take_of_ne_frame d hi]
    exact congrArg (·.controller) htake
  refine ⟨?_, ?_, ?_, ?_, ?_⟩
  · rw [hcontroller]
    exact hphase
  · rw [hcontroller]
    exact hgesture
  · rw [hcontroller]
    exact harmed
  · rw [hcontroller]
    exact hdown
  · rw [take_of_ne_frame d hi]
    show (d.controller.take i).outputs.filter (· ≠ .frameRequest) = _
    rw [htake]
    rfl

variable (window : SessionId) (hotZone : HotZone) (ratio : Float32) (shapesCursor : Bool)

/-- A move that is not armed was disarmed while it ran. -/
theorem disarmed_since (run : List Input)
    (hmoving : ((fresh window hotZone ratio shapesCursor).after run).controller.phase = .moving)
    (hdisarmed : ((fresh window hotZone ratio shapesCursor).after run).controller.moveArmed =
      false) :
    (fresh window hotZone ratio shapesCursor).Disarmed run := by
  induction run using List.reverseRecOn with
  | nil => cases hmoving
  | append_singleton earlier i ih =>
    have hc := consistent_after window hotZone ratio shapesCursor earlier
    have hperform := after_concat (fresh window hotZone ratio shapesCursor) earlier i
    obtain ⟨hphase, harmed | rfl⟩ := disarmed_of_perform hc i
      (by rw [← hperform]; exact hmoving) (by rw [← hperform]; exact hdisarmed)
    · -- the move was not armed before this input either
      obtain ⟨before, since, rfl, hall⟩ := ih hphase harmed
      refine ⟨before, since ++ [i], by simp, ?_⟩
      intro part hpart
      rcases List.prefix_concat_iff.mp hpart with rfl | hpart
      · have hwhole : before ++ .arm false :: (since ++ [i]) =
            before ++ .arm false :: since ++ [i] := by simp
        rw [hwhole]
        exact ⟨hmoving, hdisarmed⟩
      · exact hall part hpart
    · -- this input disarms it
      refine ⟨earlier, [], rfl, ?_⟩
      intro part hpart
      rw [List.prefix_nil.mp hpart]
      exact ⟨hmoving, hdisarmed⟩

/-- **A release ends the gesture, unless the move was disarmed while it ran.** Then the release
is only noted, and the move goes on. -/
theorem release_ends (run : List Input) (g : Gesture)
    (hg : ((fresh window hotZone ratio shapesCursor).after run).controller.gesture = some g)
    (e : PointerEvent) (he : g.grip.Releases e) (rect : Rect) (w : WindowContext) :
    let start := fresh window hotZone ratio shapesCursor
    let d := start.after run
    (¬ start.Disarmed run → d.Ends (d.given e rect w) g) ∧
      (start.Disarmed run → d.GoesOn (d.given e rect w) g) := by
  intro start d
  have hc : d.controller.Consistent := consistent_after window hotZone ratio shapesCursor run
  refine ⟨?_, ?_⟩
  · intro hnot
    cases hphase : d.controller.phase with
    | idle => exact absurd hphase (hc.not_idle hg)
    | dragging =>
      have hgiven : d.given e rect w = .drag e w := if_pos hphase
      have harmed : d.controller.moveArmed = false := by
        by_contra hne
        exact (hc.armed (by simpa using hne)).2 hphase
      have hend := Controller.dragEvent_release hg hphase harmed he w
      rw [hgiven]
      exact ends_of_deliver (by simp) (congrArg ((fun _ => ()) <$> ·) hend) rfl rfl harmed rfl
    | moving =>
      have hgiven : d.given e rect w = .move e rect := if_neg (by rw [hphase]; decide)
      have harmed : d.controller.moveArmed = true := by
        by_contra hne
        have hoff : d.controller.moveArmed = false := by simpa using hne
        exact hnot (disarmed_since window hotZone ratio shapesCursor run hphase hoff)
      have hend := Controller.moveEvent_release hc hg hphase harmed he rect
      rw [hgiven]
      exact ends_of_deliver (by simp) (congrArg ((fun _ => ()) <$> ·) hend) rfl rfl rfl rfl
  · intro hdisarmed
    obtain ⟨hphase, harmed⟩ := hdisarmed.now
    have hgiven : d.given e rect w = .move e rect := if_neg (by rw [hphase]; decide)
    have hstep := Controller.moveEvent_release_disarmed hg hphase harmed he rect
    have hcontroller : (d.perform (.move e rect)).controller =
        (d.controller.moveEvent e rect).controller := rfl
    have houtputs : (d.take (.move e rect)).outputs =
        (d.controller.moveEvent e rect).outputs.filter (· ≠ .frameRequest) := rfl
    rw [hgiven]
    rw [hstep] at hcontroller houtputs
    refine ⟨?_, ?_, ?_, houtputs⟩
    · rw [hcontroller]
      exact hphase
    · rw [hcontroller]
      exact hg
    · rw [hcontroller]
      rfl

/-- The finger of `grabbingRun` is lifted. -/
def liftedFinger : PointerEvent := .touch 0 .up ⟨540, 140⟩ ⟨400, 20⟩

theorem release_ends_grabbingRun :
    let d := (fresh ⟨3⟩ .standard 1 false).after grabbingRun
    ∃ g, d.controller.gesture = some g ∧ g.grip.Releases liftedFinger ∧
      d.Ends (.move liftedFinger ⟨100, 100, 1000, 1000⟩) g := by
  have hnot : ¬ (fresh ⟨3⟩ .standard 1 false).Disarmed grabbingRun := by
    intro hdisarmed
    obtain ⟨before, since, heq, -⟩ := hdisarmed
    have hmem : Input.arm false ∈ grabbingRun := by
      rw [heq]
      simp
    simp [grabbingRun] at hmem
  have hreleases : Grip.Releases ⟨0, some .touchScreen, ⟨500, 120⟩, ⟨400, 20⟩,
      ⟨100, 100, 1000, 1000⟩, ⟨100, 100, 1000, 1000⟩⟩ liftedFinger :=
    ⟨rfl, rfl, rfl, fun h => by cases h⟩
  exact ⟨_, rfl, hreleases, (release_ends ⟨3⟩ .standard 1 false grabbingRun _ rfl liftedFinger
    hreleases ⟨100, 100, 1000, 1000⟩ (.free ⟨100, 100, 1000, 1000⟩ .unrestricted)).1 hnot⟩

/-- The move is disarmed while it runs. -/
def disarmedRun : List Input := grabbingRun ++ [.arm false]

theorem release_ends_fails_disarmedRun :
    let d := (fresh ⟨3⟩ .standard 1 false).after disarmedRun
    ∃ g, d.controller.gesture = some g ∧ g.grip.Releases liftedFinger ∧
      d.controller.phase = .moving ∧
        ¬ d.Ends (.move liftedFinger ⟨100, 100, 1000, 1000⟩) g := by
  refine ⟨_, rfl, ⟨rfl, rfl, rfl, fun h => by cases h⟩, rfl, ?_⟩
  intro hends
  have hidle := hends.phase
  exact absurd hidle (by decide)

end SoloDesk

end DisplayServer
