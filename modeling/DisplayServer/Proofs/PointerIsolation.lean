import DisplayServer.Proofs.ControllerRuns

/-!
# No other pointer disturbs a gesture

While a gesture runs, the controller listens to the pointer that started it. An event of another
pointer, or of the same number on another device, goes past both entries without a trace: the
entries ask for the pointer before they touch anything, each behind guards of its own, and every
guard passes the event on with the controller as it was.

So such events can be left out of a run. `Thinned` says which runs a run can be thinned to; what
it does, and what listener and cursor are asked, stays the same.
-/

namespace DisplayServer

/-- The event is not of the pointer and device that were taken hold of. -/
def Grip.Foreign (g : Grip) (e : PointerEvent) : Prop :=
  e.pointer ≠ g.pointer ∨ some e.source ≠ g.source

theorem Grip.not_accepts_of_foreign {g : Grip} {e : PointerEvent} {source : PointerSource}
    (hpointer : g.pointer ≠ noPointer) (hsource : g.source = some source) (he : g.Foreign e) :
    g.accepts e.pointer e.source = false := by
  have hlatched : (g.pointer == noPointer) = false := by simpa using hpointer
  rw [Grip.accepts, hlatched, hsource]
  rcases he with hne | hne
  · have hdiffer : (g.pointer == e.pointer) = false := by simpa using hne.symm
    simp [hdiffer]
  · have hdiffer : (source == e.source) = false := by
      rw [hsource] at hne
      simpa using fun h => hne (by rw [h])
    simp [hdiffer]

namespace Controller

variable {c : Controller} {g : Gesture} {e : PointerEvent}

theorem Consistent.not_accepts (h : Consistent c) (hg : c.gesture = some g)
    (hpointer : g.grip.pointer ≠ noPointer) (he : g.grip.Foreign e) : c.accepts e = false := by
  obtain ⟨source, hsource⟩ := h.latched g hg
  rw [accepts, hg]
  exact Grip.not_accepts_of_foreign hpointer hsource he

theorem moveEvent_of_not_accepts (he : c.accepts e = false) (rect : Rect) :
    c.moveEvent e rect = c.pass false := by
  unfold moveEvent
  split
  · rfl
  · rw [he]
    rfl

theorem dragEvent_of_not_accepts (he : c.accepts e = false) (w : WindowContext) :
    c.dragEvent e w = c.pass false := by
  unfold dragEvent
  split
  · rfl
  · split
    · rfl
    · rw [he]
      rfl

end Controller

namespace SoloDesk

open Controller (Input)

/-- A step that passes leaves controller and clock alone. -/
theorem control_of_pass {α : Type} {d : SoloDesk} {f : Controller → Controller.Step α} {a : α}
    (h : f d.controller = d.controller.pass a) : d.control f = ⟨a, d, []⟩ := by
  unfold control
  rw [h]
  rfl

/-- The input is an event that comes while another pointer's gesture runs. -/
def Stray (d : SoloDesk) (i : Input) : Prop :=
  ∃ e g, ((∃ rect, i = .move e rect) ∨ ∃ w, i = .drag e w) ∧
    d.controller.gesture = some g ∧ g.grip.pointer ≠ noPointer ∧ g.grip.Foreign e

/-- The second run is the first, begun at `d`, with some strays left out. -/
inductive Thinned : SoloDesk → List Input → List Input → Prop
  | done (d : SoloDesk) : Thinned d [] []
  | keep {d : SoloDesk} {rest thin : List Input} (i : Input) :
      Thinned (d.perform i) rest thin → Thinned d (i :: rest) (i :: thin)
  | drop {d : SoloDesk} {rest thin : List Input} {i : Input} :
      d.Stray i → Thinned (d.perform i) rest thin → Thinned d (i :: rest) thin

variable {d : SoloDesk} {i : Input}

theorem take_of_stray (h : d.controller.Consistent) (hi : d.Stray i) : d.take i = ⟨(), d, []⟩ := by
  obtain ⟨e, g, hinput, hg, hpointer, he⟩ := hi
  have hrefused := h.not_accepts hg hpointer he
  rcases hinput with ⟨rect, rfl⟩ | ⟨w, rfl⟩
  · show d.control (fun c => (fun _ => ()) <$> c.moveEvent e rect) = _
    refine control_of_pass ?_
    rw [Controller.moveEvent_of_not_accepts hrefused]
    rfl
  · show d.control (fun c => (fun _ => ()) <$> c.dragEvent e w) = _
    refine control_of_pass ?_
    rw [Controller.dragEvent_of_not_accepts hrefused]
    rfl

/-- A run and a thinned one go through the same desks. -/
theorem Thinned.same {rest thin : List Input} (ht : Thinned d rest thin)
    (h : d.controller.Consistent) : d.after thin = d.after rest ∧ d.told thin = d.told rest := by
  induction ht with
  | done => exact ⟨rfl, rfl⟩
  | keep i _ ih =>
    obtain ⟨hafter, htold⟩ := ih (consistent_perform h i)
    exact ⟨hafter, congrArg (_ ++ ·) htold⟩
  | @drop d rest thin i hi _ ih =>
    obtain ⟨hafter, htold⟩ := ih (consistent_perform h i)
    have hstay : d.perform i = d := by rw [perform, take_of_stray h hi]
    have hsilent : (d.take i).outputs = [] := by rw [take_of_stray h hi]
    rw [hstay] at hafter htold
    refine ⟨?_, ?_⟩
    · show d.after thin = (d.perform i).after rest
      rw [hafter, hstay]
    · show d.told thin = (d.take i).outputs ++ (d.perform i).told rest
      rw [htold, hsilent, hstay]
      rfl

variable (window : SessionId) (hotZone : HotZone) (ratio : Float32) (shapesCursor : Bool)

/-- **While a gesture runs, only its pointer counts.** Both entries pass every event of another
pointer or device on, whatever the window, with controller and clock as they were and nothing
said; and what comes after does the same and says the same without such events. -/
theorem strays_ignored (run : List Input) (g : Gesture)
    (hg : ((fresh window hotZone ratio shapesCursor).after run).controller.gesture = some g)
    (hpointer : g.grip.pointer ≠ noPointer) :
    let d := (fresh window hotZone ratio shapesCursor).after run
    (∀ e, g.grip.Foreign e →
        (∀ rect, d.control (·.moveEvent e rect) = ⟨false, d, []⟩) ∧
          ∀ w, d.control (·.dragEvent e w) = ⟨false, d, []⟩) ∧
      ∀ rest thin, Thinned d rest thin →
        d.after thin = d.after rest ∧ d.told thin = d.told rest := by
  intro d
  have h : d.controller.Consistent := consistent_after window hotZone ratio shapesCursor run
  refine ⟨?_, ?_⟩
  · intro e he
    have hrefused := h.not_accepts hg hpointer he
    exact ⟨fun rect => control_of_pass (Controller.moveEvent_of_not_accepts hrefused rect),
      fun w => control_of_pass (Controller.dragEvent_of_not_accepts hrefused w)⟩
  · intro rest thin ht
    exact ht.same h

/-- The finger that took hold of the window carries it along and lets go. -/
def lettingGoRun : List Input :=
  [.move (.touch 0 .move ⟨530, 100⟩ ⟨400, 20⟩) ⟨100, 100, 1000, 1000⟩,
    .frame,
    .move (.touch 0 .up ⟨540, 140⟩ ⟨400, 20⟩) ⟨130, 80, 1000, 1000⟩]

/-- Meanwhile a second finger taps on the border, and the mouse has the number of the first. -/
def crowdedRun : List Input :=
  [.drag (.touch 1 .down ⟨100, 600⟩ ⟨0, 500⟩) (.free ⟨100, 100, 1000, 1000⟩ .unrestricted),
    .move (.touch 0 .move ⟨530, 100⟩ ⟨400, 20⟩) ⟨100, 100, 1000, 1000⟩,
    .move (.touch 1 .up ⟨100, 600⟩ ⟨0, 500⟩) ⟨100, 100, 1000, 1000⟩,
    .frame,
    .move (.mouse .buttonUp .left ⟨7, 7⟩ ⟨0, 0⟩) ⟨130, 80, 1000, 1000⟩,
    .move (.touch 0 .up ⟨540, 140⟩ ⟨400, 20⟩) ⟨130, 80, 1000, 1000⟩]

theorem strays_ignored_crowdedRun :
    let d := (fresh ⟨3⟩ .standard 1 false).after grabbingRun
    d.after lettingGoRun = d.after crowdedRun ∧ d.told lettingGoRun = d.told crowdedRun ∧
      d.told crowdedRun =
        [.rect ⟨130, 80, 1000, 1000⟩ .dragMove, .rect ⟨140, 120, 1000, 1000⟩ .dragEnd] := by
  have ht : Thinned ((fresh ⟨3⟩ .standard 1 false).after grabbingRun) crowdedRun lettingGoRun := by
    refine .drop ⟨_, _, .inr ⟨_, rfl⟩, rfl, by decide, .inl (by decide)⟩ (.keep _ ?_)
    refine .drop ⟨_, _, .inl ⟨_, rfl⟩, rfl, by decide, .inl (by decide)⟩ (.keep _ ?_)
    exact .drop ⟨_, _, .inl ⟨_, rfl⟩, rfl, by decide, .inr (by decide)⟩ (.keep _ (.done _))
  obtain ⟨hafter, htold⟩ :=
    (strays_ignored ⟨3⟩ .standard 1 false grabbingRun _ rfl (by decide)).2 _ _ ht
  exact ⟨hafter, htold, rfl⟩

end SoloDesk

end DisplayServer
