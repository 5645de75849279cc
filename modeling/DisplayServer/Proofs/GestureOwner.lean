import DisplayServer.Proofs.ControllerRuns
import DisplayServer.Proofs.Runs

/-!
# Whom a gesture belongs to

Both entries that start a gesture take hold of the window with the number and the device of the
event that they are given, and no input changes either while the gesture goes on
(`SoloDesk.goesOn_since`). So a gesture that runs carries the pointer of the event that started
it.

That makes it the gesture of this pointer alone, unless the number of the event is the one that
stands for no pointer. A grip asks for its number before it asks for its device, and takes the
reserved number for a grip that nobody holds: every pointer on every device may drive such a
gesture.
-/

namespace DisplayServer

/-- Of a grip that knows a device: it takes its own pointer, or every pointer. -/
theorem Grip.accepts_iff {g : Grip} {held source : PointerSource} (hheld : g.source = some held)
    {pointer : Int} :
    g.accepts pointer source = true ↔
      g.pointer = noPointer ∨ (pointer = g.pointer ∧ source = held) := by
  rw [Grip.accepts, hheld]
  simp only [Bool.or_eq_true, Bool.and_eq_true, beq_iff_eq]
  rw [@eq_comm _ pointer, @eq_comm _ source]

/-- The grip takes the pointer of the event, and no other. -/
def Grip.BelongsTo (g : Grip) (e : PointerEvent) : Prop :=
  ∀ pointer source, g.accepts pointer source = true ↔ pointer = e.pointer ∧ source = e.source

/-- The gesture carries number and device of the event. -/
structure Gesture.Carries (e : PointerEvent) (g : Gesture) : Prop where
  pointer : g.grip.pointer = e.pointer
  source : g.grip.source = some e.source

namespace Gesture.Carries

variable {e : PointerEvent} {g g' : Gesture}

theorem of_grip (h : g.Carries e) (hgrip : g'.grip = { g.grip with target := g'.grip.target }) :
    g'.Carries e where
  pointer := by
    rw [hgrip]
    exact h.pointer
  source := by
    rw [hgrip]
    exact h.source

theorem accepts_iff (h : g.Carries e) {pointer : Int} {source : PointerSource} :
    g.grip.accepts pointer source = true ↔
      e.pointer = noPointer ∨ (pointer = e.pointer ∧ source = e.source) := by
  rw [Grip.accepts_iff h.source, h.pointer]

theorem belongsTo_iff (h : g.Carries e) : g.grip.BelongsTo e ↔ e.pointer ≠ noPointer := by
  constructor
  · intro hbelongs hnone
    -- a pointer of the next number would be taken too
    have hother := (hbelongs (e.pointer + 1) e.source).mp (h.accepts_iff.mpr (.inl hnone))
    omega
  · intro hsome pointer source
    rw [h.accepts_iff, or_iff_right hsome]

theorem accepts_all_iff (h : g.Carries e) :
    (∀ pointer source, g.grip.accepts pointer source = true) ↔ e.pointer = noPointer := by
  constructor
  · intro hall
    by_contra hsome
    have hother := (h.belongsTo_iff.mpr hsome (e.pointer + 1) e.source).mp (hall _ _)
    omega
  · exact fun hnone pointer source => h.accepts_iff.mpr (.inl hnone)

end Gesture.Carries

namespace Controller

/-- The event that is given to the move or to the resize. -/
def Input.event? : Input → Option PointerEvent
  | .move e _ => some e
  | .drag e _ => some e
  | _ => none

theorem carries_moveFrom (e : PointerEvent) (rect : Rect) : (moveFrom e rect).Carries e :=
  ⟨rfl, rfl⟩

theorem carries_resizeFrom (e : PointerEvent) (w : WindowContext) (area : Area)
    (fallback : Float32) : (resizeFrom e w area fallback).Carries e where
  pointer := by simp [resizeFrom, Grip.hold]
  source := by simp [resizeFrom, Grip.hold]

end Controller

namespace SoloDesk

open Controller (Input)

/-- A gesture runs after the run that started with this event. -/
def GestureStarted (d : SoloDesk) (run : List Input) (e : PointerEvent) : Prop :=
  ∃ before i since, run = before ++ i :: since ∧ i.event? = some e ∧
    (d.after before).controller.phase = .idle ∧
    ∀ part, part <+: since → (d.after (before ++ i :: part)).controller.phase ≠ .idle

variable {d : SoloDesk} {i : Input}

/-- **A gesture that an input starts carries the pointer of an event.** -/
theorem carries_of_starts (hbefore : d.controller.phase = .idle)
    (hafter : (d.perform i).controller.phase ≠ .idle) :
    ∃ e g, i.event? = some e ∧ (d.perform i).controller.gesture = some g ∧ g.Carries e := by
  rcases starts_cases hafter (hbefore ▸ hafter) with ⟨e, rect, rfl, -, hg⟩ |
    ⟨e, w, area, rfl, -, hg⟩
  · exact ⟨e, _, rfl, hg, Controller.carries_moveFrom e rect⟩
  · exact ⟨e, _, rfl, hg, Controller.carries_resizeFrom e w area _⟩

/-- As long as a gesture goes on, it carries the pointer of the event that started it. -/
theorem carries_since {before since : List Input} {e : PointerEvent} (he : i.event? = some e)
    (hbefore : (d.after before).controller.phase = .idle)
    (hsince : ∀ part, part <+: since → (d.after (before ++ i :: part)).controller.phase ≠ .idle) :
    ∃ g, (d.after (before ++ i :: since)).controller.gesture = some g ∧ g.Carries e := by
  have hfirst := hsince [] List.nil_prefix
  rw [after_concat] at hfirst
  obtain ⟨e', g, he', hg, hcarries⟩ := carries_of_starts hbefore hfirst
  obtain rfl : e' = e := Option.some.inj (he'.symm.trans he)
  rw [← after_concat] at hg
  obtain ⟨g', hg', hgrip⟩ := goesOn_from hg hsince
  exact ⟨g', hg', hcarries.of_grip hgrip⟩

variable (window : SessionId) (hotZone : HotZone) (ratio : Float32) (shapesCursor : Bool)

/-- **A gesture belongs to the pointer that started it, unless that pointer has the number that
stands for none.** Every gesture that runs was started by some event. It takes the pointer of that
event and no other exactly if the event has a number of its own; it takes every pointer exactly if
the event has not. -/
theorem gesture_belongs_iff (run : List Input) :
    let start := fresh window hotZone ratio shapesCursor
    ((start.after run).controller.gesture ≠ none ↔ ∃ e, start.GestureStarted run e) ∧
      ∀ e, start.GestureStarted run e → ∃ g, (start.after run).controller.gesture = some g ∧
        (g.grip.BelongsTo e ↔ e.pointer ≠ noPointer) ∧
        ((∀ pointer source, g.grip.accepts pointer source = true) ↔ e.pointer = noPointer) := by
  intro start
  have hrunning : (start.after run).controller.gesture ≠ none ↔
      (start.after run).controller.phase ≠ .idle :=
    not_congr (consistent_after window hotZone ratio shapesCursor run).held
  refine ⟨⟨?_, ?_⟩, ?_⟩
  · intro hgesture
    obtain ⟨before, i, since, hrun, hbefore, hsince⟩ := exists_onset
      (fun run => (start.after run).controller.phase ≠ .idle) (fun h => h rfl)
      (hrunning.mp hgesture)
    have hidle := not_not.mp hbefore
    have hfirst := hsince [] List.nil_prefix
    rw [after_concat] at hfirst
    obtain ⟨e, g, he, -⟩ := carries_of_starts hidle hfirst
    exact ⟨e, before, i, since, hrun, he, hidle, hsince⟩
  · rintro ⟨e, before, i, since, rfl, -, -, hsince⟩
    exact hrunning.mpr (hsince since (List.prefix_refl since))
  · rintro e ⟨before, i, since, rfl, he, hbefore, hsince⟩
    obtain ⟨g, hg, hcarries⟩ := carries_since he hbefore hsince
    exact ⟨g, hg, hcarries.belongsTo_iff, hcarries.accepts_all_iff⟩

/-- A finger of this number goes down on the left border of a window. -/
def borderPressed (pointer : Int) : Input :=
  .drag (.touch pointer .down ⟨100, 400⟩ ⟨0, 300⟩) (.free ⟨100, 100, 1000, 1000⟩ .unrestricted)

theorem gesture_belongs_iff_grabbingRun :
    let d := (fresh ⟨3⟩ .standard 1 false).after grabbingRun
    ∃ g, d.controller.gesture = some g ∧
      g.grip.BelongsTo (.touch 0 .move ⟨500, 120⟩ ⟨400, 20⟩) ∧
      ¬ ∀ pointer source, g.grip.accepts pointer source = true := by
  have hstarted : (fresh ⟨3⟩ .standard 1 false).GestureStarted grabbingRun
      (.touch 0 .move ⟨500, 120⟩ ⟨400, 20⟩) := by
    refine ⟨grabbingRun.take 2, _, [], rfl, rfl, rfl, ?_⟩
    intro part hpart
    rw [List.prefix_nil.mp hpart]
    decide
  obtain ⟨g, hg, hbelongs, hall⟩ :=
    (gesture_belongs_iff ⟨3⟩ .standard 1 false grabbingRun).2 _ hstarted
  exact ⟨g, hg, hbelongs.mpr (by decide), fun h => absurd (hall.mp h) (by decide)⟩

/-- A finger of the reserved number starts a resize, and a finger of another number drives it. -/
theorem gesture_belongs_fails_borderPressed :
    let d := (fresh ⟨3⟩ .standard 1 false).after [borderPressed (-1)]
    (fresh ⟨3⟩ .standard 1 false).GestureStarted [borderPressed (-1)]
        (.touch (-1) .down ⟨100, 400⟩ ⟨0, 300⟩) ∧
      (∃ g, d.controller.gesture = some g ∧
        ¬ g.grip.BelongsTo (.touch (-1) .down ⟨100, 400⟩ ⟨0, 300⟩) ∧
        ∀ pointer source, g.grip.accepts pointer source = true) ∧
      (d.perform (.drag (.touch 7 .move ⟨60, 400⟩ ⟨-40, 300⟩)
        (.free ⟨100, 100, 1000, 1000⟩ .unrestricted))).controller.target? =
          some ⟨60, 100, 1040, 1000⟩ := by
  intro d
  refine ⟨⟨[], _, [], rfl, rfl, rfl, ?_⟩, ⟨_, rfl, ?_, ?_⟩, by decide +kernel⟩
  · intro part hpart
    rw [List.prefix_nil.mp hpart]
    decide
  · intro hbelongs
    exact absurd ((hbelongs 7 .mouse).mp rfl) (by decide)
  · intro pointer source
    rfl

end SoloDesk

end DisplayServer
