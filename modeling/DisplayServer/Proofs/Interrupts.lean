import DisplayServer.Proofs.ControllerRuns

/-!
# What an interrupted resize goes back to

An interrupt with reset ends a resize at the rectangle that its grip took hold of at the start,
and nothing that comes while the resize runs changes that rectangle. It is the window's own
rectangle when the resize is free. A resize at a fixed ratio first brings the rectangle to the
ratio and keeps only the result, so a window that was not at the ratio does not get its old size
back. It keeps its corner in any case.
-/

namespace DisplayServer

/-! ## The rectangle that a resize starts from -/

namespace WindowLimits

/-- The size that the ratio gives to a window of this width. -/
def sizeAt (limits : WindowLimits) (decoration : Option (Int × Int)) (ratio : Float32)
    (width : Int) : Int × Int :=
  let (across, down) := decoration.getD (0, 0)
  let tight := limits.tightened decoration ratio
  let width := Rect.bound tight.minWidth tight.maxWidth width
  let height := Measure.toPixels (Measure.ofPixels (width - across) / ratio) + down
  if height < tight.minHeight || tight.maxHeight < height then
    let height := Rect.bound tight.minHeight tight.maxHeight height
    (Measure.toPixels (Measure.ofPixels (height - down) * ratio) + across, height)
  else (width, height)

end WindowLimits

namespace Rect

variable (r : Rect) (limits : WindowLimits) (decoration : Option (Int × Int)) (ratio : Float32)

/-- No ratio is asked for, or the decoration leaves no content that could hold one. -/
def Unheld : Prop :=
  Measure.nearZero ratio = true ∨
    r.width ≤ (decoration.getD (0, 0)).1 ∨ r.height ≤ (decoration.getD (0, 0)).2

variable {r limits decoration ratio}

theorem heldTo_of_unheld (h : r.Unheld decoration ratio) :
    r.heldTo limits decoration ratio = r := by
  unfold heldTo
  split
  · rfl
  · rename_i hratio
    rcases h with h | h | h
    · exact absurd h hratio
    · simp [h]
    · simp [h]

/-- Otherwise the new size is read off the width alone, and the corner stays. -/
theorem heldTo_of_not_unheld (h : ¬ r.Unheld decoration ratio) :
    r.heldTo limits decoration ratio =
      { r with
        width := (limits.sizeAt decoration ratio r.width).1
        height := (limits.sizeAt decoration ratio r.width).2 } := by
  simp only [Unheld, not_or] at h
  obtain ⟨hratio, hwidth, hheight⟩ := h
  simp only [heldTo, WindowLimits.sizeAt, hratio, hwidth, hheight, decide_false, Bool.or_self,
    Bool.false_eq_true, if_false]
  split <;> rfl

theorem corner_heldTo (r : Rect) (limits : WindowLimits) (decoration : Option (Int × Int))
    (ratio : Float32) :
    (r.heldTo limits decoration ratio).x = r.x ∧ (r.heldTo limits decoration ratio).y = r.y := by
  by_cases h : r.Unheld decoration ratio
  · rw [heldTo_of_unheld h]
    exact ⟨rfl, rfl⟩
  · rw [heldTo_of_not_unheld h]
    exact ⟨rfl, rfl⟩

theorem heldTo_eq_self_iff :
    r.heldTo limits decoration ratio = r ↔
      r.Unheld decoration ratio ∨
        (r.width, r.height) = limits.sizeAt decoration ratio r.width := by
  by_cases h : r.Unheld decoration ratio
  · exact iff_of_true (heldTo_of_unheld h) (.inl h)
  · rw [heldTo_of_not_unheld h, or_iff_right h]
    constructor
    · intro heq
      exact Prod.ext (congrArg Rect.width heq).symm (congrArg Rect.height heq).symm
    · intro heq
      rw [← heq]

end Rect

namespace WindowContext

variable (w : WindowContext) (fallback : Float32)

/-- Pixels of decoration, horizontal and vertical; `fallback` is the pixel ratio of a window that
is on no display. -/
def decorationPixels : Option (Int × Int) :=
  w.decoration.map fun d =>
    (d.horizontal (w.pixelRatio.getD fallback), d.vertical (w.pixelRatio.getD fallback))

/-- The rectangle that a resize of the window starts from. -/
def start : Rect := w.rect.heldTo w.limits (w.decorationPixels fallback) w.aspectRatio

/-- The window needs no ratio, cannot hold one, or is of the size that its ratio gives it. -/
def AtRatio : Prop :=
  w.rect.Unheld (w.decorationPixels fallback) w.aspectRatio ∨
    (w.rect.width, w.rect.height) =
      w.limits.sizeAt (w.decorationPixels fallback) w.aspectRatio w.rect.width

end WindowContext

/-! ## What a resize keeps -/

namespace Gesture

theorem initial_ofDrag (e : PointerEvent) (area : Area) (w : WindowContext) (fallback : Float32) :
    (ofDrag (.hold e.pointer e.source e.onDisplay e.inWindow w.rect) area w.aspectRatio w.limits
      w.decoration (w.pixelRatio.getD fallback)).grip.initial = w.start fallback := by
  unfold ofDrag
  split
  · rename_i hfree
    exact (Rect.heldTo_of_unheld (.inl hfree)).symm
  · rfl

end Gesture

namespace Controller

variable {c : Controller} {r : Rect}

/-- A gesture runs that took hold of the window at this rectangle. -/
def HoldsAt (r : Rect) (c : Controller) : Prop := ∃ g, c.gesture = some g ∧ g.grip.initial = r

/-- A resize that an event starts takes hold of the window at its starting rectangle. -/
theorem holdsAt_of_starts (hbefore : c.phase ≠ .dragging) {e : PointerEvent} {w : WindowContext}
    (hafter : (c.dragEvent e w).controller.phase = .dragging) :
    (c.dragEvent e w).controller.HoldsAt (w.start c.fallbackRatio) := by
  have hruns : (c.dragEvent e w).controller.phase ≠ .idle := by
    rw [hafter]
    decide
  obtain ⟨-, area, hg⟩ := dragEvent_starts hruns fun h => hbefore (h.symm.trans hafter)
  exact ⟨_, hg, (Gesture.initial_dragTo _ _).trans (Gesture.initial_ofDrag e area w _)⟩

theorem interrupt_of_holdsAt (hphase : c.phase ≠ .idle) (h : c.HoldsAt r) :
    (c.interrupt true).result = true ∧ (c.interrupt true).outputs = [.rect r .dragEnd] ∧
      (c.interrupt true).controller.pending = none := by
  obtain ⟨g, hg, rfl⟩ := h
  simp [interrupt, hphase, hg, deliver]

end Controller

namespace SoloDesk

open Controller (Input)

variable {d : SoloDesk} {r : Rect}

/-- **As long as a resize runs, it keeps the rectangle that it started from.** -/
theorem holdsAt_perform (hphase : d.controller.phase = .dragging) (h : d.controller.HoldsAt r)
    {i : Input} (hstill : (d.perform i).controller.phase = .dragging) :
    (d.perform i).controller.HoldsAt r := by
  obtain ⟨g, hg, hinitial⟩ := h
  obtain ⟨g', hg', hgrip⟩ := goesOn_perform (by rw [hphase]; decide) hg (by rw [hstill]; decide)
  refine ⟨g', hg', ?_⟩
  rw [hgrip]
  exact hinitial

/-- A resize runs, and goes on running through the inputs. -/
def Resizing : SoloDesk → List Input → Prop
  | d, [] => d.controller.phase = .dragging
  | d, i :: rest => d.controller.phase = .dragging ∧ (d.perform i).Resizing rest

instance decidableResizing : (d : SoloDesk) → (run : List Input) → Decidable (d.Resizing run)
  | d, [] => inferInstanceAs (Decidable (d.controller.phase = .dragging))
  | d, i :: rest =>
    have := decidableResizing (d.perform i) rest
    inferInstanceAs (Decidable (d.controller.phase = .dragging ∧ (d.perform i).Resizing rest))

theorem Resizing.now {run : List Input} (h : d.Resizing run) : d.controller.phase = .dragging := by
  cases run with
  | nil => exact h
  | cons i rest => exact h.1

theorem Resizing.last {run : List Input} (h : d.Resizing run) :
    (d.after run).controller.phase = .dragging := by
  induction run generalizing d with
  | nil => exact h
  | cons i rest ih => exact ih h.2

theorem holdsAt_after {run : List Input} (hruns : d.Resizing run) (h : d.controller.HoldsAt r) :
    (d.after run).controller.HoldsAt r := by
  induction run generalizing d with
  | nil => exact h
  | cons i rest ih => exact ih hruns.2 (holdsAt_perform hruns.1 h hruns.2.now)

variable (window : SessionId) (hotZone : HotZone) (ratio : Float32) (shapesCursor : Bool)

/-- **An interrupt with reset gives a resized window the rectangle that the resize started from.**
That rectangle has the window's corner, and it is the window's own exactly if the window was at
the ratio that the resize keeps. It is the only thing that goes out, and nothing waits after
it. -/
theorem interrupt_returns_to_start (before since : List Input) (e : PointerEvent)
    (w : WindowContext)
    (hidle : ((fresh window hotZone ratio shapesCursor).after before).controller.phase ≠ .dragging)
    (hruns : ((fresh window hotZone ratio shapesCursor).after (before ++ [.drag e w])).Resizing
      since) :
    let d := ((fresh window hotZone ratio shapesCursor).after (before ++ [.drag e w])).after since
    (d.control (·.interrupt true)).result = true ∧
      (d.control (·.interrupt true)).outputs = [.rect (w.start ratio) .dragEnd] ∧
      (d.control (·.interrupt true)).desk.controller.pending = none ∧
      (w.start ratio).x = w.rect.x ∧ (w.start ratio).y = w.rect.y ∧
      (w.start ratio = w.rect ↔ w.AtRatio ratio) := by
  intro d
  have hratio : ((fresh window hotZone ratio shapesCursor).after before).controller.fallbackRatio =
      ratio :=
    congrArg Controller.fallbackRatio (asMade_after window hotZone ratio shapesCursor before)
  have hstart : ((fresh window hotZone ratio shapesCursor).after
      (before ++ [.drag e w])).controller.HoldsAt (w.start ratio) := by
    have hphase := hruns.now
    rw [after_concat] at hphase ⊢
    have hheld := Controller.holdsAt_of_starts hidle hphase
    rw [hratio] at hheld
    exact hheld
  have hphase : d.controller.phase ≠ .idle := by
    rw [hruns.last]
    exact GesturePhase.noConfusion
  obtain ⟨hresult, houtputs, hpending⟩ :=
    Controller.interrupt_of_holdsAt hphase (holdsAt_after hruns hstart)
  obtain ⟨hx, hy⟩ := w.rect.corner_heldTo w.limits (w.decorationPixels ratio) w.aspectRatio
  refine ⟨hresult, ?_, hpending, hx, hy, Rect.heldTo_eq_self_iff⟩
  show ((d.controller.interrupt true).outputs.filter _) = _
  rw [houtputs]
  rfl

/-- A finger takes hold of a corner of the window. -/
def cornerPressed : PointerEvent := .touch 0 .down ⟨1100, 900⟩ ⟨1000, 800⟩

/-- The finger pulls, a second press of its number comes, and a frame. -/
def pullingRun : List Input :=
  [.drag (.touch 0 .move ⟨1200, 930⟩ ⟨1000, 800⟩) (.free .zero .unrestricted),
    .drag (.touch 0 .down ⟨1200, 930⟩ ⟨1000, 800⟩) (.free ⟨7, 7, 7, 7⟩ .unrestricted),
    .frame]

theorem interrupt_returns_to_start_free :
    let w := WindowContext.free ⟨100, 100, 1000, 800⟩ .unrestricted
    let d := ((fresh ⟨3⟩ .standard 1 false).after ([] ++ [.drag cornerPressed w])).after pullingRun
    d.controller.target? = some ⟨100, 100, 1100, 830⟩ ∧
      (d.control (·.interrupt true)).outputs = [.rect ⟨100, 100, 1000, 800⟩ .dragEnd] := by
  intro w d
  obtain ⟨-, houtputs, -, -, -, hat⟩ :=
    interrupt_returns_to_start ⟨3⟩ .standard 1 false [] pullingRun cornerPressed w (by decide)
      (by decide)
  rw [hat.mpr (.inl (.inl (by decide)))] at houtputs
  exact ⟨by decide +kernel, houtputs⟩

/-- The same window, which has to be square from now on. -/
def squareWindow : WindowContext :=
  { rect := ⟨100, 100, 1000, 800⟩, pixelRatio := some 1, aspectRatio := 1
    limits := .unrestricted, decoration := none }

/-- A window that is not square is square after a resize that was interrupted at once. -/
theorem interrupt_returns_to_start_fails_squareWindow :
    let d := (fresh ⟨3⟩ .standard 1 false).after [.drag cornerPressed squareWindow]
    d.controller.phase = .dragging ∧
      (d.control (·.interrupt true)).outputs = [.rect ⟨100, 100, 1000, 1000⟩ .dragEnd] ∧
      (d.control (·.interrupt true)).outputs ≠ [.rect squareWindow.rect .dragEnd] := by
  intro d
  have houtputs : (d.control (·.interrupt true)).outputs =
      [.rect ⟨100, 100, 1000, 1000⟩ .dragEnd] := by decide +kernel
  refine ⟨by decide, houtputs, ?_⟩
  rw [houtputs]
  decide

end SoloDesk

end DisplayServer
