import DisplayServer.Proofs.ControllerRuns
import DisplayServer.Proofs.Runs

/-!
# The cursor tells what a press would do

A controller remembers the shape that the cursor took last, and asks for another one only when the
mouse hovers over an area of another shape (`Controller.hover_cases`). Nothing else that reaches a
controller speaks to the cursor (`Controller.SparesCursor`). So what is remembered is what the
cursor accepted last, whatever it refused in between.

The shape is that of the area that a press at the same place takes hold of: hovering and pressing
classify the point on their own, but by the same zones, for the same device and at the same pixel
ratio. The usual shape stands for no area, and only for it.
-/

namespace DisplayServer

/-- The shape that an output asks the cursor to take, if it is such a request. -/
def ControllerOutput.shape? : ControllerOutput → Option CursorStyle
  | .cursor style => some style
  | _ => none

theorem Area.cursor_eq_standard_iff {area : Area} :
    area.dragKind.cursor = .standard ↔ area = .undefined := by
  cases area <;> decide

namespace Controller

variable {c : Controller}

/-! ## Hovering -/

/-- The shape of the area that the mouse is over. -/
def shapeUnder (c : Controller) (e : PointerEvent) (rect : Rect) (pixelRatio : Option Float32) :
    CursorStyle :=
  (c.hotZone.classify e.inWindow rect.width rect.height .mouse
    (pixelRatio.getD c.fallbackRatio)).dragKind.cursor

/-- Which shape a place has was settled when the controller was made. -/
theorem shapeUnder_take (c : Controller) (i : Input) :
    (c.take i).controller.shapeUnder = c.shapeUnder := by
  have hzone := congrArg hotZone (c.asMade_take i)
  have hratio := congrArg fallbackRatio (c.asMade_take i)
  simp only [asMade, make] at hzone hratio
  unfold shapeUnder
  rw [hzone, hratio]

theorem shapes_iff {e : PointerEvent} :
    c.shapes e = true ↔ e.source = .mouse ∧
      (e.action = .move ∨ e.action = .buttonDown ∨ e.action = .buttonUp) ∧
        c.phase ≠ .dragging ∧ c.shapesCursor = true := by
  simp [shapes, PointerEvent.isMouse, and_assoc, or_assoc]

/-- A hovering mouse is passed over, or asks for the shape of the area that it is over. -/
theorem hover_cases (c : Controller) (e : PointerEvent) (rect : Rect)
    (pixelRatio : Option Float32) (taken : Bool) :
    c.hover e rect pixelRatio taken = c.pass false ∧
        (c.shapes e = true → c.shapeUnder e rect pixelRatio = c.cursor) ∨
      c.shapes e = true ∧ c.shapeUnder e rect pixelRatio ≠ c.cursor ∧
        c.hover e rect pixelRatio taken =
          ⟨taken, if taken then { c with cursor := c.shapeUnder e rect pixelRatio } else c,
            [.cursor (c.shapeUnder e rect pixelRatio)]⟩ := by
  unfold hover
  cases hshapes : c.shapes e with
  | false => exact .inl ⟨rfl, nofun⟩
  | true =>
    rw [if_neg (by decide)]
    by_cases hsame : c.shapeUnder e rect pixelRatio = c.cursor
    · exact .inl ⟨if_pos hsame, fun _ => hsame⟩
    · exact .inr ⟨rfl, hsame, if_neg hsame⟩

/-- What has to be the case when the cursor is asked for a shape. -/
structure AsksFor (c : Controller) (i : Input) (style : CursorStyle) : Prop where
  /-- The cursor is not asked for the shape that it took last. -/
  new : style ≠ c.cursor
  /-- It keeps its shape during a resize. -/
  phase : c.phase ≠ .dragging
  hovers : ∃ e rect pixelRatio taken, i = .hover e rect pixelRatio taken ∧ e.source = .mouse ∧
    (e.action = .move ∨ e.action = .buttonDown ∨ e.action = .buttonUp)

theorem asksFor_of_mem {i : Input} {style : CursorStyle}
    (h : .cursor style ∈ (c.take i).outputs) : c.AsksFor i style := by
  by_cases hi : ∀ e rect pixelRatio taken, i ≠ .hover e rect pixelRatio taken
  · exact absurd h ((sparesCursor_take c hi).outputs style)
  · simp only [not_forall, ne_eq, not_not] at hi
    obtain ⟨e, rect, pixelRatio, taken, rfl⟩ := hi
    replace h : .cursor style ∈ (c.hover e rect pixelRatio taken).outputs := h
    rcases hover_cases c e rect pixelRatio taken with ⟨heq, -⟩ | ⟨hshapes, hnew, heq⟩
    · rw [heq] at h
      cases h
    · rw [heq] at h
      obtain ⟨hsource, haction, hphase, -⟩ := shapes_iff.mp hshapes
      have hstyle := ControllerOutput.cursor.inj (List.mem_singleton.mp h)
      exact ⟨hstyle ▸ hnew, hphase, e, rect, pixelRatio, taken, rfl, hsource, haction⟩

/-- The answer says whether the cursor was asked and took the shape. -/
theorem result_hover_iff {e : PointerEvent} {rect : Rect} {pixelRatio : Option Float32}
    {taken : Bool} :
    (c.hover e rect pixelRatio taken).result = true ↔
      taken = true ∧ ∃ style, .cursor style ∈ (c.hover e rect pixelRatio taken).outputs := by
  rcases hover_cases c e rect pixelRatio taken with ⟨heq, -⟩ | ⟨-, -, heq⟩
  · rw [heq]
    simp [pass]
  · rw [heq]
    simp

/-- Where the cursor takes every shape, it has that of the area afterwards. -/
theorem cursor_hover_taken {e : PointerEvent} (hshapes : c.shapes e = true) (rect : Rect)
    (pixelRatio : Option Float32) :
    (c.hover e rect pixelRatio true).controller.cursor = c.shapeUnder e rect pixelRatio := by
  rcases hover_cases c e rect pixelRatio true with ⟨heq, hsame⟩ | ⟨-, -, heq⟩
  · rw [heq]
    exact (hsame hshapes).symm
  · rw [heq]
    rfl

/-! ## Pressing -/

/-- What a press of the left button does, said by a shape of the cursor. -/
structure Foretold (style : CursorStyle) (s : Step Bool) : Prop where
  /-- The usual shape says that no resize starts. -/
  standard_iff : style = .standard ↔ s.controller.phase ≠ .dragging
  /-- Any other is the shape of the area that the resize takes hold of. -/
  held : s.controller.phase = .dragging → ∃ g, s.controller.gesture = some g ∧
    style = g.area.dragKind.cursor
  result : s.result = true ↔ s.controller.phase = .dragging

/-- The left button of a mouse goes down. -/
structure Presses (e : PointerEvent) : Prop where
  source : e.source = .mouse
  button : e.button = .left
  action : e.action = .buttonDown

theorem dragEvent_of_presses (hc : Consistent c) (hidle : c.phase = .idle)
    (harmed : c.moveArmed = false) {e : PointerEvent} (he : Presses e) (w : WindowContext) :
    c.dragEvent e w = c.startDrag e w := by
  have haccepts : c.accepts e = true := by
    rw [accepts, hc.held.mpr hidle]
  simp [dragEvent, harmed, hidle, PointerEvent.isIdleMouse, he.button, haccepts, he.action,
    PointerAction.isDown]

/-- The shape of the area under a press foretells what the press does. -/
theorem foretold_dragEvent (hc : Consistent c) (hidle : c.phase = .idle)
    (harmed : c.moveArmed = false) {e : PointerEvent} (he : Presses e) (w : WindowContext) :
    Foretold (c.shapeUnder e w.rect w.pixelRatio) (c.dragEvent e w) := by
  rw [dragEvent_of_presses hc hidle harmed he, startDrag, if_neg (by rw [hidle]; decide)]
  unfold shapeUnder
  simp only [he.source]
  split
  · rename_i harea
    refine ⟨iff_of_true ?_ ?_, ?_, iff_of_false Bool.false_ne_true ?_⟩
    · rw [harea]
      rfl
    · simp [pass, hidle]
    · simp [pass, hidle]
    · simp [pass, hidle]
  · rename_i harea
    refine ⟨iff_of_false ?_ (fun hphase => hphase rfl), fun _ => ⟨_, rfl, ?_⟩, iff_of_true rfl rfl⟩
    · rw [Area.cursor_eq_standard_iff]
      exact harea
    · simp

end Controller

namespace SoloDesk

open Controller (Input AsksFor Foretold Presses)

/-- The shapes that the cursor takes on an input: what it is asked for, if it is willing. -/
def shapesTaken (d : SoloDesk) (i : Input) : List CursorStyle :=
  match i with
  | .hover _ _ _ true => (d.take i).outputs.filterMap ControllerOutput.shape?
  | _ => []

variable {d : SoloDesk} {i : Input}

theorem not_mem_outputs_frame (d : SoloDesk) (style : CursorStyle) :
    .cursor style ∉ d.frame.outputs := by
  refine frame_induction (fun s => .cursor style ∉ s.outputs) List.not_mem_nil fun s hs hmem => ?_
  rcases List.mem_append.mp hmem with hmem | hmem
  · exact hs hmem
  · exact (Controller.SparesCursor.onFrame s.desk.controller).outputs style
      (List.mem_of_mem_filter hmem)

/-- What the cursor is asked on a desk, its controller asks for. -/
theorem mem_outputs_take {style : CursorStyle} (h : .cursor style ∈ (d.take i).outputs) :
    .cursor style ∈ (d.controller.take i).outputs := by
  by_cases hi : i = .frame
  · subst hi
    exact absurd h (not_mem_outputs_frame d style)
  · rw [take_of_ne_frame d hi] at h
    exact List.mem_of_mem_filter h

theorem cursor_frame (d : SoloDesk) :
    (d.perform .frame).controller.cursor = d.controller.cursor :=
  controller_frame (fun c => c.cursor = d.controller.cursor) (fun _ hc => hc) rfl

/-- After each input, the remembered shape is the last one that the cursor took. -/
theorem getLastD_shapesTaken (d : SoloDesk) (i : Input) :
    (d.shapesTaken i).getLastD d.controller.cursor = (d.perform i).controller.cursor := by
  cases i with
  | frame => exact d.cursor_frame.symm
  | hover e rect pixelRatio taken =>
    have hcontroller : (d.perform (.hover e rect pixelRatio taken)).controller =
        (d.controller.hover e rect pixelRatio taken).controller := rfl
    have houtputs : (d.take (.hover e rect pixelRatio taken)).outputs =
        (d.controller.hover e rect pixelRatio taken).outputs.filter (· ≠ .frameRequest) := rfl
    rw [hcontroller]
    rcases Controller.hover_cases d.controller e rect pixelRatio taken with
      ⟨heq, -⟩ | ⟨-, -, heq⟩
    · rw [heq] at houtputs ⊢
      cases taken <;> simp [shapesTaken, houtputs, Controller.pass]
    · rw [heq] at houtputs ⊢
      cases taken <;> simp [shapesTaken, houtputs, ControllerOutput.shape?]
  | _ =>
    exact (Controller.sparesCursor_take d.controller fun _ _ _ _ h => by cases h).cursor.symm

/-- What holds of the cursor after a run. -/
structure CursorTells (start : SoloDesk) (run : List Input) : Prop where
  /-- The remembered shape is the last one that the cursor took, the usual one before any. -/
  remembered : (start.after run).controller.cursor =
    (collect perform shapesTaken start run).getLastD .standard
  /-- The cursor is asked for new shapes only, and by a hovering mouse. -/
  asked : ∀ i style, .cursor style ∈ ((start.after run).take i).outputs →
    (start.after run).controller.AsksFor i style
  /-- The answer says whether the cursor was asked and took the shape. -/
  answered : ∀ e rect pixelRatio taken,
    let s := (start.after run).control (·.hover e rect pixelRatio taken)
    s.result = true ↔ taken = true ∧ ∃ style, .cursor style ∈ s.outputs
  /-- Between gestures, the shape after a press that the cursor was told of says what the resize
  makes of the press, whichever of the two hears of it first. -/
  foretells : (start.after run).controller.phase = .idle →
    (start.after run).controller.moveArmed = false → ∀ e w, Presses e →
      let c := (start.after run).controller
      let hovered := (c.hover e w.rect w.pixelRatio true).controller
      Foretold hovered.cursor (c.dragEvent e w) ∧ Foretold hovered.cursor (hovered.dragEvent e w)

variable (window : SessionId) (hotZone : HotZone) (ratio : Float32)

/-- **The cursor tells the truth**, after every run of a controller that can ask for shapes,
whichever of them the cursor refuses. -/
theorem cursor_tells (run : List Input) : (fresh window hotZone ratio true).CursorTells run where
  remembered :=
    (getLastD_collect getLastD_shapesTaken (fresh window hotZone ratio true) run).symm
  asked := fun _ _ h => Controller.asksFor_of_mem (mem_outputs_take h)
  answered := by
    intro e rect pixelRatio taken s
    have hresult : s.result = true ↔ _ := Controller.result_hover_iff
    refine hresult.trans (and_congr_right fun _ => exists_congr fun style => ?_)
    show _ ↔ _ ∈ List.filter _ _
    simp
  foretells := by
    intro hidle harmed e w he c hovered
    have hc : c.Consistent := consistent_after window hotZone ratio true run
    have hu : c.Undisturbed hovered := Controller.undisturbed_hover c e w.rect w.pixelRatio true
    have hshapesCursor : c.shapesCursor = true :=
      congrArg Controller.shapesCursor (asMade_after window hotZone ratio true run)
    have hshapes : c.shapes e = true :=
      Controller.shapes_iff.mpr ⟨he.source, .inr (.inl he.action), by rw [hidle]; decide,
        hshapesCursor⟩
    have hshape : hovered.cursor = c.shapeUnder e w.rect w.pixelRatio :=
      Controller.cursor_hover_taken hshapes w.rect w.pixelRatio
    have hsame : hovered.shapeUnder = c.shapeUnder :=
      c.shapeUnder_take (.hover e w.rect w.pixelRatio true)
    refine ⟨?_, ?_⟩
    · rw [hshape]
      exact Controller.foretold_dragEvent hc hidle harmed he w
    · rw [hshape, ← hsame]
      exact Controller.foretold_dragEvent (hc.undisturbed hu) (hu.phase.trans hidle)
        (hu.armed.trans harmed) he w

-- the cursor refuses the shape of a corner, is asked again, and takes it once
example :
    let e := PointerEvent.mouse .move .none ⟨103, 103⟩ ⟨3, 3⟩
    let corner (taken : Bool) : Input := .hover e ⟨100, 100, 1000, 800⟩ none taken
    (fresh ⟨3⟩ .standard 1 true).told [corner false, corner true, corner true] =
        [.cursor .northWestSouthEast, .cursor .northWestSouthEast] ∧
      collect perform shapesTaken (fresh ⟨3⟩ .standard 1 true)
        [corner false, corner true, corner true] = [.northWestSouthEast] := by
  decide

end SoloDesk

end DisplayServer
