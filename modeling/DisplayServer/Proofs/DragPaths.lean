import DisplayServer.Proofs.ControllerRuns

/-!
# A resize forgets the way that the pointer took

Every sample of the pointer changes the gesture, but two things only: the target, and the leading
axis with the travel limits that come with it. The target is computed anew each time and never
read. The axis is chosen once and for all. So a resize is told by what it started with and by its
axis (`Gesture.Continues`), and the rectangle that it asks for is told by these two and the last
position of the pointer.

A free resize has no axis to choose, and an edge leads along its own axis whatever the pointer
does. Only the way that a corner is first pulled can still be seen in what it asks for later.
-/

namespace DisplayServer

/-- A single side is held. -/
def Area.IsEdge (area : Area) : Prop :=
  area = .left ∨ area = .top ∨ area = .right ∨ area = .bottom

/-- An edge leads along one axis, whatever the travel. -/
theorem Area.IsEdge.leads {area : Area} (h : area.IsEdge) :
    ∃ axis, ∀ d, area.leadingAxis? d = some axis := by
  rcases h with rfl | rfl | rfl | rfl
  · exact ⟨.x, fun _ => rfl⟩
  · exact ⟨.y, fun _ => rfl⟩
  · exact ⟨.x, fun _ => rfl⟩
  · exact ⟨.y, fun _ => rfl⟩

/-- What is chosen is one of the two axes. -/
theorem Area.ne_undefined_of_leadingAxis? {area : Area} {d : Point} {axis : Axis}
    (h : area.leadingAxis? d = some axis) : axis ≠ .undefined := by
  rintro rfl
  unfold leadingAxis? at h
  split at h
  · cases h
  · cases h
  · cases h
  · cases h
  · split at h
    · cases h
    · split at h <;> cases h

namespace Gesture

variable {start g g' : Gesture} {p : Point}

/-! ## One sample -/

/-- The gesture once a sample has chosen the axis, if there is one to choose. -/
def steered (g : Gesture) (p : Point) : Gesture :=
  if g.isFixed then g.lead (g.grip.travel p) else g

/-- The rectangle that the pointer asks for at a position, under the axis that leads. -/
def asked (g : Gesture) (p : Point) : Rect :=
  if g.isFixed then
    if g.axis = .undefined then g.grip.initial
    else g.area.fixedTarget g.axis (g.grip.travel p) g.aspectRatio g.grip.initial g.travel
  else g.area.freeTarget (g.grip.travel p) g.grip.initial g.travel g.limits

@[simp] theorem aspectRatio_lead (g : Gesture) (d : Point) :
    (g.lead d).aspectRatio = g.aspectRatio := by
  unfold lead
  split
  · split <;> rfl
  · rfl

@[simp] theorem isFixed_lead (g : Gesture) (d : Point) : (g.lead d).isFixed = g.isFixed := by
  rw [isFixed, aspectRatio_lead, isFixed]

/-- A sample chooses the axis first and aims then. -/
theorem dragTo_eq (g : Gesture) (p : Point) :
    g.dragTo p = (g.steered p).aim ((g.steered p).asked p) := by
  unfold dragTo steered asked
  cases hfixed : g.isFixed with
  | false => simp [hfixed]
  | true =>
    simp only [if_true, isFixed_lead, hfixed, grip_lead]
    split <;> rfl

theorem axis_dragTo (g : Gesture) (p : Point) : (g.dragTo p).axis = (g.steered p).axis := by
  rw [dragTo_eq]
  rfl

/-- The old target is not read. -/
@[simp] theorem asked_aim (g : Gesture) (r : Rect) (p : Point) : (g.aim r).asked p = g.asked p :=
  rfl

/-! ## What a resize is told by -/

/-- The travel limits under a leading axis, of a resize that started without one. -/
def travelUnder (start : Gesture) (axis : Axis) : TravelLimits :=
  if axis = .undefined then start.travel
  else
    .fixed start.area start.grip.initial
      (start.limits.tightened start.decoration start.aspectRatio)

/-- The resize is what `start` has become: only the leading axis, the travel limits that come with
it, and the target may differ. -/
structure Continues (start g : Gesture) : Prop where
  grip : g.grip = { start.grip with target := g.grip.target }
  area : g.area = start.area
  ratio : g.aspectRatio = start.aspectRatio
  limits : g.limits = start.limits
  decoration : g.decoration = start.decoration
  travel : g.travel = start.travelUnder g.axis

namespace Continues

theorem refl (h : start.axis = .undefined) : start.Continues start where
  grip := rfl
  area := rfl
  ratio := rfl
  limits := rfl
  decoration := rfl
  travel := by rw [travelUnder, if_pos h]

theorem initial (h : start.Continues g) : g.grip.initial = start.grip.initial := by
  rw [h.grip]

theorem isFixed (h : start.Continues g) : g.isFixed = start.isFixed := by
  rw [Gesture.isFixed, h.ratio, Gesture.isFixed]

theorem aim (h : start.Continues g) (r : Rect) : start.Continues (g.aim r) where
  grip := by
    show { g.grip with target := r } = _
    rw [h.grip]
    rfl
  area := h.area
  ratio := h.ratio
  limits := h.limits
  decoration := h.decoration
  travel := h.travel

theorem lead (h : start.Continues g) (d : Point) : start.Continues (g.lead d) := by
  unfold Gesture.lead
  split
  · split
    · exact h
    · rename_i axis hchosen
      have haxis := Area.ne_undefined_of_leadingAxis? hchosen
      refine ⟨h.grip, h.area, h.ratio, h.limits, h.decoration, ?_⟩
      show TravelLimits.fixed g.area g.grip.initial _ = start.travelUnder axis
      rw [travelUnder, if_neg haxis, h.area, h.initial, h.limits, h.decoration, h.ratio]
  · exact h

theorem steered (h : start.Continues g) (p : Point) : start.Continues (g.steered p) := by
  unfold Gesture.steered
  split
  · exact h.lead _
  · exact h

theorem dragTo (h : start.Continues g) (p : Point) : start.Continues (g.dragTo p) := by
  rw [dragTo_eq]
  exact (h.steered p).aim _

/-- Two stages of a resize under one axis differ in the target alone. -/
theorem aim_eq_aim (h : start.Continues g) (h' : start.Continues g') (haxis : g.axis = g'.axis)
    (r : Rect) : g.aim r = g'.aim r := by
  have hgrip : { g.grip with target := r } = { g'.grip with target := r } := by
    rw [h.grip, h'.grip]
  have htravel : g.travel = g'.travel := by rw [h.travel, h'.travel, haxis]
  unfold Gesture.aim
  rw [hgrip, h.area.trans h'.area.symm, haxis, h.ratio.trans h'.ratio.symm,
    h.limits.trans h'.limits.symm, h.decoration.trans h'.decoration.symm, htravel]

/-- **Where a resize gets to is told by its axis and the last position of the pointer.** -/
theorem dragTo_eq_dragTo (h : start.Continues g) (h' : start.Continues g')
    (haxis : (g.dragTo p).axis = (g'.dragTo p).axis) : g.dragTo p = g'.dragTo p := by
  rw [axis_dragTo, axis_dragTo] at haxis
  have hsame := (h.steered p).aim_eq_aim (h'.steered p) haxis
  have hasked : (g.steered p).asked p = (g'.steered p).asked p := by
    rw [← asked_aim (g.steered p) .zero, hsame .zero, asked_aim]
  rw [dragTo_eq, dragTo_eq, hasked, hsame]

end Continues

/-! ## The axis -/

theorem lead_of_axis (h : g.axis ≠ .undefined) (d : Point) : g.lead d = g := if_neg h

/-- The axis is chosen once, and so are the travel limits. -/
theorem latched_dragTo (h : g.axis ≠ .undefined) (p : Point) :
    (g.dragTo p).axis = g.axis ∧ (g.dragTo p).travel = g.travel := by
  have hsteered : g.steered p = g := by
    unfold steered
    rw [lead_of_axis h, ite_self]
  rw [dragTo_eq, hsteered]
  exact ⟨rfl, rfl⟩

/-- Without a ratio to keep there is no axis to choose. -/
theorem axis_dragTo_of_free (h : g.isFixed = false) (p : Point) : (g.dragTo p).axis = g.axis := by
  rw [axis_dragTo, steered, h]
  rfl

/-- An area that leads along one axis does so from the first sample on. -/
theorem axis_dragTo_of_leads {axis : Axis} (hfixed : g.isFixed = true)
    (hleads : ∀ d, g.area.leadingAxis? d = some axis) (haxis : g.axis = .undefined ∨ g.axis = axis)
    (p : Point) : (g.dragTo p).axis = axis := by
  rw [axis_dragTo, steered, if_pos hfixed]
  by_cases hnone : g.axis = .undefined
  · rw [lead, if_pos hnone, hleads]
  · rw [lead_of_axis hnone]
    exact haxis.resolve_left hnone

/-! ## A sequence of samples -/

/-- The gesture after the pointer went through the positions. -/
def along (g : Gesture) (ps : List Point) : Gesture := ps.foldl dragTo g

theorem along_concat (g : Gesture) (ps : List Point) (p : Point) :
    g.along (ps ++ [p]) = (g.along ps).dragTo p := by
  rw [along, List.foldl_append]
  rfl

theorem along_append (g : Gesture) (ps qs : List Point) :
    g.along (ps ++ qs) = (g.along ps).along qs :=
  List.foldl_append

theorem Continues.along (h : start.Continues g) (ps : List Point) :
    start.Continues (g.along ps) := by
  induction ps generalizing g with
  | nil => exact h
  | cons p rest ih => exact ih (h.dragTo p)

theorem latched_along (h : g.axis ≠ .undefined) (ps : List Point) :
    (g.along ps).axis = g.axis ∧ (g.along ps).travel = g.travel := by
  induction ps generalizing g with
  | nil => exact ⟨rfl, rfl⟩
  | cons p rest ih =>
    obtain ⟨haxis, htravel⟩ := latched_dragTo h p
    obtain ⟨haxis', htravel'⟩ := ih (g := g.dragTo p) (by rw [haxis]; exact h)
    exact ⟨haxis'.trans haxis, htravel'.trans htravel⟩

/-- A free resize never chooses an axis. -/
theorem axis_along_of_free (hfree : start.isFixed = false) (hstart : start.axis = .undefined)
    (ps : List Point) : (start.along ps).axis = .undefined := by
  induction ps using List.reverseRecOn with
  | nil => exact hstart
  | append_singleton before p ih =>
    have hcontinues : start.Continues (start.along before) := (Continues.refl hstart).along before
    rw [along_concat, axis_dragTo_of_free (hcontinues.isFixed.trans hfree), ih]

/-- From the first sample on, the axis of an edge is its own. -/
theorem axis_along_of_leads {axis : Axis} (hfixed : start.isFixed = true)
    (hleads : ∀ d, start.area.leadingAxis? d = some axis) (hstart : start.axis = .undefined)
    (ps : List Point) (p : Point) : (start.along (ps ++ [p])).axis = axis := by
  have hstep : ∀ qs, (start.along qs).axis = .undefined ∨ (start.along qs).axis = axis →
      ∀ q, (start.along (qs ++ [q])).axis = axis := by
    intro qs haxis q
    have hcontinues : start.Continues (start.along qs) := (Continues.refl hstart).along qs
    rw [along_concat]
    refine axis_dragTo_of_leads (hcontinues.isFixed.trans hfixed) ?_ haxis q
    rw [hcontinues.area]
    exact hleads
  induction ps using List.reverseRecOn generalizing p with
  | nil => exact hstep [] (.inl hstart) p
  | append_singleton before q ih => exact hstep (before ++ [q]) (.inr (ih q)) p

/-- What holds of a resize whatever way the pointer takes. -/
structure PathFree (g : Gesture) : Prop where
  /-- Two ways to the same position, after which the same axis leads, end at the same rectangle. -/
  target : ∀ ps qs p, (g.along (ps ++ [p])).axis = (g.along (qs ++ [p])).axis →
    (g.along (ps ++ [p])).grip.target = (g.along (qs ++ [p])).grip.target
  /-- The same axis leads after any two ways, if the resize is free or an edge is held. -/
  axis : g.isFixed = false ∨ g.area.IsEdge → ∀ ps qs p,
    (g.along (ps ++ [p])).axis = (g.along (qs ++ [p])).axis
  /-- Of what was taken hold of, the initial rectangle with it, only the target changes. -/
  grip : ∀ ps, (g.along ps).grip = { g.grip with target := (g.along ps).grip.target }
  area : ∀ ps, (g.along ps).area = g.area
  limits : ∀ ps, (g.along ps).limits = g.limits
  ratio : ∀ ps, (g.along ps).aspectRatio = g.aspectRatio
  /-- The axis is chosen once, and the travel limits with it. -/
  latched : ∀ ps qs, (g.along ps).axis ≠ .undefined →
    (g.along (ps ++ qs)).axis = (g.along ps).axis ∧
      (g.along (ps ++ qs)).travel = (g.along ps).travel

/-- **A resize forgets the way that the pointer took**, but for the axis that a corner was first
pulled along. -/
theorem pathFree_ofDrag (grip : Grip) (area : Area) (ratio : Float32) (limits : WindowLimits)
    (decoration : Option Decoration) (pixelRatio : Float32) :
    (ofDrag grip area ratio limits decoration pixelRatio).PathFree := by
  obtain ⟨start, hstart⟩ :
      ∃ start, start = ofDrag grip area ratio limits decoration pixelRatio := ⟨_, rfl⟩
  rw [← hstart]
  have haxis : start.axis = .undefined := by
    rw [hstart, ofDrag]
    split <;> rfl
  have hcontinues : ∀ ps, start.Continues (start.along ps) := (Continues.refl haxis).along
  refine ⟨?_, ?_, fun ps => (hcontinues ps).grip, fun ps => (hcontinues ps).area,
    fun ps => (hcontinues ps).limits, fun ps => (hcontinues ps).ratio, ?_⟩
  · intro ps qs p hsame
    rw [along_concat, along_concat] at hsame ⊢
    rw [(hcontinues ps).dragTo_eq_dragTo (hcontinues qs) hsame]
  · intro hcase ps qs p
    cases hfixed : start.isFixed with
    | false => rw [axis_along_of_free hfixed haxis, axis_along_of_free hfixed haxis]
    | true =>
      have hedge : start.area.IsEdge := hcase.resolve_left (by rw [hfixed]; decide)
      obtain ⟨axis, hleads⟩ := hedge.leads
      rw [axis_along_of_leads hfixed hleads haxis, axis_along_of_leads hfixed hleads haxis]
  · intro ps qs hchosen
    rw [along_append]
    exact latched_along hchosen qs

/-- A corner that is first pulled across ends elsewhere than one that is first pulled down. -/
example :
    let start := ofDrag (.hold 0 .mouse .origin .origin ⟨0, 0, 400, 200⟩) .leftTop 2 .unrestricted
      none 1
    (start.along [⟨-100, 0⟩, ⟨-100, -100⟩]).grip.target = ⟨-100, -50, 500, 250⟩ ∧
      (start.along [⟨0, -100⟩, ⟨-100, -100⟩]).grip.target = ⟨-200, -100, 600, 300⟩ := by
  decide +kernel

end Gesture

end DisplayServer
