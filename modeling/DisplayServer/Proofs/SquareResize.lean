import DisplayServer.Proofs.FixedResize
import DisplayServer.Proofs.Interrupts
import DisplayServer.Proofs.RatioSnap

/-!
# A resize at ratio one keeps the window square

At ratio one the axis that follows travels as far as the one that leads, as long as the travel has
no more digits than a measure. Three things keep the window square then: the limits are tightened
to the same ones on both axes (`WindowLimits.tightened_one`), the window is brought to a square
when the resize starts (`Rect.heldTo_one`), and the sign of the axis that follows lets both sizes
grow or both shrink (`Area.growth_follow_one`). The first two are what a run keeps
(`Gesture.Squaring`), and every rectangle that it asks for follows from them and the third.
-/

namespace DisplayServer

/-! ## Ratio one changes no pixels -/

namespace Measure

/-- The pixels have no more digits than a measure, or are the most that there are. -/
def Exact (n : Int) : Prop := n.natAbs ≤ 2 ^ 24 ∨ n = Pixel.greatest

variable {n : Int}

theorem exact_of_pos (hpos : 1 ≤ n) (hn : n ≤ 2 ^ 24 ∨ n = Pixel.greatest) : Exact n :=
  hn.imp_left fun _ => by omega

theorem Exact.toPixels_ofPixels (h : Exact n) : toPixels (ofPixels n) = n := by
  rcases h with h | rfl
  · exact Measure.toPixels_ofPixels h
  · exact toPixels_ofPixels_greatest

theorem Exact.times_one (h : Exact n) : toPixels (ofPixels n * 1) = n := by
  rw [Measure.times_one, h.toPixels_ofPixels]

theorem Exact.over_one (h : Exact n) : toPixels (ofPixels n / 1) = n := by
  rw [Measure.over_one, h.toPixels_ofPixels]

end Measure

/-! ## Limits of squares -/

namespace WindowLimits

/-- The least side of a square within the limits. -/
def leastSide (limits : WindowLimits) : Int := max limits.minWidth limits.minHeight

/-- The greatest side of a square within the limits. -/
def greatestSide (limits : WindowLimits) : Int := min limits.maxWidth limits.maxHeight

/-- The limits with the same sides on both axes. -/
def squared (limits : WindowLimits) : WindowLimits :=
  { limits with
    minWidth := limits.leastSide, maxWidth := limits.greatestSide
    minHeight := limits.leastSide, maxHeight := limits.greatestSide }

/-- Some square is within the limits, which have no more digits than a measure. -/
structure AllowSquares (limits : WindowLimits) : Prop where
  minWidth : 1 ≤ limits.minWidth
  minHeight : 1 ≤ limits.minHeight
  fine : limits.Fine
  room : limits.leastSide ≤ limits.greatestSide

variable {limits : WindowLimits}

namespace AllowSquares

variable (h : limits.AllowSquares)
include h

theorem proper : limits.Proper where
  minWidth := h.minWidth
  width := (le_max_left _ _).trans (h.room.trans (min_le_left _ _))
  maxWidth := by
    have := h.fine.maxWidth
    unfold Pixel.greatest at this ⊢
    omega
  minHeight := h.minHeight
  height := (le_max_right _ _).trans (h.room.trans (min_le_right _ _))
  maxHeight := by
    have := h.fine.maxHeight
    unfold Pixel.greatest at this ⊢
    omega

theorem proper_squared : limits.squared.Proper where
  minWidth := h.minWidth.trans (le_max_left _ _)
  width := h.room
  maxWidth := (min_le_left _ _).trans h.proper.maxWidth
  minHeight := h.minWidth.trans (le_max_left _ _)
  height := h.room
  maxHeight := (min_le_left _ _).trans h.proper.maxWidth

end AllowSquares

theorem saturate_of_pos {n : Int} (hpos : 1 ≤ n) (hle : n ≤ Pixel.greatest) :
    Pixel.saturate n = n :=
  Pixel.saturate_eq_self (by unfold Pixel.least; omega) hle

/-- Without decoration the content has the limits of the window. -/
theorem saturate_bounds {low high : Int} (hlow : 1 ≤ low) (hle : low ≤ high)
    (hhigh : high ≤ Pixel.greatest) :
    max (Pixel.saturate low) 1 = low ∧ max (Pixel.saturate high) low = high := by
  rw [saturate_of_pos hlow (hle.trans hhigh), saturate_of_pos (hlow.trans hle) hhigh]
  exact ⟨max_eq_left hlow, max_eq_left hle⟩

/-- At ratio one both axes get the limits of squares. -/
theorem tightened_one (h : limits.AllowSquares) : limits.tightened none 1 = limits.squared := by
  have hproper := h.proper
  obtain ⟨hminWidth, hmaxWidth⟩ :=
    saturate_bounds hproper.minWidth hproper.width hproper.maxWidth
  obtain ⟨hminHeight, hmaxHeight⟩ :=
    saturate_bounds hproper.minHeight hproper.height hproper.maxHeight
  have hminWidth' := Measure.exact_of_pos hproper.minWidth (.inl h.fine.minWidth)
  have hmaxWidth' := Measure.exact_of_pos (hproper.minWidth.trans hproper.width) h.fine.maxWidth
  have hminHeight' := Measure.exact_of_pos hproper.minHeight (.inl h.fine.minHeight)
  have hmaxHeight' := Measure.exact_of_pos (hproper.minHeight.trans hproper.height) h.fine.maxHeight
  have hleast : Pixel.saturate (max limits.minWidth limits.minHeight) = limits.leastSide :=
    saturate_of_pos h.proper_squared.minWidth (h.room.trans h.proper_squared.maxWidth)
  have hgreatest : Pixel.saturate (min limits.maxWidth limits.maxHeight) = limits.greatestSide :=
    saturate_of_pos (h.proper_squared.minWidth.trans h.room) h.proper_squared.maxWidth
  have hratio : ¬ Measure.nearZero 1 = true := by decide
  unfold tightened
  simp only [if_neg hratio, Option.getD_none, Int.sub_zero, Int.add_zero, hminWidth, hmaxWidth,
    hminHeight, hmaxHeight, hminWidth'.over_one, hmaxWidth'.over_one, hminHeight'.times_one,
    hmaxHeight'.times_one]
  rw [max_comm limits.minHeight, min_comm limits.maxHeight, hleast, hgreatest]
  rfl

end WindowLimits

namespace Rect

/-- The rectangle is a square within the limits. -/
structure SquareIn (r : Rect) (limits : WindowLimits) : Prop where
  sides : r.width = r.height
  legal : limits.leastSide ≤ r.width ∧ r.width ≤ limits.greatestSide

variable {r : Rect} {limits : WindowLimits}

theorem SquareIn.sized (hr : r.SquareIn limits) (h : limits.AllowSquares) : r.Sized := by
  have hlow := h.proper_squared.minWidth.trans hr.legal.1
  have hhigh := hr.legal.2.trans h.proper_squared.maxWidth
  have hsides := hr.sides
  exact ⟨⟨by omega, hhigh⟩, by omega, by omega⟩

/-- The rectangle is brought to the square of its width, as far as the limits allow. -/
theorem heldTo_one (h : limits.AllowSquares) (hwidth : 1 ≤ r.width) (hheight : 1 ≤ r.height)
    (hfine : r.width ≤ 2 ^ 24) : (r.heldTo limits none 1).SquareIn limits := by
  have hheld : ¬ r.Unheld none 1 := by
    rintro (hratio | hempty | hempty)
    · exact absurd hratio (by decide)
    · exact absurd hempty (Int.not_le.mpr hwidth)
    · exact absurd hempty (Int.not_le.mpr hheight)
  obtain ⟨side, hside⟩ : ∃ side, side = bound limits.leastSide limits.greatestSide r.width :=
    ⟨_, rfl⟩
  have hroom := h.room
  have hlow : 1 ≤ limits.leastSide := h.proper_squared.minWidth
  have hhigh : limits.leastSide ≤ 2 ^ 24 := max_le h.fine.minWidth h.fine.minHeight
  have hlegal : limits.leastSide ≤ side ∧ side ≤ limits.greatestSide := by
    unfold bound at hside
    omega
  have hexact : Measure.Exact side := by
    unfold bound at hside
    exact .inl (by omega)
  have hsize : limits.sizeAt none 1 r.width = (side, side) := by
    unfold WindowLimits.sizeAt
    simp only [Option.getD_none, WindowLimits.tightened_one h, WindowLimits.squared, ← hside,
      Int.sub_zero, Int.add_zero, hexact.over_one]
    rw [if_neg (by simpa using hlegal)]
  rw [heldTo_of_not_unheld hheld, hsize]
  exact ⟨rfl, hlegal⟩

end Rect

/-! ## One target -/

/-- The travel has no more digits than a measure. -/
structure Point.Exact (d : Point) : Prop where
  x : d.x.natAbs ≤ 2 ^ 24
  y : d.y.natAbs ≤ 2 ^ 24

namespace Area

variable {area : Area} {axis : Axis} {d : Point} {r : Rect} {limits : WindowLimits}

/-- At ratio one the sizes grow alike. -/
theorem growth_follow_one (harea : area ≠ .undefined) (haxis : axis ≠ .undefined) (hd : d.Exact) :
    area.firmAcross.growth * (area.follow axis d 1).x =
      area.firmDown.growth * (area.follow axis d 1).y := by
  have hacross : area.firmAcross.growth * area.correlation = area.firmDown.growth := by
    rw [correlation_eq harea, ← mul_assoc, Hold.growth_mul_self area.firmAcross_ne_loose, one_mul]
  have hdown : area.firmDown.growth * area.correlation = area.firmAcross.growth := by
    rw [correlation_eq harea, mul_left_comm, Hold.growth_mul_self area.firmDown_ne_loose, mul_one]
  cases axis with
  | undefined => exact absurd rfl haxis
  | x =>
    simp only [follow, Measure.Exact.over_one (.inl hd.x)]
    rw [mul_left_comm, hdown, mul_comm]
  | y =>
    simp only [follow, Measure.Exact.times_one (.inl hd.y)]
    rw [mul_left_comm, hacross, mul_comm]

/-- A square is resized to a square. -/
theorem squareIn_fixedTarget (h : limits.AllowSquares) (hr : r.SquareIn limits)
    (haxis : axis ≠ .undefined) (hd : d.Exact) :
    (area.fixedTarget axis d 1 r (.fixed area r limits.squared)).SquareIn limits := by
  by_cases harea : area = .undefined
  · rw [harea]
    exact hr
  · have hproper := h.proper_squared
    have hsized : r.Sized := hr.sized h
    have hacross := drawn_across_fixedTarget harea hsized hproper axis d 1
    have hdown := drawn_down_fixedTarget harea hsized hproper axis d 1
    have hwidth := hacross.length_eq area.firmAcross_ne_loose h.room
    have hheight := hdown.length_eq area.firmDown_ne_loose h.room
    refine ⟨?_, hacross.legal area.firmAcross_ne_loose⟩
    have hsides : r.across.length = r.down.length := hr.sides
    rw [growth_follow_one harea haxis hd, hsides] at hwidth
    exact hwidth.trans hheight.symm

end Area

/-! ## A run -/

namespace Gesture

/-- The rectangles that a resize asks for while the pointer goes through the positions. -/
def targets : Gesture → List Point → List Rect
  | _, [] => []
  | g, p :: rest => (g.dragTo p).grip.target :: (g.dragTo p).targets rest

/-- A resize at ratio one, without decoration, that started from a square. Once an axis leads, it
is bound to squares. -/
structure Squaring (limits : WindowLimits) (g : Gesture) : Prop where
  ratio : g.aspectRatio = 1
  decoration : g.decoration = none
  declared : g.limits = limits
  initial : g.grip.initial.SquareIn limits
  travel : g.axis = .undefined ∨ g.travel = .fixed g.area g.grip.initial limits.squared

variable {g : Gesture} {limits : WindowLimits}

theorem target_aim (g : Gesture) (target : Rect) : (g.aim target).grip.target = target := rfl

theorem squaring_ofDrag (hlimits : limits.AllowSquares) {grip : Grip}
    (hwidth : 1 ≤ grip.initial.width) (hheight : 1 ≤ grip.initial.height)
    (hfine : grip.initial.width ≤ 2 ^ 24) (area : Area) (pixelRatio : Float32) :
    (ofDrag grip area 1 limits none pixelRatio).Squaring limits where
  ratio := rfl
  decoration := rfl
  declared := rfl
  initial := Rect.heldTo_one hlimits hwidth hheight hfine
  travel := .inl rfl

theorem Squaring.lead (hlimits : limits.AllowSquares) (h : g.Squaring limits) (d : Point) :
    (g.lead d).Squaring limits := by
  unfold Gesture.lead
  split
  · split
    · exact h
    · refine ⟨h.ratio, h.decoration, h.declared, h.initial, .inr ?_⟩
      simp only [h.declared, h.decoration, h.ratio, WindowLimits.tightened_one hlimits]
  · exact h

theorem Squaring.aim (h : g.Squaring limits) (target : Rect) : (g.aim target).Squaring limits :=
  ⟨h.ratio, h.decoration, h.declared, h.initial, h.travel⟩

theorem squaring_dragTo (hlimits : limits.AllowSquares) (h : g.Squaring limits) (p : Point) :
    (g.dragTo p).Squaring limits := by
  unfold dragTo
  simp only
  split
  · split
    · exact (h.lead hlimits _).aim _
    · exact (h.lead hlimits _).aim _
  · exact h.aim _

/-- Each target is a square. -/
theorem Squaring.target_dragTo (hlimits : limits.AllowSquares) (h : g.Squaring limits) {p : Point}
    (hp : (g.grip.travel p).Exact) : (g.dragTo p).grip.target.SquareIn limits := by
  have hfixed : g.isFixed = true := by
    rw [isFixed, h.ratio]
    decide
  have hlead := h.lead hlimits (g.grip.travel p)
  unfold dragTo
  simp only [if_pos hfixed]
  split
  · rw [target_aim]
    exact hlead.initial
  · rename_i haxis
    rw [target_aim, hlead.ratio, hlead.travel.resolve_left haxis, area_lead, grip_lead]
    exact Area.squareIn_fixedTarget hlimits h.initial haxis hp

@[simp] theorem travel_dragTo (g : Gesture) (p q : Point) :
    (g.dragTo p).grip.travel q = g.grip.travel q := by
  rw [grip_dragTo]
  rfl

theorem Squaring.squareIn_of_mem_targets (hlimits : limits.AllowSquares) {ps : List Point} :
    ∀ {g : Gesture}, g.Squaring limits → (∀ p ∈ ps, (g.grip.travel p).Exact) →
      ∀ r ∈ g.targets ps, r.SquareIn limits := by
  induction ps with
  | nil => exact fun _ _ => nofun
  | cons p rest ih =>
    intro g h hps r hr
    rcases List.mem_cons.mp hr with rfl | hr
    · exact h.target_dragTo hlimits (hps p List.mem_cons_self)
    · refine ih (squaring_dragTo hlimits h p) (fun q hq => ?_) r hr
      rw [travel_dragTo]
      exact hps q (List.mem_cons_of_mem p hq)

/-- **A resize at ratio one asks for squares only**, whatever area is held and wherever the
pointer goes: their sides are within the limits of both axes. -/
theorem targets_square {limits : WindowLimits} {grip : Grip} {ps : List Point}
    (hlimits : limits.AllowSquares)
    (hwidth : 1 ≤ grip.initial.width ∧ grip.initial.width ≤ 2 ^ 24)
    (hheight : 1 ≤ grip.initial.height) (hps : ∀ p ∈ ps, (grip.travel p).Exact) (area : Area)
    (pixelRatio : Float32) :
    ∀ r ∈ (ofDrag grip area 1 limits none pixelRatio).targets ps,
      r.width = r.height ∧
        max limits.minWidth limits.minHeight ≤ r.width ∧
        r.width ≤ min limits.maxWidth limits.maxHeight := by
  intro r hr
  have hstart : (ofDrag grip area 1 limits none pixelRatio).Squaring limits :=
    squaring_ofDrag hlimits hwidth.1 hheight hwidth.2 area pixelRatio
  have hsquare := hstart.squareIn_of_mem_targets hlimits hps r hr
  exact ⟨hsquare.sides, hsquare.legal⟩

/-- The top left corner of a window that is wider than high is pulled in, back, and out again. -/
theorem targets_square_topCorner :
    let limits := WindowLimits.ofSizes 200 300 2000 1200
    let grip := Grip.hold 0 .mouse ⟨105, 205⟩ ⟨5, 5⟩ ⟨100, 200, 1000, 700⟩
    let targets := (ofDrag grip .leftTop 1 limits none 2).targets
      [⟨105, 205⟩, ⟨155, 285⟩, ⟨105, 1000⟩, ⟨-500, -900⟩]
    targets = [⟨100, 200, 1000, 1000⟩, ⟨180, 280, 920, 920⟩, ⟨800, 900, 300, 300⟩,
        ⟨-100, 0, 1200, 1200⟩] ∧
      ∀ r ∈ targets, r.width = r.height ∧ 300 ≤ r.width ∧ r.width ≤ 1200 := by
  intro limits grip targets
  have hlimits : limits.AllowSquares :=
    ⟨by decide, by decide, ⟨by decide, by decide, by decide, by decide⟩, by decide⟩
  have hps : ∀ p ∈ [⟨105, 205⟩, ⟨155, 285⟩, ⟨105, 1000⟩, ⟨-500, -900⟩], (grip.travel p).Exact := by
    intro p hp
    simp only [List.mem_cons, List.not_mem_nil, or_false] at hp
    rcases hp with rfl | rfl | rfl | rfl <;> exact ⟨by decide, by decide⟩
  exact ⟨by decide +kernel,
    targets_square hlimits (by decide) (by decide) hps .leftTop 2⟩

end Gesture

end DisplayServer
