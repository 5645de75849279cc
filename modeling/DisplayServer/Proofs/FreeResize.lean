import DisplayServer.Proofs.Spans

/-!
# A free resize is exact

A free resize stretches the rectangle by the pointer's travel, clamped for each axis to the size
limits. Stretching pulls the two spans of the rectangle where the area holds them, and the clamp
is the room that the limits leave (`Area.across_stretch`, `TravelLimits.x_clamp_free`). So what
is known of a span that is pulled within its room is known of both axes, as long as no aspect
ratio asks for another size afterwards.
-/

namespace DisplayServer

namespace Area

variable (area : Area) (r : Rect) (d : Point)

/-! ## Stretching as pulling -/

theorem across_stretch : (area.stretch r d).across = r.across.pull area.holdAcross d.x := by
  unfold stretch holdAcross Rect.across
  cases area.touches .left
  · cases area.touches .right <;> rfl
  · rfl

theorem down_stretch : (area.stretch r d).down = r.down.pull area.holdDown d.y := by
  unfold stretch holdDown Rect.down
  cases area.touches .top
  · cases area.touches .bottom <;> rfl
  · rfl

end Area

namespace TravelLimits

variable (area : Area) (r : Rect) (limits : WindowLimits) (d : Point)

theorem x_clamp_free : ((free area r limits).clamp d).x =
    min (max d.x (r.across.room area.holdAcross limits.minWidth limits.maxWidth).1)
      (r.across.room area.holdAcross limits.minWidth limits.maxWidth).2 := by
  unfold free clamp Area.holdAcross Rect.across
  cases area.touches .left
  · cases area.touches .right <;> rfl
  · rfl

theorem y_clamp_free : ((free area r limits).clamp d).y =
    min (max d.y (r.down.room area.holdDown limits.minHeight limits.maxHeight).1)
      (r.down.room area.holdDown limits.minHeight limits.maxHeight).2 := by
  unfold free clamp Area.holdDown Rect.down
  cases area.touches .top
  · cases area.touches .bottom <;> rfl
  · rfl

end TravelLimits

namespace Area

variable (area : Area) {r : Rect} {limits : WindowLimits}

/-- The rectangle stretched by a travel, within the limits. -/
def freeStretch (r : Rect) (limits : WindowLimits) (d : Point) : Rect :=
  area.stretch r ((TravelLimits.free area r limits).clamp d)

/-- The columns are drawn, whether or not the ratio asks for another size afterwards. -/
theorem drawn_across_freeStretch (hr : r.Sized) (hlimits : limits.Proper) (d : Point) :
    Span.Drawn area.holdAcross limits.minWidth limits.maxWidth d.x r.across
      (area.freeStretch r limits d).across := by
  rw [freeStretch, across_stretch, TravelLimits.x_clamp_free]
  exact Span.drawn_pull hr.width hlimits.minWidth hlimits.width hlimits.maxWidth _ d.x

/-- And so are the rows. -/
theorem drawn_down_freeStretch (hr : r.Sized) (hlimits : limits.Proper) (d : Point) :
    Span.Drawn area.holdDown limits.minHeight limits.maxHeight d.y r.down
      (area.freeStretch r limits d).down := by
  rw [freeStretch, down_stretch, TravelLimits.y_clamp_free]
  exact Span.drawn_pull hr.height hlimits.minHeight hlimits.height hlimits.maxHeight _ d.y

/-- Travel along an axis that the area does not hold has no effect. -/
theorem freeStretch_congr {d d' : Point} (hx : area.holdAcross ≠ .loose → d'.x = d.x)
    (hy : area.holdDown ≠ .loose → d'.y = d.y) :
    area.freeStretch r limits d' = area.freeStretch r limits d := by
  refine Rect.ext_spans ?_ ?_
  · rw [freeStretch, freeStretch, across_stretch, across_stretch, TravelLimits.x_clamp_free,
      TravelLimits.x_clamp_free]
    by_cases hhold : area.holdAcross = .loose
    · rw [hhold]
      rfl
    · rw [hx hhold]
  · rw [freeStretch, freeStretch, down_stretch, down_stretch, TravelLimits.y_clamp_free,
      TravelLimits.y_clamp_free]
    by_cases hhold : area.holdDown = .loose
    · rw [hhold]
      rfl
    · rw [hy hhold]

/-- Where the ratio asks for nothing, the stretched rectangle is the target. -/
theorem freeTarget_of_snapRatio? {d : Point}
    (hsnap : limits.snapRatio? (area.freeStretch r limits d) = none) :
    area.freeTarget d r (.free area r limits) limits = area.freeStretch r limits d := by
  unfold freeStretch at hsnap
  simp only [freeTarget, hsnap]
  rfl

/-- **A free resize without a snap is exact.** Columns and rows are drawn by the pointer's travel
where the area holds them: sizes stay within the limits, the edges that are not held stay put,
and the travel is followed as long as the limits allow. Travel along an axis that is not held
has no effect. -/
theorem freeTarget_drawn (hr : r.Sized) (hlimits : limits.Proper) (d : Point)
    (hsnap : limits.snapRatio? (area.freeStretch r limits d) = none) :
    let target := fun travel => area.freeTarget travel r (.free area r limits) limits
    Span.Drawn area.holdAcross limits.minWidth limits.maxWidth d.x r.across (target d).across ∧
      Span.Drawn area.holdDown limits.minHeight limits.maxHeight d.y r.down (target d).down ∧
      ∀ d' : Point, (area.holdAcross ≠ .loose → d'.x = d.x) →
        (area.holdDown ≠ .loose → d'.y = d.y) → target d' = target d := by
  intro target
  have htarget : target d = area.freeStretch r limits d := area.freeTarget_of_snapRatio? hsnap
  refine ⟨?_, ?_, ?_⟩
  · rw [htarget]
    exact area.drawn_across_freeStretch hr hlimits d
  · rw [htarget]
    exact area.drawn_down_freeStretch hr hlimits d
  · intro d' hx hy
    have hsame : area.freeStretch r limits d' = area.freeStretch r limits d :=
      area.freeStretch_congr hx hy
    rw [htarget, ← hsame]
    exact area.freeTarget_of_snapRatio? (hsame ▸ hsnap)

/-- A window that is at least 500 wide, and no more than twice as wide as high. -/
def wideLimits : WindowLimits :=
  { WindowLimits.ofSizes 500 1 2000 2000 with minRatio := 0.25, maxRatio := 2 }

/-- Its top left corner is pulled too far to the right, and upwards. -/
theorem freeTarget_drawn_wideLimits :
    let target := fun travel =>
      Area.leftTop.freeTarget travel ⟨100, 100, 1000, 800⟩
        (.free .leftTop ⟨100, 100, 1000, 800⟩ wideLimits) wideLimits
    target ⟨600, -50⟩ = ⟨600, 50, 500, 850⟩ ∧
      Span.Drawn .near 500 2000 600 ⟨100, 1000⟩ (target ⟨600, -50⟩).across ∧
      Span.Drawn .near 1 2000 (-50) ⟨100, 800⟩ (target ⟨600, -50⟩).down := by
  have hr : Rect.Sized ⟨100, 100, 1000, 800⟩ := ⟨by decide, by decide⟩
  have hlimits : wideLimits.Proper :=
    ⟨by decide, by decide, by decide, by decide, by decide, by decide⟩
  have hdrawn := freeTarget_drawn .leftTop hr hlimits ⟨600, -50⟩ (by decide)
  exact ⟨by decide, hdrawn.1, hdrawn.2.1⟩

end Area

end DisplayServer
