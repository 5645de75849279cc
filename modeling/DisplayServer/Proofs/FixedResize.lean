import DisplayServer.Proofs.Spans

/-!
# A resize at a fixed ratio stays within its limits

At a fixed ratio an edge changes both sizes: the axis that it does not lie on follows through the
ratio. So no span is loose: an area holds a span at its near end if it touches that end, and at
its far end otherwise. The limits, the signs and the rectangles of the eight areas are three
tables, and each of them is this one rule (`TravelLimits.x_clamp_fixed`, `Area.correlation_eq`,
`Area.across_resize`). What is known of a span that is pulled within its room is then known of both
axes, whatever travel the ratio derives for the axis that follows.
-/

namespace DisplayServer

namespace Area

/-- Where a resize at a fixed ratio holds the columns. -/
def firmAcross (area : Area) : Hold := if area.touches .left then .near else .far

/-- Where a resize at a fixed ratio holds the rows. -/
def firmDown (area : Area) : Hold := if area.touches .top then .near else .far

theorem firmAcross_ne_loose (area : Area) : area.firmAcross ≠ .loose := by
  unfold firmAcross
  split <;> nofun

theorem firmDown_ne_loose (area : Area) : area.firmDown ≠ .loose := by
  unfold firmDown
  split <;> nofun

variable {area : Area} (r : Rect) (d : Point)

/-- With this sign both sizes grow, or both shrink. -/
theorem correlation_eq (harea : area ≠ .undefined) :
    area.correlation = area.firmAcross.growth * area.firmDown.growth := by
  cases area with
  | undefined => exact absurd rfl harea
  | _ => rfl

theorem across_resize (harea : area ≠ .undefined) :
    (area.resize r d).across = r.across.pull area.firmAcross d.x := by
  cases area with
  | undefined => exact absurd rfl harea
  | _ => rfl

theorem down_resize (harea : area ≠ .undefined) :
    (area.resize r d).down = r.down.pull area.firmDown d.y := by
  cases area with
  | undefined => exact absurd rfl harea
  | _ => rfl

end Area

namespace TravelLimits

variable {area : Area} (r : Rect) (limits : WindowLimits) (d : Point)

theorem x_clamp_fixed (harea : area ≠ .undefined) : ((fixed area r limits).clamp d).x =
    min (max d.x (r.across.room area.firmAcross limits.minWidth limits.maxWidth).1)
      (r.across.room area.firmAcross limits.minWidth limits.maxWidth).2 := by
  cases area with
  | undefined => exact absurd rfl harea
  | _ => rfl

theorem y_clamp_fixed (harea : area ≠ .undefined) : ((fixed area r limits).clamp d).y =
    min (max d.y (r.down.room area.firmDown limits.minHeight limits.maxHeight).1)
      (r.down.room area.firmDown limits.minHeight limits.maxHeight).2 := by
  cases area with
  | undefined => exact absurd rfl harea
  | _ => rfl

end TravelLimits

namespace Area

section

variable {area : Area} {r : Rect} {limits : WindowLimits} (harea : area ≠ .undefined)
  (hr : r.Sized) (hlimits : limits.Proper) (axis : Axis) (d : Point) (ratio : Float32)
include harea hr hlimits

theorem drawn_across_fixedTarget :
    Span.Drawn area.firmAcross limits.minWidth limits.maxWidth (area.follow axis d ratio).x
      r.across (area.fixedTarget axis d ratio r (.fixed area r limits)).across := by
  rw [fixedTarget, across_resize r _ harea, TravelLimits.x_clamp_fixed r limits _ harea]
  exact Span.drawn_pull hr.width hlimits.minWidth hlimits.width hlimits.maxWidth _ _

theorem drawn_down_fixedTarget :
    Span.Drawn area.firmDown limits.minHeight limits.maxHeight (area.follow axis d ratio).y
      r.down (area.fixedTarget axis d ratio r (.fixed area r limits)).down := by
  rw [fixedTarget, down_resize r _ harea, TravelLimits.y_clamp_fixed r limits _ harea]
  exact Span.drawn_pull hr.height hlimits.minHeight hlimits.height hlimits.maxHeight _ _

end

/-- **A resize at a fixed ratio stays within its limits.** Both sizes are within the limits, an area
on the left keeps the right edge and any other the left one, an area on the top keeps the bottom
edge and any other the top one. Columns and rows are drawn by the travel that the ratio derives,
whatever that is. -/
theorem fixedTarget_drawn {area : Area} {r : Rect} {limits : WindowLimits}
    (harea : area ≠ .undefined) (hr : r.Sized) (hlimits : limits.Proper) (axis : Axis) (d : Point)
    (ratio : Float32) :
    let derived := area.follow axis d ratio
    let target := area.fixedTarget axis d ratio r (.fixed area r limits)
    limits.Allows target ∧
      Span.Drawn area.firmAcross limits.minWidth limits.maxWidth derived.x r.across
        target.across ∧
      Span.Drawn area.firmDown limits.minHeight limits.maxHeight derived.y r.down target.down := by
  intro derived target
  have hacross := drawn_across_fixedTarget harea hr hlimits axis d ratio
  have hdown := drawn_down_fixedTarget harea hr hlimits axis d ratio
  have hallows : limits.Allows target :=
    ⟨hacross.legal area.firmAcross_ne_loose, hdown.legal area.firmDown_ne_loose⟩
  exact ⟨hallows, hacross, hdown⟩

/-- The top edge is pulled too far, and the ratio widens the window too far as well. -/
theorem fixedTarget_drawn_topEdge :
    let limits := WindowLimits.ofSizes 200 200 1200 1000
    let target := Area.top.fixedTarget .y ⟨3, -600⟩ 1.5 ⟨100, 100, 900, 600⟩
      (.fixed .top ⟨100, 100, 900, 600⟩ limits)
    target = ⟨100, -300, 1200, 1000⟩ ∧ limits.Allows target ∧
      Span.Drawn .far 200 1200 900 ⟨100, 900⟩ target.across ∧
      Span.Drawn .near 200 1000 (-600) ⟨100, 600⟩ target.down := by
  have hr : Rect.Sized ⟨100, 100, 900, 600⟩ := ⟨by decide, by decide⟩
  have hlimits : (WindowLimits.ofSizes 200 200 1200 1000).Proper :=
    ⟨by decide, by decide, by decide, by decide, by decide, by decide⟩
  have harea : Area.top ≠ .undefined := nofun
  have hdrawn := fixedTarget_drawn harea hr hlimits .y ⟨3, -600⟩ 1.5
  have hderived : Area.top.follow .y ⟨3, -600⟩ 1.5 = ⟨900, -600⟩ := by decide
  rw [hderived] at hdrawn
  exact ⟨by decide, hdrawn⟩

end Area

end DisplayServer
