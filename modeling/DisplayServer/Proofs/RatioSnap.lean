import DisplayServer.Proofs.FreeResize
import DisplayServer.Proofs.MeasuredPixels

/-!
# What a ratio snap does to size limits and edges

In a free resize the size limits are applied first. If the ratio then lies outside its own limits,
one size is computed anew from the other: the height for an area on the left or right, the width
for any other. Nothing is applied to the new size, so it may leave the limits
(`Area.allows_freeTarget_iff`), and the top edge is not moved along with a new height, so under a
top corner the bottom edge moves (`Area.freeTarget_anchored_iff`).

Which limit a snap may break depends on the ratio that it goes to. A ratio is a rounded quotient
and a snap is another one, but rounding passes no measure: what is too narrow as a measure is too
narrow in exact numbers, and the snap takes it the right way as a measure again.
-/

namespace DisplayServer

namespace Rect

/-- The height that the ratio gives to the rectangle's width. -/
def heightAt (r : Rect) (ratio : Float32) : Int :=
  Measure.toPixels (Measure.ofPixels r.width / ratio)

/-- The width that the ratio gives to the rectangle's height. -/
def widthAt (r : Rect) (ratio : Float32) : Int :=
  Measure.toPixels (Measure.ofPixels r.height * ratio)

/-- The rectangle takes pixels on both axes. -/
structure Filled (r : Rect) : Prop where
  width : 1 ≤ r.width ∧ r.width ≤ Pixel.greatest
  height : 1 ≤ r.height ∧ r.height ≤ Pixel.greatest

theorem Filled.sized {r : Rect} (h : r.Filled) : r.Sized where
  width := ⟨Int.le_trans (by decide) h.width.1, h.width.2⟩
  height := ⟨Int.le_trans (by decide) h.height.1, h.height.2⟩

end Rect

namespace WindowLimits

theorem allows_iff {limits : WindowLimits} {r : Rect} :
    limits.Allows r ↔ (limits.minWidth ≤ r.width ∧ r.width ≤ limits.maxWidth) ∧
      limits.minHeight ≤ r.height ∧ r.height ≤ limits.maxHeight :=
  ⟨fun h => ⟨h.width, h.height⟩, fun h => ⟨h.1, h.2⟩⟩

/-- The limits have no more digits than a measure, or are no limits. -/
structure Fine (limits : WindowLimits) : Prop where
  minWidth : limits.minWidth ≤ 2 ^ 24
  maxWidth : limits.maxWidth ≤ 2 ^ 24 ∨ limits.maxWidth = Pixel.greatest
  minHeight : limits.minHeight ≤ 2 ^ 24
  maxHeight : limits.maxHeight ≤ 2 ^ 24 ∨ limits.maxHeight = Pixel.greatest

variable {limits : WindowLimits} {r : Rect}

theorem Allows.filled (hr : limits.Allows r) (hlimits : limits.Proper) : r.Filled where
  width := ⟨hlimits.minWidth.trans hr.width.1, hr.width.2.trans hlimits.maxWidth⟩
  height := ⟨hlimits.minHeight.trans hr.height.1, hr.height.2.trans hlimits.maxHeight⟩

end WindowLimits

/-! ## Too narrow and too wide -/

namespace Rect

open DisplayServer.Measure

variable {s : Rect} {ratio : Float32} {w h p : Rat}

section

variable (hw : StandsFor (ofPixels s.width) w) (hh : StandsFor (ofPixels s.height) h) (hpos : 1 ≤ h)
include hw hh hpos

theorem nears_ratio : Nears (w / h) s.ratio := nears_div hw hh (by linarith)

theorem standsFor_ratio : ∃ c, StandsFor s.ratio c := by
  have hle : w / h ≤ w := div_le_self hw.nonneg hpos
  obtain ⟨c, hc, -⟩ := (nears_ratio hw hh hpos).atMost hw.representable hle
  exact ⟨c, hc⟩

/-- Too narrow for a ratio: in exact numbers too, as rounding passes no measure. -/
theorem narrow_of_exceeds (hexceeds : exceeds ratio s.ratio = true) :
    ratio.toModel.unpack = .infinity .positive ∨ ∃ p, StandsFor ratio p ∧ w < p * h := by
  obtain ⟨c, hc⟩ := standsFor_ratio hw hh hpos
  rcases above_of_exceeds hc hexceeds with hinf | ⟨p, hp, hcp⟩
  · exact .inl hinf
  · refine .inr ⟨p, hp, ?_⟩
    by_contra hle
    have hquotient : p ≤ w / h := (le_div_iff₀ (by linarith)).mpr (not_lt.mp hle)
    have hpc := ((nears_ratio hw hh hpos).atLeast hp.representable hquotient).le hc
    linarith

/-- Too wide for a ratio. -/
theorem wide_of_exceeds (hp : StandsFor ratio p) (hexceeds : exceeds s.ratio ratio = true) :
    p * h < w := by
  obtain ⟨c, hc⟩ := standsFor_ratio hw hh hpos
  have hpc : p < c := (above_of_exceeds hp hexceeds).lt hc
  by_contra hle
  have hquotient : w / h ≤ p := (div_le_iff₀ (by linarith)).mpr (not_lt.mp hle)
  have hcp := ((nears_ratio hw hh hpos).atMost hp.representable hquotient).le hc
  linarith

end

variable {limit : Int}

/-- Bringing a window that is too narrow to the ratio does not raise it. -/
theorem heightAt_le_of_narrow (hs : s.Filled) (hexceeds : exceeds ratio s.ratio = true)
    (hle : s.height ≤ limit) (hlimit : limit ≤ 2 ^ 24 ∨ limit = Pixel.greatest) :
    s.heightAt ratio ≤ limit := by
  obtain ⟨w, hw, hw1⟩ := standsFor_size hs.width.1 hs.width.2
  obtain ⟨h, hh, hh1⟩ := standsFor_size hs.height.1 hs.height.2
  have hlow : 1 ≤ s.height := hs.height.1
  rcases narrow_of_exceeds hw hh hh1 hexceeds with hinf | ⟨p, hp, hwp⟩
  · have hzero : s.heightAt ratio = 0 := by
      unfold heightAt
      rw [toPixels_of_standsFor (standsFor_div_infinity hw hinf), Int.floor_zero]
      rfl
    omega
  · have hp0 : 0 < p := by nlinarith
    have hquotient : w / p ≤ h := (div_le_iff₀ hp0).mpr (by linarith)
    exact toPixels_le_of_nears (nears_div hw hp hp0) hh hquotient (by omega) hle hlimit

/-- Nor does it make it narrower still. -/
theorem le_widthAt_of_narrow (hs : s.Filled) (hexceeds : exceeds ratio s.ratio = true)
    (hle : limit ≤ s.width) (hlimit : 0 ≤ limit) (hfine : limit ≤ 2 ^ 24) :
    limit ≤ s.widthAt ratio := by
  obtain ⟨w, hw, hw1⟩ := standsFor_size hs.width.1 hs.width.2
  obtain ⟨h, hh, hh1⟩ := standsFor_size hs.height.1 hs.height.2
  rcases narrow_of_exceeds hw hh hh1 hexceeds with hinf | ⟨p, hp, hwp⟩
  · unfold widthAt
    rw [toPixels_of_infinity (unpack_mul_infinity hh (by linarith) hinf)]
    exact hle.trans hs.width.2
  · have hproduct : w ≤ h * p := by linarith
    exact le_toPixels_of_nears (nears_mul hh hp) hw hproduct hs.width.2 hle hlimit hfine

/-- A window is only ever too wide for a finite ratio. -/
theorem wide_of_pos (hs : s.Filled) (hratio : 0 < ratio)
    (hexceeds : exceeds s.ratio ratio = true) :
    ∃ w h p, StandsFor (ofPixels s.width) w ∧ StandsFor (ofPixels s.height) h ∧
      StandsFor ratio p ∧ 0 < p ∧ p * h < w := by
  obtain ⟨w, hw, -⟩ := standsFor_size hs.width.1 hs.width.2
  obtain ⟨h, hh, hh1⟩ := standsFor_size hs.height.1 hs.height.2
  have hzero : StandsFor 0 0 := .zero rfl
  rcases above_of_lt hzero hratio with hinf | ⟨p, hp, hp0⟩
  · obtain ⟨c, hc⟩ := standsFor_ratio hw hh hh1
    rw [not_exceeds_infinity hc hinf] at hexceeds
    cases hexceeds
  · exact ⟨w, h, p, hw, hh, hp, hp0, wide_of_exceeds hw hh hh1 hp hexceeds⟩

/-- Bringing a window that is too wide to the ratio does not lower it. -/
theorem le_heightAt_of_wide (hs : s.Filled) (hratio : 0 < ratio)
    (hexceeds : exceeds s.ratio ratio = true) (hle : limit ≤ s.height) (hlimit : 0 ≤ limit)
    (hfine : limit ≤ 2 ^ 24) : limit ≤ s.heightAt ratio := by
  obtain ⟨w, h, p, hw, hh, hp, hp0, hpw⟩ := wide_of_pos hs hratio hexceeds
  have hquotient : h ≤ w / p := (le_div_iff₀ hp0).mpr (by linarith)
  exact le_toPixels_of_nears (nears_div hw hp hp0) hh hquotient hs.height.2 hle hlimit hfine

/-- Nor does it make it wider still. -/
theorem widthAt_le_of_wide (hs : s.Filled) (hratio : 0 < ratio)
    (hexceeds : exceeds s.ratio ratio = true) (hle : s.width ≤ limit)
    (hlimit : limit ≤ 2 ^ 24 ∨ limit = Pixel.greatest) : s.widthAt ratio ≤ limit := by
  obtain ⟨w, h, p, hw, hh, hp, -, hpw⟩ := wide_of_pos hs hratio hexceeds
  have hproduct : h * p ≤ w := by linarith
  have hlow : 0 ≤ s.width := by
    have := hs.width.1
    omega
  exact toPixels_le_of_nears (nears_mul hh hp) hw hproduct hlow hle hlimit

end Rect

/-! ## What a snap recomputes -/

namespace WindowLimits

variable {limits : WindowLimits} {r : Rect} {ratio : Float32}

/-- A window is snapped to the limit that its ratio passes. -/
theorem snapRatio?_eq_some (h : limits.snapRatio? r = some ratio) :
    (Measure.exceeds limits.minRatio r.ratio = true ∧ ratio = limits.minRatio) ∨
      (Measure.exceeds limits.minRatio r.ratio = false ∧
        Measure.exceeds r.ratio limits.maxRatio = true ∧ ratio = limits.maxRatio) := by
  simp only [snapRatio?, Option.ite_none_left_eq_some, Option.some.injEq] at h
  obtain ⟨-, hexceeds, -, hlimit⟩ := h
  cases hmin : Measure.exceeds limits.minRatio r.ratio with
  | true =>
    rw [hmin, if_pos rfl] at hlimit
    exact .inl ⟨rfl, hlimit.symm⟩
  | false =>
    rw [hmin, if_neg Bool.false_ne_true] at hlimit
    rw [hmin] at hexceeds
    exact .inr ⟨rfl, by simpa using hexceeds, hlimit.symm⟩

end WindowLimits

namespace Area

variable {area : Area} {r s : Rect} {limits : WindowLimits} {ratio : Float32}

theorem snapped_of_held (h : area.holdAcross ≠ .loose) :
    area.snapped s ratio = { s with height := s.heightAt ratio } := by
  cases area with
  | left | right | leftTop | rightTop | rightBottom | leftBottom => rfl
  | undefined | top | bottom => exact absurd rfl h

theorem snapped_of_loose (h : area.holdAcross = .loose) :
    area.snapped s ratio = { s with width := s.widthAt ratio } := by
  cases area with
  | left | right | leftTop | rightTop | rightBottom | leftBottom => cases h
  | undefined | top | bottom => rfl

theorem freeTarget_of_snap {d : Point}
    (hsnap : limits.snapRatio? (area.freeStretch r limits d) = some ratio) :
    area.freeTarget d r (.free area r limits) limits =
      area.snapped (area.freeStretch r limits d) ratio := by
  unfold freeStretch at hsnap
  simp only [freeTarget, hsnap]
  rfl

/-! ## Size limits after a snap -/

/-- Before a snap the size is within the limits. -/
theorem allows_freeStretch (hlimits : limits.Proper) (hr : limits.Allows r) (d : Point) :
    limits.Allows (area.freeStretch r limits d) where
  width := (area.drawn_across_freeStretch (hr.filled hlimits).sized hlimits d).within hr.width
  height := (area.drawn_down_freeStretch (hr.filled hlimits).sized hlimits d).within hr.height

/-- A window that was too narrow gets wider or lower. -/
theorem snapped_of_narrow (hlimits : limits.Proper) (hfine : limits.Fine) (hs : limits.Allows s)
    (hnarrow : Measure.exceeds ratio s.ratio = true) :
    limits.minWidth ≤ (area.snapped s ratio).width ∧
      (area.snapped s ratio).height ≤ limits.maxHeight := by
  have hfilled := hs.filled hlimits
  by_cases hhold : area.holdAcross = .loose
  · rw [snapped_of_loose hhold]
    have hlow : 0 ≤ limits.minWidth := by
      have := hlimits.minWidth
      omega
    exact ⟨Rect.le_widthAt_of_narrow hfilled hnarrow hs.width.1 hlow hfine.minWidth, hs.height.2⟩
  · rw [snapped_of_held hhold]
    exact ⟨hs.width.1, Rect.heightAt_le_of_narrow hfilled hnarrow hs.height.2 hfine.maxHeight⟩

/-- A window that was too wide gets narrower or higher. -/
theorem snapped_of_wide (hlimits : limits.Proper) (hfine : limits.Fine) (hs : limits.Allows s)
    (hratio : 0 < ratio) (hwide : Measure.exceeds s.ratio ratio = true) :
    (area.snapped s ratio).width ≤ limits.maxWidth ∧
      limits.minHeight ≤ (area.snapped s ratio).height := by
  have hfilled := hs.filled hlimits
  by_cases hhold : area.holdAcross = .loose
  · rw [snapped_of_loose hhold]
    exact ⟨Rect.widthAt_le_of_wide hfilled hratio hwide hs.width.2 hfine.maxWidth, hs.height.1⟩
  · rw [snapped_of_held hhold]
    have hlow : 0 ≤ limits.minHeight := by
      have := hlimits.minHeight
      omega
    exact ⟨hs.width.2,
      Rect.le_heightAt_of_wide hfilled hratio hwide hs.height.1 hlow hfine.minHeight⟩

/-- Only the size that is recomputed can leave the limits. -/
theorem allows_snapped_iff (hs : limits.Allows s) :
    limits.Allows (area.snapped s ratio) ↔
      (area.holdAcross ≠ .loose →
        limits.minHeight ≤ s.heightAt ratio ∧ s.heightAt ratio ≤ limits.maxHeight) ∧
      (area.holdAcross = .loose →
        limits.minWidth ≤ s.widthAt ratio ∧ s.widthAt ratio ≤ limits.maxWidth) := by
  rw [WindowLimits.allows_iff]
  by_cases hhold : area.holdAcross = .loose
  · rw [snapped_of_loose hhold]
    constructor
    · rintro ⟨hwidth, -⟩
      exact ⟨fun hheld => absurd hhold hheld, fun _ => hwidth⟩
    · rintro ⟨-, hwidth⟩
      exact ⟨hwidth hhold, hs.height⟩
  · rw [snapped_of_held hhold]
    constructor
    · rintro ⟨-, hheight⟩
      exact ⟨fun _ => hheight, fun hloose => absurd hloose hhold⟩
    · rintro ⟨hheight, -⟩
      exact ⟨hs.width, hheight hhold⟩

theorem allows_snapped_of_narrow_iff (hlimits : limits.Proper) (hfine : limits.Fine)
    (hs : limits.Allows s) (hnarrow : Measure.exceeds ratio s.ratio = true) :
    limits.Allows (area.snapped s ratio) ↔
      (area.snapped s ratio).width ≤ limits.maxWidth ∧
        limits.minHeight ≤ (area.snapped s ratio).height := by
  obtain ⟨hwidth, hheight⟩ := snapped_of_narrow hlimits hfine hs hnarrow
  exact ⟨fun h => ⟨h.width.2, h.height.1⟩, fun h => ⟨⟨hwidth, h.1⟩, h.2, hheight⟩⟩

theorem allows_snapped_of_wide_iff (hlimits : limits.Proper) (hfine : limits.Fine)
    (hs : limits.Allows s) (hratio : 0 < ratio)
    (hwide : Measure.exceeds s.ratio ratio = true) :
    limits.Allows (area.snapped s ratio) ↔
      limits.minWidth ≤ (area.snapped s ratio).width ∧
        (area.snapped s ratio).height ≤ limits.maxHeight := by
  obtain ⟨hwidth, hheight⟩ := snapped_of_wide hlimits hfine hs hratio hwide
  exact ⟨fun h => ⟨h.width.1, h.height.2⟩, fun h => ⟨⟨h.1, hwidth⟩, hheight, h.2⟩⟩

/-- **A snap keeps to the size limits exactly where the size that it recomputes does.** It
recomputes the height for an area on the left or right, and the width for any other. A window that
was too narrow can only become too wide or too low by it, and one that was too wide only too
narrow or too high, as long as the limits have no more digits than a measure. -/
theorem allows_freeTarget_iff {d : Point} (hlimits : limits.Proper) (hr : limits.Allows r)
    (hsnap : limits.snapRatio? (area.freeStretch r limits d) = some ratio) :
    let stretched := area.freeStretch r limits d
    let target := area.freeTarget d r (.free area r limits) limits
    (limits.Allows target ↔
        (area.holdAcross ≠ .loose →
          limits.minHeight ≤ stretched.heightAt ratio ∧
            stretched.heightAt ratio ≤ limits.maxHeight) ∧
        (area.holdAcross = .loose →
          limits.minWidth ≤ stretched.widthAt ratio ∧
            stretched.widthAt ratio ≤ limits.maxWidth)) ∧
      (limits.Fine → Measure.exceeds limits.minRatio stretched.ratio = true →
        (limits.Allows target ↔
          target.width ≤ limits.maxWidth ∧ limits.minHeight ≤ target.height)) ∧
      (limits.Fine → Measure.exceeds limits.minRatio stretched.ratio = false →
        0 < limits.maxRatio →
        (limits.Allows target ↔
          limits.minWidth ≤ target.width ∧ target.height ≤ limits.maxHeight)) := by
  intro stretched target
  have hs : limits.Allows stretched := allows_freeStretch hlimits hr d
  have htarget : target = area.snapped stretched ratio := freeTarget_of_snap hsnap
  rw [htarget]
  refine ⟨allows_snapped_iff hs, ?_, ?_⟩
  · intro hfine hnarrow
    rcases limits.snapRatio?_eq_some hsnap with ⟨-, rfl⟩ | ⟨hwide, -⟩
    · exact allows_snapped_of_narrow_iff hlimits hfine hs hnarrow
    · exact absurd (hnarrow.symm.trans hwide) nofun
  · intro hfine hnarrow hpos
    rcases limits.snapRatio?_eq_some hsnap with ⟨h, -⟩ | ⟨-, hwide, rfl⟩
    · exact absurd (h.symm.trans hnarrow) nofun
    · exact allows_snapped_of_wide_iff hlimits hfine hs hpos hwide

/-- A window that is at least 500 high, and at least half as wide as high. -/
def tallLimits : WindowLimits :=
  { WindowLimits.ofSizes 200 500 2000 2000 with minRatio := 0.5 }

theorem proper_tallLimits : tallLimits.Proper :=
  ⟨by decide, by decide, by decide, by decide, by decide, by decide⟩

/-- Its right edge is pulled in, and the snap lowers it to a height that it may have. -/
theorem allows_freeTarget_iff_lowered :
    let target := Area.right.freeTarget ⟨-700, 0⟩ ⟨100, 100, 1000, 1000⟩
      (.free .right ⟨100, 100, 1000, 1000⟩ tallLimits) tallLimits
    target = ⟨100, 100, 300, 600⟩ ∧ tallLimits.Allows target := by
  have hr : tallLimits.Allows ⟨100, 100, 1000, 1000⟩ := ⟨by decide, by decide⟩
  have hfine : tallLimits.Fine := ⟨by decide, by decide, by decide, by decide⟩
  have hsnap : tallLimits.snapRatio?
      (Area.right.freeStretch ⟨100, 100, 1000, 1000⟩ tallLimits ⟨-700, 0⟩) = some 0.5 := by decide
  have hiff := allows_freeTarget_iff proper_tallLimits hr hsnap
  exact ⟨by decide, (hiff.2.1 hfine (by decide)).mpr ⟨by decide, by decide⟩⟩

/-- Pulled in further, it is snapped to a height that it may not have. -/
theorem allows_freeTarget_fails_tooLow :
    tallLimits.Proper ∧ tallLimits.Allows ⟨100, 100, 1000, 1000⟩ ∧
      tallLimits.snapRatio?
        (Area.right.freeStretch ⟨100, 100, 1000, 1000⟩ tallLimits ⟨-800, 0⟩) = some 0.5 ∧
      Area.right.freeTarget ⟨-800, 0⟩ ⟨100, 100, 1000, 1000⟩
        (.free .right ⟨100, 100, 1000, 1000⟩ tallLimits) tallLimits = ⟨100, 100, 200, 400⟩ ∧
      ¬ tallLimits.Allows ⟨100, 100, 200, 400⟩ :=
  ⟨proper_tallLimits, ⟨by decide, by decide⟩, by decide, by decide,
    fun h => absurd h.height.1 (by decide)⟩

/-! ## Edges after a snap -/

theorem anchored_across_snapped
    (h : Span.Anchored area.holdAcross r.across s.across) :
    Span.Anchored area.holdAcross r.across (area.snapped s ratio).across := by
  by_cases hhold : area.holdAcross = .loose
  · rw [snapped_of_loose hhold]
    exact h.of_start rfl (by rw [hhold]; exact nofun)
  · rw [snapped_of_held hhold]
    exact h

theorem anchored_down_snapped_iff
    (h : Span.Anchored area.holdDown r.down s.down) :
    Span.Anchored area.holdDown r.down (area.snapped s ratio).down ↔
      (area.holdAcross ≠ .loose → area.holdDown = .near → s.heightAt ratio = s.height) := by
  by_cases hhold : area.holdAcross = .loose
  · rw [snapped_of_loose hhold]
    exact iff_of_true h fun hheld => absurd hhold hheld
  · rw [snapped_of_held hhold]
    by_cases hnear : area.holdDown = .near
    · have hstop := h.stop hnear
      simp only [Rect.down, Span.stop] at hstop
      constructor
      · intro hanchored _ _
        have hstop' := hanchored.stop hnear
        simp only [Rect.down, Span.stop] at hstop'
        omega
      · intro hsame
        rw [hsame hhold hnear]
        exact h
    · exact iff_of_true (h.of_start rfl hnear) fun _ hnear' => absurd hnear' hnear

/-- **A snap keeps the edges that are not held, but for the bottom edge under a top corner.** There
the height is recomputed with the top edge in place, so the bottom edge stays only where the snap
gives back the height that there was. -/
theorem freeTarget_anchored_iff {d : Point}
    (hsnap : limits.snapRatio? (area.freeStretch r limits d) = some ratio) :
    let stretched := area.freeStretch r limits d
    let target := area.freeTarget d r (.free area r limits) limits
    Span.Anchored area.holdAcross r.across target.across ∧
      (Span.Anchored area.holdDown r.down target.down ↔
        (area.holdAcross ≠ .loose → area.holdDown = .near →
          stretched.heightAt ratio = stretched.height)) := by
  intro stretched target
  have htarget : target = area.snapped stretched ratio := freeTarget_of_snap hsnap
  have hacross : stretched.across = _ := area.across_stretch r _
  have hdown : stretched.down = _ := area.down_stretch r _
  rw [htarget]
  exact ⟨anchored_across_snapped (hacross ▸ Span.anchored_pull _ _ _),
    anchored_down_snapped_iff (hdown ▸ Span.anchored_pull _ _ _)⟩

/-- A window that is no wider than high. -/
def narrowLimits : WindowLimits := { WindowLimits.unrestricted with maxRatio := 1 }

/-- Its top edge is pulled down, and the snap takes the width that is too much. -/
theorem freeTarget_anchored_iff_topEdge :
    let target := Area.top.freeTarget ⟨0, 400⟩ ⟨0, 0, 1000, 1000⟩
      (.free .top ⟨0, 0, 1000, 1000⟩ narrowLimits) narrowLimits
    target = ⟨0, 400, 600, 600⟩ ∧ Span.Anchored .loose ⟨0, 1000⟩ target.across ∧
      Span.Anchored .near ⟨0, 1000⟩ target.down := by
  have hsnap : narrowLimits.snapRatio?
      (Area.top.freeStretch ⟨0, 0, 1000, 1000⟩ narrowLimits ⟨0, 400⟩) = some 1 := by decide
  have hanchored := freeTarget_anchored_iff hsnap
  exact ⟨by decide, hanchored.1, hanchored.2.mpr fun hheld => absurd rfl hheld⟩

/-- Its top left corner is pulled to the left, and the snap moves the bottom edge. -/
theorem freeTarget_anchored_fails_topCorner :
    narrowLimits.snapRatio?
        (Area.leftTop.freeStretch ⟨0, 0, 1000, 1000⟩ narrowLimits ⟨-200, 0⟩) = some 1 ∧
      Area.leftTop.freeTarget ⟨-200, 0⟩ ⟨0, 0, 1000, 1000⟩
        (.free .leftTop ⟨0, 0, 1000, 1000⟩ narrowLimits) narrowLimits = ⟨-200, 0, 1200, 1200⟩ ∧
      ¬ Span.Anchored Area.leftTop.holdDown (Rect.down ⟨0, 0, 1000, 1000⟩)
        (Rect.down ⟨-200, 0, 1200, 1200⟩) :=
  ⟨by decide, by decide, fun h => absurd (h.stop rfl) (by decide)⟩

end Area

end DisplayServer
