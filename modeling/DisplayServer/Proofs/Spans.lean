import DisplayServer.Gesture.Target

/-!
# Spans

A rectangle takes a span of each axis, and a resize works on the two spans apart. The area under
the pointer holds a span at its near end (left or top), at its far end (right or bottom), or not
at all, and that is all that distinguishes the areas. So the tables of sides, signs and limits
come down to one span that is pulled by one end: `Span.pull` moves the end, `Span.room` says how
far it may go, and `Span.Drawn` is what comes of the two together.
-/

namespace DisplayServer

/-- What a rectangle takes of one axis. -/
structure Span where
  start : Int
  length : Int
  deriving DecidableEq

/-- At which end a span is held. -/
inductive Hold
  | near
  | far
  /-- The span is not held. -/
  | loose
  deriving DecidableEq

/-- How much longer a span gets when the end that is held moves on by one. -/
def Hold.growth : Hold → Int
  | near => -1
  | far => 1
  | loose => 0

theorem Hold.growth_mul_self {hold : Hold} (hheld : hold ≠ .loose) :
    hold.growth * hold.growth = 1 := by
  cases hold with
  | near | far => rfl
  | loose => exact absurd rfl hheld

namespace Span

/-- The first coordinate past the span. -/
def stop (s : Span) : Int := s.start + s.length

/-- The span with the end that is held moved by `d`. -/
def pull (s : Span) (hold : Hold) (d : Int) : Span :=
  match hold with
  | .near => ⟨s.start + d, s.length - d⟩
  | .far => ⟨s.start, s.length + d⟩
  | .loose => s

/-- How far the end that is held may move for lengths between `low` and `high`. -/
def room (s : Span) (hold : Hold) (low high : Int) : Int × Int :=
  match hold with
  | .near => (Pixel.saturate (s.length - high), Pixel.saturate (s.length - low))
  | .far => (Pixel.saturate (low - s.length), Pixel.saturate (high - s.length))
  | .loose => (Pixel.least, Pixel.greatest)

/-- The second span is the first one after the end that is held was pulled by `d`, as far as
lengths between `low` and `high` allow. -/
structure Drawn (hold : Hold) (low high d : Int) (s s' : Span) : Prop where
  /-- A span that is held gets a length within the limits. -/
  legal : hold ≠ .loose → low ≤ s'.length ∧ s'.length ≤ high
  /-- A span that is not held stays as it is. -/
  kept : hold = .loose → s' = s
  /-- Held at the near end, it keeps its far end. -/
  stop : hold = .near → s'.stop = s.stop
  /-- Not held at the near end, it keeps that. -/
  start : hold ≠ .near → s'.start = s.start
  /-- The end follows where that leads to a length within the limits. -/
  follows : low ≤ (s.pull hold d).length → (s.pull hold d).length ≤ high → s' = s.pull hold d
  /-- It stops at the least length. -/
  shortest : hold ≠ .loose → (s.pull hold d).length < low → s'.length = low
  /-- It stops at the greatest length. -/
  longest : hold ≠ .loose → high < (s.pull hold d).length → s'.length = high

theorem length_pull (s : Span) (hold : Hold) (d : Int) :
    (s.pull hold d).length = s.length + hold.growth * d := by
  cases hold with
  | near | far | loose =>
    simp only [pull, Hold.growth]
    omega

/-- A span that is held gets the nearest length within the limits. -/
theorem Drawn.length_eq {hold : Hold} {low high d : Int} {s s' : Span}
    (h : Drawn hold low high d s s') (hheld : hold ≠ .loose) (hle : low ≤ high) :
    s'.length = max low (min (s.length + hold.growth * d) high) := by
  rw [← length_pull]
  rcases Int.lt_or_le (s.pull hold d).length low with hshort | hlow
  · have := h.shortest hheld hshort
    omega
  · rcases Int.lt_or_le high (s.pull hold d).length with hlong | hhigh
    · have := h.longest hheld hlong
      omega
    · have := congrArg length (h.follows hlow hhigh)
      omega

/-- A length that was within the limits stays within them, whether the span is held or not. -/
theorem Drawn.within {hold : Hold} {low high d : Int} {s s' : Span}
    (h : Drawn hold low high d s s') (hs : low ≤ s.length ∧ s.length ≤ high) :
    low ≤ s'.length ∧ s'.length ≤ high := by
  by_cases hloose : hold = .loose
  · rw [h.kept hloose]
    exact hs
  · exact h.legal hloose

/-- The end that is not held stays where it is. -/
structure Anchored (hold : Hold) (s s' : Span) : Prop where
  stop : hold = .near → s'.stop = s.stop
  start : hold ≠ .near → s'.start = s.start

theorem anchored_pull (s : Span) (hold : Hold) (d : Int) : Anchored hold s (s.pull hold d) where
  stop := by
    rintro rfl
    simp only [pull, Span.stop]
    omega
  start := by
    intro h
    cases hold with
    | near => exact absurd rfl h
    | far => rfl
    | loose => rfl

/-- Where the near end is not held, only that counts. -/
theorem Anchored.of_start {hold : Hold} {s s' s'' : Span} (h : Anchored hold s s')
    (hstart : s''.start = s'.start) (hhold : hold ≠ .near) : Anchored hold s s'' where
  stop hnear := absurd hnear hhold
  start _ := hstart.trans (h.start hhold)

variable {s : Span} {low high : Int}

/-! ## Room without saturation -/

theorem room_near (hlength : 0 ≤ s.length ∧ s.length ≤ Pixel.greatest)
    (hlow : 1 ≤ low) (hle : low ≤ high) (hhigh : high ≤ Pixel.greatest) :
    s.room .near low high = (s.length - high, s.length - low) := by
  unfold Pixel.greatest at hlength hhigh
  have hfirst : Pixel.saturate (s.length - high) = s.length - high :=
    Pixel.saturate_eq_self (by unfold Pixel.least; omega) (by unfold Pixel.greatest; omega)
  have hlast : Pixel.saturate (s.length - low) = s.length - low :=
    Pixel.saturate_eq_self (by unfold Pixel.least; omega) (by unfold Pixel.greatest; omega)
  exact Prod.ext hfirst hlast

theorem room_far (hlength : 0 ≤ s.length ∧ s.length ≤ Pixel.greatest)
    (hlow : 1 ≤ low) (hle : low ≤ high) (hhigh : high ≤ Pixel.greatest) :
    s.room .far low high = (low - s.length, high - s.length) := by
  unfold Pixel.greatest at hlength hhigh
  have hfirst : Pixel.saturate (low - s.length) = low - s.length :=
    Pixel.saturate_eq_self (by unfold Pixel.least; omega) (by unfold Pixel.greatest; omega)
  have hlast : Pixel.saturate (high - s.length) = high - s.length :=
    Pixel.saturate_eq_self (by unfold Pixel.least; omega) (by unfold Pixel.greatest; omega)
  exact Prod.ext hfirst hlast

/-! ## Pulling within the room -/

/-- A span that is held is drawn if its length is the nearest legal one and the other end
stays. -/
theorem drawn_of_length {s' : Span} {hold : Hold} {d : Int} (hle : low ≤ high)
    (hheld : hold ≠ .loose) (hlength : s'.length = max low (min (s.pull hold d).length high))
    (hstop : hold = .near → s'.stop = s.stop) (hstart : hold ≠ .near → s'.start = s.start) :
    Drawn hold low high d s s' where
  legal _ := by omega
  kept h := absurd h hheld
  stop := hstop
  start := hstart
  follows := by
    intro hlow hhigh
    have hlength : s'.length = (s.pull hold d).length := by omega
    obtain ⟨start', length'⟩ := s'
    cases hold with
    | near =>
      -- the near end is where the far end and the length put it
      have hstop := hstop rfl
      simp only [Span.stop, pull, Span.mk.injEq] at hstop hlength ⊢
      constructor <;> omega
    | far => exact (Span.mk.injEq ..).mpr ⟨hstart nofun, hlength⟩
    | loose => exact absurd rfl hheld
  shortest _ _ := by omega
  longest _ _ := by omega

theorem drawn_loose (d t : Int) : Drawn .loose low high d s (s.pull .loose t) where
  legal h := absurd rfl h
  kept _ := rfl
  stop h := nomatch h
  start _ := rfl
  follows _ _ := rfl
  shortest h := absurd rfl h
  longest h := absurd rfl h

/-- **A span that is pulled within its room is drawn.** A length in pixels leaves room without
saturation, so the clamped end lands exactly on the limit that it would pass. -/
theorem drawn_pull (hlength : 0 ≤ s.length ∧ s.length ≤ Pixel.greatest)
    (hlow : 1 ≤ low) (hle : low ≤ high) (hhigh : high ≤ Pixel.greatest) (hold : Hold) (d : Int) :
    Drawn hold low high d s
      (s.pull hold (min (max d (s.room hold low high).1) (s.room hold low high).2)) := by
  cases hold with
  | near =>
    rw [room_near hlength hlow hle hhigh]
    refine drawn_of_length hle nofun ?_ (fun _ => ?_) fun h => absurd rfl h
    · simp only [pull]
      omega
    · simp only [pull, Span.stop]
      omega
  | far =>
    rw [room_far hlength hlow hle hhigh]
    refine drawn_of_length hle nofun ?_ nofun fun _ => rfl
    simp only [pull]
    omega
  | loose => exact drawn_loose d _

end Span

/-! ## The spans of a rectangle -/

namespace Rect

/-- The columns of a rectangle. -/
def across (r : Rect) : Span := ⟨r.x, r.width⟩

/-- The rows of a rectangle. -/
def down (r : Rect) : Span := ⟨r.y, r.height⟩

theorem ext_spans {r r' : Rect} (hacross : r.across = r'.across) (hdown : r.down = r'.down) :
    r = r' := by
  cases r
  cases r'
  simp only [across, down, Span.mk.injEq] at hacross hdown
  simp only [Rect.mk.injEq]
  exact ⟨hacross.1, hdown.1, hacross.2, hdown.2⟩

/-- The sizes of the rectangle are numbers of pixels. -/
structure Sized (r : Rect) : Prop where
  width : 0 ≤ r.width ∧ r.width ≤ Pixel.greatest
  height : 0 ≤ r.height ∧ r.height ≤ Pixel.greatest

end Rect

/-- The limits allow some size, and none that is empty. -/
structure WindowLimits.Proper (limits : WindowLimits) : Prop where
  minWidth : 1 ≤ limits.minWidth
  width : limits.minWidth ≤ limits.maxWidth
  maxWidth : limits.maxWidth ≤ Pixel.greatest
  minHeight : 1 ≤ limits.minHeight
  height : limits.minHeight ≤ limits.maxHeight
  maxHeight : limits.maxHeight ≤ Pixel.greatest

/-- The size of the rectangle lies within the limits. -/
structure WindowLimits.Allows (limits : WindowLimits) (r : Rect) : Prop where
  width : limits.minWidth ≤ r.width ∧ r.width ≤ limits.maxWidth
  height : limits.minHeight ≤ r.height ∧ r.height ≤ limits.maxHeight

namespace Area

/-- Where an area holds the columns. -/
def holdAcross (area : Area) : Hold :=
  if area.touches .left then .near else if area.touches .right then .far else .loose

/-- Where an area holds the rows. -/
def holdDown (area : Area) : Hold :=
  if area.touches .top then .near else if area.touches .bottom then .far else .loose

end Area

end DisplayServer
