import DisplayServer.Gesture.Area
import Mathlib.Data.List.Perm.Basic
import Mathlib.Logic.Function.Basic
import Mathlib.Order.Lattice

/-!
# Hot zones do not depend on the order of the tests

The classification tests eight ranges one after the other, corners clockwise and then the edges.
What comes of it can be said of each side by itself: a side is grabbed by the points within reach
that are near its border, or that are in the corner band of its border and of one that meets it
(`Side.Grabs`). This rule names no order and treats all sides alike, so exchanging left and right,
top and bottom, or the axes exchanges the sides that are grabbed (`areaAt_exchange`).

The bands must leave room between opposite corners, and an edge band must be no wider than a
corner band. Ranges of two corners, or of two edges, then meet in no point that would get to both
tests, and each kind may be tested in any order (`lookUp_append`). Corners come before edges: a
point in both kinds of range is on a corner.
-/

namespace DisplayServer

/-! ## Sides -/

namespace Side

theorem forall_iff {P : Side → Prop} : (∀ s, P s) ↔ P .left ∧ P .top ∧ P .right ∧ P .bottom := by
  constructor
  · exact fun h => ⟨h .left, h .top, h .right, h .bottom⟩
  · rintro ⟨hleft, htop, hright, hbottom⟩ s
    cases s with
    | left => exact hleft
    | top => exact htop
    | right => exact hright
    | bottom => exact hbottom

theorem exists_iff {P : Side → Prop} : (∃ s, P s) ↔ P .left ∨ P .top ∨ P .right ∨ P .bottom := by
  have h := forall_iff (P := fun s => ¬ P s)
  rw [← not_iff_not, not_exists, h]
  simp only [not_or]

/-- The border of the side is upright. -/
def upright : Side → Bool
  | left | right => true
  | top | bottom => false

/-- How far a point is inside the border of the side, in a window of `width` by `height`. -/
def inset (s : Side) (width height : Int) (p : Point) : Int :=
  match s with
  | left => p.x
  | top => p.y
  | right => width - p.x
  | bottom => height - p.y

/-- Left and right are exchanged. -/
def acrossMirrored : Side → Side
  | left => right
  | right => left
  | top => top
  | bottom => bottom

/-- Top and bottom are exchanged. -/
def downMirrored : Side → Side
  | top => bottom
  | bottom => top
  | left => left
  | right => right

/-- The axes are exchanged. -/
def transposed : Side → Side
  | left => top
  | top => left
  | right => bottom
  | bottom => right

end Side

/-! ## Areas -/

namespace Area

/-- An area is told by its sides. -/
theorem ext_touches {a b : Area} (h : ∀ s, a.touches s = b.touches s) : a = b := by
  obtain ⟨hleft, htop, hright, hbottom⟩ := Side.forall_iff.mp h
  revert hleft htop hright hbottom
  cases a <;> cases b <;> decide

theorem eq_undefined_iff {a : Area} : a = .undefined ↔ ∀ s, a.touches s = false := by
  constructor
  · rintro rfl s
    cases s <;> rfl
  · intro h
    exact ext_touches fun s => (h s).trans (by cases s <;> rfl)

/-- The area with left and right exchanged. -/
def acrossMirrored : Area → Area
  | left => right
  | right => left
  | leftTop => rightTop
  | rightTop => leftTop
  | rightBottom => leftBottom
  | leftBottom => rightBottom
  | a => a

/-- The area with top and bottom exchanged. -/
def downMirrored : Area → Area
  | top => bottom
  | bottom => top
  | leftTop => leftBottom
  | rightTop => rightBottom
  | rightBottom => rightTop
  | leftBottom => leftTop
  | a => a

/-- The area with the axes exchanged. -/
def transposed : Area → Area
  | left => top
  | top => left
  | right => bottom
  | bottom => right
  | rightTop => leftBottom
  | leftBottom => rightTop
  | a => a

theorem touches_acrossMirrored (a : Area) (s : Side) :
    a.acrossMirrored.touches s = a.touches s.acrossMirrored := by
  cases a <;> cases s <;> rfl

theorem touches_downMirrored (a : Area) (s : Side) :
    a.downMirrored.touches s = a.touches s.downMirrored := by
  cases a <;> cases s <;> rfl

theorem touches_transposed (a : Area) (s : Side) :
    a.transposed.touches s = a.touches s.transposed := by
  cases a <;> cases s <;> rfl

end Area

namespace HotZone

/-- Bands that do not get in each other's way. -/
structure Apart (outer corner edge width height : Int) : Prop where
  outside : 0 ≤ outer
  inside : 0 ≤ edge
  /-- The edge band is no wider than the corner band. -/
  narrower : edge ≤ corner
  /-- Two corners leave room between them, across and down. -/
  across : 2 * corner < width
  down : 2 * corner < height

theorem Apart.transposed {outer corner edge width height : Int}
    (h : Apart outer corner edge width height) : Apart outer corner edge height width :=
  ⟨h.outside, h.inside, h.narrower, h.down, h.across⟩

section

variable (outer corner edge width height : Int) (p : Point)

/-- The point is on the window or in the band around it. -/
def Reaches : Prop := ∀ s : Side, -outer ≤ s.inset width height p

/-- The point is no farther inside the border of the side than the band is wide. -/
def near (band : Int) (s : Side) : Bool := s.inset width height p ≤ band

/-- The point grabs the side: it is near the border, or in the corner bands of the border and of
one that meets it. -/
def Grabs (s : Side) : Prop :=
  Reaches outer width height p ∧
    (near width height p edge s ∨ near width height p corner s ∧
      ∃ t : Side, t.upright ≠ s.upright ∧ near width height p corner t)

end

variable {outer corner edge width height : Int} {p : Point}

@[simp] theorem near_iff {band : Int} {s : Side} :
    near width height p band s = true ↔ s.inset width height p ≤ band :=
  decide_eq_true_iff

theorem areaAt_of_not_reaches (h : ¬ Reaches outer width height p) :
    areaAt outer corner edge width height p = .undefined := by
  unfold areaAt
  refine if_pos ?_
  simp only [Reaches, Side.forall_iff, Side.inset] at h
  simp only [within, Bool.or_eq_true, Bool.not_eq_true', Bool.and_eq_false_iff,
    decide_eq_false_iff_not]
  omega

/-- Within reach, every test asks for one border or two that the point is near. -/
theorem areaAt_of_reaches (h : Reaches outer width height p) :
    areaAt outer corner edge width height p =
      let near := near width height p
      if near corner .left && near corner .top then .leftTop
      else if near corner .right && near corner .top then .rightTop
      else if near corner .right && near corner .bottom then .rightBottom
      else if near corner .left && near corner .bottom then .leftBottom
      else if near edge .left then .left
      else if near edge .top then .top
      else if near edge .right then .right
      else if near edge .bottom then .bottom
      else .undefined := by
  simp only [Reaches, Side.forall_iff, Side.inset] at h
  obtain ⟨hleft, htop, hright, hbottom⟩ := h
  -- the outer end of a range is met within reach, and the inner end is what counts
  have hstart : ∀ band v, -outer ≤ v → within (-outer) band v = decide (v ≤ band) := by
    intro band v hv
    simp [within, hv]
  have hend : ∀ size band v, v ≤ size + outer →
      within (size - band) (size + outer) v = decide (size - v ≤ band) := by
    intro size band v hv
    simp only [within, hv, decide_true, Bool.and_true, decide_eq_decide]
    omega
  have hx : p.x ≤ width + outer := by omega
  have hy : p.y ≤ height + outer := by omega
  unfold areaAt
  simp [hstart _ _ hleft, hstart _ _ htop, hend _ _ _ hx, hend _ _ _ hy, Side.inset, hx, hy]

/-- **Which sides a point grabs**, without the order of the tests. -/
theorem touches_areaAt_iff (h : Apart outer corner edge width height) (s : Side) :
    (areaAt outer corner edge width height p).touches s = true ↔
      Grabs outer corner edge width height p s := by
  unfold Grabs
  by_cases hreach : Reaches outer width height p
  · rw [areaAt_of_reaches hreach]
    have hacross : ¬ (near width height p corner .left = true ∧
        near width height p corner .right = true) := by
      have hroom := h.across
      simp only [near_iff, Side.inset]
      omega
    have hdown : ¬ (near width height p corner .top = true ∧
        near width height p corner .bottom = true) := by
      have hroom := h.down
      simp only [near_iff, Side.inset]
      omega
    have hnarrow : ∀ t, near width height p edge t → near width height p corner t := by
      simp only [near_iff]
      exact fun t ht => ht.trans h.narrower
    simp only [Side.forall_iff] at hnarrow
    simp only [Side.exists_iff, hreach, true_and]
    generalize near width height p = near at *
    cases s <;> grind [Area.touches, Side.upright]
  · rw [areaAt_of_not_reaches hreach]
    simp [hreach, Area.touches]

/-! ## Exchanging sides -/

/-- Where the sides of one window are those of another in another arrangement, so are the sides
that a point grabs. -/
theorem areaAt_exchange {width' height' : Int} {p' : Point} (σ : Side → Side) {f : Area → Area}
    (h : Apart outer corner edge width height) (h' : Apart outer corner edge width' height')
    (hσ : Function.Involutive σ)
    (hupright : ∀ s t, (σ s).upright = (σ t).upright ↔ s.upright = t.upright)
    (hf : ∀ a s, (f a).touches s = a.touches (σ s))
    (hinset : ∀ s : Side, s.inset width' height' p' = (σ s).inset width height p) :
    areaAt outer corner edge width' height' p' = f (areaAt outer corner edge width height p) := by
  refine Area.ext_touches fun s => ?_
  have hreaches : Reaches outer width' height' p' ↔ Reaches outer width height p := by
    simp only [Reaches, hinset]
    exact (hσ.surjective.forall (p := fun t : Side => -outer ≤ t.inset width height p)).symm
  have hmeets : (∃ t : Side, t.upright ≠ s.upright ∧ t.inset width' height' p' ≤ corner) ↔
      ∃ t : Side, t.upright ≠ (σ s).upright ∧ t.inset width height p ≤ corner := by
    refine Iff.trans ?_ hσ.surjective.exists.symm
    simp only [hinset, ne_eq, hupright]
  rw [hf, Bool.eq_iff_iff, touches_areaAt_iff h', touches_areaAt_iff h]
  simp only [Grabs, near_iff, hreaches, hmeets]
  rw [hinset]

variable (h : Apart outer corner edge width height)
include h

theorem areaAt_acrossMirrored (p : Point) :
    areaAt outer corner edge width height ⟨width - p.x, p.y⟩ =
      (areaAt outer corner edge width height p).acrossMirrored := by
  refine areaAt_exchange Side.acrossMirrored h h ?_ ?_ Area.touches_acrossMirrored ?_
  · intro s
    cases s <;> rfl
  · intro s t
    cases s <;> cases t <;> decide
  · intro s
    cases s with
    | right => exact Int.sub_sub_self width p.x
    | _ => rfl

theorem areaAt_downMirrored (p : Point) :
    areaAt outer corner edge width height ⟨p.x, height - p.y⟩ =
      (areaAt outer corner edge width height p).downMirrored := by
  refine areaAt_exchange Side.downMirrored h h ?_ ?_ Area.touches_downMirrored ?_
  · intro s
    cases s <;> rfl
  · intro s t
    cases s <;> cases t <;> decide
  · intro s
    cases s with
    | bottom => exact Int.sub_sub_self height p.y
    | _ => rfl

theorem areaAt_transposed (p : Point) :
    areaAt outer corner edge height width ⟨p.y, p.x⟩ =
      (areaAt outer corner edge width height p).transposed := by
  refine areaAt_exchange Side.transposed h h.transposed ?_ ?_ Area.touches_transposed ?_
  · intro s
    cases s <;> rfl
  · intro s t
    cases s <;> cases t <;> decide
  · intro s
    cases s <;> rfl

/-! ## Points on no side -/

/-- A point grabs nothing if it is out of reach, or farther inside than the edge band from every
border and not in the corner bands of two borders that meet. -/
theorem areaAt_eq_undefined_iff (p : Point) :
    areaAt outer corner edge width height p = .undefined ↔
      ¬ (-outer ≤ p.x ∧ p.x ≤ width + outer ∧ -outer ≤ p.y ∧ p.y ≤ height + outer) ∨
        (edge < p.x ∧ p.x < width - edge ∧ edge < p.y ∧ p.y < height - edge) ∧
          ¬ ((p.x ≤ corner ∨ width - corner ≤ p.x) ∧ (p.y ≤ corner ∨ height - corner ≤ p.y)) := by
  simp only [Area.eq_undefined_iff, ← Bool.not_eq_true, touches_areaAt_iff h]
  simp only [Grabs, Reaches, near_iff, Side.forall_iff, Side.exists_iff, Side.inset, Side.upright]
  have hnarrow := h.narrower
  simp only [ne_eq, not_true_eq_false, false_and, Bool.false_eq_true, not_false_eq_true, true_and,
    false_or, not_and, not_or, not_le, and_imp, Bool.true_eq_false, or_false]
  omega

omit h

/-! ## The order of the tests -/

section

variable (outer corner edge width height : Int) (p : Point)

/-- The test that the classification makes for an area. -/
def inZone : Area → Bool
  | .leftTop => within (-outer) corner p.x && within (-outer) corner p.y
  | .rightTop => within (width - corner) (width + outer) p.x && within (-outer) corner p.y
  | .rightBottom =>
    within (width - corner) (width + outer) p.x && within (height - corner) (height + outer) p.y
  | .leftBottom => within (-outer) corner p.x && within (height - corner) (height + outer) p.y
  | .left => within (-outer) edge p.x
  | .top => within (-outer) edge p.y
  | .right => within (width - edge) (width + outer) p.x
  | .bottom => within (height - edge) (height + outer) p.y
  | .undefined => false

/-- The first area of a list whose test the point passes. -/
def lookUp : List Area → Area
  | [] => .undefined
  | a :: rest => if inZone outer corner edge width height p a then a else lookUp rest

end

/-- The corners, clockwise. -/
def corners : List Area := [.leftTop, .rightTop, .rightBottom, .leftBottom]

def edges : List Area := [.left, .top, .right, .bottom]

/-- The classification makes its tests in this order. -/
theorem areaAt_eq_lookUp (hreach : Reaches outer width height p) :
    areaAt outer corner edge width height p =
      lookUp outer corner edge width height p (corners ++ edges) := by
  obtain ⟨hleft, htop, hright, hbottom⟩ := Side.forall_iff.mp hreach
  simp only [Side.inset] at hleft htop hright hbottom
  have hx : within (-outer) (width + outer) p.x = true := by
    simp only [within, Bool.and_eq_true, decide_eq_true_eq]
    omega
  have hy : within (-outer) (height + outer) p.y = true := by
    simp only [within, Bool.and_eq_true, decide_eq_true_eq]
    omega
  unfold areaAt
  rw [hx, hy]
  rfl

/-- The point passes no two tests of the list. -/
def Exclusive (outer corner edge width height : Int) (p : Point) (l : List Area) : Prop :=
  ∀ a ∈ l, ∀ b ∈ l, inZone outer corner edge width height p a →
    inZone outer corner edge width height p b → a = b

/-- Tests of which the point passes one at most may be made in any order. -/
theorem lookUp_perm {l l' : List Area} (hl : l.Perm l')
    (hexclusive : Exclusive outer corner edge width height p l) :
    lookUp outer corner edge width height p l = lookUp outer corner edge width height p l' := by
  induction hl with
  | nil => rfl
  | cons a hl ih =>
    have hrest := ih fun b hb c hc =>
      hexclusive b (List.mem_cons_of_mem a hb) c (List.mem_cons_of_mem a hc)
    rw [lookUp, lookUp, hrest]
  | swap a b l =>
    have hboth := hexclusive a (by simp) b (by simp)
    simp only [lookUp]
    split_ifs with hb ha
    · exact (hboth ha hb).symm
    · rfl
    · rfl
    · rfl
  | trans hl hl' ih ih' =>
    exact (ih hexclusive).trans (ih' fun a ha b hb =>
      hexclusive a (hl.mem_iff.mpr ha) b (hl.mem_iff.mpr hb))

theorem lookUp_append (l l' : List Area) :
    lookUp outer corner edge width height p (l ++ l') =
      if ∃ a ∈ l, inZone outer corner edge width height p a then
        lookUp outer corner edge width height p l
      else lookUp outer corner edge width height p l' := by
  induction l with
  | nil => simp
  | cons a rest ih =>
    rw [List.cons_append, lookUp, lookUp, ih]
    by_cases ha : inZone outer corner edge width height p a <;> simp [ha]

/-- A window has no point at two opposite borders. -/
theorem not_opposite (outer v : Int) {band size : Int} (hband : band ≤ corner)
    (hsize : 2 * corner < size) :
    ¬ (within (-outer) band v = true ∧ within (size - band) (size + outer) v = true) := by
  simp only [within, Bool.and_eq_true, decide_eq_true_eq]
  omega

include h

theorem exclusive_corners : Exclusive outer corner edge width height p corners := by
  have hacross := not_opposite outer p.x (Int.le_refl corner) h.across
  have hdown := not_opposite outer p.y (Int.le_refl corner) h.down
  intro a ha b hb hza hzb
  simp only [corners, List.mem_cons, List.not_mem_nil, or_false] at ha hb
  rcases ha with rfl | rfl | rfl | rfl <;> rcases hb with rfl | rfl | rfl | rfl <;> grind [inZone]

/-- A point that is on no corner passes one of the other tests at most. -/
theorem exclusive_edges (hcorner : ∀ a ∈ corners, ¬ inZone outer corner edge width height p a) :
    Exclusive outer corner edge width height p edges := by
  have hacross := not_opposite outer p.x h.narrower h.across
  have hdown := not_opposite outer p.y h.narrower h.down
  -- a point in two edge bands that meet is on the corner between them
  have hstart : ∀ v, within (-outer) edge v = true → within (-outer) corner v = true := by
    have hnarrow := h.narrower
    intro v
    simp only [within, Bool.and_eq_true, decide_eq_true_eq]
    omega
  have hend : ∀ size v, within (size - edge) (size + outer) v = true →
      within (size - corner) (size + outer) v = true := by
    have hnarrow := h.narrower
    intro size v
    simp only [within, Bool.and_eq_true, decide_eq_true_eq]
    omega
  have hleft := hstart p.x
  have htop := hstart p.y
  have hright := hend width p.x
  have hbottom := hend height p.y
  simp only [corners, List.forall_mem_cons, List.not_mem_nil, false_implies, implies_true,
    and_true, inZone] at hcorner
  obtain ⟨hleftTop, hrightTop, hrightBottom, hleftBottom⟩ := hcorner
  intro a ha b hb hza hzb
  simp only [edges, List.mem_cons, List.not_mem_nil, or_false] at ha hb
  rcases ha with rfl | rfl | rfl | rfl <;> rcases hb with rfl | rfl | rfl | rfl <;> grind [inZone]

/-- **The corners may be tested in any order, and then the edges in any order.** -/
theorem lookUp_order (hreach : Reaches outer width height p) {cs es : List Area}
    (hcs : cs.Perm corners) (hes : es.Perm edges) :
    lookUp outer corner edge width height p (cs ++ es) =
      areaAt outer corner edge width height p := by
  rw [areaAt_eq_lookUp hreach, lookUp_append, lookUp_append]
  by_cases hcorner : ∃ a ∈ corners, inZone outer corner edge width height p a
  · have hcorner' : ∃ a ∈ cs, inZone outer corner edge width height p a := by
      obtain ⟨a, ha, hza⟩ := hcorner
      exact ⟨a, hcs.mem_iff.mpr ha, hza⟩
    rw [if_pos hcorner, if_pos hcorner']
    exact (lookUp_perm hcs.symm (exclusive_corners h)).symm
  · have hcorner' : ¬ ∃ a ∈ cs, inZone outer corner edge width height p a := by
      rintro ⟨a, ha, hza⟩
      exact hcorner ⟨a, hcs.mem_iff.mp ha, hza⟩
    rw [if_neg hcorner, if_neg hcorner']
    have hnone : ∀ a ∈ corners, ¬ inZone outer corner edge width height p a :=
      fun a ha hza => hcorner ⟨a, ha, hza⟩
    exact (lookUp_perm hes.symm (exclusive_edges h hnone)).symm

omit h

/-! ## The classification -/

/-- Hot zones of a window of `width` by `height` treat all sides alike at a point. -/
structure Unambiguous (z : HotZone) (width height : Int) (source : PointerSource) (ratio : Float32)
    (p : Point) : Prop where
  across : z.classify ⟨width - p.x, p.y⟩ width height source ratio =
    (z.classify p width height source ratio).acrossMirrored
  down : z.classify ⟨p.x, height - p.y⟩ width height source ratio =
    (z.classify p width height source ratio).downMirrored
  transposed : z.classify ⟨p.y, p.x⟩ height width source ratio =
    (z.classify p width height source ratio).transposed
  /-- A side is held exactly if the point grabs it, a rule without an order. -/
  sides : ∀ s, (z.classify p width height source ratio).touches s = true ↔
    Grabs (z.outer source ratio) (z.corner ratio) (z.edge ratio) width height p s
  /-- Within reach, corners may be tested in any order, and then edges in any order. -/
  order : Reaches (z.outer source ratio) width height p → ∀ cs es, cs.Perm corners →
    es.Perm edges →
      lookUp (z.outer source ratio) (z.corner ratio) (z.edge ratio) width height p (cs ++ es) =
        z.classify p width height source ratio
  /-- Nothing is held out of reach, nor farther inside than the edge band from all borders and
  outside of the corner bands. -/
  undefined_iff : z.classify p width height source ratio = .undefined ↔
    ¬ (-z.outer source ratio ≤ p.x ∧ p.x ≤ width + z.outer source ratio ∧
        -z.outer source ratio ≤ p.y ∧ p.y ≤ height + z.outer source ratio) ∨
      (z.edge ratio < p.x ∧ p.x < width - z.edge ratio ∧
        z.edge ratio < p.y ∧ p.y < height - z.edge ratio) ∧
      ¬ ((p.x ≤ z.corner ratio ∨ width - z.corner ratio ≤ p.x) ∧
        (p.y ≤ z.corner ratio ∨ height - z.corner ratio ≤ p.y))

/-- **Hot zones are unambiguous** where the bands do not get in each other's way: the area is
mirrored and transposed with the point, and the order of the tests does not decide it. -/
theorem classify_unambiguous {z : HotZone} {source : PointerSource} {ratio : Float32}
    {width height : Int}
    (h : Apart (z.outer source ratio) (z.corner ratio) (z.edge ratio) width height) (p : Point) :
    z.Unambiguous width height source ratio p where
  across := areaAt_acrossMirrored h p
  down := areaAt_downMirrored h p
  transposed := areaAt_transposed h p
  sides := touches_areaAt_iff h
  order := fun hreach _ _ hcs hes => lookUp_order h hreach hcs hes
  undefined_iff := areaAt_eq_undefined_iff h p

/-- The mouse is in the edge band of one border and in the corner band of the next. -/
theorem classify_unambiguous_nearCorner :
    Apart (standard.outer .mouse 1) (standard.corner 1) (standard.edge 1) 1000 800 ∧
      standard.classify ⟨3, 10⟩ 1000 800 .mouse 1 = .leftTop ∧
      standard.Unambiguous 1000 800 .mouse 1 ⟨3, 10⟩ := by
  have h : Apart (standard.outer .mouse 1) (standard.corner 1) (standard.edge 1) 1000 800 :=
    ⟨by decide, by decide, by decide, by decide, by decide⟩
  exact ⟨h, by decide, classify_unambiguous h ⟨3, 10⟩⟩

end HotZone

end DisplayServer
