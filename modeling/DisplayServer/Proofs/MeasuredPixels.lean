import DisplayServer.Proofs.MeasureArithmetic
import Mathlib.Algebra.Order.Floor.Ring
import Mathlib.Data.Rat.Floor
import Mathlib.Tactic.Positivity

/-!
# From measures back to pixels

Measures go back to pixels by dropping the fraction, and they are compared with a tolerance. Both
keep the order of the numbers that the measures stand for: pixels are no more than a bound on the
measure (`toPixels_le_of_atMost`, `le_toPixels_of_atLeast`), and a measure that exceeds another is
above it (`above_of_exceeds`). Pixels of up to 24 binary digits come back as they were, on either
side of zero (`toPixels_ofPixels`).
-/

namespace DisplayServer

namespace Measure

open Float.Model Float.Model.UnpackedFloat

variable {a b v : Float32} {x y z : Rat}

/-! ## Dropping the fraction -/

theorem roundToInt_positive (m : Nat) (e : Int) :
    roundToInt .positive m e = ⌊(m * 2 ^ e : Rat)⌋ := by
  have h : roundToInt .positive m e =
      ((ExtendedMantissa.ofMantissaAndAccuracy (m * 2 ^ e.toNat) .exact >>>
        (0 - (e - e.toNat)).toNat).mantissa : Nat) := by
    simp only [roundToInt, decreaseExponent, shiftToExponent, Int.sub_zero, Nat.shiftLeft_eq]
    rfl
  have htruncates := (Truncates.ofExact (m * 2 ^ e.toNat)).shift (0 - (e - e.toNat)).toNat
  have heq : ((m * 2 ^ e.toNat : Nat) : Rat) / 2 ^ (0 - (e - e.toNat)).toNat = m * 2 ^ e := by
    rw [div_eq_iff (by positivity), mul_assoc, ← zpow_natCast, ← two_zpow_add]
    push_cast
    rw [← zpow_natCast]
    congr 2
    omega
  rw [heq] at htruncates
  rw [h, eq_comm, Int.floor_eq_iff]
  exact ⟨by exact_mod_cast htruncates.le, by exact_mod_cast htruncates.lt⟩

theorem not_neg_of_standsFor (h : StandsFor v x) : ¬ v < 0 := by
  have hzero : (0 : Float32).toModel.unpack = .zero .positive := rfl
  rw [lt_iff_compare, hzero]
  cases h with
  | zero h | finite h =>
    rw [h]
    exact nofun

theorem toNat_ofNatClamp (n : Nat) : (UInt64.ofNatClamp n).toNat = min n (2 ^ 64 - 1) := by
  rcases Nat.lt_or_ge n (2 ^ 64) with hlt | hge
  · rw [UInt64.toNat_ofNatClamp_of_lt hlt]
    omega
  · rw [UInt64.toNat_ofNatClamp_of_le hge]
    show 2 ^ 64 - 1 = _
    omega

theorem toInt_of_standsFor (h : StandsFor v x) (low high : Int) :
    v.toModel.unpack.toInt low high = ⌊x⌋ := by
  cases h with
  | zero h =>
    rw [h, Int.floor_zero]
    rfl
  | finite h =>
    rw [h]
    exact roundToInt_positive _ _

theorem toNat_toUInt64 (h : StandsFor v x) : v.toUInt64.toNat = min ⌊x⌋.toNat (2 ^ 64 - 1) := by
  rw [← toNat_ofNatClamp, ← toInt_of_standsFor h]
  rfl

theorem toPixels_of_standsFor (h : StandsFor v x) : toPixels v = min ⌊x⌋ Pixel.greatest := by
  have hfloor : 0 ≤ ⌊x⌋ := Int.floor_nonneg.mpr h.nonneg
  unfold toPixels Pixel.greatest
  rw [if_neg (not_neg_of_standsFor h), toNat_toUInt64 h]
  omega

theorem toPixels_of_infinity (h : v.toModel.unpack = .infinity .positive) :
    toPixels v = Pixel.greatest := by
  have hzero : (0 : Float32).toModel.unpack = .zero .positive := rfl
  have hclamp : v.toUInt64 = UInt64.ofNatClamp (v.toModel.unpack.toInt 0 (2 ^ 64 - 1)).toNat := rfl
  unfold toPixels
  rw [if_neg (by rw [lt_iff_compare, h, hzero]; exact nofun), hclamp, h]
  decide

theorem toPixels_le (v : Float32) : toPixels v ≤ Pixel.greatest := by
  unfold toPixels Pixel.greatest
  split <;> omega

/-- Dropping the fraction gets no further than rounding did. -/
theorem toPixels_le_of_atMost (h : AtMost v z) : toPixels v ≤ ⌊z⌋ := by
  obtain ⟨x, hx, hxz⟩ := h
  rw [toPixels_of_standsFor hx]
  exact (min_le_left _ _).trans (Int.floor_le_floor hxz)

theorem le_toPixels_of_atLeast {n : Int} (h : AtLeast v n) (hn : n ≤ Pixel.greatest) :
    n ≤ toPixels v := by
  rcases h with hinf | ⟨x, hx, hnx⟩
  · rw [toPixels_of_infinity hinf]
    exact hn
  · rw [toPixels_of_standsFor hx]
    exact le_min (Int.le_floor.mpr hnx) hn

/-- What is rounded to no more than a size in pixels is no more pixels than a limit of the size. -/
theorem toPixels_le_of_nears {n limit : Int} (hv : Nears x v) (hz : StandsFor (ofPixels n) z)
    (hx : x ≤ z) (hn : 0 ≤ n) (hle : n ≤ limit)
    (hlimit : limit ≤ 2 ^ 24 ∨ limit = Pixel.greatest) : toPixels v ≤ limit := by
  rcases hlimit with hfine | rfl
  · obtain rfl := hz.unique (standsFor_ofPixels hn (hle.trans hfine))
    have h := toPixels_le_of_atMost (hv.atMost hz.representable hx)
    rw [Int.floor_intCast] at h
    exact h.trans hle
  · exact toPixels_le v

/-- And what is rounded to no less, no fewer. -/
theorem le_toPixels_of_nears {n limit : Int} (hv : Nears x v) (hz : StandsFor (ofPixels n) z)
    (hx : z ≤ x) (hn : n ≤ Pixel.greatest) (hle : limit ≤ n) (hlimit : 0 ≤ limit)
    (hfine : limit ≤ 2 ^ 24) : limit ≤ toPixels v := by
  have hmeasure : Representable limit := (standsFor_ofPixels hlimit hfine).representable
  have hlimitz : (limit : Rat) ≤ z :=
    ((nears_ofPixels (hlimit.trans hle) hn).atLeast hmeasure (by exact_mod_cast hle)).le hz
  exact le_toPixels_of_atLeast (hv.atLeast hmeasure (hlimitz.trans hx)) (hle.trans hn)

/-! ## Comparison -/

/-- The measure is more than `z`, infinite ones included. -/
def Above (v : Float32) (z : Rat) : Prop :=
  v.toModel.unpack = .infinity .positive ∨ ∃ x, StandsFor v x ∧ z < x

theorem above_of_lt (ha : StandsFor a x) (h : a < b) : Above b x := by
  have hpositive : b.toModel.unpack = .infinity .positive ∨
      ∃ n f hn, b.toModel.unpack = .finite .positive n f hn := by
    cases ha with
    | zero ha => exact positive_of_lt (.inl ha) h
    | finite ha => exact positive_of_lt (.inr ⟨_, _, _, ha⟩) h
  rcases hpositive with hb | ⟨n, f, hn, hb⟩
  · exact .inl hb
  · refine .inr ⟨_, .finite hb, ?_⟩
    cases ha with
    | zero _ => exact mul_pos (by exact_mod_cast hn) (two_zpow_pos f)
    | @finite m e hm ha =>
      rw [lt_iff_compare, ha, hb] at h
      have hparts : (compare e f).then (compare m n) = .lt := Option.some.inj h
      rcases Ordering.then_eq_lt.mp hparts with hlt | ⟨heq, hlt⟩
      · exact (canonical_of_unpack ha).1.lt_of_power_lt (canonical_of_unpack hb).1
          (Int.compare_eq_lt.mp hlt)
      · obtain rfl := Int.compare_eq_eq.mp heq
        exact mul_lt_mul_of_pos_right (by exact_mod_cast Nat.compare_eq_lt.mp hlt) (two_zpow_pos e)

theorem Above.lt (h : Above v z) (hv : StandsFor v x) : z < x := by
  rcases h with hinf | ⟨y, hy, hzy⟩
  · exact absurd hinf hv.ne_infinity
  · exact hv.unique hy ▸ hzy

/-- What is above zero has a positive sign. -/
theorem Above.positive (h : Above v 0) :
    v.toModel.unpack = .infinity .positive ∨
      ∃ m e hm, v.toModel.unpack = .finite .positive m e hm := by
  rcases h with h | ⟨x, hx, hpos⟩
  · exact .inl h
  · cases hx with
    | zero _ => exact absurd hpos (lt_irrefl 0)
    | finite h => exact .inr ⟨_, _, _, h⟩

/-- Above zero there is no other sign. -/
theorem not_above_of_unpack {u : UnpackedFloat} (hv : v.toModel.unpack = u)
    (hinf : u ≠ .infinity .positive) (hfinite : ∀ m e hm, u ≠ .finite .positive m e hm) :
    ¬ Above v 0 := by
  intro h
  rcases h.positive with h | ⟨m, e, hm, h⟩
  · exact hinf (hv.symm.trans h)
  · exact hfinite m e hm (hv.symm.trans h)

/-- The unpacked measure is not above zero. -/
inductive NotPositive : UnpackedFloat → Prop
  | notANumber : NotPositive .notANumber
  | infinity : NotPositive (.infinity .negative)
  | zero (sign : Sign) : NotPositive (.zero sign)
  | finite {m : Nat} {e : Int} {hm : 0 < m} :
      Canonical m e → NotPositive (.finite .negative m e hm)

theorem NotPositive.not_above {u : UnpackedFloat} (h : NotPositive u) :
    ¬ Above (.ofModel (.pack u)) 0 := by
  cases h with
  | notANumber => exact not_above_of_unpack unpack_packedNaN nofun nofun
  | infinity => exact not_above_of_unpack (unpack_packedInfinity .negative) nofun nofun
  | zero sign => exact not_above_of_unpack (unpack_packedZero sign) nofun nofun
  | @finite m e hm hcanonical =>
    rcases le_or_gt e 104 with hroom | hgreat
    · exact not_above_of_unpack (unpack_pack_of_le .negative hm hcanonical hroom) nofun nofun
    · exact not_above_of_unpack (unpack_pack_of_gt .negative hm hgreat) nofun nofun

theorem notPositive_normalize {mantissa : Int} (h : mantissa ≤ 0) (e : Int) :
    NotPositive (UnpackedFloat.normalize .binary32 mantissa e .positive) := by
  unfold UnpackedFloat.normalize
  split
  · rename_i hlt
    rw [Int.compare_eq_lt] at hlt
    have hpos : 0 < (-mantissa).toNat := by omega
    rcases (rounded_round .negative hpos e).form with hzero | ⟨m, f, hm, hfinite, hcanonical⟩
    · rw [hzero]
      exact .zero .negative
    · rw [hfinite]
      exact .finite hcanonical
  · exact .zero .positive
  · rename_i hgt
    exact absurd (Int.compare_eq_gt.mp hgt) (not_lt.mpr h)

/-- A difference is not above zero, unless the first measure is above the second. -/
theorem notPositive_sub (hb : StandsFor b y) (ha : ¬ Above a y) :
    NotPositive (sub .binary32 a.toModel.unpack b.toModel.unpack) := by
  cases h : a.toModel.unpack with
  | notANumber => exact .notANumber
  | infinity sign =>
    cases sign with
    | positive => exact absurd (.inl h) ha
    | negative =>
      cases hb with
      | zero hb | finite hb =>
        rw [hb]
        exact .infinity
  | zero sign =>
    cases hb with
    | zero hb =>
      rw [hb]
      cases sign <;> exact .zero _
    | finite hb =>
      rw [hb]
      exact .finite (canonical_of_unpack hb).1
  | finite sign m e hm =>
    cases hb with
    | zero hb =>
      rw [hb]
      cases sign with
      | positive =>
        have hpos : (0 : Rat) < m * 2 ^ e := mul_pos (by exact_mod_cast hm) (two_zpow_pos e)
        exact absurd (.inr ⟨_, .finite h, hpos⟩) ha
      | negative => exact .finite (canonical_of_unpack h).1
    | @finite n f hn hb =>
      rw [hb]
      -- the digits of both in units of the lower power
      refine notPositive_normalize ?_ (min e f)
      simp only [Nat.shiftLeft_eq, Sign.apply]
      cases sign with
      | positive =>
        dsimp only
        by_contra hdigits
        refine ha (.inr ⟨_, .finite h, ?_⟩)
        rw [mul_two_zpow_eq n (min_le_right e f), mul_two_zpow_eq m (min_le_left e f)]
        refine mul_lt_mul_of_pos_right ?_ (two_zpow_pos _)
        exact_mod_cast Int.lt_of_sub_pos (not_le.mp hdigits)
      | negative =>
        dsimp only
        omega

theorem above_of_sub (hb : StandsFor b y) (h : Above (a - b) 0) : Above a y := by
  have hsub : a - b = .ofModel (.pack (sub .binary32 a.toModel.unpack b.toModel.unpack)) := rfl
  by_contra ha
  exact (notPositive_sub hb ha).not_above (hsub ▸ h)

theorem standsFor_tolerance : ∃ t, StandsFor tolerance t := ⟨_, .finite rfl⟩

theorem above_of_exceeds (hb : StandsFor b y) (h : exceeds a b = true) : Above a y := by
  obtain ⟨t, ht⟩ := standsFor_tolerance
  have hlt : tolerance < a - b := of_decide_eq_true h
  refine above_of_sub hb ?_
  rcases above_of_lt ht hlt with hinf | ⟨w, hw, htw⟩
  · exact .inl hinf
  · exact .inr ⟨w, hw, lt_of_le_of_lt ht.nonneg htw⟩

/-! ## Infinity -/

theorem standsFor_div_infinity (ha : StandsFor a x)
    (hb : b.toModel.unpack = .infinity .positive) : StandsFor (a / b) 0 := by
  have h : (a / b).toModel.unpack =
      unpack .binary32 (pack .binary32 (div .binary32 a.toModel.unpack b.toModel.unpack)) := rfl
  refine .zero (h.trans ?_)
  rw [hb]
  cases ha with
  | zero ha | finite ha =>
    rw [ha]
    exact unpack_packedZero .positive

theorem unpack_mul_infinity (ha : StandsFor a x) (hx : 0 < x)
    (hb : b.toModel.unpack = .infinity .positive) :
    (a * b).toModel.unpack = .infinity .positive := by
  have h : (a * b).toModel.unpack =
      unpack .binary32 (pack .binary32 (mul .binary32 a.toModel.unpack b.toModel.unpack)) := rfl
  rw [h, hb]
  cases ha with
  | zero _ => exact absurd hx (lt_irrefl 0)
  | finite ha =>
    rw [ha]
    exact unpack_packedInfinity .positive

theorem not_exceeds_infinity (ha : StandsFor a x)
    (hb : b.toModel.unpack = .infinity .positive) : exceeds a b = false := by
  obtain ⟨t, ht⟩ := standsFor_tolerance
  have hsub : (a - b).toModel.unpack = .infinity .negative := by
    have h : (a - b).toModel.unpack =
        unpack .binary32 (pack .binary32 (sub .binary32 a.toModel.unpack b.toModel.unpack)) := rfl
    rw [h, hb]
    cases ha with
    | zero ha | finite ha =>
      rw [ha]
      exact unpack_packedInfinity .negative
  refine decide_eq_false fun hlt => ?_
  rcases above_of_lt ht hlt with hinf | ⟨y, hy, -⟩
  · rw [hsub] at hinf
    cases hinf
  · cases hy with
    | zero hy | finite hy =>
      rw [hsub] at hy
      cases hy

/-! ## Pixels there and back -/

theorem unpack_neg (v : Float32) : (-v).toModel.unpack = v.toModel.unpack.neg := by
  have h : (-v).toModel.unpack = unpack .binary32 (pack .binary32 v.toModel.unpack.neg) := rfl
  rw [h]
  cases hv : v.toModel.unpack with
  | notANumber => exact unpack_packedNaN
  | infinity sign => exact unpack_packedInfinity (-sign)
  | zero sign => exact unpack_packedZero (-sign)
  | finite sign m e hm =>
    obtain ⟨hcanonical, hroom⟩ := canonical_of_unpack hv
    exact unpack_pack_of_le (-sign) hm hcanonical hroom

theorem neg_neg_measure (v : Float32) : - -v = v := by
  have hsign : ∀ sign : Sign, - -sign = sign := by
    intro sign
    cases sign <;> rfl
  refine eq_of_unpack ?_
  rw [unpack_neg, unpack_neg]
  cases v.toModel.unpack with
  | notANumber => rfl
  | infinity sign => exact congrArg _ (hsign sign)
  | zero sign => exact congrArg _ (hsign sign)
  | finite sign m e hm =>
    show UnpackedFloat.finite (- -sign) m e hm = _
    rw [hsign]

theorem toPixels_neg (h : StandsFor v x) (hx : 0 < x) :
    toPixels (-v) = -min ⌊x⌋ 2147483648 := by
  have hfloor : 0 ≤ ⌊x⌋ := Int.floor_nonneg.mpr hx.le
  have hzero : (0 : Float32).toModel.unpack = .zero .positive := rfl
  have hneg : -v < 0 := by
    rw [lt_iff_compare, unpack_neg, hzero]
    cases h with
    | zero _ => exact absurd hx (lt_irrefl 0)
    | finite h =>
      rw [h]
      rfl
  unfold toPixels
  rw [if_pos hneg, neg_neg_measure, toNat_toUInt64 h]
  omega

/-- Up to 24 binary digits pixels are measured without loss, on either side of zero. -/
theorem toPixels_ofPixels {n : Int} (hn : n.natAbs ≤ 2 ^ 24) : toPixels (ofPixels n) = n := by
  rcases lt_or_ge n 0 with hneg | hnonneg
  · have hopposite : ofPixels n = -ofPixels (-n) := by
      unfold ofPixels
      rw [if_pos hneg, if_neg (by omega), show (-n).toNat = n.natAbs by omega]
    have hpos : (0 : Rat) < (-n : Int) := by exact_mod_cast Int.neg_pos_of_neg hneg
    rw [hopposite, toPixels_neg (standsFor_ofPixels (by omega) (by omega)) hpos, Int.floor_intCast]
    omega
  · rw [toPixels_of_standsFor (standsFor_ofPixels hnonneg (by omega)), Int.floor_intCast]
    unfold Pixel.greatest
    omega

theorem toPixels_ofPixels_greatest : toPixels (ofPixels Pixel.greatest) = Pixel.greatest := by
  decide

end Measure

end DisplayServer
