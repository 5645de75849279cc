import DisplayServer.Proofs.Rounding
import Mathlib.Tactic.FieldSimp

/-!
# The arithmetic of measures

A measure that is not negative stands for an exact number (`StandsFor`), and an operation on
measures is the exact operation with the result rounded (`Nears`): no measure lies between the
exact result and the rounded one. That settles how products, quotients and numbers of pixels
compare with other measures, with no word on how far rounding goes. A number that some measure
stands for is not rounded at all, so pixels of up to 24 binary digits are measured exactly
(`standsFor_ofPixels`), and a factor of one changes nothing (`times_one`, `over_one`).
-/

namespace DisplayServer

namespace Measure

open Float.Model Float.Model.UnpackedFloat

/-- The measure stands for `x`, which is not negative. -/
inductive StandsFor (v : Float32) : Rat → Prop
  | zero : v.toModel.unpack = .zero .positive → StandsFor v 0
  | finite {m : Nat} {e : Int} {hm : 0 < m} :
      v.toModel.unpack = .finite .positive m e hm → StandsFor v (m * 2 ^ e)

/-- The measure is `z` or less. -/
def AtMost (v : Float32) (z : Rat) : Prop := ∃ x, StandsFor v x ∧ x ≤ z

/-- The measure is `z` or more, infinite ones included. -/
def AtLeast (v : Float32) (z : Rat) : Prop :=
  v.toModel.unpack = .infinity .positive ∨ ∃ x, StandsFor v x ∧ z ≤ x

/-- Some measure stands for `z`. -/
def Representable (z : Rat) : Prop := ∃ m e, Canonical m e ∧ e ≤ 104 ∧ z = m * 2 ^ e

/-- What comes of rounding `x`: no measure lies between. -/
structure Nears (x : Rat) (v : Float32) : Prop where
  atMost : ∀ {z}, Representable z → x ≤ z → AtMost v z
  atLeast : ∀ {z}, Representable z → z ≤ x → AtLeast v z

variable {a b v : Float32} {x y z : Rat}

theorem StandsFor.nonneg (h : StandsFor v x) : 0 ≤ x := by
  cases h with
  | zero _ => exact le_rfl
  | finite _ => exact mul_nonneg (Nat.cast_nonneg _) (two_zpow_pos _).le

theorem canonical_zero : Canonical 0 (-149) := ⟨by decide, le_rfl, .inr rfl⟩

theorem StandsFor.representable (h : StandsFor v x) : Representable x := by
  cases h with
  | zero _ => exact ⟨0, -149, canonical_zero, by decide, by simp⟩
  | finite h =>
    obtain ⟨hcanonical, hroom⟩ := canonical_of_unpack h
    exact ⟨_, _, hcanonical, hroom, rfl⟩

theorem StandsFor.unique (h : StandsFor v x) (h' : StandsFor v y) : x = y := by
  cases h with
  | zero h =>
    cases h' with
    | zero _ => rfl
    | finite h' =>
      rw [h] at h'
      cases h'
  | finite h =>
    cases h' with
    | zero h' =>
      rw [h] at h'
      cases h'
    | finite h' =>
      rw [h] at h'
      obtain ⟨-, rfl, rfl⟩ := UnpackedFloat.finite.inj h'
      rfl

theorem StandsFor.ne_infinity (h : StandsFor v x) : v.toModel.unpack ≠ .infinity .positive := by
  cases h with
  | zero h | finite h =>
    rw [h]
    exact nofun

theorem AtMost.le (h : AtMost v z) (hv : StandsFor v x) : x ≤ z := by
  obtain ⟨y, hy, hyz⟩ := h
  exact hv.unique hy ▸ hyz

theorem AtLeast.le (h : AtLeast v z) (hv : StandsFor v x) : z ≤ x := by
  rcases h with hinf | ⟨y, hy, hzy⟩
  · exact absurd hinf hv.ne_infinity
  · exact hv.unique hy ▸ hzy

/-- A number that some measure stands for is not rounded. -/
theorem Nears.standsFor (h : Nears x v) (hx : Representable x) : StandsFor v x := by
  obtain ⟨y, hy, hyx⟩ := h.atMost hx le_rfl
  have hxy := (h.atLeast hx le_rfl).le hy
  exact le_antisymm hyx hxy ▸ hy

/-- Packing a rounded number makes it infinite where it passed all measures. -/
theorem nears_pack {u : UnpackedFloat} (h : Rounded .positive x u) :
    Nears x (.ofModel (.pack u)) := by
  rcases h.form with rfl | ⟨m, e, hm, rfl, hcanonical⟩
  · have hzero : StandsFor (.ofModel (.pack (.zero .positive))) 0 := .zero (unpack_packedZero _)
    constructor
    · rintro z ⟨n, f, hn, -, rfl⟩ hxz
      exact ⟨0, hzero, h.size_le hn hxz⟩
    · rintro z ⟨n, f, hn, -, rfl⟩ hzx
      exact .inr ⟨0, hzero, h.le_size hn hzx⟩
  · rcases le_or_gt e 104 with hroom | hgreat
    · have hstands : StandsFor (.ofModel (.pack (.finite .positive m e hm))) (m * 2 ^ e) :=
        .finite (unpack_pack_of_le .positive hm hcanonical hroom)
      constructor
      · rintro z ⟨n, f, hn, -, rfl⟩ hxz
        exact ⟨_, hstands, h.size_le hn hxz⟩
      · rintro z ⟨n, f, hn, -, rfl⟩ hzx
        exact .inr ⟨_, hstands, h.le_size hn hzx⟩
    · constructor
      · rintro z ⟨n, f, hn, hf, rfl⟩ hxz
        exact absurd (h.size_le hn hxz) (not_le.mpr (hn.lt_of_power_lt hcanonical (by omega)))
      · rintro z - -
        exact .inl (unpack_pack_of_gt .positive hm hgreat)

theorem rounded_zero : Rounded .positive 0 (.zero .positive) where
  form := .inl rfl
  size_le _ h := h
  le_size _ h := h

/-! ## Products and quotients -/

theorem le_power_mul {m n : Nat} {e f : Int} (hm : Canonical m e) (hn : Canonical n f)
    (hm0 : 0 < m) (hn0 : 0 < n) : e + f ≤ power (m * n) (e + f) := by
  unfold power
  rcases hm.full with h | h
  · have hlog : 23 ≤ (m * n).log2 :=
      (Nat.le_log2 (Nat.mul_pos hm0 hn0).ne').mpr (h.trans (Nat.le_mul_of_pos_right m hn0))
    omega
  · rcases hn.full with h' | h'
    · have hlog : 23 ≤ (m * n).log2 :=
        (Nat.le_log2 (Nat.mul_pos hm0 hn0).ne').mpr (h'.trans (Nat.le_mul_of_pos_left n hm0))
      omega
    · omega

theorem rounded_mul {m n : Nat} {e f : Int} (sign : Sign) (hm : Canonical m e) (hn : Canonical n f)
    (hm0 : 0 < m) (hn0 : 0 < n) :
    Rounded sign (m * 2 ^ e * (n * 2 ^ f))
      (roundWithAccuracy .binary32 sign (m * n) (e + f) .exact) := by
  refine rounded_roundWithAccuracy ?_ sign (le_power_mul hm hn hm0 hn0)
  have heq : (m * 2 ^ e * (n * 2 ^ f) : Rat) / 2 ^ (e + f) = (m * n : Nat) := by
    rw [div_eq_iff (two_zpow_pos _).ne', two_zpow_add]
    push_cast
    ring
  rw [heq]
  exact Truncates.ofExact _

/-- **A product is rounded.** -/
theorem nears_mul (ha : StandsFor a x) (hb : StandsFor b y) : Nears (x * y) (a * b) := by
  have h : a * b = .ofModel (.pack (mul .binary32 a.toModel.unpack b.toModel.unpack)) := rfl
  rw [h]
  cases ha with
  | zero ha =>
    rw [zero_mul, ha]
    cases hb with
    | zero hb | finite hb =>
      rw [hb]
      exact nears_pack rounded_zero
  | @finite m e hm ha =>
    rw [ha]
    cases hb with
    | zero hb =>
      rw [mul_zero, hb]
      exact nears_pack rounded_zero
    | @finite n f hn hb =>
      rw [hb]
      exact nears_pack (rounded_mul .positive (canonical_of_unpack ha).1
        (canonical_of_unpack hb).1 hm hn)

/-- The whole quotient has enough digits, unless it is among the least measures. -/
theorem le_power_div {m n : Nat} (hm0 : 0 < m) (hn0 : 0 < n) (d : Int) (k : Nat) (t : Int)
    (hk : d - t = k) (ht : t ≤ max (m.log2 + d - n.log2 - 24) (-149)) :
    t ≤ power (m * 2 ^ k / n) t := by
  unfold power
  rcases le_or_gt t (-149) with hle | hgt
  · omega
  · have hlog : n.log2 + 24 ≤ m.log2 + k := by omega
    have hdigits : 2 ^ 23 ≤ m * 2 ^ k / n := by
      rw [Nat.le_div_iff_mul_le hn0]
      calc 2 ^ 23 * n ≤ 2 ^ 23 * 2 ^ (n.log2 + 1) := Nat.mul_le_mul_left _ Nat.lt_log2_self.le
        _ = 2 ^ (n.log2 + 24) := by rw [← Nat.pow_add]; congr 1; omega
        _ ≤ 2 ^ (m.log2 + k) := Nat.pow_le_pow_right (by decide) hlog
        _ = 2 ^ m.log2 * 2 ^ k := Nat.pow_add 2 _ _
        _ ≤ m * 2 ^ k := Nat.mul_le_mul_right _ (Nat.log2_self_le hm0.ne')
    have h23 : 23 ≤ (m * 2 ^ k / n).log2 :=
      (Nat.le_log2 (by omega)).mpr hdigits
    omega

theorem rounded_div {m n : Nat} {e f : Int} (sign : Sign) (hm0 : 0 < m) (hn0 : 0 < n) :
    Rounded sign (m * 2 ^ e / (n * 2 ^ f))
      (roundWithAccuracy .binary32 sign (divCore .binary32 m e n f).1
        (divCore .binary32 m e n f).2.1 (divCore .binary32 m e n f).2.2) := by
  have htarget : Format.binary32.targetExponent (totalExponent m e - totalExponent n f) =
      max (m.log2 + (e - f) - n.log2 - 24) (-149) := by
    show max ((m.log2 : Int) + 1 + e - (n.log2 + 1 + f) - 24) (-149) = _
    omega
  unfold divCore
  rw [htarget]
  generalize ht : min (e - f) (max ((m.log2 : Int) + (e - f) - n.log2 - 24) (-149)) = t
  obtain ⟨k, hk⟩ : ∃ k : Nat, e - f - t = k := ⟨(e - f - t).toNat, by omega⟩
  simp only [hk, Int.toNat_natCast, Nat.shiftLeft_eq]
  refine rounded_roundWithAccuracy ?_ sign (le_power_div hm0 hn0 (e - f) k t hk (by omega))
  have heq : (m * 2 ^ e / (n * 2 ^ f) : Rat) / 2 ^ t = (m * 2 ^ k : Nat) / n := by
    have hsplit : (2 : Rat) ^ e = 2 ^ k * 2 ^ t * 2 ^ f := by
      rw [← zpow_natCast, ← two_zpow_add, ← two_zpow_add]
      congr 1
      omega
    have hn : (n : Rat) ≠ 0 := by exact_mod_cast hn0.ne'
    have hf := (two_zpow_pos f).ne'
    have ht := (two_zpow_pos t).ne'
    rw [hsplit]
    push_cast
    field_simp
  rw [heq]
  exact Truncates.ofFraction _ hn0

/-- **A quotient is rounded.** -/
theorem nears_div (ha : StandsFor a x) (hb : StandsFor b y) (hy : 0 < y) :
    Nears (x / y) (a / b) := by
  have h : a / b = .ofModel (.pack (div .binary32 a.toModel.unpack b.toModel.unpack)) := rfl
  rw [h]
  cases hb with
  | zero _ => exact absurd hy (lt_irrefl 0)
  | @finite n f hn hb =>
    rw [hb]
    cases ha with
    | zero ha =>
      rw [zero_div, ha]
      exact nears_pack rounded_zero
    | @finite m e hm ha =>
      rw [ha]
      exact nears_pack (rounded_div .positive hm hn)

/-! ## Whole numbers -/

theorem log2_mul_two_pow {m : Nat} (hm : 0 < m) (k : Nat) : (m * 2 ^ k).log2 = m.log2 + k := by
  have hpos : m * 2 ^ k ≠ 0 := (Nat.mul_pos hm (Nat.two_pow_pos k)).ne'
  have hge : m.log2 + k ≤ (m * 2 ^ k).log2 := by
    rw [Nat.le_log2 hpos, Nat.pow_add]
    exact Nat.mul_le_mul_right _ (Nat.log2_self_le hm.ne')
  have hlt : (m * 2 ^ k).log2 < m.log2 + 1 + k := by
    rw [Nat.log2_lt hpos, Nat.pow_add]
    exact Nat.mul_lt_mul_of_pos_right Nat.lt_log2_self (Nat.two_pow_pos k)
  omega

theorem rounded_round {m : Nat} (sign : Sign) (hm : 0 < m) (e : Int) :
    Rounded sign (m * 2 ^ e) (round .binary32 sign m e) := by
  have h : round .binary32 sign m e = roundWithAccuracy .binary32 sign
      (m * 2 ^ (e - power m e).toNat) (e - (e - power m e).toNat) .exact := by
    rw [← targetExponent_eq, ← Nat.shiftLeft_eq]
    rfl
  rw [h]
  generalize hk : (e - power m e).toNat = k
  refine rounded_roundWithAccuracy ?_ sign ?_
  · have heq : (m * 2 ^ e : Rat) / 2 ^ (e - (k : Int)) = (m * 2 ^ k : Nat) := by
      rw [div_eq_iff (two_zpow_pos _).ne']
      push_cast
      rw [mul_assoc, ← zpow_natCast, ← two_zpow_add]
      congr 2
      omega
    rw [heq]
    exact Truncates.ofExact _
  · unfold power at hk ⊢
    rw [log2_mul_two_pow hm]
    omega

theorem nears_toFloat32 (n : UInt64) : Nears n.toNat n.toFloat32 := by
  have h : n.toFloat32 =
      .ofModel (.pack (UnpackedFloat.normalize .binary32 n.toNat 0 .positive)) := rfl
  rw [h]
  rcases Nat.eq_zero_or_pos n.toNat with hzero | hpos
  · rw [hzero]
    exact nears_pack rounded_zero
  · have hnormalize : UnpackedFloat.normalize .binary32 n.toNat 0 .positive =
        round .binary32 .positive n.toNat 0 := by
      have hcompare : compare (n.toNat : Int) 0 = .gt := by
        rw [Int.compare_eq_gt]
        omega
      unfold UnpackedFloat.normalize
      rw [hcompare]
      rfl
    rw [hnormalize]
    have hround := rounded_round .positive hpos 0
    rw [zpow_zero, mul_one] at hround
    exact nears_pack hround

/-- **A number of pixels is rounded.** -/
theorem nears_ofPixels {n : Int} (hn : 0 ≤ n) (hgreatest : n ≤ Pixel.greatest) :
    Nears n (ofPixels n) := by
  unfold Pixel.greatest at hgreatest
  have hnat : (n : Rat) = (n.toNat.toUInt64.toNat : Nat) := by
    have : n.toNat.toUInt64.toNat = n.toNat := by
      show n.toNat % 2 ^ 64 = n.toNat
      omega
    rw [this]
    exact_mod_cast (Int.toNat_of_nonneg hn).symm
  unfold ofPixels
  rw [if_neg (by omega), hnat]
  exact nears_toFloat32 _

/-- Numbers of up to 24 digits are measures. -/
theorem representable_natCast {n : Nat} (hn : n ≤ 2 ^ 24) : Representable n := by
  rcases Nat.eq_zero_or_pos n with rfl | hpos
  · exact ⟨0, -149, canonical_zero, by decide, by simp⟩
  · rcases Nat.lt_or_eq_of_le hn with hlt | rfl
    · have hlog : n.log2 < 24 := (Nat.log2_lt hpos.ne').mpr hlt
      have hfull : (n * 2 ^ (23 - n.log2)).log2 = 23 := by
        rw [log2_mul_two_pow hpos]
        omega
      have hne : n * 2 ^ (23 - n.log2) ≠ 0 := (Nat.mul_pos hpos (Nat.two_pow_pos _)).ne'
      refine ⟨n * 2 ^ (23 - n.log2), n.log2 - 23, ⟨?_, by omega, .inl ?_⟩, by omega, ?_⟩
      · exact (Nat.log2_lt hne).mp (by omega)
      · exact (Nat.le_log2 hne).mp hfull.ge
      · push_cast
        rw [mul_assoc, ← zpow_natCast, ← two_zpow_add]
        have : ((23 - n.log2 : Nat) : Int) + (n.log2 - 23) = 0 := by omega
        rw [this, zpow_zero, mul_one]
    · exact ⟨2 ^ 23, 1, ⟨by decide, by decide, .inl le_rfl⟩, by decide, by norm_num⟩

theorem standsFor_ofPixels {n : Int} (hn : 0 ≤ n) (hfew : n ≤ 2 ^ 24) :
    StandsFor (ofPixels n) n := by
  refine (nears_ofPixels hn (hfew.trans (by decide))).standsFor ?_
  have hnat : (n : Rat) = (n.toNat : Nat) := by exact_mod_cast (Int.toNat_of_nonneg hn).symm
  rw [hnat]
  exact representable_natCast (by omega)

/-- A size in pixels is measured by a number that is at least one. -/
theorem standsFor_size {n : Int} (hn : 1 ≤ n) (hgreatest : n ≤ Pixel.greatest) :
    ∃ x, StandsFor (ofPixels n) x ∧ 1 ≤ x := by
  have hnears := nears_ofPixels (by omega) hgreatest
  have hroom : Representable (2 ^ 31) :=
    ⟨2 ^ 23, 8, ⟨by decide, by decide, .inl le_rfl⟩, by decide, by norm_num⟩
  have hone : Representable 1 := by exact_mod_cast representable_natCast (n := 1) (by decide)
  have hle : n ≤ 2 ^ 31 := hgreatest.trans (by decide)
  obtain ⟨x, hx, -⟩ := hnears.atMost hroom (by exact_mod_cast hle)
  exact ⟨x, hx, (hnears.atLeast hone (by exact_mod_cast hn)).le hx⟩

/-! ## One as a factor -/

theorem eq_finite_of_rounded {sign : Sign} {m : Nat} {e : Int} {u : UnpackedFloat} (hm : 0 < m)
    (h : Canonical m e) (hu : Rounded sign (m * 2 ^ e) u) : u = .finite sign m e hm := by
  have hle := hu.size_le h le_rfl
  have hge := hu.le_size h le_rfl
  rcases hu.form with rfl | ⟨m', e', hm', rfl, hcanonical⟩
  · have hpos : (0 : Rat) < m * 2 ^ e := mul_pos (by exact_mod_cast hm) (two_zpow_pos e)
    exact absurd (hpos.trans_le hge) (lt_irrefl 0)
  · obtain ⟨rfl, rfl⟩ := hcanonical.inj h (le_antisymm hle hge)
    rfl

theorem sign_mul_positive (sign : Sign) : sign * .positive = sign := by
  cases sign <;> rfl

theorem sign_div_positive (sign : Sign) : sign / .positive = sign := by
  cases sign <;> rfl

theorem canonical_one : Canonical (2 ^ 23) (-23) := ⟨by decide, by decide, .inl le_rfl⟩

/-- An operation that rounds each number to itself changes no measure. -/
theorem pack_eq_self_of_rounded (f : UnpackedFloat → UnpackedFloat)
    (hnan : f .notANumber = .notANumber) (hinfinity : ∀ sign, f (.infinity sign) = .infinity sign)
    (hzero : ∀ sign, f (.zero sign) = .zero sign)
    (hfinite : ∀ sign m e hm, Canonical m e →
      Rounded sign (m * 2 ^ e) (f (.finite sign m e hm))) (v : Float32) :
    .ofModel (.pack (f v.toModel.unpack)) = v := by
  have hsame : f v.toModel.unpack = v.toModel.unpack := by
    cases hv : v.toModel.unpack with
    | notANumber => exact hnan
    | infinity sign => exact hinfinity sign
    | zero sign => exact hzero sign
    | finite sign m e hm =>
      have hcanonical := (canonical_of_unpack hv).1
      exact eq_finite_of_rounded hm hcanonical (hfinite sign m e hm hcanonical)
  rw [hsame]
  exact eq_of_unpack (unpack_pack_unpack _)

theorem times_one (v : Float32) : v * 1 = v := by
  refine pack_eq_self_of_rounded (fun u => mul .binary32 u (1 : Float32).toModel.unpack) rfl
    (fun sign => congrArg _ (sign_mul_positive sign))
    (fun sign => congrArg _ (sign_mul_positive sign)) (fun sign m e hm hcanonical => ?_) v
  have hrounded : Rounded (sign * .positive) (m * 2 ^ e * ((2 ^ 23 : Nat) * 2 ^ (-23 : Int)))
      (mul .binary32 (.finite sign m e hm) (1 : Float32).toModel.unpack) :=
    rounded_mul _ hcanonical canonical_one hm (by decide)
  have hexact : (m * 2 ^ e * ((2 ^ 23 : Nat) * 2 ^ (-23 : Int)) : Rat) = m * 2 ^ e := by
    norm_num
  rw [hexact, sign_mul_positive] at hrounded
  exact hrounded

theorem over_one (v : Float32) : v / 1 = v := by
  refine pack_eq_self_of_rounded (fun u => div .binary32 u (1 : Float32).toModel.unpack) rfl
    (fun sign => congrArg _ (sign_div_positive sign))
    (fun sign => congrArg _ (sign_div_positive sign)) (fun sign m e hm hcanonical => ?_) v
  have hrounded : Rounded (sign / .positive) (m * 2 ^ e / ((2 ^ 23 : Nat) * 2 ^ (-23 : Int)))
      (div .binary32 (.finite sign m e hm) (1 : Float32).toModel.unpack) :=
    rounded_div _ hm (by decide)
  have hexact : (m * 2 ^ e / ((2 ^ 23 : Nat) * 2 ^ (-23 : Int)) : Rat) = m * 2 ^ e := by
    norm_num
  rw [hexact, sign_div_positive] at hrounded
  exact hrounded

end Measure

end DisplayServer
