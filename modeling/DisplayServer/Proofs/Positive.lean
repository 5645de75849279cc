import DisplayServer.Measure
import Mathlib.Algebra.Group.Nat.Defs

/-!
# Positive measures

Two measures that compare equal need not be the same: the zeros compare equal, and
not-a-number differs from itself. Among positive measures neither occurs, so there comparison
decides equality (`eq_of_beq_of_pos`). A measure is its bits, and the bits fall apart into sign,
exponent and mantissa; the argument goes through these three.
-/

namespace DisplayServer

namespace Measure

open Float.Model Float.Model.UnpackedFloat

/-! ## The parts of a measure -/

theorem toNat_unpackMantissa (b : BitVec Format.binary32.numBits) :
    (unpackMantissa b).toNat = b.toNat % 2 ^ 23 := by
  simp [unpackMantissa]

theorem toNat_unpackExponent (b : BitVec Format.binary32.numBits) :
    (unpackExponent b).toNat = b.toNat / 2 ^ 23 % 2 ^ 8 := by
  simp [unpackExponent, Nat.shiftRight_eq_div_pow]

theorem toNat_unpackSign (b : BitVec Format.binary32.numBits) :
    (unpackSign b).toNat = b.toNat / 2 ^ 31 % 2 := by
  show (BitVec.cast _ (BitVec.extractLsb 31 31 b)).toNat = b.toNat / 2 ^ 31 % 2
  simp [Nat.shiftRight_eq_div_pow]

theorem sign_inj {x y : BitVec 1} (h : Sign.ofBitVec x = Sign.ofBitVec y) : x = y := by
  have hx := x.isLt
  have hy := y.isLt
  unfold Sign.ofBitVec at h
  apply BitVec.eq_of_toNat_eq
  split at h <;> split at h
  · simp_all
  · cases h
  · cases h
  · rename_i hx' hy'
    have hx' : x.toNat ≠ 0 := fun he => hx' (BitVec.eq_of_toNat_eq he)
    have hy' : y.toNat ≠ 0 := fun he => hy' (BitVec.eq_of_toNat_eq he)
    omega

/-- Sign, exponent and mantissa make the bits. -/
theorem eq_of_parts {b c : BitVec Format.binary32.numBits}
    (hsign : unpackSign b = unpackSign c) (hexponent : unpackExponent b = unpackExponent c)
    (hmantissa : unpackMantissa b = unpackMantissa c) : b = c := by
  have hs := congrArg BitVec.toNat hsign
  have he := congrArg BitVec.toNat hexponent
  have hm := congrArg BitVec.toNat hmantissa
  rw [toNat_unpackSign, toNat_unpackSign] at hs
  rw [toNat_unpackExponent, toNat_unpackExponent] at he
  rw [toNat_unpackMantissa, toNat_unpackMantissa] at hm
  have hb : b.toNat < 2 ^ 32 := b.isLt
  have hc : c.toNat < 2 ^ 32 := c.isLt
  apply BitVec.eq_of_toNat_eq
  omega

/-- A normal measure has a leading digit that stands above the mantissa and is not written. -/
theorem unpack_of_normal {b : BitVec Format.binary32.numBits} (hnumber : unpackExponent b ≠ -1#_)
    (hnormal : unpackExponent b ≠ 0#_) :
    ∃ hm, unpack Format.binary32 b = .finite (Sign.ofBitVec (unpackSign b))
      (2 ^ 23 + (unpackMantissa b).toNat) ((unpackExponent b).toNat - 150) hm := by
  have hlt := (unpackMantissa b).isLt
  have hdigits : (1#1 ++ unpackMantissa b).toNat = 2 ^ 23 + (unpackMantissa b).toNat := by
    rw [BitVec.toNat_append, BitVec.toNat_ofNat]
    show 1 <<< 23 ||| (unpackMantissa b).toNat = 2 ^ 23 + (unpackMantissa b).toNat
    rw [Nat.shiftLeft_eq, Nat.one_mul, Nat.or_comm, Nat.or_two_pow_eq_add_of_lt hlt,
      Nat.add_comm]
  have h : ∃ hm, unpack Format.binary32 b = .finite (Sign.ofBitVec (unpackSign b))
      (1#1 ++ unpackMantissa b).toNat ((unpackExponent b).toNat - 150) hm :=
    ⟨by omega, (if_neg hnumber).trans (if_neg hnormal)⟩
  rwa [hdigits] at h

/-- A subnormal measure has the least power, and no digits but those of the mantissa. -/
theorem unpack_of_subnormal {b : BitVec Format.binary32.numBits} (hleast : unpackExponent b = 0#_)
    (hmantissa : unpackMantissa b ≠ 0#_) :
    ∃ hm, unpack Format.binary32 b = .finite (Sign.ofBitVec (unpackSign b))
      (unpackMantissa b).toNat (-149) hm := by
  have hnumber : unpackExponent b ≠ -1#_ := by
    rw [hleast]
    decide
  refine ⟨Nat.pos_of_ne_zero fun he => hmantissa (BitVec.eq_of_toNat_eq he), ?_⟩
  refine ((if_neg hnumber).trans ((if_pos hleast).trans (dif_neg hmantissa))).trans ?_
  rw [hleast]
  rfl

/-- What a measure is, by its parts: the exponent of a subnormal one counts as 1, and a normal
one has a leading digit that is not written. -/
theorem unpack_cases (b : BitVec Format.binary32.numBits) :
    (unpackExponent b = -1#_ ∧ unpackMantissa b = 0#_ ∧
        unpack Format.binary32 b = .infinity (Sign.ofBitVec (unpackSign b))) ∨
      unpack Format.binary32 b = .notANumber ∨
      (unpackExponent b = 0#_ ∧ unpackMantissa b = 0#_ ∧
        unpack Format.binary32 b = .zero (Sign.ofBitVec (unpackSign b))) ∨
      ∃ m e hm, unpack Format.binary32 b = .finite (Sign.ofBitVec (unpackSign b)) m e hm ∧
        (((unpackExponent b).toNat = 0 ∧ m = (unpackMantissa b).toNat ∧ e = (-149 : Int)) ∨
          ((unpackExponent b).toNat ≠ 0 ∧ m = 2 ^ 23 + (unpackMantissa b).toNat ∧
            e = ((unpackExponent b).toNat : Int) - 150)) := by
  by_cases hexponent : unpackExponent b = -1#_
  · by_cases hmantissa : unpackMantissa b = 0#_
    · exact .inl ⟨hexponent, hmantissa, (if_pos hexponent).trans (if_pos hmantissa)⟩
    · exact .inr (.inl ((if_pos hexponent).trans (if_neg hmantissa)))
  · by_cases hleast : unpackExponent b = 0#_
    · by_cases hmantissa : unpackMantissa b = 0#_
      · exact .inr (.inr (.inl ⟨hleast, hmantissa,
          (if_neg hexponent).trans ((if_pos hleast).trans (dif_pos hmantissa))⟩))
      · have hzero : (unpackExponent b).toNat = 0 := by
          rw [hleast]
          rfl
        obtain ⟨hm, hb⟩ := unpack_of_subnormal hleast hmantissa
        exact .inr (.inr (.inr ⟨_, _, hm, hb, .inl ⟨hzero, rfl, rfl⟩⟩))
    · have hne : (unpackExponent b).toNat ≠ 0 := by
        intro he
        exact hleast (BitVec.eq_of_toNat_eq he)
      obtain ⟨hm, hb⟩ := unpack_of_normal hexponent hleast
      exact .inr (.inr (.inr ⟨_, _, hm, hb, .inr ⟨hne, rfl, rfl⟩⟩))

/-- Two measures that are the same number have the same bits. -/
theorem unpack_inj {b c : BitVec Format.binary32.numBits}
    (h : unpack Format.binary32 b = unpack Format.binary32 c)
    (hnumber : unpack Format.binary32 b ≠ .notANumber) : b = c := by
  rcases unpack_cases b with ⟨he, hm, hb⟩ | hb | ⟨he, hm, hb⟩ | ⟨m, e, hm, hb, hparts⟩
  · rcases unpack_cases c with ⟨he', hm', hc⟩ | hc | ⟨he', hm', hc⟩ | ⟨m', e', hm', hc, -⟩
    · rw [hb, hc] at h
      exact eq_of_parts (sign_inj (UnpackedFloat.infinity.inj h)) (he.trans he'.symm)
        (hm.trans hm'.symm)
    all_goals
      rw [hb, hc] at h
      cases h
  · -- what is no number has many writings, and is excluded
    exact absurd hb hnumber
  · rcases unpack_cases c with ⟨he', hm', hc⟩ | hc | ⟨he', hm', hc⟩ | ⟨m', e', hm', hc, -⟩
    case inr.inr.inl =>
      rw [hb, hc] at h
      exact eq_of_parts (sign_inj (UnpackedFloat.zero.inj h)) (he.trans he'.symm)
        (hm.trans hm'.symm)
    all_goals
      rw [hb, hc] at h
      cases h
  · rcases unpack_cases c with ⟨he', hm', hc⟩ | hc | ⟨he', hm', hc⟩ | ⟨m', e', hm', hc, hparts'⟩
    case inr.inr.inr =>
      rw [hb, hc] at h
      obtain ⟨hsign, rfl, rfl⟩ := UnpackedFloat.finite.inj h
      have hlt : (unpackMantissa b).toNat < 2 ^ 23 := (unpackMantissa b).isLt
      have hlt' : (unpackMantissa c).toNat < 2 ^ 23 := (unpackMantissa c).isLt
      refine eq_of_parts (sign_inj hsign) (BitVec.eq_of_toNat_eq ?_) (BitVec.eq_of_toNat_eq ?_)
      · omega
      · omega
    all_goals
      rw [hb, hc] at h
      cases h

theorem eq_of_bits {a b : Float32} (h : a.toModel.toBits.toBitVec = b.toModel.toBits.toBitVec) :
    a = b := by
  cases a with
  | ofModel a =>
    cases b with
    | ofModel b =>
      cases a with
      | mk abits avalid =>
        cases b with
        | mk bbits bvalid =>
          obtain rfl : abits = bbits := UInt32.toBitVec_inj.mp h
          rfl

/-! ## Comparison -/

theorem lt_iff_compare {a b : Float32} :
    a < b ↔ UnpackedFloat.compare a.toModel.unpack b.toModel.unpack = some .lt := by
  constructor
  · intro h
    have hlt : a.toModel < b.toModel := of_decide_eq_true h
    have hbeq : (UnpackedFloat.compare a.toModel.unpack b.toModel.unpack == some .lt) = true := hlt
    exact beq_iff_eq.mp hbeq
  · intro h
    have hbeq : (UnpackedFloat.compare a.toModel.unpack b.toModel.unpack == some .lt) = true :=
      beq_iff_eq.mpr h
    have hlt : a.toModel < b.toModel := hbeq
    exact decide_eq_true hlt

/-- A measure above one that is not negative is a positive number. -/
theorem positive_of_lt {a b : Float32}
    (ha : a.toModel.unpack = .zero .positive ∨
      ∃ m e hm, a.toModel.unpack = .finite .positive m e hm) (h : a < b) :
    b.toModel.unpack = .infinity .positive ∨
      ∃ m e hm, b.toModel.unpack = .finite .positive m e hm := by
  rw [lt_iff_compare] at h
  cases hb : b.toModel.unpack with
  | infinity sign =>
    cases sign with
    | positive => exact .inl rfl
    | negative =>
      rw [hb] at h
      rcases ha with ha | ⟨m, e, hm, ha⟩
      all_goals
        rw [ha] at h
        cases h
  | finite sign n f hn =>
    cases sign with
    | positive => exact .inr ⟨n, f, hn, rfl⟩
    | negative =>
      rw [hb] at h
      rcases ha with ha | ⟨m, e, hm, ha⟩
      all_goals
        rw [ha] at h
        cases h
  | _ =>
    rw [hb] at h
    rcases ha with ha | ⟨m, e, hm, ha⟩
    all_goals
      rw [ha] at h
      cases h

theorem positive_of_pos {a : Float32} (h : 0 < a) :
    a.toModel.unpack = .infinity .positive ∨
      ∃ m e hm, a.toModel.unpack = .finite .positive m e hm :=
  positive_of_lt (.inl rfl) h

/-- A positive measure compares equal to itself only. -/
theorem eq_of_beq_of_pos {a b : Float32} (ha : 0 < a) (h : (a == b) = true) : a = b := by
  have hcompare : (UnpackedFloat.compare a.toModel.unpack b.toModel.unpack == some .eq) =
      true := h
  have hunpack : a.toModel.unpack = b.toModel.unpack := by
    rcases positive_of_pos ha with hp | ⟨m, e, hm, hp⟩
    · rw [hp] at hcompare ⊢
      cases hb : b.toModel.unpack with
      | infinity sign =>
        rw [hb] at hcompare
        cases sign with
        | positive => rfl
        | negative => exact absurd hcompare (by decide)
      | _ =>
        rw [hb] at hcompare
        exact absurd hcompare Bool.false_ne_true
    · rw [hp] at hcompare ⊢
      cases hb : b.toModel.unpack with
      | finite sign m' e' hm' =>
        rw [hb] at hcompare
        cases sign with
        | positive =>
          have hparts : (some ((compare e e').then (compare m m')) == some .eq) = true := hcompare
          simp only [beq_iff_eq, Option.some.injEq, Ordering.then_eq_eq, Int.compare_eq_eq,
            Nat.compare_eq_eq] at hparts
          obtain ⟨rfl, rfl⟩ := hparts
          rfl
        | negative => exact absurd hcompare Bool.false_ne_true
      | infinity sign =>
        rw [hb] at hcompare
        cases sign <;> exact absurd hcompare Bool.false_ne_true
      | _ =>
        rw [hb] at hcompare
        exact absurd hcompare Bool.false_ne_true
  have hnumber : a.toModel.unpack ≠ .notANumber := by
    rcases positive_of_pos ha with hp | ⟨m, e, hm, hp⟩
    all_goals
      rw [hp]
      exact UnpackedFloat.noConfusion
  exact eq_of_bits (unpack_inj hunpack hnumber)

end Measure

end DisplayServer
