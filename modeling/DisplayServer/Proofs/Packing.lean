import DisplayServer.Proofs.Positive

/-!
# Packing measures

An operation on measures takes their bits apart, works on sign, digits and power, and packs the
result. Packing loses nothing where the digits are canonical and there is room for the power
(`unpack_pack_of_le`); without room the result is infinite. What a measure holds is of this kind
(`canonical_of_unpack`), so a measure is what it unpacks to (`eq_of_unpack`).
-/

namespace DisplayServer

namespace Measure

open Float.Model Float.Model.UnpackedFloat

/-- Digits and power as a measure holds them: as many digits as there is room for, or the least
power. -/
structure Canonical (m : Nat) (e : Int) : Prop where
  digits : m < 2 ^ 24
  power : -149 ≤ e
  full : 2 ^ 23 ≤ m ∨ e = -149

/-! ## Packing and unpacking -/

theorem unpackSign_packComponents (sign : Sign) (exponent : BitVec 8) (mantissa : BitVec 23) :
    Sign.ofBitVec (unpackSign (packComponents .binary32 sign exponent mantissa)) = sign := by
  have h : unpackSign (packComponents .binary32 sign exponent mantissa) = sign.toBitVec := by
    apply BitVec.eq_of_toNat_eq
    rw [toNat_unpackSign]
    show (sign.toBitVec ++ exponent ++ mantissa).toNat / 2 ^ 31 % 2 = sign.toBitVec.toNat
    have hsign := sign.toBitVec.isLt
    have hexponent := exponent.isLt
    have hmantissa := mantissa.isLt
    rw [BitVec.toNat_append, BitVec.toNat_append, ← Nat.shiftLeft_add_eq_or_of_lt mantissa.isLt,
      ← Nat.shiftLeft_add_eq_or_of_lt exponent.isLt, Nat.shiftLeft_eq, Nat.shiftLeft_eq]
    omega
  rw [h]
  cases sign <;> rfl

theorem unpack_packComponents_of_normal (sign : Sign) (exponent : BitVec 8)
    (mantissa : BitVec 23) (hpos : 0 < exponent.toNat) (hlt : exponent.toNat < 255) :
    ∃ hm, unpack .binary32 (packComponents .binary32 sign exponent mantissa) =
      .finite sign (2 ^ 23 + mantissa.toNat) (exponent.toNat - 150) hm := by
  have hnumber : exponent ≠ -1#8 := by
    rintro rfl
    exact absurd hlt (by decide)
  have hnormal : exponent ≠ 0#8 := by
    rintro rfl
    exact absurd hpos (by decide)
  have h := unpack_of_normal (b := packComponents .binary32 sign exponent mantissa)
    (by rwa [unpackExponent_packComponents]) (by rwa [unpackExponent_packComponents])
  rwa [unpackSign_packComponents, unpackExponent_packComponents,
    unpackMantissa_packComponents] at h

theorem unpack_packComponents_of_subnormal (sign : Sign) (mantissa : BitVec 23)
    (hpos : 0 < mantissa.toNat) :
    ∃ hm, unpack .binary32 (packComponents .binary32 sign 0#8 mantissa) =
      .finite sign mantissa.toNat (-149) hm := by
  have hmantissa : mantissa ≠ 0#23 := by
    rintro rfl
    exact absurd hpos (by decide)
  have h := unpack_of_subnormal (b := packComponents .binary32 sign 0#8 mantissa)
    (by rw [unpackExponent_packComponents]) (by rwa [unpackMantissa_packComponents])
  rwa [unpackSign_packComponents, unpackMantissa_packComponents] at h

theorem unpack_packedInfinity (sign : Sign) :
    unpack .binary32 (packedInfinity .binary32 sign) = .infinity sign := by
  cases sign <;> rfl

theorem unpack_packedZero (sign : Sign) :
    unpack .binary32 (packedZero .binary32 sign) = .zero sign := by
  cases sign <;> rfl

theorem unpack_packedNaN : unpack .binary32 (packedNaN .binary32) = .notANumber := rfl

theorem finite_congr {sign : Sign} {m n : Nat} {e f : Int} {hm : 0 < m} {hn : 0 < n}
    (hdigits : m = n) (hpower : e = f) :
    UnpackedFloat.finite sign m e hm = .finite sign n f hn := by
  subst hdigits hpower
  rfl

/-- A canonical number with room for its power is packed without loss. -/
theorem unpack_pack_of_le (sign : Sign) {m : Nat} {e : Int} (hm : 0 < m) (h : Canonical m e)
    (he : e ≤ 104) :
    unpack .binary32 (pack .binary32 (.finite sign m e hm)) = .finite sign m e hm := by
  have hpower := h.power
  have hdigits := h.digits
  have hroom : ¬ 2 ^ 8 ≤ (e + 127 + 23).toNat + 1 := by omega
  by_cases hfull : 2 ^ 23 ≤ m
  · have hlog : m.log2 + 1 = 24 := by
      have hge := (Nat.le_log2 (Nat.ne_of_gt hm)).mpr hfull
      have hlt := (Nat.log2_lt (Nat.ne_of_gt hm)).mpr hdigits
      omega
    have hpack : pack .binary32 (.finite sign m e hm) =
        packComponents .binary32 sign (BitVec.ofNat 8 (e + 127 + 23).toNat) (BitVec.ofNat 23 m) :=
      (if_neg hroom).trans (if_pos hlog)
    have hexponent : (BitVec.ofNat 8 (e + 127 + 23).toNat).toNat = (e + 150).toNat := by
      rw [BitVec.toNat_ofNat]
      omega
    have hmantissa : 2 ^ 23 + (BitVec.ofNat 23 m).toNat = m := by
      rw [BitVec.toNat_ofNat]
      omega
    obtain ⟨_, hunpack⟩ := unpack_packComponents_of_normal sign
      (.ofNat 8 (e + 127 + 23).toNat) (.ofNat 23 m) (by omega) (by omega)
    rw [hpack, hunpack]
    exact finite_congr hmantissa (by omega)
  · have hleast : e = -149 := h.full.resolve_left hfull
    have hlog : ¬ m.log2 + 1 = 24 := by
      have := (Nat.log2_lt (Nat.ne_of_gt hm)).mpr (Nat.not_le.mp hfull)
      omega
    have hpack : pack .binary32 (.finite sign m e hm) =
        packComponents .binary32 sign 0#8 (BitVec.ofNat 23 m) :=
      (if_neg hroom).trans (if_neg hlog)
    have hmantissa : (BitVec.ofNat 23 m).toNat = m := by
      rw [BitVec.toNat_ofNat]
      omega
    obtain ⟨_, hunpack⟩ := unpack_packComponents_of_subnormal sign (.ofNat 23 m)
      (by omega)
    rw [hpack, hunpack]
    exact finite_congr hmantissa hleast.symm

/-- One without it becomes infinite. -/
theorem unpack_pack_of_gt (sign : Sign) {m : Nat} {e : Int} (hm : 0 < m) (he : 104 < e) :
    unpack .binary32 (pack .binary32 (.finite sign m e hm)) = .infinity sign := by
  have hroom : 2 ^ 8 ≤ (e + 127 + 23).toNat + 1 := by omega
  have hpack : pack .binary32 (.finite sign m e hm) = packedInfinity .binary32 sign := if_pos hroom
  rw [hpack, unpack_packedInfinity]

/-- A number is zero, or canonical with room for its power. -/
theorem unpack_number {b : BitVec Format.binary32.numBits} (hnumber : unpackExponent b ≠ -1#_) :
    unpack .binary32 b = .zero (Sign.ofBitVec (unpackSign b)) ∨
      ∃ m e hm, unpack .binary32 b = .finite (Sign.ofBitVec (unpackSign b)) m e hm ∧
        Canonical m e ∧ e ≤ 104 := by
  have hmantissa : (unpackMantissa b).toNat < 2 ^ 23 := (unpackMantissa b).isLt
  by_cases hleast : unpackExponent b = 0#_
  · by_cases hzero : unpackMantissa b = 0#_
    · exact .inl ((if_neg hnumber).trans ((if_pos hleast).trans (dif_pos hzero)))
    · obtain ⟨hm, hb⟩ := unpack_of_subnormal hleast hzero
      exact .inr ⟨_, _, hm, hb, ⟨by omega, Int.le_refl _, .inr rfl⟩, by decide⟩
  · obtain ⟨hm, hb⟩ := unpack_of_normal hnumber hleast
    have hpos : (unpackExponent b).toNat ≠ 0 := fun he => hleast (BitVec.eq_of_toNat_eq he)
    have hlt : (unpackExponent b).toNat ≠ 255 := fun he => hnumber (BitVec.eq_of_toNat_eq he)
    have hexponent : (unpackExponent b).toNat < 2 ^ 8 := (unpackExponent b).isLt
    exact .inr ⟨_, _, hm, hb, ⟨by omega, by omega, .inl (Nat.le_add_right _ _)⟩, by omega⟩

/-- What a measure holds is canonical, and there is room for its power. -/
theorem canonical_of_unpack {b : BitVec Format.binary32.numBits} {sign : Sign} {m : Nat} {e : Int}
    {hm : 0 < m} (h : unpack .binary32 b = .finite sign m e hm) : Canonical m e ∧ e ≤ 104 := by
  by_cases hnumber : unpackExponent b = -1#_
  · by_cases hzero : unpackMantissa b = 0#_
    · have hb : unpack .binary32 b = .infinity (Sign.ofBitVec (unpackSign b)) :=
        (if_pos hnumber).trans (if_pos hzero)
      rw [h] at hb
      cases hb
    · have hb : unpack .binary32 b = .notANumber := (if_pos hnumber).trans (if_neg hzero)
      rw [h] at hb
      cases hb
  · rcases unpack_number hnumber with hb | ⟨m', e', hm', hb, hcanonical⟩
    · rw [h] at hb
      cases hb
    · rw [h] at hb
      obtain ⟨-, rfl, rfl⟩ := UnpackedFloat.finite.inj hb
      exact hcanonical

/-! ## A measure is what it unpacks to -/

theorem unpack_pack_unpack (b : BitVec Format.binary32.numBits) :
    unpack .binary32 (pack .binary32 (unpack .binary32 b)) = unpack .binary32 b := by
  cases h : unpack .binary32 b with
  | notANumber => exact unpack_packedNaN
  | infinity sign => exact unpack_packedInfinity sign
  | zero sign => exact unpack_packedZero sign
  | finite sign m e hm =>
    obtain ⟨hcanonical, hroom⟩ := canonical_of_unpack h
    exact unpack_pack_of_le sign hm hcanonical hroom

/-- Of all patterns that are no number, a measure holds one only. -/
theorem eq_packedNaN_of_unpack {b : BitVec Format.binary32.numBits}
    (hvalid : Format.binary32.Valid b) (h : unpack .binary32 b = .notANumber) :
    b = packedNaN .binary32 := by
  by_cases hnumber : unpackExponent b = -1#_
  · refine hvalid.eq_packedNaN hnumber fun hmantissa => ?_
    have hb : unpack .binary32 b = .infinity (Sign.ofBitVec (unpackSign b)) :=
      (if_pos hnumber).trans (if_pos hmantissa)
    rw [h] at hb
    cases hb
  · rcases unpack_number hnumber with hb | ⟨m, e, hm, hb, -⟩
    all_goals
      rw [h] at hb
      cases hb

theorem eq_of_unpack {a b : Float32} (h : a.toModel.unpack = b.toModel.unpack) : a = b := by
  by_cases hnumber : a.toModel.unpack = .notANumber
  · have ha := eq_packedNaN_of_unpack a.toModel.valid hnumber
    have hb := eq_packedNaN_of_unpack b.toModel.valid (h.symm.trans hnumber)
    exact eq_of_bits (ha.trans hb.symm)
  · exact eq_of_bits (unpack_inj h hnumber)

end Measure

end DisplayServer
