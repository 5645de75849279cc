import DisplayServer.Proofs.Packing
import Mathlib.Algebra.Order.Field.Rat
import Mathlib.Algebra.Order.Field.Power
import Mathlib.Tactic.Linarith
import Mathlib.Tactic.NormNum
import Mathlib.Tactic.Ring

/-!
# Rounding

The arithmetic of measures is exact, up to a last step that rounds to as many digits as there is
room for. The digits that are dropped leave two bits behind, and with these the mantissa tells on
which side of it the exact number lies (`Truncates`). So rounding stays between the neighbouring
whole numbers of its unit, and passes no canonical number on either side
(`rounded_roundWithAccuracy`). All that is proved of products and quotients comes from that.
-/

namespace DisplayServer

namespace Measure

open Float.Model Float.Model.UnpackedFloat

/-! ## Whole parts -/

@[simp] theorem mantissa_ofMantissaAndAccuracy (m : Nat) (acc : Accuracy) :
    (ExtendedMantissa.ofMantissaAndAccuracy m acc).mantissa = m := by
  unfold ExtendedMantissa.ofMantissaAndAccuracy
  split <;> rfl

/-- The mantissa is the whole part of `q`, and what was dropped shows in the two bits after it. -/
structure Truncates (em : ExtendedMantissa) (q : Rat) : Prop where
  le : em.mantissa ≤ q
  lt : q < em.mantissa + 1
  whole : q = em.mantissa → em.roundBit = false ∧ em.stickyBit = false

namespace Truncates

variable {em : ExtendedMantissa} {q : Rat}

theorem half (h : Truncates em q) : Truncates em.shiftRightOne (q / 2) := by
  have hdigits : (em.mantissa : Rat) = 2 * (em.mantissa / 2 : Nat) + (em.mantissa % 2 : Nat) := by
    exact_mod_cast (Nat.div_add_mod em.mantissa 2).symm
  have hlast : ((em.mantissa % 2 : Nat) : Rat) ≤ 1 := by
    exact_mod_cast Nat.le_of_lt_succ (Nat.mod_lt em.mantissa (by decide))
  have hnonneg : (0 : Rat) ≤ (em.mantissa % 2 : Nat) := Nat.cast_nonneg _
  have hle := h.le
  have hlt := h.lt
  refine ⟨?_, ?_, ?_⟩
  · show ((em.mantissa / 2 : Nat) : Rat) ≤ q / 2
    linarith
  · show q / 2 < ((em.mantissa / 2 : Nat) : Rat) + 1
    linarith
  · intro hhalf
    have hhalf : q / 2 = ((em.mantissa / 2 : Nat) : Rat) := hhalf
    have heven : em.mantissa % 2 = 0 := by
      have : ((em.mantissa % 2 : Nat) : Rat) = 0 := by linarith
      exact_mod_cast this
    obtain ⟨hround, hsticky⟩ := h.whole (by linarith)
    simp [ExtendedMantissa.shiftRightOne, heven, hround, hsticky]

theorem shift (h : Truncates em q) (k : Nat) : Truncates (em >>> k) (q / 2 ^ k) := by
  induction k with
  | zero =>
    rw [pow_zero, div_one]
    exact h
  | succ k ih =>
    rw [pow_succ, ← div_div]
    exact ih.half

/-- A whole number, of which nothing was dropped. -/
theorem ofExact (m : Nat) : Truncates (.ofMantissaAndAccuracy m .exact) m :=
  ⟨le_refl _, lt_add_one _, fun _ => ⟨rfl, rfl⟩⟩

/-- What `n / d` is between its whole part and the next number. -/
theorem ofFraction (n : Nat) {d : Nat} (hd : 0 < d) :
    Truncates (.ofMantissaAndAccuracy (n / d) (accuracyOfFraction (n % d) d)) (n / d) := by
  have hpos : (0 : Rat) < d := by exact_mod_cast hd
  have hdigits : (n : Rat) = d * (n / d : Nat) + (n % d : Nat) := by
    exact_mod_cast (Nat.div_add_mod n d).symm
  have hrest : ((n % d : Nat) : Rat) < d := by exact_mod_cast Nat.mod_lt n hd
  refine ⟨?_, ?_, ?_⟩
  · rw [mantissa_ofMantissaAndAccuracy, le_div_iff₀ hpos, hdigits]
    have : (0 : Rat) ≤ (n % d : Nat) := Nat.cast_nonneg _
    linarith
  · rw [mantissa_ofMantissaAndAccuracy, div_lt_iff₀ hpos]
    linarith
  · intro hwhole
    rw [mantissa_ofMantissaAndAccuracy, div_eq_iff hpos.ne'] at hwhole
    have hzero : n % d = 0 := by
      have : ((n % d : Nat) : Rat) = 0 := by linarith
      exact_mod_cast this
    rw [hzero]
    exact ⟨rfl, rfl⟩

theorem mantissa_le_roundedMantissa (em : ExtendedMantissa) :
    em.mantissa ≤ em.roundedMantissa := by
  obtain ⟨m, round, sticky⟩ := em
  cases round <;> cases sticky
  · exact le_refl m
  · exact le_refl m
  · exact Nat.le_add_right m (m % 2)
  · exact Nat.le_succ m

theorem roundedMantissa_le_succ (em : ExtendedMantissa) :
    em.roundedMantissa ≤ em.mantissa + 1 := by
  obtain ⟨m, round, sticky⟩ := em
  cases round <;> cases sticky
  · exact Nat.le_succ m
  · exact Nat.le_succ m
  · exact Nat.add_le_add_left (Nat.le_of_lt_succ (Nat.mod_lt m (by decide))) m
  · exact le_refl (m + 1)

/-- Rounding up goes no further than to the next whole number. -/
theorem roundedMantissa_le (h : Truncates em q) {n : Nat} (hn : q ≤ n) :
    em.roundedMantissa ≤ n := by
  have hle : em.mantissa ≤ n := by exact_mod_cast h.le.trans hn
  rcases Nat.lt_or_eq_of_le hle with hlt | heq
  · exact (roundedMantissa_le_succ em).trans hlt
  · obtain ⟨hround, hsticky⟩ := h.whole (le_antisymm (heq ▸ hn) h.le)
    obtain ⟨m, round, sticky⟩ := em
    cases hround
    cases hsticky
    exact hle

theorem le_roundedMantissa (h : Truncates em q) {n : Nat} (hn : n ≤ q) :
    n ≤ em.roundedMantissa := by
  have hlt : (n : Rat) < (em.mantissa + 1 : Nat) := by
    push_cast
    exact hn.trans_lt h.lt
  have hle : n ≤ em.mantissa := Nat.le_of_lt_succ (by exact_mod_cast hlt)
  exact hle.trans (mantissa_le_roundedMantissa em)

end Truncates

/-! ## Canonical numbers -/

theorem two_zpow_pos (e : Int) : (0 : Rat) < 2 ^ e := zpow_pos (by norm_num) e

theorem two_zpow_le {e f : Int} (h : e ≤ f) : (2 : Rat) ^ e ≤ 2 ^ f :=
  zpow_le_zpow_right₀ (by norm_num) h

theorem two_zpow_add (e f : Int) : (2 : Rat) ^ (e + f) = 2 ^ e * 2 ^ f :=
  zpow_add₀ (by norm_num) e f

namespace Canonical

variable {m m' : Nat} {e e' : Int}

theorem lt_two_zpow (h : Canonical m e) : (m : Rat) * 2 ^ e < 2 ^ (e + 24) := by
  have hdigits : (m : Rat) < 2 ^ 24 := by exact_mod_cast h.digits
  rw [two_zpow_add, mul_comm]
  exact mul_lt_mul_of_pos_left (by exact_mod_cast hdigits) (two_zpow_pos e)

/-- A canonical number above the least power has all its digits. -/
theorem two_zpow_le (h : Canonical m e) (he : -149 < e) : (2 : Rat) ^ (e + 23) ≤ m * 2 ^ e := by
  have hdigits : (2 : Rat) ^ (23 : Int) ≤ m := by
    rcases h.full with hfull | hleast
    · exact_mod_cast hfull
    · omega
  rw [two_zpow_add, mul_comm]
  exact mul_le_mul_of_nonneg_right hdigits (two_zpow_pos e).le

/-- Between canonical numbers the powers decide. -/
theorem lt_of_power_lt (h : Canonical m e) (h' : Canonical m' e') (he : e < e') :
    (m : Rat) * 2 ^ e < m' * 2 ^ e' :=
  calc (m : Rat) * 2 ^ e < 2 ^ (e + 24) := h.lt_two_zpow
    _ ≤ 2 ^ (e' + 23) := Measure.two_zpow_le (by omega)
    _ ≤ m' * 2 ^ e' := h'.two_zpow_le (by have := h.power; omega)

theorem inj (h : Canonical m e) (h' : Canonical m' e') (heq : (m : Rat) * 2 ^ e = m' * 2 ^ e') :
    m = m' ∧ e = e' := by
  have he : e = e' := by
    rcases lt_trichotomy e e' with hlt | heq' | hgt
    · exact absurd heq (h.lt_of_power_lt h' hlt).ne
    · exact heq'
    · exact absurd heq (h'.lt_of_power_lt h hgt).ne'
  subst he
  exact ⟨by exact_mod_cast mul_right_cancel₀ (two_zpow_pos e).ne' heq, rfl⟩

end Canonical

/-! ## Rounding to a canonical number -/

/-- The number that an unpacked measure stands for, without its sign. -/
def size : UnpackedFloat → Rat
  | .finite _ m e _ => m * 2 ^ e
  | _ => 0

/-- The power to which digits are rounded. -/
def power (m : Nat) (e : Int) : Int := max (m.log2 + e - 23) (-149)

theorem targetExponent_eq (m : Nat) (e : Int) :
    Format.binary32.targetExponent (totalExponent m e) = power m e := by
  show max ((m.log2 : Int) + 1 + e - 24) (-149) = power m e
  unfold power
  omega

/-- What comes of rounding `x`: no canonical number lies between `x` and it. -/
structure Rounded (sign : Sign) (x : Rat) (u : UnpackedFloat) : Prop where
  form : u = .zero sign ∨ ∃ m e hm, u = .finite sign m e hm ∧ Canonical m e
  size_le : ∀ {m e}, Canonical m e → x ≤ m * 2 ^ e → size u ≤ m * 2 ^ e
  le_size : ∀ {m e}, Canonical m e → m * 2 ^ e ≤ x → m * 2 ^ e ≤ size u

/-- Digits that have room are kept by the second shift. -/
theorem shiftToTargetExponent_of_lt {r : Nat} {t : Int} (hr : r < 2 ^ 24) (ht : -149 ≤ t) :
    shiftToTargetExponent .binary32 r t .exact = (⟨r, false, false⟩, t) := by
  have hlog : r.log2 ≤ 23 := by
    by_cases hzero : r = 0
    · simp [hzero]
    · exact Nat.le_of_lt_succ ((Nat.log2_lt hzero).mpr hr)
  have hshift : (power r t - t).toNat = 0 := by
    unfold power
    omega
  simp only [shiftToTargetExponent, shiftToExponent, targetExponent_eq, hshift]
  show (_, t + ((0 : Nat) : Int)) = _
  rw [Nat.cast_zero, add_zero]
  rfl

/-- Digits that rounding carried over the room lose the last one, which is zero. -/
theorem shiftToTargetExponent_carried {t : Int} (ht : -149 ≤ t) :
    shiftToTargetExponent .binary32 (2 ^ 24) t .exact = (⟨2 ^ 23, false, false⟩, t + 1) := by
  have hshift : (power (2 ^ 24) t - t).toNat = 1 := by
    unfold power
    rw [Nat.log2_two_pow]
    omega
  simp only [shiftToTargetExponent, shiftToExponent, targetExponent_eq, hshift]
  rfl

/-- The second shift makes rounded digits canonical, and changes nothing else. -/
theorem canonical_shiftToTargetExponent {r : Nat} {t : Int} (hr : r ≤ 2 ^ 24) (ht : -149 ≤ t)
    (hfull : 2 ^ 23 ≤ r ∨ t = -149) :
    ∃ m e, shiftToTargetExponent .binary32 r t .exact = (⟨m, false, false⟩, e) ∧
      Canonical m e ∧ (m : Rat) * 2 ^ e = r * 2 ^ t := by
  rcases Nat.lt_or_eq_of_le hr with hlt | rfl
  · exact ⟨r, t, shiftToTargetExponent_of_lt hlt ht, ⟨hlt, ht, hfull⟩, rfl⟩
  · refine ⟨2 ^ 23, t + 1, shiftToTargetExponent_carried ht,
      ⟨by decide, by omega, .inl le_rfl⟩, ?_⟩
    rw [two_zpow_add]
    push_cast
    ring

/-- In units of a lower power, digits are a whole number. -/
theorem mul_two_zpow_eq (m : Nat) {e t : Int} (h : t ≤ e) :
    (m : Rat) * 2 ^ e = (m * 2 ^ (e - t).toNat : Nat) * 2 ^ t := by
  have he : ((e - t).toNat : Int) + t = e := by omega
  rw [← he, two_zpow_add, zpow_natCast, he]
  push_cast
  ring

/-- `r` units of the power `t` come of rounding `x` to whole units. -/
structure Settles (x : Rat) (r : Nat) (t : Int) : Prop where
  power : -149 ≤ t
  room : r ≤ 2 ^ 24
  /-- Above the least power there are enough digits. -/
  full : -149 < t → 2 ^ (t + 23) ≤ x ∧ 2 ^ 23 ≤ r
  le : ∀ {n : Nat}, x ≤ n * 2 ^ t → r ≤ n
  ge : ∀ {n : Nat}, n * 2 ^ t ≤ x → n ≤ r

namespace Settles

variable {x : Rat} {r n : Nat} {t f : Int}

theorem full_or_least (h : Settles x r t) : 2 ^ 23 ≤ r ∨ t = -149 := by
  rcases lt_or_eq_of_le h.power with hlt | heq
  · exact .inl (h.full hlt).2
  · exact .inr heq.symm

theorem le_of_le (h : Settles x r t) (hn : Canonical n f) (hxn : x ≤ n * 2 ^ f) :
    (r : Rat) * 2 ^ t ≤ n * 2 ^ f := by
  rcases le_or_gt t f with htf | hft
  · rw [mul_two_zpow_eq n htf] at hxn ⊢
    exact mul_le_mul_of_nonneg_right (by exact_mod_cast h.le hxn) (two_zpow_pos t).le
  · -- `x` has its digits above all those of a lower power
    have hx : (2 : Rat) ^ (t + 23) ≤ x := (h.full (by have := hn.power; omega)).1
    have hpower : (2 : Rat) ^ (f + 24) ≤ 2 ^ (t + 23) := two_zpow_le (by omega)
    exact absurd (hxn.trans_lt hn.lt_two_zpow) (not_lt.mpr (hpower.trans hx))

theorem ge_of_ge (h : Settles x r t) (hn : Canonical n f) (hxn : n * 2 ^ f ≤ x) :
    (n : Rat) * 2 ^ f ≤ r * 2 ^ t := by
  rcases le_or_gt t f with htf | hft
  · rw [mul_two_zpow_eq n htf] at hxn ⊢
    exact mul_le_mul_of_nonneg_right (by exact_mod_cast h.ge hxn) (two_zpow_pos t).le
  · have hdigits : (2 : Rat) ^ (23 : Int) ≤ r := by
      exact_mod_cast (h.full (by have := hn.power; omega)).2
    calc (n : Rat) * 2 ^ f ≤ 2 ^ (f + 24) := hn.lt_two_zpow.le
      _ ≤ 2 ^ (23 + t) := two_zpow_le (by omega)
      _ = 2 ^ (23 : Int) * 2 ^ t := two_zpow_add _ _
      _ ≤ r * 2 ^ t := mul_le_mul_of_nonneg_right hdigits (two_zpow_pos t).le

end Settles

/-- Rounding shifts twice: digits that the first shift carried over the room are shifted again. -/
theorem roundWithAccuracy_eq {m : Nat} {e : Int} {acc : Accuracy} {em : ExtendedMantissa} {t : Int}
    {m' : Nat} {e' : Int} (sign : Sign)
    (hfirst : shiftToTargetExponent .binary32 m e acc = (em, t))
    (hsecond : shiftToTargetExponent .binary32 em.roundedMantissa t .exact =
      (⟨m', false, false⟩, e')) :
    roundWithAccuracy .binary32 sign m e acc =
      if h : m' = 0 then .zero sign else .finite sign m' e' (Nat.pos_of_ne_zero h) := by
  unfold roundWithAccuracy
  rw [hfirst]
  dsimp only
  generalize shiftToTargetExponent .binary32 em.roundedMantissa t .exact = second at hsecond ⊢
  subst hsecond
  rfl

section

variable {m : Nat} {e : Int} {acc : Accuracy} {x : Rat}
  (hx : Truncates (.ofMantissaAndAccuracy m acc) (x / 2 ^ e))
include hx

theorem lt_two_zpow_power : x < 2 ^ (power m e + 24) := by
  have hlt := hx.lt
  rw [mantissa_ofMantissaAndAccuracy, div_lt_iff₀ (two_zpow_pos e)] at hlt
  have hdigits : ((m : Rat) + 1) ≤ 2 ^ ((m.log2 : Int) + 1) := by
    exact_mod_cast Nat.lt_log2_self (n := m)
  calc x < (m + 1) * 2 ^ e := hlt
    _ ≤ 2 ^ ((m.log2 : Int) + 1) * 2 ^ e :=
      mul_le_mul_of_nonneg_right hdigits (two_zpow_pos e).le
    _ = 2 ^ ((m.log2 : Int) + 1 + e) := (two_zpow_add _ _).symm
    _ ≤ 2 ^ (power m e + 24) := two_zpow_le (by unfold power; omega)

theorem two_zpow_power_le (he : e ≤ power m e) (hpower : -149 < power m e) :
    (2 : Rat) ^ (power m e + 23) ≤ x := by
  have hm : m ≠ 0 := by
    rintro rfl
    unfold power at he hpower
    simp only [Nat.log2_zero] at he hpower
    omega
  have hle := hx.le
  rw [mantissa_ofMantissaAndAccuracy, le_div_iff₀ (two_zpow_pos e)] at hle
  have hdigits : (2 : Rat) ^ (m.log2 : Int) ≤ m := by exact_mod_cast Nat.log2_self_le hm
  calc (2 : Rat) ^ (power m e + 23) = 2 ^ ((m.log2 : Int) + e) := by
        congr 1
        unfold power at hpower ⊢
        omega
    _ = 2 ^ (m.log2 : Int) * 2 ^ e := two_zpow_add _ _
    _ ≤ m * 2 ^ e := mul_le_mul_of_nonneg_right hdigits (two_zpow_pos e).le
    _ ≤ x := hle

/-- The first shift leaves the whole part in units of the power. -/
theorem truncates_shiftToTargetExponent (he : e ≤ power m e) :
    Truncates (shiftToTargetExponent .binary32 m e acc).1 (x / 2 ^ power m e) ∧
      (shiftToTargetExponent .binary32 m e acc).2 = power m e := by
  have hshift : e + ((power m e - e).toNat : Int) = power m e := by omega
  simp only [shiftToTargetExponent, shiftToExponent, targetExponent_eq]
  refine ⟨?_, hshift⟩
  have h := hx.shift (power m e - e).toNat
  rw [div_div, ← zpow_natCast, ← two_zpow_add, hshift] at h
  exact h

/-- What the first shift leaves is rounded in units of its power. -/
theorem settles_shiftToTargetExponent (he : e ≤ power m e) :
    Settles x (shiftToTargetExponent .binary32 m e acc).1.roundedMantissa (power m e) := by
  have h := (truncates_shiftToTargetExponent hx he).1
  have hpos := two_zpow_pos (power m e)
  have hlt := lt_two_zpow_power hx
  have hle := two_zpow_power_le hx he
  refine ⟨le_max_right _ _, ?_, ?_, ?_, ?_⟩
  · refine h.roundedMantissa_le ?_
    rw [div_le_iff₀ hpos, mul_comm]
    rw [two_zpow_add] at hlt
    exact_mod_cast hlt.le
  · intro hpower
    refine ⟨hle hpower, h.le_roundedMantissa ?_⟩
    rw [le_div_iff₀ hpos, mul_comm]
    have hle := hle hpower
    rw [two_zpow_add] at hle
    exact_mod_cast hle
  · exact fun hn => h.roundedMantissa_le ((div_le_iff₀ hpos).mpr hn)
  · exact fun hn => h.le_roundedMantissa ((le_div_iff₀ hpos).mpr hn)

/-- **Rounding to nearest passes no canonical number.** -/
theorem rounded_roundWithAccuracy (sign : Sign) (he : e ≤ power m e) :
    Rounded sign x (roundWithAccuracy .binary32 sign m e acc) := by
  have hpower := (truncates_shiftToTargetExponent hx he).2
  have h := settles_shiftToTargetExponent hx he
  obtain ⟨em, hfirst⟩ : ∃ em, shiftToTargetExponent .binary32 m e acc = (em, power m e) :=
    ⟨_, Prod.ext rfl hpower⟩
  rw [hfirst] at h
  obtain ⟨m', e', hsecond, hcanonical, hvalue⟩ :=
    canonical_shiftToTargetExponent h.room h.power h.full_or_least
  rw [roundWithAccuracy_eq sign hfirst hsecond]
  by_cases hzero : m' = 0
  · rw [dif_pos hzero]
    have hsize : size (.zero sign) = em.roundedMantissa * 2 ^ power m e := by
      rw [← hvalue, hzero, Nat.cast_zero, zero_mul]
      rfl
    exact ⟨.inl rfl, fun hn hxn => hsize ▸ h.le_of_le hn hxn,
      fun hn hxn => hsize ▸ h.ge_of_ge hn hxn⟩
  · rw [dif_neg hzero]
    have hsize : size (.finite sign m' e' (Nat.pos_of_ne_zero hzero)) =
        em.roundedMantissa * 2 ^ power m e := hvalue
    exact ⟨.inr ⟨m', e', _, rfl, hcanonical⟩, fun hn hxn => hsize ▸ h.le_of_le hn hxn,
      fun hn hxn => hsize ▸ h.ge_of_ge hn hxn⟩

end

end Measure

end DisplayServer
