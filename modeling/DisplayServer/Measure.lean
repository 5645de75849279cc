/-!
# Whole pixels and single-precision measures

Positions and sizes are whole pixels, 32-bit signed quantities kept as `Int`; the places where
a result could leave that range name what happens there (`Pixel.saturate`, `Pixel.wrap`).
Ratios, densities and band widths are single-precision numbers. This file holds the passages
between the two: `Measure.ofPixels` rounds to the nearest measure, `Measure.toPixels` drops
the fraction.
-/

namespace DisplayServer

namespace Pixel

def least : Int := -2147483648

/-- The greatest coordinate. -/
def greatest : Int := 2147483647

/-- The coordinate nearest to `n`. -/
def saturate (n : Int) : Int := max least (min n greatest)

/-- The coordinate that an unsigned size of 32 bits stands for: sizes past the greatest
coordinate wrap around. -/
def wrap (n : Nat) : Int := (n : Int).bmod 4294967296

theorem saturate_eq_self {n : Int} (h : least ≤ n) (h' : n ≤ greatest) : saturate n = n := by
  unfold saturate
  omega

theorem wrap_eq_self {n : Nat} (h : (n : Int) ≤ greatest) : wrap n = n := by
  unfold greatest at h
  exact Int.bmod_eq_of_le_mul_two (by omega) (by omega)

end Pixel

namespace Measure

/-- Measures closer than this count as equal. -/
def tolerance : Float32 := 0.00001

/-- Whether a measure cannot be told from zero; not-a-number can. -/
def nearZero (v : Float32) : Bool := -tolerance < v && v < tolerance

/-- Whether `a` is above `b` by more than the tolerance. -/
def exceeds (a b : Float32) : Bool := a - b > tolerance

/-- The measure nearest to a number of pixels, ties going to the even neighbour. -/
def ofPixels (n : Int) : Float32 :=
  if n < 0 then -n.natAbs.toUInt64.toFloat32 else n.toNat.toUInt64.toFloat32

/-- The whole pixels of a measure: the fraction is dropped, measures out of range give the
nearest coordinate, and not-a-number gives 0. -/
def toPixels (v : Float32) : Int :=
  if v < 0 then -min ((-v).toUInt64.toNat : Int) 2147483648
  else min (v.toUInt64.toNat : Int) Pixel.greatest

/-- The greatest finite measure. -/
def greatest : Float32 := Float32.ofBits 0x7f7fffff

end Measure

end DisplayServer
