import DisplayServer.Decimal.Numeral

/-!
# Binary floating-point numbers as exact values

A binary format gives every bit pattern an exact value `m · 2^q`, an infinity, or not-a-number.
`BinaryFormat.decode` takes a pattern apart and `BinaryFormat.nearest` finds the pattern whose
value is nearest to a given ratio, ties going to the even pattern. Everything is exact
arithmetic on natural numbers.
-/

namespace DisplayServer

/-- Widths of the fields of a binary format. -/
structure BinaryFormat where
  fractionBits : Nat
  exponentBits : Nat
  deriving DecidableEq

/-- What a bit pattern stands for. -/
inductive BinaryValue
  | nan
  | infinite (negative : Bool)
  /-- The value `m · 2^q`. -/
  | finite (negative : Bool) (m : Nat) (q : Int)
  deriving DecidableEq

namespace BinaryFormat

def single : BinaryFormat := ⟨23, 8⟩

def double : BinaryFormat := ⟨52, 11⟩

/-- The least power of two that values are multiples of. -/
def leastPower (f : BinaryFormat) : Int :=
  2 - (Nat.pow 2 (f.exponentBits - 1) : Nat) - f.fractionBits

/-- The pattern of positive infinity. -/
def infinity (f : BinaryFormat) : Nat := (Nat.pow 2 f.exponentBits - 1) * Nat.pow 2 f.fractionBits

/-- The pattern of the sign. -/
def sign (f : BinaryFormat) : Nat := Nat.pow 2 (f.fractionBits + f.exponentBits)

def decode (f : BinaryFormat) (bits : Nat) : BinaryValue :=
  let negative := bits / f.sign % 2 == 1
  let magnitude := bits % f.sign
  let fraction := magnitude % Nat.pow 2 f.fractionBits
  let exponent := magnitude / Nat.pow 2 f.fractionBits
  if f.infinity < magnitude then .nan
  else if magnitude = f.infinity then .infinite negative
  else if exponent = 0 then .finite negative fraction f.leastPower
  else .finite negative (fraction + Nat.pow 2 f.fractionBits) (f.leastPower + exponent - 1)

/-- The whole number nearest to `num / den`, ties going to the even one. -/
def roundEven (num den : Nat) : Nat :=
  let n := num / den
  let twice := 2 * (num % den)
  if twice < den then n else if den < twice then n + 1 else n + n % 2

/-- The pattern of the magnitude nearest to `num / den`: whole multiples of a power of two are
compared, the least power that the format has or the one that leaves as many bits as the
fraction has. Magnitudes past the greatest become infinite. -/
def nearest (f : BinaryFormat) (num den : Nat) : Nat :=
  if num = 0 then 0
  else
    let guess : Int := num.log2 - den.log2
    -- the value lies between `2^(guess - 1)` and `2^(guess + 1)`
    let reaches : Bool :=
      if 0 ≤ guess then den * Nat.pow 2 guess.toNat ≤ num
      else den ≤ num * Nat.pow 2 (-guess).toNat
    let top : Int := if reaches then guess else guess - 1
    let q := max (top - f.fractionBits) f.leastPower
    let m :=
      if 0 ≤ q then roundEven num (den * Nat.pow 2 q.toNat)
      else roundEven (num * Nat.pow 2 (-q).toNat) den
    min ((q - f.leastPower).toNat * Nat.pow 2 f.fractionBits + m) f.infinity

def signed (f : BinaryFormat) (negative : Bool) (magnitude : Nat) : Nat :=
  if negative then f.sign + magnitude else magnitude

/-- The pattern nearest to `digits · 10^scale`. Far outside the format's range the powers of ten
are not computed. -/
def ofDecimal (f : BinaryFormat) (digits : Nat) (scale : Int) : Nat :=
  if digits = 0 then 0
  else if 400 < (digits.log2 : Int) * 301 / 1000 + scale then f.infinity
  else if ((digits.log2 : Int) + 1) * 302 / 1000 + 1 + scale < -400 then 0
  else if 0 ≤ scale then f.nearest (digits * Nat.pow 10 scale.toNat) 1
  else f.nearest digits (Nat.pow 10 (-scale).toNat)

end BinaryFormat

/-- The single-precision number nearest to a double-precision one. -/
def narrow (v : Float) : Float32 :=
  match BinaryFormat.double.decode v.toBits.toNat with
  | .nan => Float32.ofBits 0x7fc00000
  | .infinite negative =>
    Float32.ofBits (BinaryFormat.single.signed negative BinaryFormat.single.infinity).toUInt32
  | .finite negative m q =>
    let magnitude :=
      if 0 ≤ q then BinaryFormat.single.nearest (m * Nat.pow 2 q.toNat) 1
      else BinaryFormat.single.nearest m (Nat.pow 2 (-q).toNat)
    Float32.ofBits (BinaryFormat.single.signed negative magnitude).toUInt32

def widen (v : Float32) : Float :=
  match BinaryFormat.single.decode v.toBits.toNat with
  | .nan => Float.ofBits 0x7ff8000000000000
  | .infinite negative =>
    Float.ofBits (BinaryFormat.double.signed negative BinaryFormat.double.infinity).toUInt64
  | .finite negative m q =>
    let magnitude :=
      if 0 ≤ q then BinaryFormat.double.nearest (m * Nat.pow 2 q.toNat) 1
      else BinaryFormat.double.nearest m (Nat.pow 2 (-q).toNat)
    Float.ofBits (BinaryFormat.double.signed negative magnitude).toUInt64

namespace Numeral

def toDouble (n : Numeral) : Float :=
  Float.ofBits (BinaryFormat.double.signed n.negative
    (BinaryFormat.double.ofDecimal n.significand n.scale)).toUInt64

/-- The numeral in single precision, by way of the nearest double-precision number. -/
def toSingle (n : Numeral) : Float32 := narrow n.toDouble

end Numeral

end DisplayServer
