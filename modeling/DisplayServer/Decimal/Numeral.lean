/-!
# Written numbers

A `Numeral` is a number as it is written: a sign, digits before and after the point, and a power
of ten. Which digits are chosen and where the point stands is for those who write numbers; this
file only spells them out and says what they are worth.
-/

namespace DisplayServer

abbrev Digit := Fin 10

namespace Digit

def zero : Digit := 0

def char (d : Digit) : Char := Char.ofNat (48 + d.val)

def ofChar? (c : Char) : Option Digit :=
  if 48 ≤ c.toNat ∧ c.toNat < 58 then some (Fin.ofNat 10 (c.toNat - 48)) else none

/-- The number that digits are worth, the first counting most. -/
def value (ds : List Digit) : Nat := ds.foldl (fun n d => 10 * n + d.val) 0

/-- The digits of a number, without leading zeros; zero has one digit. -/
def ofNat (n : Nat) : List Digit :=
  if n < 10 then [Fin.ofNat 10 n] else ofNat (n / 10) ++ [Fin.ofNat 10 n]
termination_by n

/-- The digits that a text starts with, and the rest. -/
def span : List Char → List Digit × List Char
  | [] => ([], [])
  | c :: cs =>
    match ofChar? c with
    | some d =>
      let found := span cs
      (d :: found.1, found.2)
    | none => ([], c :: cs)

end Digit

/-- A number as it is written. -/
structure Numeral where
  negative : Bool
  whole : List Digit
  /-- Digits after the point; none where no point is written. -/
  fraction : List Digit
  /-- The power of ten; none where none is written. -/
  exponent : Option Int
  deriving DecidableEq

namespace Numeral

def ofNat (n : Nat) : Numeral := ⟨false, Digit.ofNat n, [], none⟩

def ofInt (n : Int) : Numeral := ⟨n < 0, Digit.ofNat n.natAbs, [], none⟩

/-- The characters of a numeral; a power of ten carries its sign. -/
def text (n : Numeral) : List Char :=
  (if n.negative then ['-'] else []) ++ n.whole.map Digit.char ++
  (if n.fraction.isEmpty then [] else '.' :: n.fraction.map Digit.char) ++
  match n.exponent with
  | none => []
  | some e =>
    'e' :: (if e < 0 then '-' else '+') :: (Digit.ofNat e.natAbs).map Digit.char

/-- Whether a point or a power of ten is written. -/
def isWhole (n : Numeral) : Bool := n.fraction.isEmpty && n.exponent.isNone

/-- The whole number that is written, where no point and no power of ten is; a zero with a sign
is not one. -/
def whole? (n : Numeral) : Option Int :=
  if !n.isWhole then none
  else
    let v := Digit.value n.whole
    if !n.negative then some v else if v = 0 then none else some (-v)

/-- All written digits as one number. -/
def significand (n : Numeral) : Nat := Digit.value (n.whole ++ n.fraction)

/-- The power of ten that the significand is multiplied by. -/
def scale (n : Numeral) : Int := n.exponent.getD 0 - n.fraction.length

end Numeral

end DisplayServer
