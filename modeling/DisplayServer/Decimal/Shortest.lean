import DisplayServer.Decimal.Binary

/-!
# The fewest digits that read back

A finite binary value is written with the fewest decimal digits that still read back as it.
The reals that round to a value form an interval around it. For one digit, two digits and so on
the value's two neighbours on that decimal grid are tried; the first grid with a neighbour in
the interval wins, and of two such neighbours the nearer one. Whoever writes the number says
what an exact tie does, and where the point stands (`Layout`).
-/

namespace DisplayServer

/-- Where an exact tie between two neighbours goes. -/
inductive Tie
  | even
  | up
  deriving DecidableEq

/-- A positive value and the interval of what rounds to it, over one denominator; the ends
belong to the interval when `closed`. -/
structure RoundingInterval where
  low : Nat
  value : Nat
  high : Nat
  den : Nat
  closed : Bool

namespace RoundingInterval

/-- The interval of `m · 2^q`. The gap below a power of two is half as wide as the gap above,
except at the format's least power. -/
def of (f : BinaryFormat) (m : Nat) (q : Int) : RoundingInterval :=
  let narrow := m = Nat.pow 2 f.fractionBits ∧ f.leastPower < q
  let unit := Nat.pow 2 (q - 2).toNat
  { low := (if narrow then 4 * m - 1 else 4 * m - 2) * unit
    value := 4 * m * unit
    high := (4 * m + 2) * unit
    den := Nat.pow 2 (2 - q).toNat
    closed := m % 2 == 0 }

def holds (i : RoundingInterval) (n d : Nat) : Bool :=
  if i.closed then i.low * d ≤ n * i.den && n * i.den ≤ i.high * d
  else i.low * d < n * i.den && n * i.den < i.high * d

/-- The multiple of `unit` that stands for the value, if a neighbour of the value does; the
unit is `num / den`. -/
def multiple? (i : RoundingInterval) (tie : Tie) (num den : Nat) : Option Nat :=
  let scaled := i.value * den
  let step := i.den * num
  let below := scaled / step
  let above := below + 1
  let rest := 2 * (scaled % step)
  match i.holds (below * num) den && below != 0, i.holds (above * num) den with
  | false, false => none
  | true, false => some below
  | false, true => some above
  | true, true =>
    if rest < step then some below
    else if step < rest then some above
    else
      match tie with
      | .even => some (if below % 2 = 0 then below else above)
      | .up => some above

/-- The first grid with a neighbour, from the power `scale` downwards. -/
def search (i : RoundingInterval) (tie : Tie) (scale : Int) : Nat → Nat × Int
  | 0 => (0, 0)
  | fuel + 1 =>
    let found :=
      if 0 ≤ scale then i.multiple? tie (Nat.pow 10 scale.toNat) 1
      else i.multiple? tie 1 (Nat.pow 10 (-scale).toNat)
    match found with
    | some n => (n, scale)
    | none => search i tie (scale - 1) fuel

end RoundingInterval

/-- The fewest digits for `m · 2^q`: a number and the power of ten it is multiplied by. The
grids start above the value's first digit, and no value needs more than seventeen digits. -/
def shortestDigits (f : BinaryFormat) (tie : Tie) (m : Nat) (q : Int) : Nat × Int :=
  if m = 0 then (0, 0)
  else (RoundingInterval.of f m q).search tie (((m.log2 : Int) + q) * 3 / 10 + 3) 30

/-- How a finite number is laid out: with the scientific exponent from `leastPositional` to
`greatestPositional` the point stands where it belongs, else a power of ten is written. Where
both are missing the point always stands where it belongs. -/
structure Layout where
  tie : Tie
  leastPositional : Option Int
  greatestPositional : Option Int
  deriving DecidableEq

namespace Layout

/-- Whether a number of this scientific exponent is written without a power of ten. -/
def isPositional (l : Layout) (e : Int) : Bool :=
  (match l.leastPositional with
    | none => true
    | some low => low ≤ e) &&
  match l.greatestPositional with
  | none => true
  | some high => e ≤ high

/-- The numeral of `digits · 10^scale`. A point always has digits on both sides; with a power
of ten it stands after the first digit, and is left out where nothing follows it. -/
def numeral (l : Layout) (negative : Bool) (digits : Nat) (scale : Int) : Numeral :=
  let ds := Digit.ofNat digits
  let e : Int := if digits = 0 then 0 else scale + ds.length - 1
  if l.isPositional e then
    if 0 ≤ scale then
      ⟨negative, ds ++ List.replicate scale.toNat .zero, [.zero], none⟩
    else
      let places := (-scale).toNat
      let padded := List.replicate (places + 1 - ds.length) .zero ++ ds
      let cut := padded.length - places
      ⟨negative, padded.take cut, padded.drop cut, none⟩
  else ⟨negative, ds.take 1, ds.drop 1, some e⟩

def ofFinite (l : Layout) (f : BinaryFormat) (negative : Bool) (m : Nat) (q : Int) : Numeral :=
  let found := shortestDigits f l.tie m q
  l.numeral negative found.1 found.2

end Layout

end DisplayServer
