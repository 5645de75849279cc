/-!
# Hexadecimal digits

Escapes in written text name characters by hexadecimal numbers of a fixed number of digits.
-/

namespace DisplayServer

namespace Hexadecimal

/-- The number that a digit is, in either case. -/
def value? (c : Char) : Option Nat :=
  if '0' ≤ c ∧ c ≤ '9' then some (c.toNat - 48)
  else if 'a' ≤ c ∧ c ≤ 'f' then some (c.toNat - 87)
  else if 'A' ≤ c ∧ c ≤ 'F' then some (c.toNat - 55)
  else none

def digit (n : Nat) : Char := if n < 10 then Char.ofNat (48 + n) else Char.ofNat (87 + n)

/-- The last `width` digits of a number. -/
def digits (n : Nat) : (width : Nat) → List Char
  | 0 => []
  | width + 1 => digit (n / Nat.pow 16 width % 16) :: digits n width

/-- The number that a text starts with, of so many digits, and the rest; `read` is what was read
of it so far. -/
def number? (read : Nat) : (width : Nat) → List Char → Option (Nat × List Char)
  | 0, cs => some (read, cs)
  | _ + 1, [] => none
  | width + 1, c :: cs =>
    match value? c with
    | none => none
    | some d => number? (16 * read + d) width cs

end Hexadecimal

end DisplayServer
