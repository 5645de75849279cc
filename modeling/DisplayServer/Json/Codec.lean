import DisplayServer.Json.Reader
import DisplayServer.Measure
import DisplayServer.Symbol

/-!
# Records as JSON

A `Codec` says how a type is written as JSON and what JSON it is read from. Records are built
field by field, and each field is named once for both directions. A record is written as an
object with its fields in order. It is read from an object that has each of its fields once, in
any order and beside any others, or from an array of exactly its fields; a field that may be
missing is read as missing where the object does not have it.
-/

namespace DisplayServer

/-- How a type is written as JSON, what it is read from, and what a missing field of the type
stands for, if one may be missing. -/
structure Codec (α : Type) where
  write : α → Json
  read? : Json → Option α
  missing : Option α

namespace Codec

variable {α β : Type}

/-! ## Simple values -/

def text : Codec String :=
  ⟨.string, fun
    | .string s => some s
    | _ => none, none⟩

def flag : Codec Bool :=
  ⟨.bool, fun
    | .bool b => some b
    | _ => none, none⟩

def whole? : Json → Option Int
  | .number n => n.whole?
  | _ => none

/-- Whole numbers from 0 up to below a bound. -/
def natBelow (bound : Nat) : Codec Nat :=
  ⟨.ofNat, fun j => (whole? j).bind fun n =>
    if 0 ≤ n ∧ n < bound then some n.toNat else none, none⟩

/-- Sizes and rates: 32 bits without sign. -/
def size : Codec Nat := natBelow 4294967296

/-- Indices and identifiers: 64 bits without sign. -/
def index : Codec Nat := natBelow 18446744073709551616

/-- Coordinates: 32 bits with a sign. -/
def coordinate : Codec Int :=
  ⟨.ofInt, fun j => (whole? j).filter fun n => Pixel.least ≤ n && n ≤ Pixel.greatest, none⟩

/-! ## Measures -/

/-- A double-precision power of ten, for exponents from 0 to 308. -/
def powerOfTen (e : Nat) : Float :=
  Float.ofBits (BinaryFormat.double.ofDecimal 1 e).toUInt64

/-- A significand times a power of ten in double precision, in one multiplication or division
where the power is a double-precision number; smaller values are divided in steps, of which two
leave nothing. None where the result is too great. -/
def scaled? (v : Float) (e : Int) : Nat → Option Float
  | 0 => some v
  | fuel + 1 =>
    if e.natAbs ≤ 308 then
      if 0 ≤ e then (some (v * powerOfTen e.natAbs)).filter fun w => !w.isInf
      else some (v / powerOfTen e.natAbs)
    else if v == 0 then some v
    else if 0 ≤ e then none
    else scaled? (v / powerOfTen 308) (e + 308) fuel

/-- Takes digits into a significand of 64 bits as long as they fit. Returns the significand and
the digits that did not fit. -/
def gather (significand : Nat) : List Digit → Nat × List Digit
  | [] => (significand, [])
  | d :: ds =>
    if significand * 10 + d.val < 18446744073709551616 then gather (significand * 10 + d.val) ds
    else (significand, d :: ds)

/-- A numeral with a point or a power of ten in double precision: the digits that fit 64 bits,
scaled. Digits before the point that do not fit count as powers of ten, and digits after it do
not count. -/
def double? (n : Numeral) : Option Float :=
  let (whole, left) := gather 0 n.whole
  let (significand, unread) := gather whole n.fraction
  let read : Int := n.fraction.length - unread.length
  let e : Int := left.length - read + n.exponent.getD 0
  (scaled? significand.toUInt64.toFloat e 4).map fun v => if n.negative then -v else v

/-- The measure that a numeral is: whole numbers of 64 bits are rounded once, all others by way
of double precision. -/
def measureOf? (n : Numeral) : Option Float32 :=
  match n.whole? with
  | some v =>
    if -9223372036854775808 ≤ v ∧ v < 18446744073709551616 then
      some (Float32.ofBits (BinaryFormat.single.signed (v < 0)
        (BinaryFormat.single.nearest v.natAbs 1)).toUInt32)
    else (double? n).map narrow
  | none => (double? n).map narrow

/-- Measures; a measure that JSON has no number for is written as null. -/
def measure : Codec Float32 :=
  ⟨.ofMeasure, fun
    | .number n => measureOf? n
    | _ => none, none⟩

/-! ## Composite values -/

/-- A value that is read and written through another type. -/
def via (c : Codec α) (into : α → β) (out : β → α) : Codec β :=
  ⟨fun b => c.write (out b), fun j => (c.read? j).map into, none⟩

/-- The values of an enumeration, by name; an object with that name and nothing in it is read
too. -/
def symbol [Symbol α] : Codec α :=
  ⟨fun a => .string (Symbol.name a), fun
    | .string s => Symbol.ofName? s
    | .object [(s, .null)] => Symbol.ofName? s
    | _ => none, none⟩

/-- A value or null; a missing field is read as none. -/
def option (c : Codec α) : Codec (Option α) :=
  ⟨.ofOption c.write, fun
    | .null => some none
    | j => (c.read? j).map some, some none⟩

def list (c : Codec α) : Codec (List α) :=
  ⟨.ofList c.write, fun
    | .array items => items.mapM c.read?
    | _ => none, none⟩

def pair (a : Codec α) (b : Codec β) : Codec (α × β) :=
  ⟨fun p => .array [a.write p.1, b.write p.2], fun
    | .array [x, y] => do some (← a.read? x, ← b.read? y)
    | _ => none, none⟩

/-! ## Records -/

/-- Some fields of a record `ρ`, which build an `α`. -/
structure Fields (ρ α : Type) where
  names : List String
  write : ρ → List (String × Json)
  read? : (String → Option Json) → Option α

def fields {ρ : Type} (build : α) : Fields ρ α := ⟨[], fun _ => [], fun _ => some build⟩

def Fields.field {ρ : Type} (f : Fields ρ (β → α)) (name : String) (get : ρ → β)
    (c : Codec β) : Fields ρ α :=
  ⟨f.names ++ [name], fun r => f.write r ++ [(name, c.write (get r))], fun look =>
    match f.read? look, (match look name with
      | some j => c.read? j
      | none => c.missing) with
    | some build, some b => some (build b)
    | _, _ => none⟩

/-- The members that are fields of a record: each at most once in an object, exactly all of them
in an array. -/
def members? (names : List String) : Json → Option (List (String × Json))
  | .object members =>
    if names.all fun name => (members.filter fun m => m.1 == name).length ≤ 1 then some members
    else none
  | .array items => if items.length = names.length then some (names.zip items) else none
  | _ => none

def record (f : Fields α α) : Codec α :=
  ⟨fun a => .object (f.write a), fun j =>
    (members? f.names j).bind fun members => f.read? fun name => members.lookup name, none⟩

end Codec

end DisplayServer
