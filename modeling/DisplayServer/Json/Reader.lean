import DisplayServer.Json.Basic

/-!
# Reading JSON

`Json.parse?` reads a whole text as one value, with blanks around it. A string whose escapes
spell half of a character is well formed, since nobody may ask for it, but nothing can be read
from it. Recursion is bounded by the length of the text.
-/

namespace DisplayServer

namespace Json

def isBlank (c : Char) : Bool := c == ' ' || c == '\n' || c == '\t' || c == '\r'

def skipBlank (cs : List Char) : List Char := cs.dropWhile isBlank

/-- The text after a word it starts with. -/
def word? : List Char → List Char → Option (List Char)
  | [], cs => some cs
  | _ :: _, [] => none
  | w :: ws, c :: cs => if w = c then word? ws cs else none

/-! ## Numbers -/

/-- A power of ten, if one is written. -/
def power? : List Char → Option (Option Int × List Char)
  | c :: cs =>
    if c = 'e' ∨ c = 'E' then
      let (negative, cs) := match cs with
        | '+' :: cs => (false, cs)
        | '-' :: cs => (true, cs)
        | cs => (false, cs)
      match Digit.span cs with
      | ([], _) => none
      | (ds, cs) =>
        let n : Int := Digit.value ds
        some (some (if negative then -n else n), cs)
    else some (none, c :: cs)
  | [] => some (none, [])

/-- The digits after a point, if one is written; there has to be one. -/
def fraction? : List Char → Option (List Digit × List Char)
  | '.' :: cs =>
    match Digit.span cs with
    | ([], _) => none
    | found => some found
  | cs => some ([], cs)

/-- A number: no leading zeros, and digits on both sides of a point. -/
def numeral? (cs : List Char) : Option (Numeral × List Char) :=
  let (negative, cs) := match cs with
    | '-' :: cs => (true, cs)
    | cs => (false, cs)
  let whole? : Option (List Digit × List Char) := match Digit.span cs with
    | ([], _) => none
    | (0 :: _ :: _, _) => none
    | found => some found
  match whole? with
  | none => none
  | some (whole, cs) =>
    match fraction? cs with
    | none => none
    | some (fraction, cs) =>
      match power? cs with
      | none => none
      | some (exponent, cs) => some (⟨negative, whole, fraction, exponent⟩, cs)

/-! ## Strings -/

/-- Whether a unit is the first half of a character. -/
def isHighHalf (u : Nat) : Bool := 0xd800 ≤ u && u < 0xdc00

/-- Whether a unit is the second half of a character. -/
def isLowHalf (u : Nat) : Bool := 0xdc00 ≤ u && u < 0xe000

/-- The character that an escape of one letter stands for. -/
def letterEscape? (c : Char) : Option Char :=
  if c = '"' ∨ c = '\\' ∨ c = '/' then some c
  else if c = 'n' then some '\n'
  else if c = 't' then some '\t'
  else if c = 'r' then some '\r'
  else if c = 'b' then some (Char.ofNat 8)
  else if c = 'f' then some (Char.ofNat 12)
  else none

/-- Puts a character in front of a string's rest; half a character spoils it. -/
def prepend (c : Option Char) (read : Option (List Char) × List Char) :
    Option (List Char) × List Char :=
  (match c, read.1 with
    | some c, some cs => some (c :: cs)
    | _, _ => none, read.2)

/-- The rest of a string after its opening quote, up to the closing one: its characters, none
where they spell half a character, and the text after it. -/
def stringRest? : Nat → List Char → Option (Option (List Char) × List Char)
  | 0, _ => none
  | _ + 1, [] => none
  | fuel + 1, c :: cs =>
    if c = '"' then some (some [], cs)
    else if c.toNat < 32 then none
    else if c ≠ '\\' then (stringRest? fuel cs).map (prepend (some c))
    else
      match cs with
      | 'u' :: cs =>
        match Hexadecimal.number? 0 4 cs with
        | none => none
        | some (u, cs) =>
          let second? : Option (Nat × List Char) := match cs with
            | '\\' :: 'u' :: rest => (Hexadecimal.number? 0 4 rest).filter fun v => isLowHalf v.1
            | _ => none
          match isHighHalf u, second? with
          | true, some (v, rest) =>
            let c := Char.ofNat (0x10000 + (u - 0xd800) * 0x400 + (v - 0xdc00))
            (stringRest? fuel rest).map (prepend (some c))
          | _, _ =>
            let c := if isHighHalf u || isLowHalf u then none else some (Char.ofNat u)
            (stringRest? fuel cs).map (prepend c)
      | e :: cs =>
        match letterEscape? e with
        | none => none
        | some c => (stringRest? fuel cs).map (prepend (some c))
      | [] => none

/-- Makes an object, unless one of its names spells half a character. -/
def ofMembers (members : List (Option String × Json)) : Json :=
  match members.mapM fun m => m.1.map fun name => (name, m.2) with
  | some members => object members
  | none => unreadable

/-! ## Values -/

mutual

/-- A value at the start of a text, and the rest. -/
def value? : Nat → List Char → Option (Json × List Char)
  | 0, _ => none
  | fuel + 1, cs =>
    match cs with
    | [] => none
    | '"' :: rest =>
      match stringRest? fuel rest with
      | none => none
      | some (some s, rest) => some (string (String.ofList s), rest)
      | some (none, rest) => some (unreadable, rest)
    | '[' :: rest =>
      match skipBlank rest with
      | ']' :: rest => some (array [], rest)
      | rest =>
        match items? fuel rest with
        | none => none
        | some (items, rest) => some (array items, rest)
    | '\x7b' :: rest =>
      match skipBlank rest with
      | '\x7d' :: rest => some (object [], rest)
      | rest =>
        match members? fuel rest with
        | none => none
        | some (members, rest) => some (ofMembers members, rest)
    | 'n' :: rest => (word? ['u', 'l', 'l'] rest).map fun rest => (null, rest)
    | 't' :: rest => (word? ['r', 'u', 'e'] rest).map fun rest => (bool true, rest)
    | 'f' :: rest => (word? ['a', 'l', 's', 'e'] rest).map fun rest => (bool false, rest)
    | cs => (numeral? cs).map fun found => (number found.1, found.2)

/-- The items of an array that is not empty, up to its closing bracket. -/
def items? : Nat → List Char → Option (List Json × List Char)
  | 0, _ => none
  | fuel + 1, cs =>
    match value? fuel (skipBlank cs) with
    | none => none
    | some (item, rest) =>
      match skipBlank rest with
      | ',' :: rest =>
        match items? fuel rest with
        | none => none
        | some (items, rest) => some (item :: items, rest)
      | ']' :: rest => some ([item], rest)
      | _ => none

/-- The members of an object that is not empty, up to its closing bracket. -/
def members? : Nat → List Char → Option (List (Option String × Json) × List Char)
  | 0, _ => none
  | fuel + 1, cs =>
    match skipBlank cs with
    | '"' :: rest =>
      match stringRest? fuel rest with
      | none => none
      | some (name, rest) =>
        match skipBlank rest with
        | ':' :: rest =>
          match value? fuel (skipBlank rest) with
          | none => none
          | some (value, rest) =>
            let member := (name.map String.ofList, value)
            match skipBlank rest with
            | ',' :: rest =>
              match members? fuel rest with
              | none => none
              | some (members, rest) => some (member :: members, rest)
            | '\x7d' :: rest => some ([member], rest)
            | _ => none
        | _ => none
    | _ => none

end

def parse? (text : List Char) : Option Json :=
  match value? (2 * text.length + 2) (skipBlank text) with
  | some (value, rest) => if (skipBlank rest).isEmpty then some value else none
  | none => none

end Json

end DisplayServer
