import DisplayServer.Decimal.Shortest
import DisplayServer.Text.Hexadecimal

/-!
# JSON values and their text

The values of JSON with members in written order, numbers as written, and two ways of writing
them: on one line (`Json.compact`) and with an indent of two spaces a level (`Json.pretty`).
-/

namespace DisplayServer

/-- A JSON value. Members keep their order, and a name may occur twice. -/
inductive Json
  | null
  | bool (b : Bool)
  | number (n : Numeral)
  | string (s : String)
  | array (items : List Json)
  | object (members : List (String × Json))
  /-- A well-formed value that nothing can be read from: a string whose escapes spell half a
  character, or an object with such a name. -/
  | unreadable

namespace Json

instance : Inhabited Json := ⟨null⟩

def ofNat (n : Nat) : Json := number (.ofNat n)

def ofInt (n : Int) : Json := number (.ofInt n)

/-- Measures are written with the fewest digits; a power of ten is written below the millionths
and from ten billions of thousands on. Ties go to the even digit. -/
def measureLayout : Layout := ⟨.even, some (-6), some 12⟩

/-- A measure; infinities and not-a-number have no number in JSON. -/
def ofMeasure (v : Float32) : Json :=
  match BinaryFormat.single.decode v.toBits.toNat with
  | .finite negative m q => number (measureLayout.ofFinite .single negative m q)
  | _ => null

def ofOption {α : Type} (f : α → Json) : Option α → Json
  | some a => f a
  | none => null

def ofList {α : Type} (f : α → Json) (as : List α) : Json := array (as.map f)

/-! ## Text -/

/-- A character of a string: the quote, the backslash and control characters are escaped. -/
def escape (c : Char) : List Char :=
  if c = '"' then ['\\', '"']
  else if c = '\\' then ['\\', '\\']
  else if c = '\n' then ['\\', 'n']
  else if c = '\r' then ['\\', 'r']
  else if c = '\t' then ['\\', 't']
  else if c.toNat = 8 then ['\\', 'b']
  else if c.toNat = 12 then ['\\', 'f']
  else if c.toNat < 32 then '\\' :: 'u' :: Hexadecimal.digits c.toNat 4
  else [c]

def quoted (s : String) : List Char := '"' :: s.toList.flatMap escape ++ ['"']

def joined (separator : List Char) : List (List Char) → List Char
  | [] => []
  | [t] => t
  | t :: rest => t ++ separator ++ joined separator rest

mutual

/-- The text of a value on one line. -/
def compact : Json → List Char
  | null | unreadable => ['n', 'u', 'l', 'l']
  | bool true => ['t', 'r', 'u', 'e']
  | bool false => ['f', 'a', 'l', 's', 'e']
  | number n => n.text
  | string s => quoted s
  | array items => '[' :: joined [','] (compactItems items) ++ [']']
  | object members => '\x7b' :: joined [','] (compactMembers members) ++ ['\x7d']

def compactItems : List Json → List (List Char)
  | [] => []
  | j :: rest => compact j :: compactItems rest

def compactMembers : List (String × Json) → List (List Char)
  | [] => []
  | (name, j) :: rest => (quoted name ++ ':' :: compact j) :: compactMembers rest

end

def newLine (level : Nat) : List Char := '\n' :: List.replicate (2 * level) ' '

/-- Puts texts between brackets, each on a line of its own. -/
def block (opening closing : Char) (level : Nat) : List (List Char) → List Char
  | [] => [opening, closing]
  | texts =>
    opening :: newLine (level + 1) ++ joined (',' :: newLine (level + 1)) texts ++
      newLine level ++ [closing]

mutual

/-- The text of a value with an indent, at a level. -/
def prettyAt (level : Nat) : Json → List Char
  | array items => block '[' ']' level (prettyItems (level + 1) items)
  | object members => block '\x7b' '\x7d' level (prettyMembers (level + 1) members)
  | j => compact j

def prettyItems (level : Nat) : List Json → List (List Char)
  | [] => []
  | j :: rest => prettyAt level j :: prettyItems level rest

def prettyMembers (level : Nat) : List (String × Json) → List (List Char)
  | [] => []
  | (name, j) :: rest =>
    (quoted name ++ [':', ' '] ++ prettyAt level j) :: prettyMembers level rest

end

/-- The text of a value with an indent. -/
def pretty (j : Json) : List Char := prettyAt 0 j

end Json

end DisplayServer
