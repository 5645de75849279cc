import DisplayServer.Decimal.Shortest
import DisplayServer.Text.Hexadecimal

/-!
# TOML text

How single values are written: strings in the simplest form that shows them as they are, and
measures with the fewest digits. A string in double quotes can be written whatever it holds; the
other forms are for strings that need fewer escapes in them.
-/

namespace DisplayServer

namespace Toml

/-! ## Strings -/

/-- What a string holds, as far as its written form depends on it. -/
structure Traits where
  /-- Whether there are control characters besides tab and new line. -/
  control : Bool
  backslash : Bool
  newLine : Bool
  /-- The longest run of single quotes. -/
  singleQuotes : Nat
  /-- The longest run of double quotes. -/
  doubleQuotes : Nat
  deriving DecidableEq

/-- The written forms of a string. -/
inductive StringForm
  | basic
  | literal
  | basicLines
  | literalLines
  deriving DecidableEq

/-- Whether a character has no written form but an escape. -/
def isControl (c : Char) : Bool := (c.toNat < 32 && c ≠ '\t' && c ≠ '\n') || c.toNat = 127

/-- The length of the longest run of a character; `current` is the run that ends here. -/
def longestRun (q : Char) (current : Nat) : List Char → Nat
  | [] => current
  | c :: cs =>
    if c = q then longestRun q (current + 1) cs else max current (longestRun q 0 cs)

def Traits.of (cs : List Char) : Traits :=
  { control := cs.any isControl
    backslash := cs.contains '\\'
    newLine := cs.contains '\n'
    singleQuotes := longestRun '\'' 0 cs
    doubleQuotes := longestRun '"' 0 cs }

/-- The form that a string is written in: the first that needs no escapes, or else double
quotes. -/
def StringForm.of (t : Traits) : StringForm :=
  if !t.control && !t.backslash && t.doubleQuotes = 0 && !t.newLine then basic
  else if !t.control && t.singleQuotes = 0 && !t.newLine then literal
  else if !t.control && !t.backslash && t.doubleQuotes ≤ 2 then basicLines
  else if !t.control && t.singleQuotes ≤ 2 then literalLines
  else if t.newLine then basicLines
  else basic

/-- Writes characters between double quotes. At most `quotes` double quotes stand in a row
without an escape, of which `run` stand here; new lines are kept where there are several
lines. -/
def escaped (lines : Bool) (quotes run : Nat) : List Char → List Char
  | [] => []
  | c :: cs =>
    if c = '"' then
      if run < quotes then c :: escaped lines quotes (run + 1) cs
      else '\\' :: c :: escaped lines quotes 0 cs
    else if c = '\\' then '\\' :: '\\' :: escaped lines quotes 0 cs
    else if c = '\t' then '\\' :: 't' :: escaped lines quotes 0 cs
    else if c = '\n' then
      if lines then c :: escaped lines quotes 0 cs
      else '\\' :: 'n' :: escaped lines quotes 0 cs
    else if c = '\r' then '\\' :: 'r' :: escaped lines quotes 0 cs
    else if c.toNat = 8 then '\\' :: 'b' :: escaped lines quotes 0 cs
    else if c.toNat = 12 then '\\' :: 'f' :: escaped lines quotes 0 cs
    else if isControl c then
      '\\' :: 'u' :: ((Hexadecimal.digits c.toNat 4).map Char.toUpper ++
        escaped lines quotes 0 cs)
    else c :: escaped lines quotes 0 cs

/-- A string in a form. In the forms of several lines a string that has several starts on a line
of its own. -/
def inForm (form : StringForm) (cs : List Char) : List Char :=
  let first := if cs.contains '\n' then ['\n'] else []
  match form with
  | .basic => '"' :: escaped false 0 0 cs ++ ['"']
  | .literal => '\'' :: cs ++ ['\'']
  | .basicLines => ['"', '"', '"'] ++ first ++ escaped true 2 0 cs ++ ['"', '"', '"']
  | .literalLines => ['\'', '\'', '\''] ++ first ++ cs ++ ['\'', '\'', '\'']

def quoted (s : String) : String :=
  let cs := s.toList
  String.ofList (inForm (.of (.of cs)) cs)

/-! ## Measures -/

/-- Measures are written with the fewest digits and never with a power of ten. Ties go up. -/
def measureLayout : Layout := ⟨.up, none, none⟩

/-- A measure in double precision as it is written. -/
def measureText (v : Float) : String :=
  match BinaryFormat.double.decode v.toBits.toNat with
  | .nan => "nan"
  | .infinite negative => if negative then "-inf" else "inf"
  | .finite negative m q => String.ofList (measureLayout.ofFinite .double negative m q).text

end Toml

end DisplayServer
