import DisplayServer.Decimal.Binary
import DisplayServer.Text.Hexadecimal
import DisplayServer.Toml.Basic

/-!
# Reading TOML

`Toml.parse?` reads a whole text as the members of a document. A text is a list of lines, each a
header or a pair, and the values of pairs nest; loops over the text are bounded by its length,
and the nesting by `greatestDepth`, which is a limit of what is read and not only a bound of the
recursion.
-/

namespace DisplayServer

namespace Toml

namespace Reader

/-- How deep arrays and tables between braces may be nested. -/
def greatestDepth : Nat := 79

/-- How many parts a key may have. -/
def greatestKeyLength : Nat := 79

/-! ## Blanks, comments and ends of lines -/

/-- The blanks within a line. -/
def isBlank (c : Char) : Bool := c == ' ' || c == '\t'

/-- The characters of a comment: tabs, and all but control characters. -/
def isPlain (c : Char) : Bool := c == '\t' || (32 ≤ c.toNat && c.toNat ≠ 127)

def skipBlank (cs : List Char) : List Char := cs.dropWhile isBlank

/-- The text after the end of a line, which the end of the text is too. -/
def newLine? : List Char → Option (List Char)
  | [] => some []
  | '\n' :: cs => some cs
  | '\r' :: '\n' :: cs => some cs
  | _ => none

/-- The text after a line of which only blanks and a comment are left. -/
def lineEnd? (cs : List Char) : Option (List Char) :=
  match skipBlank cs with
  | '#' :: cs => newLine? (cs.dropWhile isPlain)
  | cs => newLine? cs

/-- The text without leading blanks, comments and ends of lines. -/
def skipLines (inComment : Bool) : List Char → List Char
  | [] => []
  | '\n' :: cs => skipLines false cs
  | '\r' :: '\n' :: cs => skipLines false cs
  | c :: cs =>
    if inComment then if isPlain c then skipLines true cs else c :: cs
    else if isBlank c then skipLines false cs
    else if c = '#' then skipLines true cs
    else c :: cs

/-- The text after a word it starts with. -/
def word? : List Char → List Char → Option (List Char)
  | [], cs => some cs
  | _ :: _, [] => none
  | w :: ws, c :: cs => if w = c then word? ws cs else none

/-! ## Strings -/

def prepend (c : Char) (read : List Char × List Char) : List Char × List Char :=
  (c :: read.1, read.2)

/-- The character of a number, where there is one. -/
def character? (read : Nat × List Char) : Option (Char × List Char) :=
  if read.1 < 0xd800 ∨ (0xe000 ≤ read.1 ∧ read.1 < 0x110000) then
    some (Char.ofNat read.1, read.2)
  else none

/-- The character that an escape stands for, after its backslash. -/
def escape? : List Char → Option (Char × List Char)
  | 'b' :: cs => some (Char.ofNat 8, cs)
  | 't' :: cs => some ('\t', cs)
  | 'n' :: cs => some ('\n', cs)
  | 'f' :: cs => some (Char.ofNat 12, cs)
  | 'r' :: cs => some ('\r', cs)
  | '"' :: cs => some ('"', cs)
  | '\\' :: cs => some ('\\', cs)
  | 'u' :: cs => (Hexadecimal.number? 0 4 cs).bind character?
  | 'U' :: cs => (Hexadecimal.number? 0 8 cs).bind character?
  | _ => none

/-- A string of one line with escapes, after its opening quote, and the rest. -/
def basicRest? : Nat → List Char → Option (List Char × List Char)
  | 0, _ => none
  | _ + 1, [] => none
  | _ + 1, '"' :: cs => some ([], cs)
  | fuel + 1, '\\' :: cs =>
    match escape? cs with
    | none => none
    | some (c, cs) => (basicRest? fuel cs).map (prepend c)
  | fuel + 1, c :: cs => if isPlain c then (basicRest? fuel cs).map (prepend c) else none

/-- A string of one line without escapes, after its opening quote, and the rest. -/
def literalRest? : List Char → Option (List Char × List Char)
  | [] => none
  | c :: cs =>
    if c = '\'' then some ([], cs)
    else if isPlain c then (literalRest? cs).map (prepend c)
    else none

/-- The text without leading blanks and ends of lines. -/
def skipEmpty : List Char → List Char
  | [] => []
  | '\r' :: '\n' :: cs => skipEmpty cs
  | c :: cs => if isBlank c || c == '\n' then skipEmpty cs else c :: cs

/-- The text after a backslash that ends a line: blanks and ends of lines are left out. -/
def continued? (cs : List Char) : Option (List Char) :=
  match skipBlank cs with
  | [] => none
  | cs => (newLine? cs).map skipEmpty

/-- A string of several lines with escapes, after its opening quotes, and the rest. Up to two
quotes may stand before the closing ones. -/
def basicLinesRest? : Nat → List Char → Option (List Char × List Char)
  | 0, _ => none
  | _ + 1, [] => none
  | _ + 1, '"' :: '"' :: '"' :: '"' :: '"' :: cs => some (['"', '"'], cs)
  | _ + 1, '"' :: '"' :: '"' :: '"' :: cs => some (['"'], cs)
  | _ + 1, '"' :: '"' :: '"' :: cs => some ([], cs)
  | fuel + 1, '\n' :: cs => (basicLinesRest? fuel cs).map (prepend '\n')
  | fuel + 1, '\r' :: '\n' :: cs => (basicLinesRest? fuel cs).map (prepend '\n')
  | fuel + 1, '\\' :: cs =>
    match continued? cs, escape? cs with
    | some cs, _ => basicLinesRest? fuel cs
    | none, some (c, cs) => (basicLinesRest? fuel cs).map (prepend c)
    | none, none => none
  | fuel + 1, c :: cs => if isPlain c then (basicLinesRest? fuel cs).map (prepend c) else none

/-- A string of several lines without escapes, after its opening quotes, and the rest. Up to two
quotes may stand before the closing ones. -/
def literalLinesRest? : List Char → Option (List Char × List Char)
  | [] => none
  | '\'' :: '\'' :: '\'' :: '\'' :: '\'' :: cs => some (['\'', '\''], cs)
  | '\'' :: '\'' :: '\'' :: '\'' :: cs => some (['\''], cs)
  | '\'' :: '\'' :: '\'' :: cs => some ([], cs)
  | '\n' :: cs => (literalLinesRest? cs).map (prepend '\n')
  | '\r' :: '\n' :: cs => (literalLinesRest? cs).map (prepend '\n')
  | c :: cs => if isPlain c then (literalLinesRest? cs).map (prepend c) else none

/-- The text of a string of several lines, without the end of a line right after the opening
quotes. -/
def firstLine (cs : List Char) : List Char :=
  match cs with
  | [] => []
  | cs => (newLine? cs).getD cs

def string? : List Char → Option (String × List Char)
  | '"' :: '"' :: '"' :: cs => ofChars (basicLinesRest? (cs.length + 1) (firstLine cs))
  | '"' :: cs => ofChars (basicRest? (cs.length + 1) cs)
  | '\'' :: '\'' :: '\'' :: cs => ofChars (literalLinesRest? (firstLine cs))
  | '\'' :: cs => ofChars (literalRest? cs)
  | _ => none
where
  /-- What is read as a string. -/
  ofChars : Option (List Char × List Char) → Option (String × List Char)
    | none => none
    | some (s, cs) => some (String.ofList s, cs)

/-! ## Keys -/

/-- The characters of a key without quotes. -/
def isBare (c : Char) : Bool :=
  ('A' ≤ c && c ≤ 'Z') || ('a' ≤ c && c ≤ 'z') || ('0' ≤ c && c ≤ '9') || c == '-' || c == '_'

/-- One part of a key, and the rest: a string of one line or bare characters. -/
def keyPart? : List Char → Option (String × List Char)
  | '"' :: cs => (basicRest? (cs.length + 1) cs).map fun read => (String.ofList read.1, read.2)
  | '\'' :: cs => (literalRest? cs).map fun read => (String.ofList read.1, read.2)
  | cs =>
    match cs.takeWhile isBare with
    | [] => none
    | bare => some (String.ofList bare, cs.dropWhile isBare)

/-- The parts of a key with blanks around them, and the rest. -/
def keyParts? : Nat → List Char → Option (List String × List Char)
  | 0, _ => none
  | fuel + 1, cs =>
    match keyPart? (skipBlank cs) with
    | none => none
    | some (part, cs) =>
      match skipBlank cs with
      | '.' :: cs => (keyParts? fuel cs).map fun read => (part :: read.1, read.2)
      | cs => some ([part], cs)

/-- The key of these parts. -/
def keyOf? : List String → Option Key
  | [] => none
  | [last] => some ⟨[], last⟩
  | part :: rest => (keyOf? rest).map fun key => { key with way := part :: key.way }

def key? (cs : List Char) : Option (Key × List Char) :=
  match keyParts? (cs.length + 1) cs with
  | none => none
  | some (parts, cs) =>
    if parts.length ≤ greatestKeyLength then (keyOf? parts).map fun key => (key, cs) else none

/-! ## Dates and times -/

/-- A number of exactly so many decimal digits, and the rest. -/
def fixedWidth? (read : Nat) : Nat → List Char → Option (Nat × List Char)
  | 0, cs => some (read, cs)
  | _ + 1, [] => none
  | width + 1, c :: cs =>
    match Digit.ofChar? c with
    | none => none
    | some d => fixedWidth? (10 * read + d.val) width cs

/-- How many days a month has; none for a month that does not exist. -/
def daysOfMonth? (year month : Nat) : Option Nat :=
  if month = 2 then
    some (if year % 4 = 0 ∧ (year % 100 ≠ 0 ∨ year % 400 = 0) then 29 else 28)
  else if month = 4 ∨ month = 6 ∨ month = 9 ∨ month = 11 then some 30
  else if 1 ≤ month ∧ month ≤ 12 then some 31
  else none

def afterDate? (cs : List Char) : Option (List Char) :=
  match fixedWidth? 0 4 cs with
  | some (year, '-' :: cs) =>
    match fixedWidth? 0 2 cs with
    | some (month, '-' :: cs) =>
      match fixedWidth? 0 2 cs, daysOfMonth? year month with
      | some (day, cs), some days => if 1 ≤ day ∧ day ≤ days then some cs else none
      | _, _ => none
    | _ => none
  | _ => none

def afterMinutes? (cs : List Char) : Option (List Char) :=
  match fixedWidth? 0 2 cs with
  | some (hour, ':' :: cs) =>
    match fixedWidth? 0 2 cs with
    | some (minute, cs) => if hour ≤ 23 ∧ minute ≤ 59 then some cs else none
    | none => none
  | _ => none

/-- The text after a time; a minute may have a leap second. -/
def afterTime? (cs : List Char) : Option (List Char) :=
  match afterMinutes? cs with
  | some (':' :: cs) =>
    match fixedWidth? 0 2 cs with
    | some (second, cs) =>
      if second ≤ 60 then
        match cs with
        | '.' :: cs =>
          match Digit.span cs with
          | ([], _) => none
          | (_, cs) => some cs
        | cs => some cs
      else none
    | none => none
  | _ => none

/-- The text after the offset of a time, if one is written. -/
def afterOffset? (cs : List Char) : Option (List Char) :=
  match cs with
  | c :: rest =>
    if c = 'Z' ∨ c = 'z' then some rest
    else if c = '+' ∨ c = '-' then afterMinutes? rest
    else some cs
  | [] => some []

def startsWithHour (cs : List Char) : Bool :=
  match fixedWidth? 0 2 cs with
  | some (hour, ':' :: _) => hour ≤ 23
  | _ => false

/-- The text after a date, with a time if one follows. -/
def afterDateTime? (cs : List Char) : Option (List Char) :=
  match afterDate? cs with
  | none => none
  | some [] => some []
  | some (c :: cs) =>
    if (c = 'T' ∨ c = 't' ∨ c = ' ') ∧ startsWithHour cs then
      (afterTime? cs).bind afterOffset?
    else some (c :: cs)

def startsWithYear (cs : List Char) : Bool :=
  match fixedWidth? 0 4 cs with
  | some (_, '-' :: _) => true
  | _ => false

/-! ## Numbers -/

/-- The digits of a run in which single underscores may stand between digits. -/
def grouped? {α : Type} (value? : Char → Option α) : List Char → Option (List α)
  | [] => none
  | [c] => (value? c).map fun d => [d]
  | c :: '_' :: rest =>
    match value? c, grouped? value? rest with
    | some d, some ds => some (d :: ds)
    | _, _ => none
  | c :: rest =>
    match value? c, grouped? value? rest with
    | some d, some ds => some (d :: ds)
    | _, _ => none

def digits? (cs : List Char) : Option (List Digit × List Char) :=
  let inRun (c : Char) : Bool := c == '_' || (Digit.ofChar? c).isSome
  (grouped? Digit.ofChar? (cs.takeWhile inRun)).map fun ds => (ds, cs.dropWhile inRun)

/-- A digit of a base. -/
def digitBelow? (base : Nat) (c : Char) : Option Nat :=
  (Hexadecimal.value? c).filter fun d => d < base

/-- A number in another base, after its mark, and the rest. -/
def inBase? (base : Nat) (cs : List Char) : Option (Int × List Char) :=
  let inRun (c : Char) : Bool := c == '_' || (digitBelow? base c).isSome
  (grouped? (digitBelow? base) (cs.takeWhile inRun)).map fun ds =>
    ((ds.foldl (fun n d => base * n + d) 0 : Nat), cs.dropWhile inRun)

def sign : List Char → Bool × List Char
  | '+' :: cs => (false, cs)
  | '-' :: cs => (true, cs)
  | cs => (false, cs)

/-- The digits after a point, if one is written, and the rest. -/
def fraction? : List Char → Option (List Digit × List Char)
  | '.' :: cs => digits? cs
  | cs => some ([], cs)

def power? : List Char → Option (Option Int × List Char)
  | [] => some (none, [])
  | c :: cs =>
    if c = 'e' ∨ c = 'E' then
      let (negative, cs) := sign cs
      (digits? cs).map fun read =>
        let n : Int := Digit.value read.1
        (some (if negative then -n else n), read.2)
    else some (none, c :: cs)

/-- A decimal number, and the rest. Before the point no zero leads other digits. -/
def numeral? (cs : List Char) : Option (Numeral × List Char) :=
  let (negative, cs) := sign cs
  match digits? cs with
  | none | some (0 :: _ :: _, _) => none
  | some (ds, cs) =>
    match fraction? cs with
    | none => none
    | some (fraction, cs) =>
      (power? cs).map fun read => (⟨negative, ds, fraction, read.1⟩, read.2)

/-- Whole numbers have 64 bits with a sign. -/
def ofWhole? (read : Int × List Char) : Option (Toml × List Char) :=
  if -9223372036854775808 ≤ read.1 ∧ read.1 ≤ 9223372036854775807 then
    some (.whole read.1, read.2)
  else none

/-- What a decimal number is worth. One with a point or a power of ten is rounded to double
precision; past the greatest such number only negative numbers are read, as infinite. -/
def ofNumeral? (read : Numeral × List Char) : Option (Toml × List Char) :=
  let n := read.1
  if n.isWhole then
    let v : Int := Digit.value n.whole
    ofWhole? (if n.negative then -v else v, read.2)
  else
    let v := n.toDouble
    if v.isInf && !n.negative then none else some (.measure v, read.2)

def number? (cs : List Char) : Option (Toml × List Char) :=
  match sign cs with
  | (negative, 'i' :: rest) =>
    (word? ['n', 'f'] rest).map fun rest =>
      (.measure (Float.ofBits (if negative then 0xfff0000000000000 else 0x7ff0000000000000)), rest)
  | (_, 'n' :: rest) =>
    (word? ['a', 'n'] rest).map fun rest => (.measure (Float.ofBits 0x7ff8000000000000), rest)
  | _ =>
    match cs with
    | '0' :: 'x' :: rest => (inBase? 16 rest).bind ofWhole?
    | '0' :: 'o' :: rest => (inBase? 8 rest).bind ofWhole?
    | '0' :: 'b' :: rest => (inBase? 2 rest).bind ofWhole?
    | cs => (numeral? cs).bind ofNumeral?

/-! ## Values -/

def scalar? (cs : List Char) : Option (Toml × List Char) :=
  match cs with
  | [] => none
  | c :: rest =>
    if c = '"' ∨ c = '\'' then (string? cs).map fun read => (.text read.1, read.2)
    else if c = 't' then (word? ['r', 'u', 'e'] rest).map fun rest => (.truth true, rest)
    else if c = 'f' then (word? ['a', 'l', 's', 'e'] rest).map fun rest => (.truth false, rest)
    else if startsWithYear cs then (afterDateTime? cs).map fun rest => (.moment, rest)
    else if startsWithHour cs then (afterTime? cs).map fun rest => (.moment, rest)
    else number? cs

/-- The items of an array, after its opening bracket or a comma, and the rest. -/
def items? (value? : List Char → Option (Toml × List Char)) :
    Nat → List Char → Option (List Toml × List Char)
  | 0, _ => none
  | fuel + 1, cs =>
    match skipLines false cs with
    | ']' :: cs => some ([], cs)
    | cs =>
      match value? cs with
      | none => none
      | some (item, cs) =>
        match skipLines false cs with
        | ',' :: cs => (items? value? fuel cs).map fun read => (item :: read.1, read.2)
        | ']' :: cs => some ([item], cs)
        | _ => none

def pair? (value? : List Char → Option (Toml × List Char)) (cs : List Char) :
    Option (Pair × List Char) :=
  match key? cs with
  | some (key, '=' :: cs) => (value? (skipBlank cs)).map fun read => (⟨key, read.1⟩, read.2)
  | _ => none

/-- The pairs of a table between braces that is not empty, and the rest. -/
def pairs? (value? : List Char → Option (Toml × List Char)) :
    Nat → List Char → Option (List Pair × List Char)
  | 0, _ => none
  | fuel + 1, cs =>
    match pair? value? cs with
    | none => none
    | some (pair, cs) =>
      match skipBlank cs with
      | ',' :: cs => (pairs? value? fuel cs).map fun read => (pair :: read.1, read.2)
      | '\x7d' :: cs => some ([pair], cs)
      | _ => none

/-- A value whose arrays and tables are nested at most so deep, and the rest. -/
def value? : Nat → List Char → Option (Toml × List Char)
  | depth + 1, '[' :: cs =>
    (items? (value? depth) (cs.length + 1) cs).map fun read => (.array read.1, read.2)
  | depth + 1, '\x7b' :: cs =>
    match skipBlank cs with
    | '\x7d' :: cs => some (.table .inline [], cs)
    | cs =>
      match pairs? (value? depth) (cs.length + 1) cs with
      | none => none
      | some (pairs, cs) => (ofPairs? pairs).map fun table => (table, cs)
  | _, cs => scalar? cs

/-! ## Documents -/

/-- A line of a document. -/
inductive Line
  | header (repeated : Bool) (key : Key)
  | pair (p : Pair)

def line? (cs : List Char) : Option (Line × List Char) :=
  match cs with
  | '[' :: '[' :: cs =>
    match key? cs with
    | some (key, ']' :: ']' :: cs) => (lineEnd? cs).map fun cs => (.header true key, cs)
    | _ => none
  | '[' :: cs =>
    match key? cs with
    | some (key, ']' :: cs) => (lineEnd? cs).map fun cs => (.header false key, cs)
    | _ => none
  | cs =>
    match pair? (value? greatestDepth) cs with
    | none => none
    | some (p, cs) => (lineEnd? cs).map fun cs => (.pair p, cs)

def lines? : Nat → List Char → Option (List Line)
  | 0, _ => none
  | fuel + 1, cs =>
    match skipLines false cs with
    | [] => some []
    | cs =>
      match line? cs with
      | none => none
      | some (line, cs) => (lines? fuel cs).map fun lines => line :: lines

/-- The pairs above all headers, and the headers with their pairs. -/
def sections : List Line → List Pair × List Section
  | [] => ([], [])
  | .pair p :: rest =>
    let (pairs, found) := sections rest
    (p :: pairs, found)
  | .header repeated key :: rest =>
    let (pairs, found) := sections rest
    ([], ⟨repeated, key, pairs⟩ :: found)

/-- A byte order mark may stand before the text. -/
def skipMark : List Char → List Char
  | '\ufeff' :: cs => cs
  | cs => cs

end Reader

def parse? (text : List Char) : Option Members :=
  match Reader.lines? (text.length + 1) (Reader.skipMark text) with
  | none => none
  | some lines =>
    let (pairs, found) := Reader.sections lines
    ofSections? pairs found

end Toml

end DisplayServer
