/-!
# TOML values and the rules of keys

A TOML document defines tables piece by piece: by headers, by dotted keys, and by the way on
which a header's table lies. Every key is defined once, and how a table came to be decides what
may still be added to it (`TableOrigin`). This file holds the values and what adding to them
does: `insert?` for a pair, `place?` for a header with its pairs, and `ofSections?` for a whole
document.
-/

namespace DisplayServer

/-- How a table came to be. -/
inductive TableOrigin
  /-- By a header of its own: only pairs below the header define keys in it. -/
  | header
  /-- On the way to the table of a header: a header of its own may still follow. -/
  | implied
  /-- By a dotted key: other dotted keys may add to it. -/
  | dotted
  /-- Between braces: nothing may be added. -/
  | inline
  deriving DecidableEq, Inhabited

/-- A value of a TOML document. Tables keep their members in order of definition. -/
inductive Toml
  | text (s : String)
  | whole (n : Int)
  | measure (v : Float)
  | truth (b : Bool)
  /-- A date, a time, or both. Nothing is read from it, so which one it is is not kept. -/
  | moment
  | array (items : List Toml)
  /-- Tables whose headers are written in double brackets. -/
  | tables (items : List (List (String × Toml)))
  | table (origin : TableOrigin) (members : List (String × Toml))

namespace Toml

abbrev Members := List (String × Toml)

/-- A key: the tables on the way, and the last part. -/
structure Key where
  way : List String
  last : String
  deriving DecidableEq

/-- A key with its value. -/
structure Pair where
  key : Key
  value : Toml

/-- A header with the pairs below it. -/
structure Section where
  /-- Whether the header is written in double brackets. -/
  repeated : Bool
  key : Key
  pairs : List Pair

def Members.replace (key : String) (value : Toml) : Members → Members
  | [] => []
  | m :: rest => if m.1 = key then (key, value) :: rest else m :: replace key value rest

/-- Defines a key at the end of a way. The way may lead through tables of dotted keys, which it
makes where they are missing, and through the last of repeated tables; it has to end in a table
of dotted keys. Fails where the key is defined already. -/
def insertAt? (last : String) (value : Toml) : List String → Members → Option Members
  | [], t => if (t.lookup last).isSome then none else some (t ++ [(last, value)])
  | key :: way, t =>
    match t.lookup key with
    | none => (insertAt? last value way []).map fun made => t ++ [(key, .table .dotted made)]
    | some (.table .dotted members) =>
      (insertAt? last value way members).map fun made => t.replace key (.table .dotted made)
    | some (.table .implied members) =>
      if way.isEmpty then none
      else (insertAt? last value way members).map fun made => t.replace key (.table .implied made)
    | some (.tables items) =>
      match way.isEmpty, items.getLast? with
      | false, some members =>
        (insertAt? last value way members).map fun made =>
          t.replace key (.tables (items.dropLast ++ [made]))
      | _, _ => none
    | some _ => none

/-- Defines the key of a pair. -/
def insert? (t : Members) (p : Pair) : Option Members := insertAt? p.key.last p.value p.key.way t

/-- Defines the keys of pairs, one after the other. -/
def insertAll? (t : Members) (pairs : List Pair) : Option Members := pairs.foldlM insert? t

/-- Defines the table of a header at the end of a way. The way leads through any tables but
those between braces, and makes those that are missing. A header in single brackets comes once,
and completes a table that was only implied; one in double brackets adds a table. -/
def placeAt? (s : Section) : List String → Members → Option Members
  | [], t =>
    match s.repeated, t.lookup s.key.last with
    | false, none =>
      (insertAll? [] s.pairs).map fun made => t ++ [(s.key.last, .table .header made)]
    | false, some (.table .implied members) =>
      (insertAll? members s.pairs).map fun made => t.replace s.key.last (.table .header made)
    | true, none => (insertAll? [] s.pairs).map fun made => t ++ [(s.key.last, .tables [made])]
    | true, some (.tables items) =>
      (insertAll? [] s.pairs).map fun made => t.replace s.key.last (.tables (items ++ [made]))
    | _, _ => none
  | key :: way, t =>
    match t.lookup key with
    | none => (placeAt? s way []).map fun made => t ++ [(key, .table .implied made)]
    | some (.table .inline _) => none
    | some (.table origin members) =>
      (placeAt? s way members).map fun made => t.replace key (.table origin made)
    | some (.tables items) =>
      match items.getLast? with
      | some members =>
        (placeAt? s way members).map fun made =>
          t.replace key (.tables (items.dropLast ++ [made]))
      | none => none
    | some _ => none

/-- Defines the table of a header. -/
def place? (t : Members) (s : Section) : Option Members := placeAt? s s.key.way t

/-- The table between braces that pairs define. -/
def ofPairs? (pairs : List Pair) : Option Toml := (insertAll? [] pairs).map (.table .inline)

/-- The members of a document: first the pairs above all headers, then the headers in order. -/
def ofSections? (pairs : List Pair) (sections : List Section) : Option Members :=
  (insertAll? [] pairs).bind fun t => sections.foldlM place? t

end Toml

end DisplayServer
