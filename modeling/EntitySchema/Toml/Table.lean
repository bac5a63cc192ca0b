import EntitySchema.Toml.Value

/-!
# Toml/Table — tables under construction

A document defines its tables piece by piece: by headers, by keys with points in them, by elements of
an array of tables.  Each table remembers how it came about (`Origin`), because that decides who may
still add to it: a header may open a table that other headers only passed through, and a key with
points only a table that such keys made.  No key is defined twice.
-/

namespace EntitySchema.Toml

/-- How a table came about. -/
inductive Origin
  /-- A header named it. -/
  | header
  /-- A header passed through it. -/
  | passed
  /-- A key with points passed through it. -/
  | dotted
  deriving DecidableEq, Repr

/-- What stands under a key of a table under construction. -/
inductive Item
  | value (v : Value)
  | table (origin : Origin) (entries : List (String × Item))
  /-- An array of tables, the last element first. -/
  | tables (elements : List (List (String × Item)))

/-- The entries of a table under construction. -/
abbrev Entries := List (String × Item)

mutual

/-- The finished value. -/
def Item.toValue : Item → Value
  | .value v => v
  | .table _ entries => .table (entriesToValues entries)
  | .tables elements => .array (elementsToValues elements).reverse

/-- The finished entries. -/
def entriesToValues : List (String × Item) → List (String × Value)
  | [] => []
  | (k, i) :: rest => (k, i.toValue) :: entriesToValues rest

/-- The finished elements. -/
def elementsToValues : List (List (String × Item)) → List Value
  | [] => []
  | entries :: rest => .table (entriesToValues entries) :: elementsToValues rest

end

namespace Entries

/-- Replaces what stands under a key, or adds it at the end. -/
def alter (key : String) (f : Option Item → Option Item) : Entries → Option Entries
  | [] => (f none).map fun i => [(key, i)]
  | (k, i) :: rest =>
    if k = key then (f (some i)).map fun i => (k, i) :: rest
    else (alter key f rest).map ((k, i) :: ·)

/-- Changes the table that a path leads to.  Tables missing on the way are made, with the origin that
`dotted` tells; a path with points does not pass through tables that headers named, and an array of
tables is passed through at its last element. -/
def descend (dotted : Bool) (f : Origin → Entries → Option Entries) (origin : Origin) :
    List String → Entries → Option Entries
  | [], entries => f origin entries
  | key :: path, entries =>
    entries.alter key fun
      | none =>
        let origin : Origin := if dotted then .dotted else .passed
        (descend dotted f origin path []).map (Item.table origin)
      | some (.table o inner) =>
        if dotted && o == .header then none
        else (descend dotted f o path inner).map (Item.table o)
      | some (.tables (last :: earlier)) =>
        (descend dotted f .header path last).map fun last => .tables (last :: earlier)
      | some _ => none

/-- Puts a value under a key that is not taken. -/
def define (key : String) (v : Value) (entries : Entries) : Option Entries :=
  entries.alter key fun
    | none => some (.value v)
    | some _ => none

/-- Puts a value under a key with points: the table that the points lead to must be one that such
keys made. -/
def assign (path : List String) (key : String) (v : Value) (entries : Entries) : Option Entries :=
  entries.descend true
    (fun origin inner =>
      if path.isEmpty || origin == .dotted then inner.define key v else none)
    .header path

/-- Opens the table of a header, which must be new or only passed through before. -/
def openTable (path : List String) (key : String) (entries : Entries) : Option Entries :=
  entries.descend false
    (fun _ inner => inner.alter key fun
      | none => some (.table .header [])
      | some (.table .passed entries) => some (.table .header entries)
      | some _ => none)
    .header path

/-- Opens a new element of an array of tables. -/
def openElement (path : List String) (key : String) (entries : Entries) : Option Entries :=
  entries.descend false
    (fun _ inner => inner.alter key fun
      | none => some (.tables [[]])
      | some (.tables elements) => some (.tables ([] :: elements))
      | some _ => none)
    .header path

/-- Puts a value under a key of the table that a header opened. -/
def assignUnder (header path : List String) (key : String) (v : Value) (entries : Entries) :
    Option Entries :=
  entries.descend false (fun _ inner => inner.assign path key v) .header header

end Entries

end EntitySchema.Toml
