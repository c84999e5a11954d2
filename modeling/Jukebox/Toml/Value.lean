/-!
# TOML values and tables

A TOML document is a tree of tables.  Three ways of writing can put entries into one table: a
header, the path of a deeper header, and dotted keys.  They may not be mixed freely, so a table
remembers where it comes from; `insert?` and the functions that open tables refuse what would
define something twice.

* `Value` is the tree, `Origin` where a table comes from.
* `Table.descend?` follows a path of keys, making tables on the way.
* `Table.insert?`, `Table.open?` and `Table.append?` are what a key, a header and a header of an
  array of tables do.
-/

set_option autoImplicit false

namespace Jukebox
namespace Toml

/-- Where a table comes from: it is written in braces, opened by a header, lies on the path to a
deeper header, or lies on the path of a dotted key. -/
inductive Origin where
  | braces | header | implied | dotted
  deriving DecidableEq, Repr

/-- A value.  No configuration holds a float, so a float is known to be one and that is all; a
date or time is its canonical text. -/
inductive Value where
  | string (s : String)
  | integer (n : Int)
  | float
  | boolean (b : Bool)
  | moment (text : String)
  | array (items : List Value)
  | table (origin : Origin) (entries : List (String × Value))
  /-- An array of tables, the last one first. -/
  | tables (latest : List (List (String × Value)))

/-- The entries of a table, in the order in which they are written. -/
abbrev Table := List (String × Value)

namespace Table

/-- The value of a key. -/
def get? (t : Table) (key : String) : Option Value := List.lookup key t

/-- Gives a key the value that `f` makes of its present one, or fails with `f`. -/
def alter? {α : Type} (key : String) (f : Option Value → Option (α × Value)) :
    Table → Option (α × Table)
  | [] => (f none).map fun (a, v) => (a, [(key, v)])
  | (k, v) :: t =>
    if k = key then (f (some v)).map fun (a, v) => (a, (k, v) :: t)
    else (alter? key f t).map fun (a, t) => (a, (k, v) :: t)

/-- Follows a path and changes the table at its end.  Missing tables are made, of the origin
`fresh`; a path goes into the last table of an array; it cannot pass a value, and a path of dotted
keys cannot enter a table that a header has opened. -/
def descend? (fresh : Origin) (f : Origin → Table → Option Table) :
    List String → Origin → Table → Option Table
  | [], origin, t => f origin t
  | key :: path, _, t =>
    let enter (value : Option Value) : Option (Unit × Value) :=
      match value with
      | none => (descend? fresh f path fresh []).map fun t => ((), .table fresh t)
      | some (.table .braces _) => none
      | some (.table origin t) =>
        if fresh = .dotted ∧ origin = .header then none
        else (descend? fresh f path origin t).map fun t => ((), .table origin t)
      | some (.tables (t :: earlier)) =>
        (descend? fresh f path .header t).map fun t => ((), .tables (t :: earlier))
      | _ => none
    (alter? key enter t).map Prod.snd

/-- Adds a key that is new to a table. -/
def add? (key : String) (value : Value) (t : Table) : Option Table :=
  if (get? t key).isSome then none else some (t ++ [(key, value)])

/-- Adds the value of a dotted key to a table.  Every part but the last names a table, and dotted
keys add only to tables that dotted keys have made. -/
def insert? (path : List String) (key : String) (value : Value) (t : Table) : Option Table :=
  let place (origin : Origin) (t : Table) : Option Table :=
    if path ≠ [] ∧ origin ≠ .dotted then none else add? key value t
  descend? .dotted place path .header t

/-- Opens the table of a header.  It must be new, or have been only on the way to others. -/
def open? (path : List String) (key : String) (t : Table) : Option Table :=
  let enter (value : Option Value) : Option (Unit × Value) :=
    match value with
    | none => some ((), .table .header [])
    | some (.table .implied entries) => some ((), .table .header entries)
    | _ => none
  descend? .implied (fun _ t => (alter? key enter t).map Prod.snd) path .header t

/-- Adds an empty table to the array of tables of a header. -/
def append? (path : List String) (key : String) (t : Table) : Option Table :=
  let enter (value : Option Value) : Option (Unit × Value) :=
    match value with
    | none => some ((), .tables [[]])
    | some (.tables earlier) => some ((), .tables ([] :: earlier))
    | _ => none
  descend? .implied (fun _ t => (alter? key enter t).map Prod.snd) path .header t

/-- Adds the value of a dotted key to the table that the last header has opened. -/
def insertUnder? (header path : List String) (key : String) (value : Value) (t : Table) :
    Option Table :=
  descend? .implied (fun _ t => insert? path key value t) header .header t

end Table
end Toml
end Jukebox
