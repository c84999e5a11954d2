import Jukebox.Toml.Number

/-!
# TOML documents

A document is a sequence of lines, each of them blank, a comment, a header, or a key with its
value.  A header says into which table the keys behind it go.

* `Reader.value` reads a value, arrays and tables in braces included.
* `Reader.document` reads a document.
* `parse?` is the table that a text describes, if it is a document.
-/

set_option autoImplicit false

namespace Jukebox
namespace Toml
namespace Reader

/-! ## Values

`steps` bounds the number of steps still taken, which the length of the text does; `depth` is how
much deeper arrays and tables may still be nested. -/

mutual

/-- A value. -/
def value (steps depth : Nat) : Reader Value :=
  match steps with
  | 0 => failure
  | steps + 1 => do
    match ← peek with
    | some '"' | some '\'' => return .string (← string)
    | some '[' =>
      match depth with
      | 0 => failure
      | depth + 1 => do
        char '['
        return .array (← items steps depth)
    | some '\x7b' =>
      match depth with
      | 0 => failure
      | depth + 1 => do
        char '\x7b'
        return .table .braces (← pairs steps depth [])
    | some 't' => do literal "true"; return .boolean true
    | some 'f' => do literal "false"; return .boolean false
    | _ => number

/-- The rest of an array: items with commas between them, and perhaps one behind the last. -/
def items (steps depth : Nat) : Reader (List Value) :=
  match steps with
  | 0 => failure
  | steps + 1 => do
    spacing (← get).length
    match ← peek with
    | some ']' => do char ']'; return []
    | _ => do
      let v ← value steps depth
      spacing (← get).length
      match ← peek with
      | some ',' => do
        char ','
        return v :: (← items steps depth)
      | _ => do
        char ']'
        return [v]

/-- The rest of a table in braces, whose entries so far are `t`.  No comma stands behind the last
entry. -/
def pairs (steps depth : Nat) (t : Table) : Reader Table :=
  match steps with
  | 0 => failure
  | steps + 1 => do
    blanks
    match ← peek, t with
    | some '\x7d', [] => do char '\x7d'; return []
    | _, _ => do
      let (path, last) ← key
      char '='
      blanks
      let v ← value steps depth
      blanks
      let t ← (t.insert? path last v : Option Table)
      match ← peek with
      | some ',' => do
        char ','
        pairs steps depth t
      | _ => do
        char '\x7d'
        return t

end

/-! ## Lines -/

/-- What has been read: the table of the document, and the header that is in force. -/
structure Progress where
  table : Table := []
  header : List String := []

/-- A key with its value. -/
def keyLine (p : Progress) : Reader Progress := do
  let (path, last) ← key
  char '='
  blanks
  let v ← value (2 * (← get).length + 2) (depthLimit - 1)
  lineEnd
  let table ← (p.table.insertUnder? p.header path last v : Option Table)
  return { p with table }

/-- A header in double brackets: an array gets a new table. -/
def arrayHeader (p : Progress) : Reader Progress := do
  literal "[["
  let (path, last) ← key
  literal "]]"
  lineEnd
  let table ← (p.table.append? path last : Option Table)
  return { table, header := path ++ [last] }

/-- A header in single brackets. -/
def tableHeader (p : Progress) : Reader Progress := do
  char '['
  let (path, last) ← key
  char ']'
  lineEnd
  let table ← (p.table.open? path last : Option Table)
  return { table, header := path ++ [last] }

/-- The lines of a document, which are at most `n`. -/
def lines : Nat → Progress → Reader Table
  | 0, p => do finish; return p.table
  | n + 1, p => do
    blanks
    match ← get with
    | [] => return p.table
    | '#' :: _ => do lineEnd; lines n p
    | '\n' :: _ | '\r' :: _ => do newline; lines n p
    | '[' :: '[' :: _ => do lines n (← arrayHeader p)
    | '[' :: _ => do lines n (← tableHeader p)
    | _ => do lines n (← keyLine p)

/-- A document.  A byte order mark may stand before it. -/
def document : Reader Table := do
  let _ ← optional (char '\uFEFF')
  lines ((← get).length + 1) {}

end Reader

/-- The table that a text describes. -/
def parse? (text : String) : Option Table := (Reader.document text.toList).map Prod.fst

end Toml
end Jukebox
