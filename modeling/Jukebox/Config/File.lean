import Jukebox.Config.Basic
import Jukebox.Startup
import Jukebox.Toml.Document

/-!
# Configuration files

A configuration file is a TOML document.  What it says is taken as a whole or not at all: a file
that cannot be read, is no document, or gives some entry a value of the wrong kind counts as one
that says nothing.  Entries that no one knows are passed over.

* `Written.ofTable?` takes from a document what a configuration may say.
* `Config.ofText` is the configuration of a text, and `Config.load` that of a file.
-/

set_option autoImplicit false

namespace Jukebox
namespace Config

open Toml (Value Table)

/-! ## Reading values -/

/-- The fields of a record, by name in a table.  In an array they stand in their order, and there
have to be enough of them; a date has none of them. -/
def fields? (names : List String) : Value → Option (List (Option Value))
  | .table _ entries => some (names.map fun name => Table.get? entries name)
  | .array items => inOrder items
  | .tables latest => inOrder (latest.reverse.map (.table .header))
  | .moment _ => some (names.map fun _ => none)
  | _ => none
where
  /-- The fields in their order. -/
  inOrder (items : List Value) : Option (List (Option Value)) :=
    if items.length < names.length then none else some ((items.take names.length).map some)

/-- What a field that may be missing says. -/
def optionally {α : Type} (read : Value → Option α) : Option Value → Option (Option α)
  | none => some none
  | some v => (read v).map some

/-- A text. -/
def text? : Value → Option String
  | .string s => some s
  | _ => none

/-- A port. -/
def port? : Value → Option UInt16
  | .integer n => if 0 ≤ n ∧ n < UInt16.size then some (.ofNat n.toNat) else none
  | _ => none

/-- A table of texts.  A date in its place is a table with the date's text for its only entry. -/
def texts? : Value → Option (List (String × String))
  | .table _ entries => entries.mapM fun (key, v) => (text? v).map (key, ·)
  | .moment text => some [("$__toml_private_datetime", text)]
  | _ => none

/-! ## The sections -/

/-- What is said about the server. -/
def server? (v : Value) : Option WrittenServer := do
  match ← fields? ["host", "port"] v with
  | [host, port] => return { host := ← optionally text? host, port := ← optionally port? port }
  | _ => none

/-- What is said about the keys. -/
def keys? (v : Value) : Option WrittenKeys := do
  match ← fields? ["command", "search", "complete", "escape", "normal"] v with
  | [command, search, complete, escape, normal] =>
    return {
      command := ← optionally text? command
      search := ← optionally text? search
      complete := ← optionally text? complete
      escape := ← optionally text? escape
      normal := (← optionally texts? normal).getD [] }
  | _ => none

/-- What is said about the startup file. -/
def startup? (v : Value) : Option (Option String) := do
  match ← fields? ["rc"] v with
  | [file] => optionally text? file
  | _ => none

/-- What is said about the log. -/
def log? (v : Value) : Option WrittenLog := do
  match ← fields? ["file", "level"] v with
  | [file, level] => return { file := ← optionally text? file, level := ← optionally text? level }
  | _ => none

/-- What a document says. -/
def Written.ofTable? (t : Table) : Option Written := do
  return {
    server := (← optionally server? (t.get? "server")).getD {}
    keys := (← optionally keys? (t.get? "keymap")).getD {}
    startupFile := ((← optionally startup? (t.get? "startup")).getD none)
    log := (← optionally log? (t.get? "log")).getD {} }

/-! ## Loading -/

/-- What a text says: nothing, if it is blank or not a document of the right kind. -/
def Written.ofText (text : String) : Written :=
  if Text.isAllBlank text then {} else ((Toml.parse? text).bind Written.ofTable?).getD {}

/-- The configuration that a text gives; none at all gives the defaults. -/
def ofText (env : Environment) (text : Option String) : Config :=
  ((text.map Written.ofText).getD {}).filled env

/-- The configuration of the file at a path, or of the user's own file if no path is given. -/
def load (files : FileReader) (env : Environment) (path : Option String) : Config :=
  ofText env ((path.or (env.ownFile? "config.toml")).bind files.text?)

end Config
end Jukebox
