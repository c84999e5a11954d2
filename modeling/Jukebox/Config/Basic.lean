import Jukebox.Client.Basic
import Jukebox.Text.Blank
import Std.Data.TreeMap

/-!
# The configuration

What a configuration says, and what holds where it says nothing.

* `Config` is a complete configuration: a value for everything.
* `Config.Written` is what a file says, which may be nothing at all.
* `Config.Environment` is what paths are completed from.
* `Config.Written.filled` fills in the defaults.
-/

set_option autoImplicit false

namespace Jukebox

/-- The chords of the configuration, as they are written. -/
structure KeyNames where
  command : String
  search : String
  complete : String
  escape : String
  /-- The line for each chord of normal mode.  With a colon before it, the line is typed and not
  run. -/
  normal : Std.TreeMap String String

/-- A complete configuration. -/
structure Config where
  server : Endpoint
  keys : KeyNames
  startupFile : Option String
  logFile : Option String
  logLevel : Option String

namespace Config

/-! ## What a file says -/

/-- What a file says about the server. -/
structure WrittenServer where
  host : Option String := none
  port : Option UInt16 := none

/-- What a file says about the keys. -/
structure WrittenKeys where
  command : Option String := none
  search : Option String := none
  complete : Option String := none
  escape : Option String := none
  normal : List (String × String) := []

/-- What a file says about the log. -/
structure WrittenLog where
  file : Option String := none
  level : Option String := none

/-- What a file says. -/
structure Written where
  server : WrittenServer := {}
  keys : WrittenKeys := {}
  startupFile : Option String := none
  log : WrittenLog := {}

/-! ## Paths -/

/-- The user's home directory and the directory for configuration files, as the environment gives
them. -/
structure Environment where
  home : Option String := none
  configHome : Option String := none

/-- A path below a directory.  An absolute path stays as it is. -/
def join (dir path : String) : String :=
  if path.startsWith "/" || dir.isEmpty then path
  else if dir.endsWith "/" then dir ++ path
  else dir ++ "/" ++ path

namespace Environment

/-- The directory for configuration files: the one given, if it is an absolute path, and otherwise
`.config` in the home directory. -/
def configDir? (env : Environment) : Option String :=
  match env.configHome.filter (·.startsWith "/") with
  | some dir => some dir
  | none => env.home.map (join · ".config")

/-- A file of this program in the directory for configuration files. -/
def ownFile? (env : Environment) (name : String) : Option String :=
  env.configDir?.map fun dir => join (join dir "cuepoint") name

/-- A path with the home directory in place of a `~` before its first slash. -/
def expandHome (env : Environment) (path : String) : String :=
  match path.toList, env.home with
  | '~' :: '/' :: rest, some home => join home (.ofList rest)
  | _, _ => path

end Environment

/-! ## Filling in the defaults -/

/-- The chords of normal mode that are bound unless a file says otherwise. -/
def defaultBindings : List (String × String) :=
  [("p", "pause"), ("P", "play"), ("s", "stop"), (">", "next"), ("<", "previous"),
   ("n", "searchnext"), ("N", "searchprev"), ("q", "quit"), ("c", ":connect ")]

/-- The bindings after one more entry of a file: a blank line takes the chord's binding away. -/
def bind (bindings : Std.TreeMap String String) (entry : String × String) :
    Std.TreeMap String String :=
  if Text.isAllBlank entry.2 then bindings.erase entry.1 else bindings.insert entry.1 entry.2

/-- The chords with the defaults filled in. -/
def WrittenKeys.filled (w : WrittenKeys) : KeyNames where
  command := w.command.getD ":"
  search := w.search.getD "/"
  complete := w.complete.getD "tab"
  escape := w.escape.getD "esc"
  normal := w.normal.foldl bind (.ofList defaultBindings)

/-- The configuration with the defaults filled in. -/
def Written.filled (w : Written) (env : Environment) : Config where
  server := ⟨w.server.host.getD Endpoint.default.host, w.server.port.getD Endpoint.defaultPort⟩
  keys := w.keys.filled
  startupFile := (w.startupFile.map env.expandHome).or (env.ownFile? "cuepointrc")
  logFile := w.log.file.map env.expandHome
  logLevel := w.log.level

end Config
end Jukebox
