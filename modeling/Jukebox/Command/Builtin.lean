import Jukebox.Command.Operation

/-!
# The operations of the player

The catalogue that a session starts with.  Settings, aliases and messages need no server;
`connect` makes the connection; everything that is passed on to the player needs one.

* `Builtin.update` and `Builtin.runClient` are how an operation acts on the console and the client.
* One definition for each operation; `playerCommands` lists those that only pass a word on.
* `Catalogue.standard` holds them all.
-/

set_option autoImplicit false

namespace Jukebox
namespace Builtin

variable {σ : Type}

/-! ## Acting on the console and the client -/

/-- The console as it is. -/
def console : CommandM σ (Console σ) := do return (← get).console

/-- Changes the console. -/
def update (f : Console σ → Console σ) : CommandM σ Unit :=
  modify fun s => { s with console := f s.console }

/-- Calls the client and keeps what becomes of it. -/
def callClient {α : Type} (call : σ → α × σ) : CommandM σ α := do
  let c ← console
  let (answer, client) := call c.client
  update fun c => { c with client }
  return answer

/-- The answer to a request, whose failure is the operation's. -/
def orThrow {α : Type} : Except ClientError α → CommandM σ α
  | .ok a => pure a
  | .error e => throw (.ofClient e)

/-- Passes a request on to the player. -/
def runClient [Client σ] (request : String) : CommandM σ String := do
  orThrow (← callClient (Client.run request))

/-! ## Settings, aliases and messages -/

/-- Applies the changes one after the other; the first that is refused is the outcome. -/
def applyAll (s : Settings) (tokens : List String) : Except SettingsError Settings :=
  tokens.foldlM Settings.apply s

/-- Lists the settings, or changes them if every change is accepted. -/
def set (args : String) : CommandM σ Unit := do
  let s := (← console).settings
  if Text.isAllBlank args then update (.showOutput s.listing)
  else
    match applyAll s (Text.words args) with
    | .ok settings => update fun c => { c with settings }
    | .error e => throw (.badSetting e)

/-- Lists the aliases, shows one, or defines one. -/
def manageAliases (args : String) : CommandM σ Unit := do
  let aliases := (← get).aliases
  match aliasDefinition? args with
  | none =>
    if aliases.isEmpty then update (.info "No aliases defined")
    else update (.showOutput aliases.listing)
  | some (name, "") =>
    match aliases[name]? with
    | some line => update (.info (name ++ " -> " ++ line))
    | none => update (.info ("No such alias: " ++ name))
  | some (name, line) => modify fun s => { s with aliases := s.aliases.insert name line }

/-- Shows the arguments on the status line. -/
def echo (args : String) : CommandM σ Unit := update (.info args)

/-- Shows the help text. -/
def help (text : List String) : CommandM σ Unit := update (.showOutput text)

/-- Asks for the screen to be drawn from scratch. -/
def redraw : CommandM σ Unit := update fun c => { c with refreshRequested := true }

/-- Asks for the session to end. -/
def quit : CommandM σ Unit := update fun c => { c with shutdown := true }

/-! ## The server -/

/-- The server that the arguments of `connect` name.  No arguments at all mean the server of the
configuration; a host without a port has the port that players listen on. -/
def endpoint? (server : Endpoint) (args : String) : Option Endpoint :=
  match Text.words args with
  | [] => some ⟨server.host, if args.isEmpty then server.port else Endpoint.defaultPort⟩
  | [host] => some ⟨host, Endpoint.defaultPort⟩
  | [host, port] => (Text.uint16? port).map (⟨host, ·⟩)
  | _ => none

/-- Connects to a server and, if it says so, shows what is playing. -/
def connect [Client σ] (args : String) : CommandM σ Unit := do
  match endpoint? (← console).server args with
  | none => throw (.usage "connect [host] [port]")
  | some server =>
    orThrow (← callClient (Client.connect server))
    update (.info ("Connected to " ++ server.host ++ ":" ++ toString server.port.toNat))
    match ← callClient Client.status with
    | .ok text => update (.setServerStatus text)
    | .error _ => pure ()

/-- Passes the arguments on to the player and shows its output. -/
def mpc [Client σ] (args : String) : CommandM σ Unit := do
  if args.isEmpty then throw (.usage "mpc <arguments>")
  let output ← runClient args
  update (.showOutput (Text.lines output))

/-- Passes a word and the arguments on to the player and shows its status. -/
def pass [Client σ] (word args : String) : CommandM σ Unit := do
  let output ← runClient (if args.isEmpty then word else word ++ " " ++ args)
  update (.setServerStatus output)

/-! ## Searching -/

/-- Tells where the search stands. -/
def reportSearch : CommandM σ Unit := update fun c => c.info c.search.report

/-- Searches the queue. -/
def search [Client σ] (args : String) : CommandM σ Unit := do
  let pattern := Text.trim args
  if pattern.isEmpty then throw (.usage "search <pattern>")
  let listing ← runClient "playlist"
  update fun c => { c with search := .run pattern listing c.settings.ignorecase }
  reportSearch

/-- Moves to another match. -/
def searchMove (move : Search → Search) : CommandM σ Unit := do
  update fun c => { c with search := move c.search }
  reportSearch

end Builtin

/-! ## The catalogue -/

/-- The operations that only pass a word on: name, word and description. -/
def playerCommands : List (String × String × String) :=
  [("play", "play", "Start playback, optionally at a queue position"),
   ("pause", "pause", "Pause playback"),
   ("toggle", "toggle", "Toggle between play and pause"),
   ("stop", "stop", "Stop playback"),
   ("next", "next", "Play the next song in the queue"),
   ("previous", "prev", "Play the previous song in the queue"),
   ("seek", "seek", "Seek within the current song ([+-]seconds or percent)"),
   ("volume", "volume", "Set or adjust the volume"),
   ("random", "random", "Toggle or set random mode (on|off)"),
   ("repeat", "repeat", "Toggle or set repeat mode (on|off)"),
   ("single", "single", "Toggle or set single mode (on|off)"),
   ("consume", "consume", "Toggle or set consume mode (on|off)"),
   ("clear", "clear", "Remove every song from the queue"),
   ("shuffle", "shuffle", "Shuffle the queue")]

namespace Catalogue

variable (σ : Type) [Client σ]

/-- The operations with an action of their own. -/
def builtins : List (Operation σ) :=
  [⟨"set", "Change options: key, nokey, key!, key=value", .standalone, fun _ => Builtin.set⟩,
   ⟨"mpc", "Pass the arguments to the mpc client", .player, fun _ => Builtin.mpc⟩,
   ⟨"alias", "Define an alias: alias <name> <command>", .standalone,
     fun _ => Builtin.manageAliases⟩,
   ⟨"connect", "Connect to a server: connect [host] [port]", .connecting,
     fun _ => Builtin.connect⟩,
   ⟨"echo", "Show a message", .standalone, fun _ => Builtin.echo⟩,
   ⟨"help", "Show available commands", .standalone, fun text _ => Builtin.help text⟩,
   ⟨"redraw", "Redraw the screen", .standalone, fun _ _ => Builtin.redraw⟩,
   ⟨"quit", "Exit", .standalone, fun _ _ => Builtin.quit⟩,
   ⟨"q", "Alias for :quit", .standalone, fun _ _ => Builtin.quit⟩,
   ⟨"search", "Search the queue for a pattern", .player, fun _ => Builtin.search⟩,
   ⟨"searchnext", "Jump to the next search match", .standalone,
     fun _ _ => Builtin.searchMove .next⟩,
   ⟨"searchprev", "Jump to the previous search match", .standalone,
     fun _ _ => Builtin.searchMove .previous⟩]

/-- The operations that pass a word on. -/
def forwarders : List (Operation σ) :=
  playerCommands.map fun (name, word, description) =>
    ⟨name, description, .player, fun _ => Builtin.pass word⟩

/-- The catalogue that a session starts with. -/
def standard : Catalogue σ := registerAll {} (builtins σ ++ forwarders σ)

end Catalogue
end Jukebox
