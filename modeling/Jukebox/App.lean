import Jukebox.Config.File
import Jukebox.Mode.Standard
import Jukebox.Startup

/-!
# The application

The application is the modes and the session they drive.  It comes up by reading its startup file
and connecting, and then takes one event at a time.

* `Launch` is what the command line overrides.
* `App.start` brings the application up; `App.startWith` does so with any keymap.
* `App.onKey`, `App.onTick` and `App.onResize` are the events.
-/

set_option autoImplicit false

namespace Jukebox

/-- What is given on the command line in place of the configuration's. -/
structure Launch where
  host : Option String := none
  port : Option UInt16 := none
  startupFile : Option String := none
  deriving DecidableEq, Repr

namespace Launch

/-- Whether the command line names a server, or part of one. -/
def overridesServer (l : Launch) : Bool := l.host.isSome || l.port.isSome

/-- The server to connect to. -/
def server (l : Launch) (configured : Endpoint) : Endpoint :=
  ⟨l.host.getD configured.host, l.port.getD configured.port⟩

end Launch

/-- The modes and the session they drive. -/
structure App (σ : Type) where
  modes : Modes InputLine σ
  session : Session σ

namespace App

variable {σ : Type} [Client σ]

/-- What is shown when there is no connection in the end. -/
def noConnectionHint : String :=
  "Failed to connect to server, please ensure it is running and type :connect <server> [port]"

/-- The session before anything has happened.  A server on the command line wins over the
connects of the startup file, which are therefore skipped. -/
def initialSession (config : Config) (launch : Launch) (client : σ) : Session σ where
  interpreter := { catalogue := .standard σ }
  console :=
    { client
      settings := { skipconfigconnects := launch.overridesServer }
      server := launch.server config.server }

/-- The session with connects of the startup file skipped, or not. -/
def setSkipConnects (skip : Bool) (s : Session σ) : Session σ :=
  s.mapConsole fun c => { c with settings := { c.settings with skipconfigconnects := skip } }

/-- Connects to a server if there is no connection yet.  Failure shows in there being none. -/
def connectIfNeeded (server : Endpoint) (s : Session σ) : Session σ :=
  if s.isConnected then s
  else (s.execute ⟨"connect", server.host ++ " " ++ toString server.port.toNat⟩).2

/-- Shows what went wrong while starting: the last of the errors, or that there is no
connection. -/
def showStartupErrors (errors : List CommandError) (s : Session σ) : Session σ :=
  let s := s.mapConsole (.reportErrors errors)
  if s.isConnected then s else s.mapConsole (.error noConnectionHint)

/-- The commands of the startup file, the command line's if it names one. -/
def startupLines (config : Config) (launch : Launch) (files : FileReader) : List String :=
  ((launch.startupFile.or config.startupFile).map (Startup.load files)).getD []

/-- Brings the application up with a keymap: the first mode, the startup commands, and a
connection to the configured server unless the startup file has made one. -/
def startWith (keymap : Keymap) (config : Config) (launch : Launch) (files : FileReader)
    (client : σ) : App σ :=
  let (modes, session) := (Modes.standard keymap).start (initialSession config launch client)
  let (errors, session) := session.runStartup (startupLines config launch files)
  let session := connectIfNeeded (launch.server config.server) (setSkipConnects false session)
  let session := showStartupErrors errors session
  { modes, session := modes.refresh session }

/-- Brings the application up with the keymap of the configuration. -/
def start (config : Config) (launch : Launch) (files : FileReader) (client : σ) : App σ :=
  startWith (.ofNames config.keys) config launch files client

/-- Takes a key press. -/
def onKey (press : KeyPress) (app : App σ) : App σ :=
  let (_, modes, session) := app.modes.dispatch press app.session
  { modes, session }

/-- Uses an idle moment to ask the server for news, if polling is on. -/
def onTick (app : App σ) : App σ :=
  let session :=
    if app.session.console.settings.polling then app.session.mapConsole .refreshServerStatus
    else app.session
  { app with session := app.modes.refresh session }

/-- Takes note of a new size of the screen. -/
def onResize (app : App σ) : App σ :=
  { app with session := app.session.mapConsole fun c => { c with refreshRequested := true } }

/-- Whether the session is to end. -/
def shouldQuit (app : App σ) : Bool := app.session.console.shutdown

/-- An event that the application takes. -/
inductive Event where
  | key (press : KeyPress)
  | tick
  | resize
  deriving DecidableEq, Repr

/-- Takes an event. -/
def step (app : App σ) : Event → App σ
  | .key press => app.onKey press
  | .tick => app.onTick
  | .resize => app.onResize

/-- Takes events in turn. -/
def run (app : App σ) (events : List Event) : App σ := events.foldl step app

end App
end Jukebox
