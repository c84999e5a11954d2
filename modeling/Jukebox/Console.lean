import Jukebox.Client.Basic
import Jukebox.Key.Basic
import Jukebox.Search
import Jukebox.Settings
import Jukebox.StatusLine
import Jukebox.Text.Lines

/-!
# The console

The console is what all modes share: the client, the settings, and everything that is shown or
waiting to be shown.

* `CommandError` is how a command fails, and `CommandError.message` what the user reads.
* `Console` is the shared state.
* `Console.showOutput`, `Console.setServerStatus`, `Console.reportError` and their like are the
  only ways in which the panes change.
-/

set_option autoImplicit false

namespace Jukebox

/-- How a command fails. -/
inductive CommandError where
  | unknownCommand (name : String)
  | aliasCycle (name : String) (depth : Nat)
  | badSetting (error : SettingsError)
  | connectionUnavailable
  | client (text : String)
  | usage (text : String)
  deriving DecidableEq, Repr

namespace CommandError

/-- The wording of an error. -/
def message : CommandError → String
  | unknownCommand name => "Not an editor command: " ++ name
  | aliasCycle name depth =>
    "Alias '" ++ name ++ "' did not resolve after " ++ toString depth ++ " expansions"
  | badSetting error => error.message
  | connectionUnavailable => "Not connected to a server, use :connect <host> [port]"
  | client text => text
  | usage text => "Usage: " ++ text

/-- A failed request as a failed command. -/
def ofClient : ClientError → CommandError
  | .notConnected => connectionUnavailable
  | e => client e.message

end CommandError

/-- A wish to open a mode with text already typed, left by one mode for the dispatcher to grant. -/
structure PromptRequest where
  /-- The press that opens the mode. -/
  trigger : KeyPress
  initial : String
  deriving DecidableEq, Repr

/-- The state that all modes share. -/
structure Console (σ : Type) where
  client : σ
  settings : Settings := {}
  /-- The server of the configuration, for a connect that names none. -/
  server : Endpoint := .default
  status : StatusLine := .clear
  output : List String := []
  serverStatus : List String := []
  search : Search := {}
  /-- What the active mode wants on the bottom line. -/
  modeLine : Option String := none
  prompt : Option PromptRequest := none
  refreshRequested : Bool := false
  shutdown : Bool := false

namespace Console

variable {σ : Type}

/-- The number of lines that the output pane holds. -/
def outputLimit : Nat := 200

/-- Shows lines in the output pane, as many as it holds. -/
def showOutput (lines : List String) (c : Console σ) : Console σ :=
  { c with output := lines.take outputLimit }

/-- Shows what the server says about itself: its lines without trailing blanks, leaving out those
with nothing else. -/
def setServerStatus (text : String) (c : Console σ) : Console σ :=
  { c with serverStatus := ((Text.lines text).map Text.trimEnd).filter (!·.isEmpty) }

/-- Shows a message on the status line. -/
def info (text : String) (c : Console σ) : Console σ :=
  { c with status := .showing .info text }

/-- Shows a complaint on the status line. -/
def error (text : String) (c : Console σ) : Console σ :=
  { c with status := .showing .error text }

/-- Clears the status line. -/
def clearStatus (c : Console σ) : Console σ := { c with status := .clear }

/-- Shows why a command failed. -/
def reportError (e : CommandError) (c : Console σ) : Console σ := c.error ("E: " ++ e.message)

/-- Shows why each of several commands failed, one after the other; the last one stays. -/
def reportErrors (errors : List CommandError) (c : Console σ) : Console σ :=
  errors.foldl (fun c e => c.reportError e) c

/-- Shows the outcome of a command if it is a failure, and says whether it was a success. -/
def report (result : Except CommandError Unit) (c : Console σ) : Bool × Console σ :=
  match result with
  | .ok _ => (true, c)
  | .error e => (false, c.reportError e)

/-- Asks a connected server for news. -/
def refreshServerStatus [Client σ] (c : Console σ) : Console σ :=
  if Client.isConnected c.client then
    match Client.status c.client with
    | (.ok text, client) => setServerStatus text { c with client }
    | (.error e, client) => reportError (.ofClient e) { c with client }
  else c

end Console
end Jukebox
