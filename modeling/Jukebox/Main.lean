import Jukebox.Client.Mpc
import Jukebox.Log
import Jukebox.Options
import Jukebox.Screen.Frame

/-!
# The program

Reads the command line, the environment and the files, and hands them to the library.  Keys are
taken from standard input a line at a time, each line ending with the enter key, and after each
the screen is printed.  This front end cannot start other programs, so its client reports that for
every connect.
-/

set_option autoImplicit false

namespace Jukebox
namespace FrontEnd

/-- A launcher that starts nothing. -/
structure NoPrograms where

instance : Launcher NoPrograms where
  launch _ own := (.error "this program cannot start others", own)

/-- A refusal of the operating system. -/
def refusal (e : IO.Error) : IoError :=
  match e with
  | .noFileOrDirectory _ code details => ⟨details, some code.toNat⟩
  | e => ⟨toString e, none⟩

instance : FileSystem IO where
  makeDir dir := do
    try
      IO.FS.createDir dir
      return .ok ()
    catch e => return .error (refusal e)
  isDir dir := do
    try
      let _ ← IO.FS.readBinFile dir
      return false
    catch
      | .inappropriateType .. => return true
      | _ => return false

/-- The contents of a file, if it can be read. -/
def contents? (path : Option String) : IO (Option ByteArray) := do
  match path with
  | none => return none
  | some path =>
    try
      return some (← IO.FS.readBinFile path)
    catch _ => return none

/-- A variable of the environment that is not empty. -/
def envVar (name : String) : IO (Option String) := do
  return (← IO.getEnv name).filter (!·.isEmpty)

/-- Takes a line of keys after the other until the session ends. -/
partial def takeLines (input : IO.FS.Stream) (app : App (Mpc NoPrograms)) : IO Unit := do
  for row in (app.frame 80 24).rows do
    IO.println (Screen.rowText row)
  if app.shouldQuit then return
  let line ← input.getLine
  if line.isEmpty then return
  let keys := (line.toList.filter (· ≠ '\n')).map fun c => App.Event.key (.plain (.char c))
  takeLines input ((app.run keys).step (.key (.plain .enter)))

/-- Runs the application. -/
def runApp (o : Options) : IO UInt32 := do
  let env : Config.Environment :=
    { home := ← envVar "HOME", configHome := ← envVar "XDG_CONFIG_HOME" }
  let configPath := o.config.or (env.ownFile? "config.toml")
  let configBytes ← contents? configPath
  let config := Config.load (fun _ => configBytes) env configPath
  match ← Log.prepare (o.logFile.or config.logFile) with
  | .error e =>
    IO.eprintln e.message
    return 1
  | .ok _ =>
    let launch : Launch := { host := o.host, port := o.port, startupFile := o.startupFile }
    let startup ← contents? (launch.startupFile.or config.startupFile)
    let client : Mpc NoPrograms := { launcher := {} }
    takeLines (← IO.getStdin) (App.start config launch (fun _ => startup) client)
    return 0

/-- What is said about arguments that cannot be carried out. -/
def complaint : Options.Stop → String
  | .unknownArgument => "unknown argument"
  | .missingValue => "a value is required"
  | .badValue => "invalid value"
  | .repeated => "an argument cannot be used multiple times"
  | .unexpectedValue => "unexpected value"
  | .help | .version => ""

end FrontEnd
end Jukebox

open Jukebox Jukebox.FrontEnd in
/-- The program. -/
def main (args : List String) : IO UInt32 := do
  match Options.parse args with
  | .error .help =>
    IO.print Options.helpText
    return 0
  | .error .version =>
    IO.print Options.versionText
    return 0
  | .error stop =>
    IO.eprintln ("error: " ++ complaint stop)
    return 2
  | .ok o =>
    if o.projectUrl || o.bugReport then
      if o.projectUrl then IO.println Options.projectUrlText
      if o.bugReport then IO.println Options.bugReportText
      return 0
    else runApp o
