import Jukebox.Command.Builtin
import Jukebox.Command.Completion

/-!
# Sessions

A session is the console together with an interpreter of commands.  While the startup file is
read, commands that need the server are held back; a *flush* runs them afterwards, the connecting
ones first.  A connection made later flushes what is still held back.

A flush takes the whole queue and ends the holding back before it runs the first command, so
nothing that it runs finds a queue to flush: `flush` calls `perform`, which runs one operation and
looks at no queue, and only `invoke` calls `flush`.

* `Interpreter` is the state of the interpreter; a `Session` also knows which commands have been
  run, in what order.
* `Session.perform` runs one command, `Session.flush` the queue, and `Session.invoke` decides
  between running and holding back.
* `Session.execute` and `Session.executeLine` follow aliases first.
* `Session.runStartup` runs the startup commands.
-/

set_option autoImplicit false

namespace Jukebox

/-- A command held back, with the kind of its operation. -/
structure QueuedCommand where
  command : Command
  kind : OperationKind
  deriving DecidableEq, Repr

/-- The state of the interpreter. -/
structure Interpreter (σ : Type) where
  catalogue : Catalogue σ
  aliases : AliasTable := ∅
  completion : Completion := .idle
  /-- Whether commands that need the server are held back. -/
  queueing : Bool := false
  queue : List QueuedCommand := []

/-- The interpreter and what its commands act on. -/
structure Session (σ : Type) where
  interpreter : Interpreter σ
  console : Console σ
  /-- The commands whose operations have been run, the first one first. -/
  history : List Command := []

/-- The errors among some outcomes. -/
def errorOf : Except CommandError Unit → List CommandError
  | .ok _ => []
  | .error e => [e]

namespace Session

variable {σ : Type}

/-- The session with its console changed. -/
def mapConsole (f : Console σ → Console σ) (s : Session σ) : Session σ :=
  { s with console := f s.console }

/-- Runs the operation of a command on the console and the aliases.  The command goes into the
history whether the operation succeeds or not. -/
def runOperation (op : Operation σ) (c : Command) (s : Session σ) :
    Except CommandError Unit × Session σ :=
  let (result, scope) :=
    (op.run s.interpreter.catalogue.help c.args).act ⟨s.console, s.interpreter.aliases⟩
  (result,
    { interpreter := { s.interpreter with aliases := scope.aliases }
      console := scope.console
      history := s.history ++ [c] })

variable [Client σ]

/-- Whether there is a connection. -/
def isConnected (s : Session σ) : Bool := Client.isConnected s.console.client

/-- Runs a command now, unless there is no such command or no connection for it. -/
def perform (c : Command) (s : Session σ) : Except CommandError Unit × Session σ :=
  match s.interpreter.catalogue.get? c.name with
  | none => (.error (.unknownCommand c.name), s)
  | some op =>
    if op.kind = .player ∧ s.isConnected = false then (.error .connectionUnavailable, s)
    else s.runOperation op c

/-- Runs commands in turn, whatever becomes of each, and collects the errors. -/
def performAll : List QueuedCommand → Session σ → List CommandError × Session σ
  | [], s => ([], s)
  | q :: qs, s =>
    let (result, s) := s.perform q.command
    let (errors, s) := performAll qs s
    (errorOf result ++ errors, s)

/-- The session with its queue taken away and nothing held back any more. -/
def withoutQueue (s : Session σ) : Session σ :=
  { s with interpreter := { s.interpreter with queueing := false, queue := [] } }

/-- Runs what is held back: the connecting commands first, unless they are to be skipped, and then
the others, which stay in the queue as long as there is no connection. -/
def flush (s : Session σ) : List CommandError × Session σ :=
  let (connects, others) := s.interpreter.queue.partition (·.kind = .connecting)
  let s := s.withoutQueue
  let (errors, s) :=
    if s.console.settings.skipconfigconnects then ([], s) else performAll connects s
  if s.isConnected then
    let (more, s) := performAll others s
    (errors ++ more, s)
  else (errors, { s with interpreter := { s.interpreter with queue := others } })

/-- The session with a command at the end of its queue. -/
def hold (c : Command) (kind : OperationKind) (s : Session σ) : Session σ :=
  { s with interpreter :=
    { s.interpreter with queue := s.interpreter.queue ++ [⟨c, kind⟩] } }

/-- Runs a command or holds it back.  A connection made with commands in the queue flushes it; the
errors of that are shown, and are not the command's own. -/
def invoke (c : Command) (s : Session σ) : Except CommandError Unit × Session σ :=
  match s.interpreter.catalogue.get? c.name with
  | none => (.error (.unknownCommand c.name), s)
  | some op =>
    if s.interpreter.queueing ∧ op.kind ≠ .standalone then (.ok (), s.hold c op.kind)
    else
      match s.perform c with
      | (.error e, s) => (.error e, s)
      | (.ok _, s) =>
        if op.kind = .connecting ∧ s.interpreter.queue ≠ [] then
          let (errors, s) := s.flush
          (.ok (), s.mapConsole (.reportErrors errors))
        else (.ok (), s)

/-! ## Executing commands -/

/-- Runs what a command stands for.  The empty command does nothing. -/
def execute (c : Command) (s : Session σ) : Except CommandError Unit × Session σ :=
  match s.interpreter.aliases.resolve c with
  | .error e => (.error e, s)
  | .ok c => if c.name.isEmpty then (.ok (), s) else s.invoke c

/-- Runs the command on a line. -/
def executeLine (line : String) (s : Session σ) : Except CommandError Unit × Session σ :=
  s.execute (.ofLine line)

/-- Shows the outcome of a command if it is a failure, and says whether it was a success. -/
def report (outcome : Except CommandError Unit × Session σ) : Bool × Session σ :=
  let (ok, console) := outcome.2.console.report outcome.1
  (ok, { outcome.2 with console })

/-- Runs lines in turn, whatever becomes of each, and collects the errors. -/
def executeLines : List String → Session σ → List CommandError × Session σ
  | [], s => ([], s)
  | line :: lines, s =>
    let (result, s) := s.executeLine line
    let (errors, s) := executeLines lines s
    (errorOf result ++ errors, s)

/-- The session holding commands back, or not. -/
def setQueueing (queueing : Bool) (s : Session σ) : Session σ :=
  { s with interpreter := { s.interpreter with queueing } }

/-- Runs the startup commands with those that need the server held back, and then flushes. -/
def runStartup (lines : List String) (s : Session σ) : List CommandError × Session σ :=
  let (errors, s) := executeLines lines (s.setQueueing true)
  let (more, s) := s.flush
  (errors ++ more, s)

/-! ## Completing command names -/

/-- Completes what is typed to the name of a command. -/
def complete (text : String) (s : Session σ) : String × Session σ :=
  let (shown, completion) :=
    s.interpreter.completion.complete s.interpreter.catalogue.names text
  (shown, { s with interpreter := { s.interpreter with completion } })

/-- Ends the completion under way. -/
def resetCompletion (s : Session σ) : Session σ :=
  { s with interpreter := { s.interpreter with completion := .idle } }

end Session
end Jukebox
