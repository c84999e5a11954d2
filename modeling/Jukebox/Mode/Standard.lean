import Jukebox.Key.Keymap
import Jukebox.Mode.Basic
import Jukebox.Mode.InputLine

/-!
# The standard modes

* In normal mode a chord runs the command it is bound to, or opens the command line with a text.
  The escape chord leads back to it from everywhere.
* Command mode takes a line and executes it.
* Search mode takes a pattern and searches the queue for it.
-/

set_option autoImplicit false

namespace Jukebox
namespace Modes

variable {σ : Type}

/-- The session with a line of input shown, or none. -/
def showLine (line : Option String) (session : Session σ) : Session σ :=
  session.mapConsole fun c => { c with modeLine := line }

/-- Whether a press ends a line of input: enter does, and backspace once the prompt is gone. -/
def endsLine (line : InputLine) (press : KeyPress) : Bool :=
  press.key == .enter || (press.key == .backspace && line.isEmpty)

/-- What a press does to a line of input when it means nothing else to the mode. -/
def edit (press : KeyPress) (line : InputLine) : Bool × InputLine :=
  if press.key = .backspace then (true, line.backspace)
  else
    match press.typed? with
    | some c => (true, line.push c)
    | none => (false, line)

/-- Types a text at the end of a line. -/
def seedLine (text : String) (line : InputLine) (session : Session σ) : InputLine × Session σ :=
  (line.append text, session)

variable [Client σ]

/-! ## Normal mode -/

/-- Does what a chord is bound to.  A text to be typed becomes a wish for the command line. -/
def handleNormal (keymap : Keymap) (press : KeyPress) (line : InputLine) (session : Session σ) :
    Bool × InputLine × Session σ :=
  match keymap.bindingFor? press with
  | none => (false, line, session)
  | some (.run text) =>
    (true, line, (Session.report (session.execute (.ofLine text))).2)
  | some (.type text) =>
    (true, line, session.mapConsole fun c =>
      { c with prompt := some ⟨keymap.command.press, text⟩ })

/-- Normal mode. -/
def normalHandler (keymap : Keymap) : Handler InputLine σ where
  initialise _ line session := (line, showLine none session)
  finalise _ line session := (line, session)
  handle := handleNormal keymap
  refresh _ session := showLine none session
  startsOn _ press := keymap.escape.accepts press
  endsOn _ _ := false

/-! ## Command mode -/

/-- Completes the name of a command.  A line with a blank in it is past its name. -/
def completeName (line : InputLine) (session : Session σ) : InputLine × Session σ :=
  if line.text.toList.any Text.isBlank then (line, session)
  else
    let (name, session) := session.complete line.text
    (line.replaceText name, session)

/-- Takes a press in command mode: completes, executes the line, or edits it. -/
def handleCommand (keymap : Keymap) (press : KeyPress) (line : InputLine)
    (session : Session σ) : Bool × InputLine × Session σ :=
  let completes := keymap.complete.accepts press
  let session := if completes then session else session.resetCompletion
  if keymap.escape.accepts press then (true, .empty, session)
  else if completes then (true, completeName line session)
  else if press.key = .enter then
    (true, .empty, (Session.report (session.executeLine line.text)).2)
  else
    let (handled, line) := edit press line
    (handled, line, session)

/-- Command mode. -/
def commandHandler (keymap : Keymap) : Handler InputLine σ where
  initialise press _ session :=
    (.opened press ':', session.resetCompletion.mapConsole .clearStatus)
  finalise _ _ session := (.empty, session.resetCompletion)
  handle := handleCommand keymap
  refresh line session := showLine (some line.contents) session
  startsOn _ press := keymap.command.accepts press
  endsOn := endsLine
  seed := seedLine

/-! ## Search mode -/

/-- Takes a press in search mode: searches for the line, unless it is blank, or edits it. -/
def handleSearch (keymap : Keymap) (press : KeyPress) (line : InputLine)
    (session : Session σ) : Bool × InputLine × Session σ :=
  if keymap.escape.accepts press then (true, .empty, session)
  else if press.key = .enter then
    if Text.isAllBlank line.text then (true, .empty, session)
    else
      (true, .empty, (Session.report (session.execute ⟨"search", line.text⟩)).2)
  else
    let (handled, line) := edit press line
    (handled, line, session)

/-- Search mode. -/
def searchHandler (keymap : Keymap) : Handler InputLine σ where
  initialise press _ session := (.opened press '/', session.mapConsole .clearStatus)
  finalise _ _ session := (.empty, session)
  handle := handleSearch keymap
  refresh line session := showLine (some line.contents) session
  startsOn _ press := keymap.search.accepts press
  endsOn := endsLine
  seed := seedLine

/-! ## All three -/

/-- The standard modes with the chords of a keymap. -/
def standard (keymap : Keymap) : Modes InputLine σ where
  handlers := ⟨normalHandler keymap, commandHandler keymap, searchHandler keymap⟩
  states := ⟨.empty, .empty, .empty⟩

end Modes
end Jukebox
