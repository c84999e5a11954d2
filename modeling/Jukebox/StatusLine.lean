import Jukebox.Text.Blank

/-!
# The status line

The bottom line shows the last message when no mode needs it.  A message is trimmed, and a blank
one clears the line, so a line that shows something always shows some text.
-/

set_option autoImplicit false

namespace Jukebox

/-- What the status line shows. -/
inductive StatusLine where
  | clear
  | info (text : String)
  | error (text : String)
  deriving DecidableEq, Repr, Inhabited

namespace StatusLine

/-- The line that shows `text` as `kind` says, or nothing if the text is blank. -/
def showing (kind : String → StatusLine) (text : String) : StatusLine :=
  if (Text.trim text).isEmpty then clear else kind (Text.trim text)

/-- The text shown. -/
def text? : StatusLine → Option String
  | clear => none
  | info t | error t => some t

/-- Whether an error is shown. -/
def isError : StatusLine → Bool
  | error _ => true
  | _ => false

end StatusLine
end Jukebox
