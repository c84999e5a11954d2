import Jukebox.Text.Blank

/-!
# Commands

A command is a name and the text of its arguments.  On a line the name is the first word, and the
arguments are everything behind it; there is no quoting, so the arguments are whatever the command
makes of them.
-/

set_option autoImplicit false

namespace Jukebox

/-- A name and the text of its arguments. -/
structure Command where
  name : String
  args : String
  deriving DecidableEq, Repr, Inhabited

/-- The command on a line: the first word, and the rest trimmed. -/
def Command.ofLine (line : String) : Command :=
  let cs := Text.Chars.trim line.toList
  { name := .ofList (cs.takeWhile (!Text.isBlank ·))
    args := .ofList (Text.Chars.trim (cs.dropWhile (!Text.isBlank ·))) }

example : Command.ofLine "  mpc add a b\tc " = ⟨"mpc", "add a b\tc"⟩ := by decide

end Jukebox
