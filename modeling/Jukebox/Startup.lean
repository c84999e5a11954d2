import Jukebox.Text.Lines
import Jukebox.Text.Utf8

/-!
# Startup files

A startup file holds one command a line.  Blank lines and lines that begin with a double quote say
nothing, and a colon before a command is dropped, as is everything blank around what is left.
-/

set_option autoImplicit false

namespace Jukebox

/-- The contents of files, by path; there is none for a file that cannot be read. -/
abbrev FileReader := String → Option ByteArray

/-- The text of a file, if it can be read and is valid UTF-8. -/
def FileReader.text? (files : FileReader) (path : String) : Option String :=
  (files path).bind Text.Utf8.decode?

namespace Startup

/-- The command on a line without its colon, if there is one. -/
def command? (line : String) : Option String :=
  let found (cs : List Char) : Option String := if cs = [] then none else some (.ofList cs)
  match Text.Chars.trim line.toList with
  | '"' :: _ => none
  | ':' :: cs => found (Text.Chars.trim cs)
  | cs => found cs

/-- The commands of a startup file. -/
def commands (text : String) : List String := (Text.lines text).filterMap command?

/-- The commands of the startup file at a path: none if there is no such file, or no text. -/
def load (files : FileReader) (path : String) : List String :=
  ((files.text? path).map commands).getD []

end Startup
end Jukebox
