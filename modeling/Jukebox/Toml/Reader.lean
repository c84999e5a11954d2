import Jukebox.Toml.Value

/-!
# Reading characters

A reader takes what it understands from the front of a text, or fails and takes nothing.  Tabs and
spaces may stand around most things; a line ends in a line feed, alone or behind a carriage
return; a comment runs to the end of its line and holds no controls but tabs.
-/

set_option autoImplicit false

namespace Jukebox
namespace Toml

/-- What takes a value from the front of a text. -/
abbrev Reader := StateT (List Char) Option

namespace Reader

/-- The next character, left where it is. -/
def peek : Reader (Option Char) := return (← get).head?

/-- Takes the next character, if it is as asked for. -/
def satisfy (p : Char → Bool) : Reader Char
  | c :: cs => if p c then some (c, cs) else none
  | [] => none

/-- Takes one given character. -/
def char (c : Char) : Reader Unit := do let _ ← satisfy (· == c)

/-- Takes a given text. -/
def literal (s : String) : Reader Unit := s.toList.forM char

/-- Takes all characters up to the first that is not as asked for. -/
def takeWhile (p : Char → Bool) : Reader (List Char) :=
  fun cs => some (cs.takeWhile p, cs.dropWhile p)

/-- Takes at least one character. -/
def takeWhile1 (p : Char → Bool) : Reader (List Char) :=
  return (← satisfy p) :: (← takeWhile p)

/-- Takes exactly `n` characters. -/
def exactly (p : Char → Bool) : Nat → Reader (List Char)
  | 0 => pure []
  | n + 1 => return (← satisfy p) :: (← exactly p n)

/-- Takes what a reader takes, if it does not fail. -/
def optional {α : Type} (r : Reader α) : Reader (Option α) := some <$> r <|> pure none

/-! ## Between the values -/

/-- Tabs and spaces. -/
def blanks : Reader Unit := do let _ ← takeWhile fun c => c == ' ' || c == '\t'

/-- The end of a line that another one may follow. -/
def newline : Reader Unit := char '\n' <|> literal "\r\n"

/-- The end of the text. -/
def finish : Reader Unit
  | [] => some ((), [])
  | _ => none

/-- What a comment may hold. -/
def isCommentChar (c : Char) : Bool := c == '\t' || (' ' ≤ c && c ≠ '\x7f')

/-- A comment, up to the end of its line. -/
def comment : Reader Unit := do
  char '#'
  let _ ← takeWhile isCommentChar

/-- What may stand behind a value or a header: a comment, and the end of the line. -/
def lineEnd : Reader Unit := do
  blanks
  let _ ← optional comment
  newline <|> finish

/-- Blanks, line ends and comments, as they may stand between the items of an array.  A comment
has to end with its line. -/
def spacing : Nat → Reader Unit
  | 0 => blanks
  | n + 1 => do
    blanks
    match ← peek with
    | some '#' => do comment; newline; spacing n
    | some '\n' | some '\r' => do newline; spacing n
    | _ => pure ()

end Reader
end Toml
end Jukebox
