import Jukebox.Text.Blank

/-!
# Lines

A line ends at a line feed, and a carriage return directly before that line feed belongs to the
ending.  The text after the last line feed is a line only if it is not empty, and it keeps a
carriage return at its end; a carriage return elsewhere is an ordinary character.
-/

set_option autoImplicit false

namespace Jukebox
namespace Text

namespace Chars

/-- The lines of a text, without their endings.  A carriage return with a line feed behind it
vanishes: what is left of the line is what the line feed alone would have ended. -/
def lines : List Char → List (List Char)
  | [] => []
  | c :: cs =>
    if c = '\n' then [] :: lines cs
    else if c = '\r' ∧ cs.head? = some '\n' then lines cs
    else consHead c (lines cs)

end Chars

/-- The lines of a text, without their endings. -/
def lines (s : String) : List String := (Chars.lines s.toList).map .ofList

example : lines "a\r\nb\rc\n\nd\r" = ["a", "b\rc", "", "d\r"] := by decide

end Text
end Jukebox
