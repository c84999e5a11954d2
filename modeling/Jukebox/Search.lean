import Jukebox.Text.Blank
import Jukebox.Text.Lines
import Jukebox.Text.Occurrence

/-!
# Searching the queue

A search remembers its query, the lines of the queue listing that contain it, and which of those
the user has moved to.

* `Search.run` searches a listing anew.
* `Search.next` and `Search.previous` move through the matches, round and round.
* `Search.current?` is the match moved to; `Search.report` is what the user is told about it.
-/

set_option autoImplicit false

namespace Jukebox

/-- A line of the queue that contains the query. -/
structure Hit where
  /-- The position in the queue, from one. -/
  position : Nat
  /-- The line, trimmed. -/
  line : String
  deriving DecidableEq, Repr

/-- The last search. -/
structure Search where
  query : String := ""
  hits : List Hit := []
  /-- The index of the match moved to. -/
  active : Nat := 0
  deriving DecidableEq, Repr, Inhabited

namespace Search

/-- Searches a listing: a line matches if the query occurs in it. -/
def run (query listing : String) (ignoreCase : Bool) : Search where
  query
  hits := (Text.lines listing).zipIdx 1 |>.filterMap fun (line, position) =>
    if Text.matchRanges line query ignoreCase = [] then none
    else some { position, line := Text.trim line }

/-- Moves to the next match, behind the last one to the first. -/
def next (s : Search) : Search :=
  if s.hits = [] then s else { s with active := (s.active + 1) % s.hits.length }

/-- Moves to the match before, in front of the first one to the last. -/
def previous (s : Search) : Search :=
  if s.hits = [] then s
  else if s.active = 0 then { s with active := s.hits.length - 1 }
  else { s with active := s.active - 1 }

/-- The match moved to. -/
def current? (s : Search) : Option Hit := s.hits[s.active]?

/-- What the user is told: the match moved to and its place among the matches, or that there is
none. -/
def report (s : Search) : String :=
  match s.current? with
  | some hit =>
    "[" ++ toString (s.active + 1) ++ "/" ++ toString s.hits.length ++ "] " ++
      toString hit.position ++ ": " ++ hit.line
  | none =>
    if s.query.isEmpty then "No previous search" else "Pattern not found: " ++ s.query

end Search
end Jukebox
