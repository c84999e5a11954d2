import Jukebox.Command.Basic
import Jukebox.Console
import Std.Data.TreeMap

/-!
# Aliases

An alias is a name that stands for a command line.  The line replaces the whole command, arguments
included, and may begin with an alias again; following aliases ends after `maxAliasDepth`
expansions, so one that leads back to itself is an error and not an endless loop.

* `AliasTable` maps names to lines, in the order of the names.
* `aliasDefinition?` reads what `:alias` is given.
* `AliasTable.expand?` is one expansion and `AliasTable.resolve` all of them.
-/

set_option autoImplicit false

namespace Jukebox

/-- The lines that names stand for. -/
abbrev AliasTable := Std.TreeMap String String

/-- The number of expansions after which an alias is given up. -/
def maxAliasDepth : Nat := 16

/-- Reads a definition: a name, and the line behind it, which may be empty.  A blank text names
nothing. -/
def aliasDefinition? (text : String) : Option (String × String) :=
  let cs := Text.Chars.trim text.toList
  if cs = [] then none
  else
    match Text.Chars.splitAtBlank? cs with
    | some (name, line) => some (.ofList name, .ofList (Text.Chars.trim line))
    | none => some (.ofList cs, "")

namespace AliasTable

/-- What a command expands to, if its name is an alias. -/
def expand? (t : AliasTable) (c : Command) : Option Command := t[c.name]?.map Command.ofLine

/-- The first command on the way from `c` whose name is no alias, if at most `n` expansions lead
to it. -/
def resolveWithin (t : AliasTable) : Nat → Command → Option Command
  | n, c =>
    match t.expand? c, n with
    | none, _ => some c
    | some _, 0 => none
    | some next, n + 1 => resolveWithin t n next

/-- The command that `c` stands for. -/
def resolve (t : AliasTable) (c : Command) : Except CommandError Command :=
  match t.resolveWithin maxAliasDepth c with
  | some found => .ok found
  | none => .error (.aliasCycle c.name maxAliasDepth)

/-- The aliases as they are shown, `name -> line`, in the order of the names. -/
def listing (t : AliasTable) : List String :=
  t.toList.map fun (name, line) => name ++ " -> " ++ line

end AliasTable
end Jukebox
