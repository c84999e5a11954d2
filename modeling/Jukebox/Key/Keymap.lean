import Jukebox.Config.Basic
import Jukebox.Key.Chord

/-!
# Keymaps

A keymap says which chords open the modes, complete a name and escape, and what the chords of
normal mode do.  Chords are tried in the order of their written forms; the first that stands for a
press decides.

* `Binding` is what a chord of normal mode does.
* `Keymap.ofNames` makes a keymap of the chords of a configuration.
* `Keymap.bindingFor?` is what a press does in normal mode.
-/

set_option autoImplicit false

namespace Jukebox

/-- What a chord of normal mode does. -/
inductive Binding where
  /-- Runs a line. -/
  | run (line : String)
  /-- Opens the command line with a text already typed. -/
  | type (text : String)
  deriving DecidableEq, Repr

/-- The binding that a configuration writes as a line: a colon before it means that it is typed. -/
def Binding.ofLine (line : String) : Binding :=
  match line.toList with
  | ':' :: rest => .type (.ofList rest)
  | _ => .run (Text.trim line)

/-- The chords and what they do. -/
structure Keymap where
  command : Chord
  search : Chord
  complete : Chord
  escape : Chord
  normal : List (Chord × Binding)

namespace Keymap

/-- The chord that is written, or a key by itself if nothing sensible is. -/
def chordOr (written : String) (fallback : Key) : Chord :=
  (Chord.parse? written).getD (.plain fallback)

/-- An entry of a configuration with its chord read; an entry without a sensible chord is left
out. -/
def entry? (e : String × String) : Option (Chord × Binding) :=
  (Chord.parse? e.1).map fun chord => (chord, .ofLine e.2)

/-- The keymap of a configuration. -/
def ofNames (names : KeyNames) : Keymap where
  command := chordOr names.command (.char ':')
  search := chordOr names.search (.char '/')
  complete := chordOr names.complete .tab
  escape := chordOr names.escape .escape
  normal := names.normal.toList.filterMap entry?

/-- What a press does in normal mode. -/
def bindingFor? (k : Keymap) (press : KeyPress) : Option Binding :=
  (k.normal.find? fun e => e.1.accepts press).map Prod.snd

end Keymap
end Jukebox
