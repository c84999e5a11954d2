import Jukebox.Key.Basic
import Jukebox.Text.Blank
import Jukebox.Text.Letters

/-!
# Key chords

A chord such as `ctrl+p` names a key and the modifiers that go with it.  It is written as parts
with plus signs between them: modifier words in any order, and exactly one part that is no
modifier, which is the name of a key or a single character.

* `Chord.parse?` reads a chord.
* `Chord.accepts` says which key presses a chord stands for.
* `Chord.press` is the plainest press that it stands for; `accepts_press` says so.
-/

set_option autoImplicit false

namespace Jukebox

/-- A modifier that a chord can ask for.  Super counts as meta. -/
inductive ChordModifier where
  | control | alt | shift | metaKey
  deriving DecidableEq, Repr

/-- A key and the modifiers that have to be held with it. -/
structure Chord where
  key : Key
  control : Bool := false
  alt : Bool := false
  shift : Bool := false
  metaKey : Bool := false
  deriving DecidableEq, Repr, Inhabited

/-- The modifier that a word names, in any case. -/
def ChordModifier.ofWord? (word : String) : Option ChordModifier :=
  match Text.foldWord word with
  | "ctrl" | "control" => some .control
  | "alt" | "option" => some .alt
  | "shift" => some .shift
  | "meta" | "cmd" | "super" => some .metaKey
  | _ => none

/-- The key that a word names: a named key in any case, or a single character, which keeps its
case so that `n` and `N` stay apart. -/
def Key.ofWord? (word : String) : Option Key :=
  match Text.foldWord word with
  | "esc" | "escape" => some .escape
  | "enter" | "return" | "cr" => some .enter
  | "tab" => some .tab
  | "backspace" | "bs" => some .backspace
  | "space" | "spacebar" => some (.char ' ')
  | "up" => some .up
  | "down" => some .down
  | "left" => some .left
  | "right" => some .right
  | _ =>
    match word.toList with
    | [c] => some (.char c)
    | _ => none

/-- Whether a key is a character. -/
def Key.isChar : Key → Bool
  | .char _ => true
  | _ => false

namespace Chord

/-- A key by itself. -/
def plain (key : Key) : Chord := { key }

/-! ## Reading a chord -/

/-- The parts of a written chord: what stands between its plus signs, trimmed, and without the
empty pieces. -/
def parts (s : String) : List String :=
  ((Text.Chars.splitAll '+' (Text.trim s).toList).map fun p => .ofList (Text.Chars.trim p)).filter
    (!·.isEmpty)

/-- Reads a chord.  A plus sign alone is a key and separates nothing. -/
def parse? (s : String) : Option Chord :=
  if Text.trim s = "+" then some (plain (.char '+'))
  else
    let modifiers := (parts s).filterMap ChordModifier.ofWord?
    match (parts s).filter fun part => (ChordModifier.ofWord? part).isNone with
    | [part] => (Key.ofWord? part).map fun key =>
      { key
        control := modifiers.contains .control
        alt := modifiers.contains .alt
        shift := modifiers.contains .shift
        metaKey := modifiers.contains .metaKey }
    | _ => none

/-! ## Matching key presses -/

/-- Whether a press is one that the chord stands for.  The modifiers have to be the same, super
and meta being one; but a character already carries its shift, so a chord of a character without
shift takes it either way. -/
def accepts (chord : Chord) (press : KeyPress) : Bool :=
  let m := press.modifiers
  press.key == chord.key && m.control == chord.control && m.alt == chord.alt &&
    (m.super || m.metaKey) == chord.metaKey &&
    (m.shift == chord.shift || (chord.key.isChar && !chord.shift))

/-- The press of the chord's key with the chord's modifiers. -/
def press (chord : Chord) : KeyPress where
  key := chord.key
  modifiers :=
    { control := chord.control, alt := chord.alt, shift := chord.shift, super := chord.metaKey }

/-- A chord stands for its own press. -/
@[simp] theorem accepts_press (chord : Chord) : chord.accepts chord.press = true := by
  simp [accepts, press]

end Chord
end Jukebox
