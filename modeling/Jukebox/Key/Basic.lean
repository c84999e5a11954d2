/-!
# Keys and key presses

A key press is a key together with the modifiers held down.  Some presses type a character: the
ones a line of input is built from.

* `Key`, `Modifiers` and `KeyPress` are what the terminal reports.
* `KeyPress.typed?` is the character a press types, if it types one.
-/

set_option autoImplicit false

namespace Jukebox

/-- A key of the keyboard.  `Key.null` is no key at all; the press that begins a session has it. -/
inductive Key where
  | char (c : Char)
  | enter | escape | tab | backTab | backspace
  | up | down | left | right | home | lineEnd | delete | insert | pageUp | pageDown
  | function (n : Nat)
  | null
  deriving DecidableEq, Repr, Inhabited

/-- The modifiers held down. -/
structure Modifiers where
  control : Bool := false
  alt : Bool := false
  shift : Bool := false
  super : Bool := false
  metaKey : Bool := false
  hyper : Bool := false
  deriving DecidableEq, Repr, Inhabited

/-- A key with the modifiers held down while it is pressed. -/
structure KeyPress where
  key : Key
  modifiers : Modifiers := {}
  deriving DecidableEq, Repr, Inhabited

namespace KeyPress

/-- A key by itself. -/
def plain (key : Key) : KeyPress := { key }

/-- Whether a character is a control (general category `Cc`). -/
def isControl (c : Char) : Bool := c.toNat < 0x20 || (0x7F ≤ c.toNat && c.toNat ≤ 0x9F)

/-- The character that a press types: a control is never typed, and neither is anything while
control, alt or super is held.  Shift has already shaped the character. -/
def typed? (press : KeyPress) : Option Char :=
  match press.key with
  | .char c =>
    let m := press.modifiers
    if m.control || m.alt || m.super || isControl c then none else some c
  | _ => none

end KeyPress
end Jukebox
