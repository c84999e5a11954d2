import Jukebox.Text.Grapheme

/-!
# Columns

How many columns of a terminal a cluster takes.  A character has a width of its own: none for
marks and ignorable code points, two for the wide scripts and for pictures, one for nearly
everything else, controls included.  A cluster is as wide as its characters together, except where
some of them are drawn as one: a line ending, a picture with its selector or its skin tone,
pictures and flags behind one another with joiners between them, or a Khmer letter that is put
below the one before it.

What is drawn as one is known from the end, so a cluster is read from its last character to its
first.

* `charWidth` is the width of a single character.
* `Sequel` is what the characters read so far say about the one before them.
* `Reading.before` reads one more character.
* `Chars.clusterWidth` is the width of a cluster; `clusterWidth_singleton` says that a character
  on its own has its own width.
-/

set_option autoImplicit false

namespace Jukebox
namespace Text

/-- The columns of a character that stands alone. -/
def charWidth (c : Char) : Nat :=
  if c.toNat ≤ 0xA0 then 1
  else if c = '\u17D8' then 3
  else if Property.zeroWidth.contains c then 0
  else if Property.wide.contains c then 2
  else 1

/-! ## Sequences -/

/-- The joiner of pictures. -/
def joiner : Char := '\u200D'

/-- The selector that asks for the picture of the character before it. -/
def pictureSelector : Char := '\uFE0F'

/-- The selector that asks for the text form of the character before it. -/
def textSelector : Char := '\uFE0E'

/-- What the end of a cluster says about the character before it. -/
inductive Sequel where
  /-- Nothing. -/
  | plain
  /-- It begins with a line feed. -/
  | lineFeed
  /-- It begins with the selector of the picture form, and perhaps goes on with a joined picture. -/
  | pictureSelector (joined : Bool)
  /-- It begins with the selector of the text form. -/
  | textSelector
  /-- It begins with a skin tone. -/
  | skinTone
  /-- It begins with a picture. -/
  | picture
  /-- It begins with a joiner and a picture. -/
  | joined
  /-- It begins with a keycap before a joiner and a picture. -/
  | keycap
  /-- It begins with the second letter of a flag before a joiner and a picture. -/
  | flagLetter
  /-- It begins with the tags of a flag before a joiner and a picture.  So many letters have been
  read, and so many digits before them. -/
  | tags (letters digits : Nat)
  /-- It begins with a Khmer letter that the sign before it puts below another one. -/
  | khmerLetter
  deriving DecidableEq, Repr

/-- Whether a Khmer letter has a form that is drawn below the letter before it. -/
def hasSubscriptForm (c : Char) : Bool :=
  [(0x1780, 0x1782), (0x1784, 0x1787), (0x1789, 0x178C), (0x178E, 0x1793), (0x1795, 0x1798),
    (0x179B, 0x179D), (0x17A0, 0x17A0), (0x17A2, 0x17A2), (0x17A7, 0x17A7), (0x17AB, 0x17AC),
    (0x17AF, 0x17AF)].any fun (first, last) => first ≤ c.toNat && c.toNat ≤ last

/-- Whether a character may stand between a Khmer letter and the sign that puts it below: the
joiner and the marks that are ignored. -/
def isTransparent (c : Char) : Bool :=
  [(0x034F, 0x034F), (0x17B4, 0x17B5), (0x180B, 0x180D), (0x180F, 0x180F), (0x200D, 0x200D),
    (0xFE00, 0xFE0F), (0xE0100, 0xE01EF)].any fun (first, last) => first ≤ c.toNat && c.toNat ≤ last

/-- Whether the selector of the text form makes a picture narrow.  The squared ideographs stay as
wide as they are. -/
def isNarrowAsText (c : Char) : Bool :=
  Property.selectable.contains c && Property.emojiPresentation.contains c &&
    !(0x1F200 ≤ c.toNat && c.toNat ≤ 0x1F2FF)

namespace Sequel

/-- What a character says when nothing behind it belongs to it. -/
def of (c : Char) : Sequel :=
  if c = '\n' then .lineFeed
  else if c = Text.pictureSelector then .pictureSelector false
  else if c = Text.textSelector then .textSelector
  else if Grapheme.isModifier c then .skinTone
  else if Property.emojiPresentation.contains c then .picture
  else if hasSubscriptForm c then .khmerLetter
  else .plain

/-- What one more character says before the tags of a flag.  A flag is named by three to six
letters, or by three digits with up to four letters behind them. -/
def beforeTags (letters digits : Nat) (c : Char) : Option Sequel :=
  if 0xE0061 ≤ c.toNat ∧ c.toNat ≤ 0xE007A ∧ digits = 0 ∧ letters < 6 then
    some (.tags (letters + 1) 0)
  else if 0xE0030 ≤ c.toNat ∧ c.toNat ≤ 0xE0039 ∧ letters ≤ 4 ∧ digits < 3 then
    some (.tags letters (digits + 1))
  else if c.toNat = 0x1F3F4 ∧ (digits = 3 ∨ (digits = 0 ∧ 3 ≤ letters)) then some .picture
  else none

end Sequel

/-! ## Reading a cluster from its end -/

/-- What has been read of a cluster: the columns it takes and what it says about the character
before it. -/
structure Reading where
  columns : Nat := 0
  sequel : Sequel := .plain
  deriving DecidableEq, Repr

namespace Reading

/-- A character that belongs to what is behind it, if it does. -/
def joining? (r : Reading) (c : Char) : Option Reading :=
  match r.sequel with
  | .plain => none
  | .lineFeed => if c = '\r' then some { r with sequel := .plain } else none
  | .pictureSelector joined =>
    if Property.selectable.contains c then
      some { columns := r.columns + (if joined then 0 else 2), sequel := .picture }
    else none
  | .textSelector =>
    if isNarrowAsText c then some { columns := r.columns + 1, sequel := .plain } else none
  | .skinTone =>
    if c = joiner then some { r with sequel := .joined }
    else if Property.modifierBase.contains c then some { r with sequel := .picture }
    else none
  | .picture => if c = joiner then some { r with sequel := .joined } else none
  | .joined =>
    if c = pictureSelector then some { r with sequel := .pictureSelector true }
    else if c = '\u20E3' then some { r with sequel := .keycap }
    else if Grapheme.isRegional c then
      some { columns := r.columns + 1, sequel := .flagLetter }
    else if Grapheme.isModifier c then some { r with sequel := .skinTone }
    else if c.toNat = 0xE007F then some { r with sequel := .tags 0 0 }
    else if Property.emojiPresentation.contains c then some { r with sequel := .picture }
    else none
  | .keycap =>
    if c = pictureSelector then some { r with sequel := .pictureSelector true } else none
  | .flagLetter =>
    if Grapheme.isRegional c then some { columns := r.columns - 1, sequel := .plain } else none
  | .tags letters digits =>
    (Sequel.beforeTags letters digits c).map fun sequel => { r with sequel }
  | .khmerLetter =>
    if c = '\u17D2' then some { columns := r.columns - 1, sequel := .plain }
    else if isTransparent c then some r
    else none

/-- The reading with one more character before what has been read. -/
def before (r : Reading) (c : Char) : Reading :=
  (r.joining? c).getD { columns := r.columns + charWidth c, sequel := .of c }

end Reading

namespace Chars

/-- The columns of one grapheme cluster. -/
def clusterWidth (cs : List Char) : Nat :=
  (cs.foldr (fun c (r : Reading) => r.before c) {}).columns

/-- A character on its own has its own width. -/
theorem clusterWidth_singleton (c : Char) : clusterWidth [c] = charWidth c :=
  Nat.zero_add _

end Chars

example : (Chars.clusters "日\r\n\t".toList).map Chars.clusterWidth = [2, 1, 1] := by
  decide +kernel

end Text
end Jukebox
