import Jukebox.Text.Property

/-!
# Quoted text

A name inside a diagnostic is written between double quotes, so that every character in it can be
seen: quotes and backslashes are escaped, the common controls have a letter, and a character that
would not show on its own is written by its code point.
-/

set_option autoImplicit false

namespace Jukebox
namespace Text
namespace Quoted

/-- A lower-case hexadecimal escape, such as `\u{200b}`. -/
def codePoint (c : Char) : List Char :=
  "\\u\x7b".toList ++ Nat.toDigits 16 c.toNat ++ ['\x7d']

/-- Whether a character cannot be read off the page by itself: it goes with the one before it, is
not drawn, or is no printed character.  The halfwidth sound marks have a place of their own,
although they go with what is before them. -/
def isHidden (c : Char) : Bool :=
  (Property.graphemeExtend.contains c && c ≠ '\uFF9E' && c ≠ '\uFF9F') ||
    Property.ignorable.contains c || Property.unprintable.contains c

/-- The written form of one character. -/
def escape (c : Char) : List Char :=
  if c = '\x00' then ['\\', '0']
  else if c = '\t' then ['\\', 't']
  else if c = '\r' then ['\\', 'r']
  else if c = '\n' then ['\\', 'n']
  else if c = '"' then ['\\', '"']
  else if c = '\\' then ['\\', '\\']
  else if ' ' ≤ c ∧ c < '\x7f' then [c]
  else if isHidden c then codePoint c
  else [c]

end Quoted

/-- The text between double quotes, with every character in it visible. -/
def quoted (s : String) : String :=
  .ofList ('"' :: s.toList.flatMap Quoted.escape ++ ['"'])

example : quoted "q\"\\\n" = "\"q\\\"\\\\\\n\"" := by decide +kernel

end Text
end Jukebox
