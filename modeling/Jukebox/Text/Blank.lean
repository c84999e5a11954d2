/-!
# Blank characters

Command lines, startup files and settings are all cut up at *blank* characters, the code points
with the Unicode property `White_Space`.  Everything is said on lists of characters first, where
it can be reasoned about; the functions on `String` are the same ones behind `String.toList`.

* `isBlank` is the property.
* `Chars.trimStart`, `Chars.trimEnd` and `Chars.trim` remove blanks at the ends.
* `Chars.splitAtBlank?` cuts a text at its first blank, which it drops.
* `Chars.words` lists the maximal runs without blanks.
-/

set_option autoImplicit false

namespace Jukebox
namespace Text

/-- The code points with the property `White_Space`.  The separators `U+001C` to `U+001F`, the
zero-width space and the byte order mark do not have it. -/
def isBlank (c : Char) : Bool :=
  let n := c.toNat
  (9 ≤ n && n ≤ 13) || n == 0x20 || n == 0x85 || n == 0xA0 || n == 0x1680 ||
    (0x2000 ≤ n && n ≤ 0x200A) || n == 0x2028 || n == 0x2029 || n == 0x202F ||
    n == 0x205F || n == 0x3000

/-- No printable character of ASCII but the space is a blank. -/
theorem isBlank_of_printable {c : Char} (lower : 0x21 ≤ c.toNat) (upper : c.toNat ≤ 0x7E) :
    isBlank c = false := by
  simp only [isBlank, Bool.or_eq_false_iff, Bool.and_eq_false_iff, decide_eq_false_iff_not,
    beq_eq_false_iff_ne]
  omega

namespace Chars

/-! ## Trimming -/

/-- The text from its first character that is not blank. -/
def trimStart (cs : List Char) : List Char := cs.dropWhile isBlank

/-- The text up to its last character that is not blank. -/
def trimEnd (cs : List Char) : List Char := (cs.reverse.dropWhile isBlank).reverse

/-- The text without the blanks at its two ends. -/
def trim (cs : List Char) : List Char := trimEnd (trimStart cs)

/-! ## Cutting -/

/-- What stands before and after the first blank, or `none` in a text without one. -/
def splitAtBlank? (cs : List Char) : Option (List Char × List Char) :=
  match cs.dropWhile (!isBlank ·) with
  | [] => none
  | _ :: rest => some (cs.takeWhile (!isBlank ·), rest)

/-- `c` put in front of the first piece. -/
def consHead (c : Char) : List (List Char) → List (List Char)
  | [] => [[c]]
  | piece :: pieces => (c :: piece) :: pieces

/-- The maximal runs of characters that are not blank. -/
def words : List Char → List (List Char)
  | [] => []
  | c :: cs =>
    if isBlank c then words cs
    else if cs.head?.any isBlank then [c] :: words cs
    else consHead c (words cs)

/-- The pieces between the occurrences of `sep`: one more than there are occurrences. -/
def splitAll (sep : Char) : List Char → List (List Char)
  | [] => [[]]
  | c :: cs => if c = sep then [] :: splitAll sep cs else consHead c (splitAll sep cs)

/-- What stands before and after the first `sep`, or `none` in a text without one. -/
def splitAt? (sep : Char) : List Char → Option (List Char × List Char)
  | [] => none
  | c :: cs =>
    if c = sep then some ([], cs)
    else (splitAt? sep cs).map fun p => (c :: p.1, p.2)

end Chars

/-! ## The same on strings -/

/-- The text up to its last character that is not blank. -/
def trimEnd (s : String) : String := .ofList (Chars.trimEnd s.toList)

/-- The text without the blanks at its two ends. -/
def trim (s : String) : String := .ofList (Chars.trim s.toList)

/-- A text of blanks only, the empty one included. -/
def isAllBlank (s : String) : Bool := s.toList.all isBlank

/-- The maximal runs of characters that are not blank. -/
def words (s : String) : List String := (Chars.words s.toList).map .ofList

@[simp] theorem toList_trim (s : String) : (trim s).toList = Chars.trim s.toList := by
  simp [trim]

@[simp] theorem toList_trimEnd (s : String) : (trimEnd s).toList = Chars.trimEnd s.toList := by
  simp [trimEnd]

end Text
end Jukebox
