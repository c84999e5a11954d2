import Jukebox.Text.Letters

/-!
# Occurrences of a text in a line

Searching the queue and highlighting the output ask the same question: where does a query occur
in a line?  The answer is a list of byte ranges in the UTF-8 encoding of the line, found from the
left, each search going on behind the occurrence before it.

* `ByteRange` is a half-open range of byte offsets.
* `Chars.occurrences` walks along a text and reports the ranges.
* `matchRanges` is the search on strings, with or without regard to the case of ASCII letters.
* `slice` is the part of a string that lies in a range.
-/

set_option autoImplicit false

namespace Jukebox
namespace Text

/-- The bytes from `start` up to, but not including, `stop`. -/
structure ByteRange where
  start : Nat
  stop : Nat
  deriving DecidableEq, Repr

namespace Chars

/-- The length of a text in UTF-8. -/
def byteLength : List Char → Nat
  | [] => 0
  | c :: cs => c.utf8Size + byteLength cs

@[simp] theorem byteLength_nil : byteLength [] = 0 := rfl

@[simp] theorem byteLength_cons (c : Char) (cs : List Char) :
    byteLength (c :: cs) = c.utf8Size + byteLength cs := rfl

@[simp] theorem byteLength_append (cs ds : List Char) :
    byteLength (cs ++ ds) = byteLength cs + byteLength ds := by
  induction cs with
  | nil => simp
  | cons c cs ih => simp [ih, Nat.add_assoc]

/-- Lower-casing keeps every offset. -/
theorem byteLength_map_toLower (cs : List Char) :
    byteLength (cs.map Char.toLower) = byteLength cs := by
  induction cs with
  | nil => rfl
  | cons c cs ih => simp [utf8Size_toLower, ih]

/-- The leftmost non-overlapping occurrences of `needle`, which is not empty, in a text that
begins at byte `offset`. -/
def occurrences (needle : List Char) (offset : Nat) : List Char → List ByteRange
  | [] => []
  | c :: cs =>
    if needle.isPrefixOf (c :: cs) then
      let stop := offset + byteLength needle
      ⟨offset, stop⟩ :: occurrences needle stop (cs.drop (needle.length - 1))
    else occurrences needle (offset + c.utf8Size) cs
termination_by cs => cs.length
decreasing_by
  · simp only [List.length_drop, List.length_cons]; omega
  · simp

/-- The characters of a text beginning at byte `offset` that begin inside the range. -/
def sliceFrom (offset : Nat) (r : ByteRange) : List Char → List Char
  | [] => []
  | c :: cs =>
    let rest := sliceFrom (offset + c.utf8Size) r cs
    if r.start ≤ offset ∧ offset < r.stop then c :: rest else rest

end Chars

/-- The occurrences of `query` in `line`; an empty query occurs nowhere. -/
def matchRanges (line query : String) (ignoreCase : Bool) : List ByteRange :=
  let fold := if ignoreCase then lowerAscii else id
  if query.isEmpty then [] else Chars.occurrences (fold query).toList 0 (fold line).toList

/-- The part of a string that lies in a range of its bytes. -/
def slice (s : String) (r : ByteRange) : String := .ofList (Chars.sliceFrom 0 r s.toList)

end Text
end Jukebox
