/-!
# Reading UTF-8

Files are read strictly: one byte out of place and there is no text.  What a program prints is
read leniently: each longest piece that could have begun a character but does not complete one
becomes a single replacement character, and reading goes on behind it.

* `Utf8.decode?` is the strict reader.
* `Utf8.decodeLossy` is the lenient one.
-/

set_option autoImplicit false

namespace Jukebox
namespace Text
namespace Utf8

/-- The text of a sequence of bytes, if it is valid UTF-8. -/
def decode? (bytes : ByteArray) : Option String := String.fromUTF8? bytes

/-- What stands for a piece that is no character. -/
def replacement : Char := '\uFFFD'

/-- What may follow a leading byte: the payload of that byte and, for each byte to come, the range
it has to lie in.  The narrower ranges shut out overlong forms, surrogates and what lies above the
last code point. -/
def lead? (b : Nat) : Option (Nat × List (Nat × Nat)) :=
  let any := (0x80, 0xBF)
  if b < 0x80 then some (b, [])
  else if 0xC2 ≤ b ∧ b ≤ 0xDF then some (b % 32, [any])
  else if b = 0xE0 then some (b % 16, [(0xA0, 0xBF), any])
  else if b = 0xED then some (b % 16, [(0x80, 0x9F), any])
  else if 0xE1 ≤ b ∧ b ≤ 0xEF then some (b % 16, [any, any])
  else if b = 0xF0 then some (b % 8, [(0x90, 0xBF), any, any])
  else if 0xF1 ≤ b ∧ b ≤ 0xF3 then some (b % 8, [any, any, any])
  else if b = 0xF4 then some (b % 8, [(0x80, 0x8F), any, any])
  else none

/-- Reads the bytes that the ranges ask for, as far as they fit; the code point is there only if
all of them do. -/
def follow (value : Nat) : List (Nat × Nat) → List UInt8 → Option Nat × List UInt8
  | [], bytes => (some value, bytes)
  | _ :: _, [] => (none, [])
  | (lo, hi) :: ranges, b :: bytes =>
    if lo ≤ b.toNat ∧ b.toNat ≤ hi then follow (value * 64 + b.toNat % 64) ranges bytes
    else (none, b :: bytes)

theorem length_follow_le (value : Nat) (ranges : List (Nat × Nat)) (bytes : List UInt8) :
    (follow value ranges bytes).2.length ≤ bytes.length := by
  induction ranges generalizing value bytes with
  | nil => simp [follow]
  | cons r ranges ih =>
    cases bytes with
    | nil => simp [follow]
    | cons b bytes =>
      rw [follow]
      split
      · exact Nat.le_succ_of_le (ih _ _)
      · exact Nat.le_refl _

/-- The text of a sequence of bytes, with a replacement character for each piece that is none. -/
def decodeLossy : List UInt8 → List Char
  | [] => []
  | b :: bytes =>
    match lead? b.toNat with
    | none => replacement :: decodeLossy bytes
    | some (value, ranges) =>
      ((follow value ranges bytes).1.elim replacement Char.ofNat) ::
        decodeLossy (follow value ranges bytes).2
termination_by bytes => bytes.length
decreasing_by
  · simp
  · exact Nat.lt_succ_of_le (length_follow_le value ranges bytes)

end Utf8
end Text
end Jukebox
