/-!
# Decimal numerals

Ports and time-outs are read from decimal text: an optional plus sign and at least one digit,
leading zeros allowed, nothing else.  A reader for a bounded type refuses a value out of range
rather than wrapping it.
-/

set_option autoImplicit false

namespace Jukebox
namespace Text

namespace Chars

/-- The value of a run of decimal digits; `none` if it is empty or holds anything else. -/
def digits? (cs : List Char) : Option Nat :=
  if cs ≠ [] ∧ cs.all Char.isDigit then some (Nat.ofDigitChars 10 cs 0) else none

/-- The value of digits with an optional plus sign before them. -/
def natural? : List Char → Option Nat
  | '+' :: cs => digits? cs
  | cs => digits? cs

/-- The value of digits with an optional sign before them. -/
def integer? : List Char → Option Int
  | '-' :: cs => (digits? cs).map fun n => -(n : Int)
  | cs => (natural? cs).map Int.ofNat

end Chars

/-- A numeral for a number below `2 ^ 16`. -/
def uint16? (s : String) : Option UInt16 :=
  (Chars.natural? s.toList).bind fun n => if n < UInt16.size then some (.ofNat n) else none

/-- A numeral for a number below `2 ^ 64`. -/
def uint64? (s : String) : Option UInt64 :=
  (Chars.natural? s.toList).bind fun n => if n < UInt64.size then some (.ofNat n) else none

/-- What is printed for a natural number is read as that number. -/
theorem natural?_toDigits (n : Nat) : Chars.natural? (Nat.toDigits 10 n) = some n := by
  have hd : ∀ c ∈ Nat.toDigits 10 n, c.isDigit = true :=
    fun c hc => Nat.isDigit_of_mem_toDigits (by decide) (by decide) hc
  have hne : Nat.toDigits 10 n ≠ [] := Nat.toDigits_ne_nil
  have hdig : Chars.digits? (Nat.toDigits 10 n) = some n := by
    rw [Chars.digits?, if_pos ⟨hne, List.all_eq_true.2 hd⟩, Nat.ofDigitChars_ten_toDigits]
  unfold Chars.natural?
  split
  · next cs h => exact absurd (hd '+' (by rw [h]; simp)) (by decide)
  · exact hdig

end Text
end Jukebox
