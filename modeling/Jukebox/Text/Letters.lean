/-!
# Letter case

Searching ignores the case of ASCII letters only, so that folding never moves a byte.  The words
of key chords are compared in lower case; `foldWord` lower-cases what can turn into an ASCII
letter, which is all that a comparison with an ASCII word can see.
-/

set_option autoImplicit false

namespace Jukebox
namespace Text

/-- The text with `A` to `Z` in lower case and everything else as it is. -/
def lowerAscii (s : String) : String := .ofList (s.toList.map Char.toLower)

/-- The lower-case form of a character, as far as it is an ASCII letter.  Besides `A` to `Z` only
the Kelvin sign has an ASCII letter for its whole lower-case form. -/
def foldLetter (c : Char) : Char := if c = '\u212A' then 'k' else c.toLower

/-- A word in lower case, for comparison with ASCII words. -/
def foldWord (s : String) : String := .ofList (s.toList.map foldLetter)

/-- Lower-casing moves a capital letter of ASCII by 32, and nothing else. -/
theorem toLower_cases (c : Char) :
    (65 ≤ c.toNat ∧ c.toNat ≤ 90 ∧ c.toLower.toNat = c.toNat + 32) ∨ c.toLower = c := by
  unfold Char.toLower
  split
  · next h =>
    have lower : 65 ≤ c.toNat := UInt32.le_iff_toNat_le.1 h.1
    have upper : c.toNat ≤ 90 := UInt32.le_iff_toNat_le.1 h.2
    refine .inl ⟨lower, upper, ?_⟩
    show (c.val + ('a'.val - 'A'.val)).toNat = c.val.toNat + 32
    rw [UInt32.toNat_add, show ('a'.val - 'A'.val : UInt32).toNat = 32 by decide]
    exact Nat.mod_eq_of_lt (Nat.lt_of_le_of_lt (Nat.add_le_add_right upper 32) (by decide))
  · exact .inr rfl

/-- Lower-casing moves no byte: a letter and its lower-case form both take one. -/
theorem utf8Size_toLower (c : Char) : c.toLower.utf8Size = c.utf8Size := by
  have single {d : Char} (h : d.toNat ≤ 127) : d.utf8Size = 1 :=
    Char.utf8Size_eq_one_iff.2 (UInt32.le_iff_toNat_le.2 h)
  rcases toLower_cases c with ⟨-, upper, code⟩ | same
  · rw [single (by omega), single (by omega)]
  · rw [same]

end Text
end Jukebox
