import Jukebox.Command.Operation
import Mathlib.Algebra.Ring.Nat
import Mathlib.Tactic.SplitIfs
import Mathlib.Data.List.Lex

/-!
# The order of bytes

Texts are ordered by their characters, the first ones first.  That is the order of the bytes that
they are encoded in: the first byte of a character grows with the number of bytes that follow it,
and where as many follow, the bytes are the digits of the character to the base 64.

* `Text.bytes` are the bytes of a text.
* `Text.follows` is how many bytes follow the first one of a character, `Text.lead` is the first one
  and `Text.digits` the others; `Text.encode_eq` says that they are all.
* `Text.bytes_lt` is the outcome, and `Catalogue.names_sorted` says what it means for a catalogue.
-/

set_option autoImplicit false

namespace Jukebox
namespace Text

/-- The bytes of a text. -/
def bytes (s : String) : List UInt8 := s.toByteArray.data.toList

theorem bytes_ofList (cs : List Char) : bytes (.ofList cs) = cs.flatMap String.utf8EncodeChar := by
  rw [bytes, String.toByteArray_ofList, List.utf8Encode, List.toList_data_toByteArray]

/-! ## One character -/

/-- How many bytes follow the first one of a code point. -/
def follows (v : Nat) : Nat :=
  if v ≤ 0x7F then 0 else if v ≤ 0x7FF then 1 else if v ≤ 0xFFFF then 2 else 3

/-- The first byte of a code point: its first digits, with a mark that tells how many bytes
follow. -/
def lead (v : Nat) : Nat :=
  if v ≤ 0x7F then v
  else if v ≤ 0x7FF then v / 64 + 0xC0
  else if v ≤ 0xFFFF then v / 64 ^ 2 + 0xE0
  else v / 64 ^ 3 + 0xF0

/-- The last digits of a number to the base 64, as bytes. -/
def digits : Nat → Nat → List UInt8
  | 0, _ => []
  | k + 1, v => .ofNat (v / 64 ^ k % 64 + 0x80) :: digits k v

theorem toNat_lt (c : Char) : c.toNat < 0x110000 := by
  rcases c.valid with h | ⟨-, h⟩
  · exact Nat.lt_trans h (by decide)
  · exact h

theorem encode_eq (c : Char) :
    String.utf8EncodeChar c = .ofNat (lead c.toNat) :: digits (follows c.toNat) c.toNat := by
  have bound : c.val.toNat < 0x110000 := toNat_lt c
  rw [String.utf8EncodeChar, lead, follows, Char.toNat]
  generalize c.val.toNat = v at bound
  split_ifs
  · rfl
  · rw [Nat.mod_eq_of_lt (by omega : v / 64 < 32)]
    simp only [digits, Nat.pow_zero, Nat.div_one]
  · rw [Nat.mod_eq_of_lt (by omega : v / 4096 < 16)]
    simp only [digits, Nat.pow_zero, Nat.div_one, Nat.pow_one, Nat.reducePow]
  · rw [Nat.mod_eq_of_lt (by omega : v / 262144 < 8)]
    simp only [digits, Nat.pow_zero, Nat.div_one, Nat.pow_one, Nat.reducePow]

/-- The first byte of a code point does not grow smaller with it, and it stays the same only if as
many bytes follow and the first digits are the same. -/
theorem lead_lt_or_eq {v w : Nat} (h : v < w) :
    lead v < lead w ∨
      lead v = lead w ∧ follows v = follows w ∧ v / 64 ^ follows v = w / 64 ^ follows w := by
  rw [lead, lead, follows, follows]
  split_ifs <;> omega

theorem lead_lt {v : Nat} (h : v < 0x110000) : lead v < 256 := by
  rw [lead]
  split_ifs <;> omega

theorem ofNat_lt_ofNat {m n : Nat} (h : m < n) (hn : n < 256) :
    UInt8.ofNat m < UInt8.ofNat n :=
  (UInt8.ofNat_lt_iff_lt (Nat.lt_trans h hn) hn).2 h

/-- Of two numbers that agree before their last digits, the smaller one has the smaller digits. -/
theorem digits_lt {v w : Nat} (h : v < w) (k : Nat) (same : v / 64 ^ k = w / 64 ^ k)
    (l l' : List UInt8) : digits k v ++ l < digits k w ++ l' := by
  induction k with
  | zero =>
    rw [Nat.pow_zero, Nat.div_one, Nat.div_one] at same
    exact absurd same (Nat.ne_of_lt h)
  | succ k ih =>
    rw [digits, digits, List.cons_append, List.cons_append, List.cons_lt_cons_iff]
    rw [Nat.pow_succ, ← Nat.div_div_eq_div_mul, ← Nat.div_div_eq_div_mul] at same
    have le : v / 64 ^ k ≤ w / 64 ^ k := Nat.div_le_div_right (Nat.le_of_lt h)
    rcases Nat.lt_or_eq_of_le le with lt | eq
    · exact .inl (ofNat_lt_ofNat (by omega) (by omega))
    · rw [eq]
      exact .inr ⟨rfl, ih eq⟩

/-- The encoding of a smaller character comes first, whatever follows. -/
theorem encode_lt {c d : Char} (h : c < d) (l l' : List UInt8) :
    String.utf8EncodeChar c ++ l < String.utf8EncodeChar d ++ l' := by
  have hv : c.toNat < d.toNat := h
  rw [encode_eq, encode_eq, List.cons_append, List.cons_append, List.cons_lt_cons_iff]
  rcases lead_lt_or_eq hv with lt | ⟨eq, same, first⟩
  · exact .inl (ofNat_lt_ofNat lt (lead_lt (toNat_lt d)))
  · rw [eq, same]
    rw [same] at first
    exact .inr ⟨rfl, digits_lt hv _ first l l'⟩

/-! ## Texts -/

/-- **The order of texts is the order of their bytes.** -/
theorem bytes_lt {s t : String} (h : s < t) : bytes s < bytes t := by
  rw [String.lt_iff] at h
  rw [← String.ofList_toList (s := s), ← String.ofList_toList (s := t), bytes_ofList, bytes_ofList]
  generalize s.toList = cs at h ⊢
  generalize t.toList = ds at h ⊢
  induction h with
  | nil =>
    rw [List.flatMap_cons, encode_eq]
    exact .nil
  | rel h =>
    rw [List.flatMap_cons, List.flatMap_cons]
    exact encode_lt h _ _
  | cons _ ih =>
    rw [List.flatMap_cons, List.flatMap_cons]
    exact List.Lex.append_left _ ih _

end Text

/-! ## Catalogues -/

namespace Catalogue

variable {σ : Type} {c : Catalogue σ}

/-- The names of a catalogue come in the order of their bytes, each of them once. -/
theorem names_sorted (c : Catalogue σ) :
    c.names.Pairwise fun name name' ↦ Text.bytes name < Text.bytes name' := by
  refine c.table.ordered_keys.imp fun h ↦ Text.bytes_lt ?_
  exact compareOfLessAndEq_eq_lt.mp h

theorem mem_names {name : String} : name ∈ c.names ↔ (c.get? name).isSome = true := by
  rw [names, Std.TreeMap.mem_keys, get?]
  exact Std.TreeMap.mem_iff_isSome_getElem?

end Catalogue
end Jukebox
