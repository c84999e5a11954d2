import Jukebox.Text.Blank
import Jukebox.Text.Numeral

/-!
# Words

Arguments are cut up into words, so what is put together with blanks in between is taken apart again
only if the pieces were words.  A numeral is a word.

* `Text.IsWord` says what a word is, and `Text.words_eq_singleton_iff` that those are the texts that
  are found whole.
* `Text.words_append_space` and `Text.words_intercalate` are about texts that are put together.
* `Text.isWord_numeral`, `Text.uint16?_numeral` and `Text.uint64?_numeral` are about the numerals of
  ports and time-outs.
-/

set_option autoImplicit false

namespace Jukebox
namespace Text

/-- A text that is not empty and has no blank in it. -/
def IsWord (s : String) : Prop := s ≠ "" ∧ ∀ c ∈ s.toList, isBlank c = false

instance (s : String) : Decidable (IsWord s) :=
  decidable_of_iff (s ≠ "" ∧ s.toList.all (!isBlank ·) = true) (by simp [IsWord])

namespace Chars

variable {b c : Char} {cs ds w : List Char}

/-! ## Taking a text apart -/

theorem words_ne_nil (hc : isBlank c = false) : words (c :: cs) ≠ [] := by
  rw [words, hc]
  split
  · contradiction
  · split
    · exact List.cons_ne_nil _ _
    · cases words cs <;> exact List.cons_ne_nil _ _

theorem consHead_append {l l' : List (List Char)} (h : l ≠ []) :
    consHead c (l ++ l') = consHead c l ++ l' := by
  cases l with
  | nil => exact absurd rfl h
  | cons w l => rfl

/-- No word goes over a blank. -/
theorem words_append (hb : isBlank b = true) : words (cs ++ b :: ds) = words cs ++ words ds := by
  induction cs with
  | nil => exact if_pos hb
  | cons c cs ih =>
    rw [List.cons_append, words, words, ih]
    cases hc : isBlank c with
    | true => rfl
    | false =>
      cases cs with
      | nil =>
        show (if isBlank b then [c] :: ([] ++ words ds) else _) = _
        rw [if_pos hb]
        rfl
      | cons d cs =>
        show (if isBlank d then _ else _) = (if isBlank d then _ else _) ++ _
        cases hd : isBlank d with
        | true => rfl
        | false => exact consHead_append (words_ne_nil hd)

/-- A text without blanks is one word. -/
theorem words_of_forall (hne : cs ≠ []) (h : ∀ c ∈ cs, isBlank c = false) : words cs = [cs] := by
  induction cs with
  | nil => exact absurd rfl hne
  | cons c cs ih =>
    rw [words, h c List.mem_cons_self]
    cases cs with
    | nil => rfl
    | cons d cs =>
      have hd := h d (List.mem_cons_of_mem _ List.mem_cons_self)
      rw [ih (List.cons_ne_nil _ _) fun c hc ↦ h c (List.mem_cons_of_mem _ hc)]
      show (if isBlank d then _ else _) = _
      rw [hd]
      rfl

/-- What is found is without blanks. -/
theorem of_mem_words (hw : w ∈ words cs) : w ≠ [] ∧ ∀ c ∈ w, isBlank c = false := by
  induction cs generalizing w with
  | nil => cases hw
  | cons c cs ih =>
    have single (hc : isBlank c = false) : [c] ≠ [] ∧ ∀ d ∈ [c], isBlank d = false :=
      ⟨List.cons_ne_nil _ _, fun d hd ↦ List.mem_singleton.1 hd ▸ hc⟩
    rw [words] at hw
    split at hw
    · exact ih hw
    · rename_i hc
      rw [Bool.not_eq_true] at hc
      split at hw
      · rcases List.mem_cons.1 hw with rfl | hw
        · exact single hc
        · exact ih hw
      · cases hcs : words cs with
        | nil =>
          rw [hcs] at hw
          obtain rfl := List.mem_singleton.1 hw
          exact single hc
        | cons v vs =>
          rw [hcs] at hw ih
          rcases List.mem_cons.1 hw with rfl | hw
          · refine ⟨List.cons_ne_nil _ _, fun d hd ↦ ?_⟩
            rcases List.mem_cons.1 hd with rfl | hd
            · exact hc
            · exact (ih List.mem_cons_self).2 d hd
          · exact ih (List.mem_cons_of_mem _ hw)

end Chars

/-! ## The same on strings -/

variable {s t : String}

theorem words_of_isWord (h : IsWord s) : words s = [s] := by
  have hne : s.toList ≠ [] := fun he ↦ h.1 (String.toList_eq_nil_iff.1 he)
  rw [words, Chars.words_of_forall hne h.2, List.map_singleton, String.ofList_toList]

/-- What is found is a word. -/
theorem isWord_of_mem_words (h : t ∈ words s) : IsWord t := by
  obtain ⟨w, hw, rfl⟩ := List.mem_map.1 h
  obtain ⟨hne, hblank⟩ := Chars.of_mem_words hw
  refine ⟨fun he ↦ hne ?_, ?_⟩
  · rw [← String.toList_ofList (l := w), he]
    rfl
  · rwa [String.toList_ofList]

/-- There are no words in a blank text, and in no other. -/
theorem words_eq_nil_iff : words s = [] ↔ isAllBlank s = true := by
  rw [words, List.map_eq_nil_iff, isAllBlank]
  induction s.toList with
  | nil => exact ⟨fun _ ↦ rfl, fun _ ↦ rfl⟩
  | cons c cs ih =>
    rw [List.all_cons]
    cases hc : isBlank c with
    | true => rwa [Chars.words, hc, if_pos rfl, Bool.true_and]
    | false => exact iff_of_false (Chars.words_ne_nil hc) Bool.false_ne_true

/-- A text with a word in it is not all blanks. -/
theorem isAllBlank_eq_false_iff : isAllBlank s = false ↔ words s ≠ [] := by
  rw [← Bool.not_eq_true, ← words_eq_nil_iff]

theorem isAllBlank_of_isWord (h : IsWord s) : isAllBlank s = false := by
  rw [isAllBlank_eq_false_iff, words_of_isWord h]
  exact List.cons_ne_nil _ _

/-- The words are the texts that are found whole. -/
theorem words_eq_singleton_iff : words s = [s] ↔ IsWord s :=
  ⟨fun h ↦ isWord_of_mem_words (h ▸ List.mem_singleton_self s), words_of_isWord⟩

theorem words_append_space (s t : String) : words (s ++ " " ++ t) = words s ++ words t := by
  rw [words, words, words, String.toList_append, String.toList_append, List.append_assoc,
    ← List.map_append]
  exact congrArg (List.map _) (Chars.words_append (by decide))

theorem IsWord.append (hs : IsWord s) (ht : IsWord t) : IsWord (s ++ t) := by
  refine ⟨fun he ↦ hs.1 (String.append_eq_empty_iff.1 he).1, fun c hc ↦ ?_⟩
  rw [String.toList_append, List.mem_append] at hc
  exact hc.elim (hs.2 c) (ht.2 c)

/-- Words that are put together with spaces in between are found again. -/
theorem words_intercalate {ws : List String} (h : ∀ w ∈ ws, IsWord w) :
    words (" ".intercalate ws) = ws := by
  induction ws with
  | nil => rfl
  | cons w ws ih =>
    obtain ⟨word, others⟩ := List.forall_mem_cons.1 h
    cases ws with
    | nil => rw [String.intercalate_singleton, words_of_isWord word]
    | cons v vs =>
      rw [String.intercalate_cons_cons, words_append_space, words_of_isWord word, ih others,
        List.singleton_append]

/-! ## Numerals -/

theorem toList_numeral (n : Nat) : (toString n).toList = Nat.toDigits 10 n := by
  show (Nat.repr n).toList = _
  rw [Nat.repr, String.toList_ofList]

theorem isBlank_of_isDigit {c : Char} (h : c.isDigit = true) : isBlank c = false := by
  obtain ⟨lower, upper⟩ : 48 ≤ c.toNat ∧ c.toNat ≤ 57 := by
    simpa [Char.isDigit, UInt32.le_iff_toNat_le] using h
  exact isBlank_of_printable (by omega) (by omega)

theorem isWord_numeral (n : Nat) : IsWord (toString n) := by
  refine ⟨fun he ↦ ?_, fun c hc ↦ ?_⟩
  · have := toList_numeral n
    rw [he] at this
    exact Nat.toDigits_ne_nil this.symm
  · rw [toList_numeral] at hc
    exact isBlank_of_isDigit (Nat.isDigit_of_mem_toDigits (by decide) (by decide) hc)

/-- What is printed for a port is read as that port. -/
theorem uint16?_numeral (n : UInt16) : uint16? (toString n.toNat) = some n := by
  rw [uint16?, toList_numeral, natural?_toDigits, Option.bind_some, if_pos n.toNat_lt,
    UInt16.ofNat_toNat]

/-- What is printed for a time-out is read as that time-out. -/
theorem uint64?_numeral (n : UInt64) : uint64? (toString n.toNat) = some n := by
  rw [uint64?, toList_numeral, natural?_toDigits, Option.bind_some, if_pos n.toNat_lt,
    UInt64.ofNat_toNat]

end Text
end Jukebox
