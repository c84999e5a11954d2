import Jukebox.Text.Lines
import Mathlib.Data.List.DropRight

/-!
# Trimming

Most texts lose the blanks at their ends before they are stored or shown, and some lose them twice.
This file says what trimming leaves and when trimming more makes no difference.

* `Text.Trimmed` and `Text.TrimmedEnd` say of a text that it has no blank at its ends;
  `trimmed_trim` and `trimmedEnd_trimEnd` that trimming achieves that.
* `Text.Chars.trim_trim`, `trim_blanks_append` and `trim_append_blanks` are about texts that are
  trimmed again, or with more blanks around them; `exists_blanks_trim` is about what is cut off, and
  `trim_append` about what no trimming reaches.
* `Text.newline_notMem_of_mem_lines`: the lines of a text have no line feed in them; and
  `Text.lines_of_notMem`: a text that has none is one line.
-/

set_option autoImplicit false

namespace Jukebox
namespace Text

/-- A text that does not end in a blank. -/
def TrimmedEnd (s : String) : Prop := ∀ c, s.toList.getLast? = some c → isBlank c = false

/-- A text that neither begins nor ends with a blank. -/
structure Trimmed (s : String) : Prop where
  start : ∀ c, s.toList.head? = some c → isBlank c = false
  stop : TrimmedEnd s

namespace Chars

variable {b c : Char} {cs ds bs : List Char}

/-! ## What is left -/

theorem trimEnd_prefix (cs : List Char) : trimEnd cs <+: cs := List.rdropWhile_prefix isBlank cs

theorem of_getLast?_trimEnd (h : (trimEnd cs).getLast? = some c) : isBlank c = false := by
  rw [trimEnd, List.getLast?_reverse] at h
  have first := List.head?_dropWhile_not isBlank cs.reverse
  rw [h] at first
  simpa using first

theorem of_head?_trim (h : (trim cs).head? = some c) : isBlank c = false := by
  have first := List.head?_dropWhile_not isBlank cs
  have kept : (trimStart cs).head? = some c := by
    obtain ⟨rest, hrest⟩ := trimEnd_prefix (trimStart cs)
    rw [← hrest, List.head?_append, show (trimEnd (trimStart cs)).head? = some c from h]
    rfl
  rw [show (cs.dropWhile isBlank).head? = some c from kept] at first
  simpa using first

/-! ## Trimming again -/

theorem trimStart_of_head? (h : ∀ c, cs.head? = some c → isBlank c = false) :
    trimStart cs = cs := by
  cases cs with
  | nil => rfl
  | cons c cs => simp [trimStart, h c rfl]

/-- Trimming twice is trimming. -/
theorem trim_trim (cs : List Char) : trim (trim cs) = trim cs := by
  rw [trim, trimStart_of_head? fun c ↦ of_head?_trim]
  exact List.rdropWhile_idempotent isBlank _

theorem trim_cons_blank (hb : isBlank b = true) : trim (b :: cs) = trim cs := by
  simp [trim, trimStart, hb]

theorem trimEnd_append_blanks (h : ∀ b ∈ bs, isBlank b = true) :
    trimEnd (cs ++ bs) = trimEnd cs := by
  rw [trimEnd, List.reverse_append, List.dropWhile_append_of_pos (by simpa using h)]
  rfl

/-- More blanks behind a text make no difference. -/
theorem trim_append_blanks (h : ∀ b ∈ bs, isBlank b = true) : trim (cs ++ bs) = trim cs := by
  rw [trim, trim, trimStart, trimStart, List.dropWhile_append]
  split
  · rename_i empty
    have none_left : bs.dropWhile isBlank = [] := by simpa using h
    rw [none_left, List.isEmpty_iff.1 empty]
  · exact trimEnd_append_blanks h

theorem trim_blanks_append (h : ∀ b ∈ bs, isBlank b = true) : trim (bs ++ cs) = trim cs := by
  induction bs with
  | nil => rfl
  | cons b bs ih =>
    obtain ⟨hb, hbs⟩ := List.forall_mem_cons.1 h
    rw [List.cons_append, trim_cons_blank hb, ih hbs]

/-! ## What is not reached -/

theorem trimStart_append (h : ∀ c, ds.head? = some c → isBlank c = false) :
    trimStart (cs ++ ds) = trimStart cs ++ ds := by
  rw [trimStart, List.dropWhile_append]
  split
  · rename_i empty
    rw [trimStart, List.isEmpty_iff.1 empty]
    exact trimStart_of_head? h
  · rfl

theorem trimEnd_append (h : ∀ c, cs.getLast? = some c → isBlank c = false) :
    trimEnd (cs ++ ds) = cs ++ trimEnd ds := by
  have kept : (ds.reverse ++ cs.reverse).dropWhile isBlank =
      ds.reverse.dropWhile isBlank ++ cs.reverse := trimStart_append (by simpa using h)
  rw [trimEnd, List.reverse_append, kept, List.reverse_append, List.reverse_reverse]
  rfl

theorem trimEnd_of_getLast? (h : ∀ c, cs.getLast? = some c → isBlank c = false) :
    trimEnd cs = cs := by
  have kept : trimEnd (cs ++ []) = cs ++ trimEnd [] := trimEnd_append h
  rwa [List.append_nil, show trimEnd [] = [] from rfl, List.append_nil] at kept

/-- Trimming does not reach beyond a piece that has no blank at its ends. -/
theorem trim_append (hne : ds ≠ []) (hstart : ∀ c, ds.head? = some c → isBlank c = false)
    (hstop : ∀ c, ds.getLast? = some c → isBlank c = false) :
    trim (cs ++ ds ++ bs) = trimStart cs ++ ds ++ trimEnd bs := by
  rw [trim, List.append_assoc, trimStart_append, ← List.append_assoc, trimEnd_append]
  · rwa [List.getLast?_append_of_ne_nil _ hne]
  · rwa [List.head?_append_of_ne_nil _ hne]

/-- A text is what trimming leaves of it at its end, and blanks. -/
theorem exists_append_blanks (cs : List Char) :
    ∃ bs, cs = trimEnd cs ++ bs ∧ ∀ b ∈ bs, isBlank b = true :=
  ⟨cs.rtakeWhile isBlank, List.rdropWhile_append_rtakeWhile.symm,
    fun _ hb ↦ List.mem_rtakeWhile_imp hb⟩

/-- A text is what trimming leaves of it, and blanks. -/
theorem exists_blanks_trim (cs : List Char) :
    ∃ bs ds, cs = bs ++ (trim cs ++ ds) ∧ (∀ b ∈ bs, isBlank b = true) ∧
      ∀ d ∈ ds, isBlank d = true := by
  obtain ⟨ds, split, hds⟩ := exists_append_blanks (trimStart cs)
  refine ⟨cs.takeWhile isBlank, ds, ?_, fun b hb ↦ List.mem_takeWhile_imp hb, hds⟩
  rw [trim, ← split, trimStart, List.takeWhile_append_dropWhile]

/-! ## Lines -/

theorem of_mem_consHead {l : List (List Char)} (hc : c ≠ '\n') (h : ∀ line ∈ l, '\n' ∉ line) :
    ∀ line ∈ consHead c l, '\n' ∉ line := by
  cases l with
  | nil => simpa [consHead] using hc.symm
  | cons line l =>
    simp only [consHead, List.forall_mem_cons] at h ⊢
    exact ⟨by simpa using ⟨hc.symm, h.1⟩, h.2⟩

theorem newline_notMem_of_mem_lines (cs : List Char) : ∀ line ∈ lines cs, '\n' ∉ line := by
  induction cs with
  | nil => simp [lines]
  | cons c cs ih =>
    rw [lines]
    split
    · simpa using ih
    · split
      · exact ih
      · exact of_mem_consHead ‹_› ih

theorem lines_of_notMem (h : '\n' ∉ cs) (hne : cs ≠ []) : lines cs = [cs] := by
  induction cs with
  | nil => exact absurd rfl hne
  | cons c cs ih =>
    rw [List.mem_cons, not_or] at h
    have no_feed : ¬(c = '\r' ∧ cs.head? = some '\n') := fun feed ↦
      h.2 (List.mem_of_mem_head? feed.2)
    rw [lines, if_neg (Ne.symm h.1), if_neg no_feed]
    rcases eq_or_ne cs [] with rfl | hcs
    · rfl
    · rw [ih h.2 hcs, consHead]

end Chars

/-! ## The same on strings -/

theorem trimmedEnd_trimEnd (s : String) : TrimmedEnd (trimEnd s) := by
  intro c hc
  rw [toList_trimEnd] at hc
  exact Chars.of_getLast?_trimEnd hc

theorem trimmed_trim (s : String) : Trimmed (trim s) := by
  refine ⟨fun c hc ↦ ?_, fun c hc ↦ ?_⟩
  · rw [toList_trim] at hc
    exact Chars.of_head?_trim hc
  · rw [toList_trim] at hc
    exact Chars.of_getLast?_trimEnd hc

/-- Nothing is cut off a text that has no blank at its ends. -/
theorem trim_of_trimmed {s : String} (h : Trimmed s) : trim s = s := by
  rw [trim, Chars.trim, Chars.trimStart_of_head? h.start, Chars.trimEnd_of_getLast? h.stop,
    String.ofList_toList]

/-- Two texts that are put together begin with the one and end with the other. -/
theorem trimmed_append {s t : String} {c : Char} (hs : s.toList.head? = some c)
    (hc : isBlank c = false) (ht : TrimmedEnd t) (hne : t ≠ "") : Trimmed (s ++ t) := by
  constructor
  · intro d hd
    rw [String.toList_append, List.head?_append, hs] at hd
    exact Option.some.inj hd ▸ hc
  · have some_left : t.toList ≠ [] := fun he ↦ hne (String.toList_eq_nil_iff.1 he)
    rwa [TrimmedEnd, String.toList_append, List.getLast?_append_of_ne_nil _ some_left]

theorem newline_notMem_of_mem_lines {s line : String} (h : line ∈ lines s) :
    '\n' ∉ line.toList := by
  obtain ⟨cs, hcs, rfl⟩ := List.mem_map.1 h
  rw [String.toList_ofList]
  exact Chars.newline_notMem_of_mem_lines s.toList cs hcs

/-- A text without a line feed is one line, if there is anything in it. -/
theorem lines_of_notMem {s : String} (h : '\n' ∉ s.toList) (hne : s ≠ "") : lines s = [s] := by
  rw [lines, Chars.lines_of_notMem h (by simpa using hne), List.map_singleton, String.ofList_toList]

/-- What is cut off at the end takes no character in. -/
theorem mem_of_mem_trimEnd {s : String} {c : Char} (h : c ∈ (trimEnd s).toList) : c ∈ s.toList := by
  rw [toList_trimEnd] at h
  exact (Chars.trimEnd_prefix s.toList).subset h

end Text
end Jukebox
