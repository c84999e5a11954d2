import Jukebox.Proofs.Trimming

/-!
# Line by line

A text is cut at its line feeds, so what is said of all texts can be said of one line first, and then
of a line with a line feed and any text behind it.  A carriage return at the end of a line is dropped
with the line feed; where the blanks at the ends of a line do not count, neither does that.

* `Text.feed_induction` is the way of reasoning.
* `Text.lines_append_feed` says what the first line of a text is, and that the others are the lines of
  what stands behind it.
* `Text.lines_intercalate` is about lines that are put together.
* `Text.withReturns` is a text with a carriage return before each of its line feeds.
-/

set_option autoImplicit false

namespace Jukebox
namespace Text

namespace Chars

variable {line : List Char}

/-- What holds of every line, and of every line with a line feed and a text behind it of which it
holds, holds of every text. -/
theorem feed_induction {P : List Char → Prop} (last : ∀ line, '\n' ∉ line → P line)
    (feed : ∀ line rest, '\n' ∉ line → P rest → P (line ++ '\n' :: rest)) :
    ∀ cs : List Char, P cs := by
  intro cs
  induction hn : cs.length using Nat.strong_induction_on generalizing cs with
  | _ n ih =>
    by_cases h : '\n' ∈ cs
    · obtain ⟨line, rest, rfl, first⟩ := List.eq_append_cons_of_mem h
      refine feed line rest first (ih rest.length ?_ rest rfl)
      rw [← hn, List.length_append, List.length_cons]
      omega
    · exact last cs h

/-- A line without the carriage return at its end. -/
def withoutReturn (line : List Char) : List Char :=
  if line.getLast? = some '\r' then line.dropLast else line

theorem withoutReturn_cons {c : Char} (h : c ≠ '\r' ∨ line ≠ []) :
    withoutReturn (c :: line) = c :: withoutReturn line := by
  rcases eq_or_ne line [] with rfl | some_left
  · have other : c ≠ '\r' := h.resolve_right fun hne ↦ hne rfl
    simp [withoutReturn, other]
  · rw [withoutReturn, withoutReturn, List.getLast?_cons_of_ne_nil some_left,
      List.dropLast_cons_of_ne_nil some_left]
    split <;> rfl

/-- The carriage return is one of the blanks that trimming takes away. -/
theorem trim_append_return (line : List Char) : trim (line ++ ['\r']) = trim line :=
  trim_append_blanks (List.forall_mem_singleton.2 (by decide))

theorem trim_withoutReturn (line : List Char) : trim (withoutReturn line) = trim line := by
  rw [withoutReturn]
  split
  · rename_i h
    obtain ⟨start, rfl⟩ := List.getLast?_eq_some_iff.1 h
    rw [List.dropLast_concat]
    exact (trim_append_return start).symm
  · rfl

theorem withoutReturn_of_getLast? (h : ∀ c, line.getLast? = some c → isBlank c = false) :
    withoutReturn line = line := by
  refine if_neg fun hr ↦ ?_
  cases (h '\r' hr).symm.trans (by decide : isBlank '\r' = true)

/-- The first line of a text, and the lines behind it. -/
theorem lines_append_feed (h : '\n' ∉ line) (rest : List Char) :
    lines (line ++ '\n' :: rest) = withoutReturn line :: lines rest := by
  induction line with
  | nil => exact if_pos rfl
  | cons c line ih =>
    rw [List.mem_cons, not_or] at h
    rw [List.cons_append, lines, if_neg (Ne.symm h.1), ih h.2]
    split
    · -- the line feed comes next, so that the carriage return is all of the line
      rename_i hr
      obtain ⟨rfl, next⟩ := hr
      cases line with
      | nil => rfl
      | cons d line =>
        cases Option.some.inj next
        exact absurd List.mem_cons_self h.2
    · rename_i hr
      rw [withoutReturn_cons]
      · rfl
      · by_contra hc
        rw [not_or, not_not, not_not] at hc
        obtain ⟨rfl, rfl⟩ := hc
        exact hr ⟨rfl, rfl⟩

end Chars

/-! ## The same on strings -/

variable {line : String}

theorem feed_induction {P : String → Prop} (last : ∀ line, '\n' ∉ line.toList → P line)
    (feed : ∀ line rest, '\n' ∉ line.toList → P rest → P (line ++ "\n" ++ rest)) (s : String) :
    P s := by
  rw [← String.ofList_toList (s := s)]
  induction s.toList using Chars.feed_induction with
  | last line h => exact last _ (by rwa [String.toList_ofList])
  | feed line rest h ih =>
    have joined : String.ofList (line ++ '\n' :: rest) = .ofList line ++ "\n" ++ .ofList rest := by
      apply String.toList_inj.1
      simp
    rw [joined]
    exact feed _ _ (by rwa [String.toList_ofList]) ih

theorem lines_append_feed (h : '\n' ∉ line.toList) (rest : String) :
    lines (line ++ "\n" ++ rest) = .ofList (Chars.withoutReturn line.toList) :: lines rest := by
  have joined : (line ++ "\n" ++ rest).toList = line.toList ++ '\n' :: rest.toList := by simp
  rw [lines, joined, Chars.lines_append_feed h, List.map_cons, lines]

/-- Lines that are put together with line feeds in between are found again, if none of them is empty
or ends in a blank. -/
theorem lines_intercalate {ls : List String}
    (h : ∀ line ∈ ls, '\n' ∉ line.toList ∧ TrimmedEnd line ∧ line ≠ "") :
    lines ("\n".intercalate ls) = ls := by
  induction ls with
  | nil => rfl
  | cons line ls ih =>
    obtain ⟨⟨no_feed, trimmed, nonempty⟩, others⟩ := List.forall_mem_cons.1 h
    cases ls with
    | nil => rw [String.intercalate_singleton, lines_of_notMem no_feed nonempty]
    | cons next ls =>
      rw [String.intercalate_cons_cons, lines_append_feed no_feed,
        Chars.withoutReturn_of_getLast? trimmed, String.ofList_toList, ih others]

/-- A text with a carriage return before each of its line feeds. -/
def withReturns (s : String) : String :=
  .ofList (s.toList.flatMap fun c ↦ if c = '\n' then ['\r', '\n'] else [c])

theorem withReturns_of_notMem (h : '\n' ∉ line.toList) : withReturns line = line := by
  have same : line.toList.flatMap (fun c ↦ if c = '\n' then ['\r', '\n'] else [c]) =
      line.toList.flatMap fun c ↦ [c] := by
    refine List.flatMap_congr fun c hc ↦ if_neg ?_
    rintro rfl
    exact h hc
  rw [withReturns, same, List.flatMap_singleton', String.ofList_toList]

theorem withReturns_append (s t : String) : withReturns (s ++ t) = withReturns s ++ withReturns t := by
  simp [withReturns]

end Text
end Jukebox
