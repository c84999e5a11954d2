import Jukebox.Client.Canned
import Jukebox.Proofs.Occurrences
import Jukebox.Proofs.Trimming
import Jukebox.Screen.Frame

/-!
# Highlighting a line

A line of the output pane is shown as spans: one for each occurrence of the last search, in the style
of a match, and one for each text that is left between them.  The ranges of the occurrences come from
a search in the lower-case line if the case of letters is ignored, but it is the line as it was
written that is cut at them, so that both ends of every cut have to be between two characters.

* `Text.slice?` cuts a range out of a line, if that can be done; `slice?_eq_some_iff` says when.
* `Screen.Cuts` is what it takes to cut a line at some ranges, and `cuts_matchRanges` that the ranges
  of a search are such.
* `Screen.outputLine?` shows a line as `Screen.outputLine` does, and fails where a cut does.
* `Screen.placed` says which range of the line each span covers, and `Screen.gaps` are the ranges that
  a list of ranges leaves out.
* `Screen.outputLine_partition` is the main result: nothing of the line is lost, repeated or cut
  through, and the highlighted spans are the occurrences.
-/

set_option autoImplicit false

namespace Jukebox

/-! ## Cutting a text -/

namespace Text

variable {s t : String} {r : ByteRange} {a b c : Nat}

namespace Chars

/-- Two slices next to each other are one slice. -/
theorem sliceFrom_append_sliceFrom (hab : a ≤ b) (hbc : b ≤ c) (offset : Nat) (cs : List Char) :
    sliceFrom offset ⟨a, b⟩ cs ++ sliceFrom offset ⟨b, c⟩ cs = sliceFrom offset ⟨a, c⟩ cs := by
  induction cs generalizing offset with
  | nil => rfl
  | cons d cs ih =>
    have ih := ih (offset + d.utf8Size)
    by_cases hb : offset < b
    · have late : ¬(b ≤ offset ∧ offset < c) := by omega
      have same : (a ≤ offset ∧ offset < b) ↔ (a ≤ offset ∧ offset < c) := by omega
      rw [sliceFrom, sliceFrom, sliceFrom, if_neg late]
      simp only [same]
      split
      · rw [List.cons_append, ih]
      · exact ih
    · -- everything from here on is in the second slice
      have none_left : sliceFrom offset ⟨a, b⟩ (d :: cs) = [] := sliceFrom_behind (Nat.not_lt.1 hb)
      have none_behind : sliceFrom (offset + d.utf8Size) ⟨a, b⟩ cs = [] :=
        sliceFrom_behind (Nat.le_add_right_of_le (Nat.not_lt.1 hb))
      have same : (b ≤ offset ∧ offset < c) ↔ (a ≤ offset ∧ offset < c) := by omega
      rw [none_behind, List.nil_append] at ih
      rw [none_left, List.nil_append, sliceFrom, sliceFrom, ih]
      simp only [same]

end Chars

theorem slice_append_slice (s : String) (hab : a ≤ b) (hbc : b ≤ c) :
    slice s ⟨a, b⟩ ++ slice s ⟨b, c⟩ = slice s ⟨a, c⟩ := by
  rw [slice, slice, slice, ← String.ofList_append, Chars.sliceFrom_append_sliceFrom hab hbc]

theorem slice_whole (s : String) : slice s ⟨0, s.utf8ByteSize⟩ = s := by
  have h := slice_append "" s ""
  rwa [String.empty_append, String.append_empty, String.utf8ByteSize_empty, Nat.zero_add] at h

/-- A part of a text is as long as its range. -/
theorem IsPart.utf8ByteSize_slice (h : IsPart s r) :
    r.start + (slice s r).utf8ByteSize = r.stop := by
  obtain ⟨before, found, behind, rfl, rfl⟩ := isPart_iff_exists.1 h
  rw [slice_append]

theorem IsPart.slice_eq_empty_iff (h : IsPart s r) : slice s r = "" ↔ ¬r.start < r.stop := by
  have length := h.utf8ByteSize_slice
  rw [← String.utf8ByteSize_eq_zero_iff]
  omega

instance : Decidable (IsPart s r) :=
  decidable_of_iff
    (r.start ≤ r.stop ∧ String.Pos.Raw.IsValid s ⟨r.start⟩ ∧ String.Pos.Raw.IsValid s ⟨r.stop⟩)
    ⟨fun ⟨hle, hstart, hstop⟩ ↦ ⟨hle, hstart, hstop⟩, fun ⟨hle, hstart, hstop⟩ ↦ ⟨hle, hstart, hstop⟩⟩

/-- The part of a text in a range of its bytes, if the text can be cut there. -/
def slice? (s : String) (r : ByteRange) : Option String :=
  if IsPart s r then some (slice s r) else none

theorem IsPart.slice?_eq (h : IsPart s r) : slice? s r = some (slice s r) := if_pos h

/-- What is cut out of a text is what stands between the text before the range and the one behind. -/
theorem slice?_eq_some_iff :
    slice? s r = some t ↔ ∃ before behind, s = before ++ t ++ behind ∧
      r = ⟨before.utf8ByteSize, before.utf8ByteSize + t.utf8ByteSize⟩ := by
  constructor
  · intro h
    obtain ⟨hpart, ht⟩ := Option.ite_none_right_eq_some.1 h
    obtain rfl := Option.some.inj ht
    obtain ⟨before, found, behind, rfl, rfl⟩ := isPart_iff_exists.1 hpart
    exact ⟨before, behind, by rw [slice_append], by rw [slice_append]⟩
  · rintro ⟨before, behind, rfl, rfl⟩
    rw [(isPart_iff_exists.2 ⟨before, t, behind, rfl, rfl⟩).slice?_eq, slice_append]

end Text

namespace Screen

open Text

variable {σ : Type} {line : String} {last : Nat} {r : ByteRange} {rs : List ByteRange}

/-! ## The cuts of a line -/

/-- A part of a line as it is shown if it is an occurrence. -/
def marked (line : String) (r : ByteRange) : Span := { text := slice line r, style := highlight }

/-- A part of a line as it is shown otherwise. -/
def unmarked (line : String) (r : ByteRange) : Span := { text := slice line r }

/-- What is left of a line between two occurrences, unless it is empty. -/
def gapSpans (line : String) (r : ByteRange) : List Span :=
  if r.start < r.stop then [unmarked line r] else []

theorem spansFrom_nil (line : String) (last : Nat) :
    spansFrom line last [] = gapSpans line ⟨last, line.utf8ByteSize⟩ := rfl

theorem spansFrom_cons (line : String) (last : Nat) (r : ByteRange) (rs : List ByteRange) :
    spansFrom line last (r :: rs) =
      gapSpans line ⟨last, r.start⟩ ++ marked line r :: spansFrom line r.stop rs := by
  rw [spansFrom, gapSpans]
  split <;> rfl

/-- A line can be cut at some ranges from a byte on: each of them is a part of the line with something
in it, and what is left before each of them and behind the last is a part of the line too. -/
inductive Cuts (line : String) : Nat → List ByteRange → Prop
  | nil {last : Nat} (rest : IsPart line ⟨last, line.utf8ByteSize⟩) : Cuts line last []
  | cons {last : Nat} {r : ByteRange} {rs : List ByteRange} (gap : IsPart line ⟨last, r.start⟩)
      (part : IsPart line r) (hne : r.start < r.stop) (rest : Cuts line r.stop rs) :
      Cuts line last (r :: rs)

/-- A line can be cut at parts of it that are in order. -/
theorem cuts_of_pairwise (start : String.Pos.Raw.IsValid line ⟨last⟩)
    (parts : ∀ r ∈ rs, IsPart line r ∧ r.start < r.stop) (behind : ∀ r ∈ rs, last ≤ r.start)
    (increasing : rs.Pairwise fun r r' ↦ r.stop ≤ r'.start) : Cuts line last rs := by
  induction rs generalizing last with
  | nil => exact .nil ⟨start.le_rawEndPos, start, String.Pos.Raw.isValid_rawEndPos⟩
  | cons r rs ih =>
    rw [List.forall_mem_cons] at parts behind
    rw [List.pairwise_cons] at increasing
    obtain ⟨⟨part, hne⟩, parts⟩ := parts
    exact .cons ⟨behind.1, start, part.start_isValid⟩ part hne
      (ih part.stop_isValid parts increasing.1 increasing.2)

/-- A line can be cut at what a search finds in it. -/
theorem cuts_matchRanges (line : String) {query : String} (ignoreCase : Bool) (hne : query ≠ "") :
    Cuts line 0 (matchRanges line query ignoreCase) := by
  have search := leftmost_matchRanges_of_ne line ignoreCase hne
  refine cuts_of_pairwise String.Pos.Raw.isValid_zero (fun r hr ↦ ?_) (fun _ _ ↦ Nat.zero_le _)
    search.increasing
  have found := search.found r hr
  exact ⟨found.isPart, found.start_lt_stop hne⟩

/-! ## No cut fails -/

/-- What is left between two ranges, cut out of the line. -/
def gapSpans? (line : String) (r : ByteRange) : Option (List Span) :=
  if r.start < r.stop then (slice? line r).map fun text ↦ [{ text }] else some []

/-- A line cut at some ranges as `spansFrom` cuts it, if all of the cuts can be made. -/
def spansFrom? (line : String) (last : Nat) : List ByteRange → Option (List Span)
  | [] => gapSpans? line ⟨last, line.utf8ByteSize⟩
  | r :: rs => do
    let gap ← gapSpans? line ⟨last, r.start⟩
    let text ← slice? line r
    let rest ← spansFrom? line r.stop rs
    return gap ++ { text, style := highlight } :: rest

/-- A line as `outputLine` shows it, if all of the cuts can be made. -/
def outputLine? (c : Console σ) (line : String) : Option Line :=
  if c.settings.hlsearch = false ∨ c.search.query.isEmpty then some (.plain line)
  else spansFrom? line 0 (matchRanges line c.search.query c.settings.ignorecase)

theorem gapSpans?_eq (h : IsPart line r) : gapSpans? line r = some (gapSpans line r) := by
  rw [gapSpans?, gapSpans, h.slice?_eq]
  split <;> rfl

theorem Cuts.spansFrom?_eq (h : Cuts line last rs) :
    spansFrom? line last rs = some (spansFrom line last rs) := by
  induction h with
  | nil rest => rw [spansFrom?, spansFrom_nil, gapSpans?_eq rest]
  | cons gap part _ _ ih =>
    rw [spansFrom?, spansFrom_cons, gapSpans?_eq gap, part.slice?_eq, ih]
    rfl

/-! ## Nothing is lost or repeated -/

theorem join_gapSpans (h : IsPart line r) :
    String.join ((gapSpans line r).map (·.text)) = slice line r := by
  rw [gapSpans]
  split
  · rw [List.map_singleton, String.join_cons, String.join_nil, String.append_empty, unmarked]
  · exact (h.slice_eq_empty_iff.2 ‹_›).symm

theorem Cuts.le_utf8ByteSize (h : Cuts line last rs) : last ≤ line.utf8ByteSize := by
  cases h with
  | nil rest => exact rest.start_le_stop
  | cons gap => exact gap.start_isValid.le_rawEndPos

/-- The spans of a line that is cut from a byte on are the rest of the line. -/
theorem Cuts.join_spansFrom (h : Cuts line last rs) :
    String.join ((spansFrom line last rs).map (·.text)) = slice line ⟨last, line.utf8ByteSize⟩ := by
  induction h with
  | nil rest => rw [spansFrom_nil, join_gapSpans rest]
  | @cons last r rs gap part _ rest ih =>
    rw [spansFrom_cons, List.map_append, String.join_append, join_gapSpans gap, List.map_cons,
      String.join_cons, ih]
    calc slice line ⟨last, r.start⟩ ++ (slice line r ++ slice line ⟨r.stop, line.utf8ByteSize⟩)
        = slice line ⟨last, r.start⟩ ++ slice line ⟨r.start, line.utf8ByteSize⟩ := by
          rw [slice_append_slice line part.start_le_stop rest.le_utf8ByteSize]
      _ = slice line ⟨last, line.utf8ByteSize⟩ :=
          slice_append_slice line gap.start_le_stop (part.start_le_stop.trans rest.le_utf8ByteSize)

theorem text_ne_empty_of_mem_gapSpans (h : IsPart line r) {span : Span}
    (hspan : span ∈ gapSpans line r) : span.text ≠ "" := by
  rw [gapSpans] at hspan
  split at hspan
  · rename_i hne
    obtain rfl := List.mem_singleton.1 hspan
    exact fun empty ↦ h.slice_eq_empty_iff.1 empty hne
  · exact absurd hspan List.not_mem_nil

/-- There is something in every span. -/
theorem Cuts.text_ne_empty (h : Cuts line last rs) {span : Span}
    (hspan : span ∈ spansFrom line last rs) : span.text ≠ "" := by
  induction h with
  | nil rest =>
    rw [spansFrom_nil] at hspan
    exact text_ne_empty_of_mem_gapSpans rest hspan
  | cons gap part hne _ ih =>
    rw [spansFrom_cons, List.mem_append, List.mem_cons] at hspan
    rcases hspan with hspan | rfl | hspan
    · exact text_ne_empty_of_mem_gapSpans gap hspan
    · exact fun empty ↦ part.slice_eq_empty_iff.1 empty hne
    · exact ih hspan

/-! ## Which spans are which -/

/-- The spans of a line with the range that each of them covers, from byte `offset` on. -/
def placed (offset : Nat) : List Span → List (ByteRange × Span)
  | [] => []
  | span :: spans =>
    let stop := offset + span.text.utf8ByteSize
    (⟨offset, stop⟩, span) :: placed stop spans

/-- The ranges that are left out between byte `last` and byte `stop`: before each of some ranges and
behind the last of them. -/
def gaps (stop last : Nat) : List ByteRange → List ByteRange
  | [] => [⟨last, stop⟩]
  | r :: rs => ⟨last, r.start⟩ :: gaps stop r.stop rs

theorem placed_marked_cons (h : IsPart line r) (spans : List Span) :
    placed r.start (marked line r :: spans) = (r, marked line r) :: placed r.stop spans := by
  have stop : r.start + (marked line r).text.utf8ByteSize = r.stop := h.utf8ByteSize_slice
  rw [placed, stop]

theorem placed_gapSpans_append (h : IsPart line r) (spans : List Span) :
    placed r.start (gapSpans line r ++ spans) =
      ([r].filter fun r ↦ r.start < r.stop).map (fun r ↦ (r, unmarked line r)) ++
        placed r.stop spans := by
  by_cases hne : r.start < r.stop
  · have stop : r.start + (unmarked line r).text.utf8ByteSize = r.stop := h.utf8ByteSize_slice
    simp [gapSpans, hne, placed, stop]
  · have same : r.start = r.stop := by
      have := h.start_le_stop
      omega
    simp [gapSpans, same]

theorem style_unmarked_ne (line : String) (r : ByteRange) : (unmarked line r).style ≠ highlight := by
  simp [unmarked, highlight]

/-- The highlighted spans of a line are those of the ranges that it is cut at. -/
theorem Cuts.filter_highlight (h : Cuts line last rs) :
    (placed last (spansFrom line last rs)).filter (fun p ↦ p.2.style = highlight) =
      rs.map fun r ↦ (r, marked line r) := by
  induction h with
  | nil rest =>
    rw [spansFrom_nil, ← List.append_nil (gapSpans _ _), placed_gapSpans_append rest]
    simp [List.filter_map, style_unmarked_ne, placed]
  | @cons _ r _ gap part _ _ ih =>
    rw [spansFrom_cons, placed_gapSpans_append gap, placed_marked_cons part, List.filter_append,
      List.filter_cons_of_pos (a := (r, marked line r)) (by simp [marked]), ih]
    simp [List.filter_map, style_unmarked_ne]

/-- The other spans are those of what these ranges leave out. -/
theorem Cuts.filter_not_highlight (h : Cuts line last rs) :
    (placed last (spansFrom line last rs)).filter (fun p ↦ p.2.style ≠ highlight) =
      ((gaps line.utf8ByteSize last rs).filter fun r ↦ r.start < r.stop).map
        fun r ↦ (r, unmarked line r) := by
  induction h with
  | nil rest =>
    rw [spansFrom_nil, ← List.append_nil (gapSpans _ _), placed_gapSpans_append rest, gaps]
    simp [List.filter_map, style_unmarked_ne, placed]
  | @cons last r _ gap part _ _ ih =>
    rw [spansFrom_cons, placed_gapSpans_append gap, placed_marked_cons part, List.filter_append,
      List.filter_cons_of_neg (a := (r, marked line r)) (by simp [marked]), ih, gaps]
    by_cases hgap : last < r.start <;> simp [hgap, style_unmarked_ne]

/-! ## A line of the output pane -/

/-- A line that is not highlighted is one span, if there is anything in it. -/
theorem plain_of_notMem (h : '\n' ∉ line.toList) :
    Line.plain line = gapSpans line ⟨0, line.utf8ByteSize⟩ := by
  rw [Line.plain, gapSpans, unmarked, slice_whole]
  split
  · rename_i hne
    rw [lines_of_notMem h fun empty ↦ hne.ne' (String.utf8ByteSize_eq_zero_iff.2 empty),
      List.map_singleton]
  · rename_i hempty
    obtain rfl : line = "" := String.utf8ByteSize_eq_zero_iff.1 (Nat.eq_zero_of_not_pos hempty)
    rfl

/-- **Highlighting partitions a line.**  Whatever is searched for, and whether it is highlighted or
not, a line can be cut at all the places where it is, between two of its characters; what it is cut
into makes up the line, and there is something in every span.  If there is anything to be highlighted,
then the highlighted spans are what the search finds, one after the other, and the other ones are
what it leaves out before, between and behind. -/
theorem outputLine_partition (c : Console σ) (h : '\n' ∉ line.toList) :
    outputLine? c line = some (outputLine c line) ∧
    String.join ((outputLine c line).map (·.text)) = line ∧
    (∀ span ∈ outputLine c line, span.text ≠ "") ∧
    (c.settings.hlsearch = true → c.search.query ≠ "" →
      let found := matchRanges line c.search.query c.settings.ignorecase
      let spans := placed 0 (outputLine c line)
      spans.filter (fun p ↦ p.2.style = highlight) = found.map (fun r ↦ (r, marked line r)) ∧
      spans.filter (fun p ↦ p.2.style ≠ highlight) =
        ((gaps line.utf8ByteSize 0 found).filter fun r ↦ r.start < r.stop).map
          fun r ↦ (r, unmarked line r)) := by
  by_cases off : c.settings.hlsearch = false ∨ c.search.query.isEmpty
  · have whole : IsPart line ⟨0, line.utf8ByteSize⟩ :=
      ⟨Nat.zero_le _, String.Pos.Raw.isValid_zero, String.Pos.Raw.isValid_rawEndPos⟩
    have plain : outputLine c line = gapSpans line ⟨0, line.utf8ByteSize⟩ :=
      (if_pos off).trans (plain_of_notMem h)
    refine ⟨by rw [outputLine, outputLine?, if_pos off, if_pos off], ?_, ?_, fun on hne ↦ ?_⟩
    · rw [plain, join_gapSpans whole, slice_whole]
    · rw [plain]
      exact fun span ↦ text_ne_empty_of_mem_gapSpans whole
    · simp [on, hne] at off
  · have hne : c.search.query ≠ "" := by
      rintro empty
      exact off (.inr (by rw [empty]; rfl))
    have cuts := cuts_matchRanges line c.settings.ignorecase hne
    rw [outputLine, outputLine?, if_neg off, if_neg off]
    exact ⟨cuts.spansFrom?_eq, by rw [cuts.join_spansFrom, slice_whole], fun _ ↦ cuts.text_ne_empty,
      fun _ _ ↦ ⟨cuts.filter_highlight, cuts.filter_not_highlight⟩⟩

/-- Two occurrences that touch, the second of them at the end of the line. -/
theorem outputLine_partition_of_touching :
    let c : Console Canned := { client := ⟨[], false⟩, search := { query := "Nä" } }
    '\n' ∉ "Bänänä".toList ∧ c.search.query ≠ "" ∧
      (placed 0 (outputLine c "Bänänä")).filter (fun p ↦ p.2.style = highlight) =
        [(⟨3, 6⟩, ⟨"nä", highlight⟩), (⟨6, 9⟩, ⟨"nä", highlight⟩)] ∧
      (placed 0 (outputLine c "Bänänä")).filter (fun p ↦ p.2.style ≠ highlight) =
        [(⟨0, 3⟩, ⟨"Bä", {}⟩)] := by
  intro c
  have no_feed : '\n' ∉ "Bänänä".toList := by decide
  have hne : c.search.query ≠ "" := by decide
  have found : matchRanges "Bänänä" "Nä" true = [⟨3, 6⟩, ⟨6, 9⟩] := by decide +kernel
  obtain ⟨-, -, -, law⟩ := outputLine_partition c no_feed
  obtain ⟨highlighted, others⟩ := law rfl hne
  refine ⟨no_feed, hne, highlighted.trans ?_, others.trans ?_⟩
  · change (matchRanges "Bänänä" "Nä" true).map _ = _
    rw [found]
    decide +kernel
  · change ((gaps _ 0 (matchRanges "Bänänä" "Nä" true)).filter _).map _ = _
    rw [found]
    decide +kernel

end Screen
end Jukebox
