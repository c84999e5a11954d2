import Jukebox.Text.Occurrence
import Mathlib.Data.List.Pairwise
import Mathlib.Data.List.Sort
import Mathlib.Tactic.Common

/-!
# The occurrences that a search reports

A search looks for a query from the left, and goes on behind each occurrence that it has found.  If
the case of letters is to be ignored, it looks for the lower-case query in the lower-case line, and
the ranges that it reports are used in the line as it was written.  This file says which ranges these
are, in terms of that line only.

* `Text.Matches` says that a text is what a query asks for, and `Text.OccursAt` that such a text lies
  in a range of a line; `occursAt_iff_exists` puts the latter in terms of what stands around it.
* `Text.IsPart` is about the ranges that a line can be cut at, whatever lies in them.
* `Text.Leftmost` is what a search from the left comes to, for any kind of range, and
  `Leftmost.unique` that there is only one such list.
* `Text.Chars.leftmost_occurrences` is the walk along the characters, and `Text.leftmost_matchRanges`
  the search on strings.
* `Text.matchRanges_ne_nil_iff` is about the lines in which anything is found at all.
-/

set_option autoImplicit false

namespace Jukebox
namespace Text

variable {ignoreCase : Bool} {line query s t : String}

/-! ## What a query asks for -/

/-- A character as a search compares it. -/
def foldChar (ignoreCase : Bool) (c : Char) : Char := if ignoreCase then c.toLower else c

/-- A text that is the query, up to the case of ASCII letters if that is to be ignored. -/
def Matches (ignoreCase : Bool) (found query : String) : Prop :=
  if ignoreCase then lowerAscii found = lowerAscii query else found = query

theorem matches_iff :
    Matches ignoreCase s t ↔
      s.toList.map (foldChar ignoreCase) = t.toList.map (foldChar ignoreCase) := by
  cases ignoreCase with
  | true => exact String.ofList_inj
  | false =>
    have same (l : List Char) : l.map (foldChar false) = l := List.map_id l
    rw [same, same]
    exact String.toList_inj.symm

/-- Whatever is the same as the query is so in any case. -/
theorem Matches.of_exact (h : Matches false s t) (ignoreCase : Bool) : Matches ignoreCase s t := by
  obtain rfl : s = t := h
  exact matches_iff.2 rfl

/-! ## Counting bytes -/

namespace Chars

theorem byteLength_map_foldChar (ignoreCase : Bool) (cs : List Char) :
    byteLength (cs.map (foldChar ignoreCase)) = byteLength cs := by
  cases ignoreCase with
  | true => exact byteLength_map_toLower cs
  | false => exact congrArg byteLength (List.map_id cs)

theorem byteLength_pos {cs : List Char} (h : cs ≠ []) : 0 < byteLength cs := by
  cases cs with
  | nil => exact absurd rfl h
  | cons c cs => exact Nat.add_pos_left c.utf8Size_pos _

theorem byteLength_eq (cs : List Char) : byteLength cs = (String.ofList cs).utf8ByteSize := by
  induction cs with
  | nil => rfl
  | cons c cs ih =>
    rw [byteLength_cons, ih, ← List.singleton_append, String.ofList_append,
      String.utf8ByteSize_append, ← String.singleton_eq_ofList, String.utf8ByteSize_singleton]

end Chars

theorem byteLength_toList (s : String) : Chars.byteLength s.toList = s.utf8ByteSize := by
  rw [Chars.byteLength_eq, String.ofList_toList]

/-- What a search finds is as long as what it was looking for. -/
theorem Matches.utf8ByteSize_eq (h : Matches ignoreCase s t) : s.utf8ByteSize = t.utf8ByteSize := by
  rw [← byteLength_toList, ← byteLength_toList, ← Chars.byteLength_map_foldChar ignoreCase s.toList,
    matches_iff.1 h, Chars.byteLength_map_foldChar]

/-! ## Slices

The characters before a slice, in it and behind it are looked at one part after the other. -/

namespace Chars

variable {offset : Nat} {r : ByteRange}

theorem sliceFrom_append (cs ds : List Char) :
    sliceFrom offset r (cs ++ ds) =
      sliceFrom offset r cs ++ sliceFrom (offset + byteLength cs) r ds := by
  induction cs generalizing offset with
  | nil => rfl
  | cons c cs ih =>
    rw [List.cons_append, sliceFrom, sliceFrom, ih, byteLength_cons, Nat.add_assoc]
    split <;> rfl

theorem sliceFrom_before {cs : List Char} (h : offset + byteLength cs ≤ r.start) :
    sliceFrom offset r cs = [] := by
  induction cs generalizing offset with
  | nil => rfl
  | cons c cs ih =>
    rw [byteLength_cons, ← Nat.add_assoc] at h
    have early : ¬(r.start ≤ offset ∧ offset < r.stop) := by
      have := c.utf8Size_pos
      omega
    rw [sliceFrom, if_neg early]
    exact ih h

theorem sliceFrom_inside {cs : List Char} (hstart : r.start ≤ offset)
    (hstop : offset + byteLength cs ≤ r.stop) : sliceFrom offset r cs = cs := by
  induction cs generalizing offset with
  | nil => rfl
  | cons c cs ih =>
    rw [byteLength_cons, ← Nat.add_assoc] at hstop
    have inside : r.start ≤ offset ∧ offset < r.stop := by
      have := c.utf8Size_pos
      omega
    rw [sliceFrom, if_pos inside, ih (Nat.le_add_right_of_le hstart) hstop]

theorem sliceFrom_behind {cs : List Char} (h : r.stop ≤ offset) : sliceFrom offset r cs = [] := by
  induction cs generalizing offset with
  | nil => rfl
  | cons c cs ih =>
    rw [sliceFrom, if_neg fun inside ↦ absurd inside.2 (Nat.not_lt.2 h)]
    exact ih (Nat.le_add_right_of_le h)

end Chars

/-- What lies between two texts is the slice from the end of the one to the start of the other. -/
theorem slice_append (before found behind : String) :
    slice (before ++ found ++ behind)
      ⟨before.utf8ByteSize, before.utf8ByteSize + found.utf8ByteSize⟩ = found := by
  generalize hr : (⟨_, _⟩ : ByteRange) = r
  obtain ⟨hstart, hstop⟩ := ByteRange.mk.inj hr
  have skipped : Chars.sliceFrom 0 r before.toList = [] :=
    Chars.sliceFrom_before (by rw [byteLength_toList, Nat.zero_add, hstart])
  have taken : Chars.sliceFrom before.utf8ByteSize r found.toList = found.toList :=
    Chars.sliceFrom_inside hstart.ge (by rw [byteLength_toList, hstop])
  have left : Chars.sliceFrom (before.utf8ByteSize + found.utf8ByteSize) r behind.toList = [] :=
    Chars.sliceFrom_behind hstop.ge
  rw [slice, String.toList_append, String.toList_append, Chars.sliceFrom_append,
    Chars.sliceFrom_append, Chars.byteLength_append, byteLength_toList, byteLength_toList,
    Nat.zero_add, Nat.zero_add, skipped, taken, left, List.nil_append, List.append_nil,
    String.ofList_toList]

/-! ## Parts of a line -/

/-- A range that a line can be cut at: it does not run backwards, and both of its ends are between
two characters. -/
structure IsPart (line : String) (r : ByteRange) : Prop where
  start_le_stop : r.start ≤ r.stop
  start_isValid : String.Pos.Raw.IsValid line ⟨r.start⟩
  stop_isValid : String.Pos.Raw.IsValid line ⟨r.stop⟩

/-- Of two texts that a line begins with, the shorter one begins the longer one. -/
theorem exists_append_of_utf8ByteSize_le {before rest upto behind : String}
    (same : before ++ rest = upto ++ behind) (h : before.utf8ByteSize ≤ upto.utf8ByteSize) :
    ∃ found, upto = before ++ found := by
  have parts : before.toList ++ rest.toList = upto.toList ++ behind.toList := by
    rw [← String.toList_append, ← String.toList_append, same]
  rcases List.append_eq_append_iff.1 parts with ⟨found, hupto, -⟩ | ⟨more, hbefore, -⟩
  · exact ⟨.ofList found, String.toList_inj.1 (by rw [hupto, String.toList_append,
      String.toList_ofList])⟩
  · rcases eq_or_ne more [] with rfl | hne
    · rw [List.append_nil] at hbefore
      exact ⟨"", by rw [String.append_empty, String.toList_inj.1 hbefore]⟩
    · have longer := congrArg Chars.byteLength hbefore
      rw [Chars.byteLength_append, byteLength_toList, byteLength_toList] at longer
      have := Chars.byteLength_pos hne
      omega

/-- A line can be cut at a range if the range is that of a text with something before it and
something behind it. -/
theorem isPart_iff_exists {r : ByteRange} :
    IsPart line r ↔ ∃ before found behind, line = before ++ found ++ behind ∧
      r = ⟨before.utf8ByteSize, before.utf8ByteSize + found.utf8ByteSize⟩ := by
  constructor
  · rintro ⟨hle, vstart, vstop⟩
    obtain ⟨before, rest, hbefore, hp⟩ := String.Pos.Raw.isValid_iff_exists_append.1 vstart
    obtain ⟨upto, behind, hupto, hq⟩ := String.Pos.Raw.isValid_iff_exists_append.1 vstop
    have hstart : r.start = before.utf8ByteSize := congrArg String.Pos.Raw.byteIdx hp
    have hstop : r.stop = upto.utf8ByteSize := congrArg String.Pos.Raw.byteIdx hq
    obtain ⟨found, rfl⟩ : ∃ found, upto = before ++ found :=
      exists_append_of_utf8ByteSize_le (hbefore ▸ hupto) (by omega)
    rw [String.utf8ByteSize_append] at hstop
    exact ⟨before, found, behind, hupto, by rw [← hstop, ← hstart]⟩
  · rintro ⟨before, found, behind, rfl, rfl⟩
    refine ⟨Nat.le_add_right _ _, ?_, ?_⟩
    · exact String.Pos.Raw.isValid_iff_exists_append.2
        ⟨before, found ++ behind, String.append_assoc, rfl⟩
    · exact String.Pos.Raw.isValid_iff_exists_append.2
        ⟨before ++ found, behind, rfl, by rw [String.rawEndPos, String.utf8ByteSize_append]⟩

/-! ## Occurrences in a line -/

/-- A query occurs in a range of a line: both ends of the range are between two characters, and what
lies in it is what the query asks for. -/
structure OccursAt (line query : String) (ignoreCase : Bool) (r : ByteRange) : Prop where
  stop_eq : r.stop = r.start + query.utf8ByteSize
  start_isValid : String.Pos.Raw.IsValid line ⟨r.start⟩
  stop_isValid : String.Pos.Raw.IsValid line ⟨r.stop⟩
  slice_matches : Matches ignoreCase (slice line r) query

theorem OccursAt.start_lt_stop {r : ByteRange} (h : OccursAt line query ignoreCase r)
    (hne : query ≠ "") : r.start < r.stop := by
  rw [h.stop_eq, ← byteLength_toList]
  exact Nat.lt_add_of_pos_right (Chars.byteLength_pos (by simpa using hne))

theorem OccursAt.isPart {r : ByteRange} (h : OccursAt line query ignoreCase r) : IsPart line r :=
  ⟨h.stop_eq ▸ Nat.le_add_right _ _, h.start_isValid, h.stop_isValid⟩

/-- A query occurs where a text that it asks for has something before it and something behind it. -/
theorem occursAt_iff_exists {r : ByteRange} :
    OccursAt line query ignoreCase r ↔
      ∃ before found behind, line = before ++ found ++ behind ∧ Matches ignoreCase found query ∧
        r = ⟨before.utf8ByteSize, before.utf8ByteSize + found.utf8ByteSize⟩ := by
  constructor
  · intro h
    obtain ⟨before, found, behind, rfl, rfl⟩ := isPart_iff_exists.1 h.isPart
    have hmatches := h.slice_matches
    rw [slice_append] at hmatches
    exact ⟨before, found, behind, rfl, hmatches, rfl⟩
  · rintro ⟨before, found, behind, rfl, hmatches, rfl⟩
    obtain ⟨-, vstart, vstop⟩ := isPart_iff_exists.2 ⟨before, found, behind, rfl, rfl⟩
    exact ⟨by rw [hmatches.utf8ByteSize_eq], vstart, vstop, by rwa [slice_append]⟩

/-! ## Searching from the left -/

/-- The ranges that a search from the left comes to, where `P` says of a range that it is one to be
found: each begins behind the end of the one before it, and no other range is to be found but where
one that begins earlier is in the way. -/
structure Leftmost (P : ByteRange → Prop) (rs : List ByteRange) : Prop where
  found : ∀ r ∈ rs, P r
  increasing : rs.Pairwise fun r r' ↦ r.stop ≤ r'.start
  complete : ∀ r, P r → r ∈ rs ∨ ∃ r' ∈ rs, r'.start < r.start ∧ r.start < r'.stop

namespace Leftmost

variable {P : ByteRange → Prop} {rs rs' : List ByteRange}

theorem congr {Q : ByteRange → Prop} (h : Leftmost P rs) (same : ∀ r, Q r ↔ P r) :
    Leftmost Q rs where
  found r hr := (same r).2 (h.found r hr)
  increasing := h.increasing
  complete r hr := h.complete r ((same r).1 hr)

/-- Something is found if there is anything to be found. -/
theorem ne_nil_iff (h : Leftmost P rs) : rs ≠ [] ↔ ∃ r, P r := by
  constructor
  · intro hne
    obtain ⟨r, hr⟩ := List.exists_mem_of_ne_nil rs hne
    exact ⟨r, h.found r hr⟩
  · rintro ⟨r, hr⟩ rfl
    simpa using h.complete r hr

/-- No range that is found begins inside another. -/
theorem not_inside (h : Leftmost P rs) {r r' : ByteRange} (hr : r ∈ rs) (hr' : r' ∈ rs)
    (hne : r.start < r.stop) : ¬(r'.start < r.start ∧ r.start < r'.stop) := by
  rintro ⟨before, inside⟩
  have apart : rs.Pairwise fun a b ↦ a.stop ≤ b.start ∨ b.stop ≤ a.start := h.increasing.imp .inl
  have : Std.Symm fun a b : ByteRange ↦ a.stop ≤ b.start ∨ b.stop ≤ a.start := ⟨fun _ _ ↦ Or.symm⟩
  have := apart.forall hr hr' (by rintro rfl; exact Nat.lt_irrefl _ before)
  omega

/-- A range of one search is in another one for the same, if those that begin earlier are. -/
theorem mem_of_earlier (h : Leftmost P rs) (h' : Leftmost P rs') {r : ByteRange} (hr : r ∈ rs)
    (hne : r.start < r.stop) (earlier : ∀ r' ∈ rs', r'.start < r.start → r' ∈ rs) : r ∈ rs' := by
  refine (h'.complete r (h.found r hr)).resolve_right ?_
  rintro ⟨r', hr', before, inside⟩
  exact h.not_inside hr (earlier r' hr' before) hne ⟨before, inside⟩

theorem pairwise_start (h : Leftmost P rs) (hne : ∀ r, P r → r.start < r.stop) :
    rs.Pairwise fun r r' ↦ r.start < r'.start :=
  h.increasing.imp_of_mem fun hr _ hle ↦ Nat.lt_of_lt_of_le (hne _ (h.found _ hr)) hle

/-- **There is only one search from the left**, if nothing empty is searched for. -/
theorem unique (h : Leftmost P rs) (h' : Leftmost P rs') (hne : ∀ r, P r → r.start < r.stop) :
    rs = rs' := by
  -- the two searches agree on what begins at a place if they do on all that begins before it
  have agree (n : Nat) : ∀ r, r.start = n → (r ∈ rs ↔ r ∈ rs') := by
    induction n using Nat.strongRecOn with
    | _ n ih =>
      rintro r rfl
      constructor
      · intro hr
        exact h.mem_of_earlier h' hr (hne r (h.found r hr)) fun r' hr' before ↦
          (ih _ before r' rfl).2 hr'
      · intro hr
        exact h'.mem_of_earlier h hr (hne r (h'.found r hr)) fun r' hr' before ↦
          (ih _ before r' rfl).1 hr'
  have irrefl : Std.Irrefl fun a b : ByteRange ↦ a.start < b.start := ⟨fun _ ↦ Nat.lt_irrefl _⟩
  have antisymm : Std.Antisymm fun a b : ByteRange ↦ a.start < b.start :=
    ⟨fun _ _ hlt hgt ↦ absurd hgt (Nat.lt_asymm hlt)⟩
  exact (h.pairwise_start hne).eq_of_mem_iff (h'.pairwise_start hne) fun r ↦ agree _ r rfl

end Leftmost

/-! ## The walk along the characters -/

namespace Chars

variable {needle cs : List Char} {offset : Nat} {r : ByteRange}

/-- A needle stands in a range of a text that begins at byte `offset`. -/
def StandsAt (needle : List Char) (offset : Nat) (cs : List Char) (r : ByteRange) : Prop :=
  ∃ before behind, cs = before ++ needle ++ behind ∧
    r = ⟨offset + byteLength before, offset + byteLength before + byteLength needle⟩

theorem StandsAt.offset_le (h : StandsAt needle offset cs r) : offset ≤ r.start := by
  obtain ⟨before, behind, -, rfl⟩ := h
  exact Nat.le_add_right _ _

/-- What stands in a text stands further on in a longer one. -/
theorem StandsAt.append_left (ds : List Char)
    (h : StandsAt needle (offset + byteLength ds) cs r) : StandsAt needle offset (ds ++ cs) r := by
  obtain ⟨before, behind, rfl, rfl⟩ := h
  refine ⟨ds ++ before, behind, by simp only [List.append_assoc], ?_⟩
  rw [byteLength_append, Nat.add_assoc]

/-- A needle that does not stand at the beginning of a text stands behind the first character. -/
theorem standsAt_cons_iff {c : Char} (h : ¬needle <+: c :: cs) :
    StandsAt needle offset (c :: cs) r ↔ StandsAt needle (offset + c.utf8Size) cs r := by
  constructor
  · rintro ⟨_ | ⟨d, before⟩, behind, hcs, rfl⟩
    · exact absurd ⟨behind, hcs.symm⟩ h
    · obtain ⟨rfl, rfl⟩ := List.cons.inj hcs
      refine ⟨before, behind, rfl, ?_⟩
      simp only [byteLength_cons, Nat.add_assoc]
  · exact StandsAt.append_left [c]

/-- A needle in a text that begins with it stands at the beginning, or begins inside that first one,
or stands behind it. -/
theorem StandsAt.cases_append (h : StandsAt needle offset (needle ++ cs) r) :
    r = ⟨offset, offset + byteLength needle⟩ ∨
      (offset < r.start ∧ r.start < offset + byteLength needle) ∨
      StandsAt needle (offset + byteLength needle) cs r := by
  obtain ⟨before, behind, hcs, rfl⟩ := h
  rw [List.append_assoc] at hcs
  rcases List.append_eq_append_iff.1 hcs with ⟨between, rfl, rfl⟩ | ⟨rest, hneedle, hcs⟩
  · refine .inr (.inr ⟨between, behind, by rw [List.append_assoc], ?_⟩)
    simp only [byteLength_append, Nat.add_assoc]
  · rcases eq_or_ne before [] with rfl | hbefore
    · exact .inl rfl
    rcases eq_or_ne rest [] with rfl | hrest
    · rw [List.append_nil] at hneedle
      rw [List.nil_append] at hcs
      exact .inr (.inr ⟨[], behind, hcs.symm, by rw [hneedle]; rfl⟩)
    · have split := congrArg byteLength hneedle
      rw [byteLength_append] at split
      have := byteLength_pos hbefore
      have := byteLength_pos hrest
      exact .inr (.inl (by dsimp only; omega))

/-- A search in a text that begins with the needle finds that one, and goes on behind it. -/
theorem leftmost_append {rs : List ByteRange}
    (h : Leftmost (StandsAt needle (offset + byteLength needle) cs) rs) :
    Leftmost (StandsAt needle offset (needle ++ cs)) (⟨offset, offset + byteLength needle⟩ :: rs) where
  found := by
    rw [List.forall_mem_cons]
    exact ⟨⟨[], cs, rfl, rfl⟩, fun r hr ↦ (h.found r hr).append_left needle⟩
  increasing := List.pairwise_cons.2 ⟨fun r hr ↦ (h.found r hr).offset_le, h.increasing⟩
  complete r hr := by
    rcases hr.cases_append with rfl | inside | later
    · exact .inl List.mem_cons_self
    · exact .inr ⟨_, List.mem_cons_self, inside⟩
    · rcases h.complete r later with hmem | ⟨r', hr', inside⟩
      · exact .inl (List.mem_cons_of_mem _ hmem)
      · exact .inr ⟨r', List.mem_cons_of_mem _ hr', inside⟩

/-- **The walk along a text finds the needle from the left.** -/
theorem leftmost_occurrences (hne : needle ≠ []) (offset : Nat) (cs : List Char) :
    Leftmost (StandsAt needle offset cs) (occurrences needle offset cs) := by
  fun_induction occurrences needle offset cs with
  | case1 offset =>
    refine ⟨nofun, .nil, ?_⟩
    rintro r ⟨before, behind, hcs, -⟩
    simp [hne] at hcs
  | case2 offset c cs starts stop ih =>
    obtain ⟨rest, hrest⟩ := List.isPrefixOf_iff_prefix.1 starts
    have dropped : cs.drop (needle.length - 1) = rest := by
      obtain ⟨d, ds, rfl⟩ := List.exists_cons_of_ne_nil hne
      obtain ⟨rfl, rfl⟩ := List.cons.inj hrest
      exact List.drop_left
    rw [dropped] at ih ⊢
    rw [← hrest]
    exact leftmost_append ih
  | case3 offset c cs starts ih =>
    exact ih.congr fun r ↦ standsAt_cons_iff fun h ↦ starts (List.isPrefixOf_iff_prefix.2 h)

end Chars

/-! ## The search in a line -/

theorem matchRanges_of_ne (h : query ≠ "") :
    matchRanges line query ignoreCase =
      Chars.occurrences (query.toList.map (foldChar ignoreCase)) 0
        (line.toList.map (foldChar ignoreCase)) := by
  have hempty : query.isEmpty = false := by simpa using h
  have folded (s : String) : ((if ignoreCase then lowerAscii else id) s).toList =
      s.toList.map (foldChar ignoreCase) := by
    cases ignoreCase with
    | true => exact String.toList_ofList
    | false => exact (List.map_id _).symm
  rw [matchRanges, hempty, if_neg Bool.false_ne_true, folded, folded]

/-- A query occurs in a line where the one stands in the other when both are in lower case. -/
theorem occursAt_iff_standsAt {r : ByteRange} :
    OccursAt line query ignoreCase r ↔
      Chars.StandsAt (query.toList.map (foldChar ignoreCase)) 0
        (line.toList.map (foldChar ignoreCase)) r := by
  rw [occursAt_iff_exists]
  constructor
  · rintro ⟨before, found, behind, rfl, hmatches, rfl⟩
    refine ⟨before.toList.map (foldChar ignoreCase), behind.toList.map (foldChar ignoreCase), ?_, ?_⟩
    · rw [String.toList_append, String.toList_append, List.map_append, List.map_append,
        matches_iff.1 hmatches]
    · rw [Chars.byteLength_map_foldChar, Chars.byteLength_map_foldChar, byteLength_toList,
        byteLength_toList, hmatches.utf8ByteSize_eq, Nat.zero_add]
  · rintro ⟨before, behind, hline, rfl⟩
    obtain ⟨front, last, hfront, hbefore, -⟩ := List.map_eq_append_iff.1 hline
    obtain ⟨first, middle, rfl, rfl, hquery⟩ := List.map_eq_append_iff.1 hbefore
    refine ⟨.ofList first, .ofList middle, .ofList last, ?_, ?_, ?_⟩
    · rw [← String.ofList_append, ← String.ofList_append, ← hfront, String.ofList_toList]
    · rw [matches_iff, String.toList_ofList, hquery]
    · rw [← hquery, Chars.byteLength_map_foldChar, Chars.byteLength_map_foldChar, Nat.zero_add,
        Chars.byteLength_eq, Chars.byteLength_eq]

/-- A search for something walks along the line from the left. -/
theorem leftmost_matchRanges_of_ne (line : String) (ignoreCase : Bool) (hne : query ≠ "") :
    Leftmost (OccursAt line query ignoreCase) (matchRanges line query ignoreCase) := by
  have needle_ne : query.toList.map (foldChar ignoreCase) ≠ [] := by simpa using hne
  rw [matchRanges_of_ne hne]
  exact (Chars.leftmost_occurrences needle_ne _ _).congr fun r ↦ occursAt_iff_standsAt

/-- **A search reports the leftmost occurrences of the query that do not overlap.**  An empty query
occurs nowhere.  For any other, what is reported are occurrences in the line as it was written, each
of them behind the one before it; there is no other occurrence that does not begin inside one of
these; and there is only one list of ranges of which all this is true. -/
theorem leftmost_matchRanges (line query : String) (ignoreCase : Bool) :
    (query = "" → matchRanges line query ignoreCase = []) ∧
    (query ≠ "" →
      Leftmost (OccursAt line query ignoreCase) (matchRanges line query ignoreCase) ∧
      ∀ rs, Leftmost (OccursAt line query ignoreCase) rs → rs = matchRanges line query ignoreCase) := by
  constructor
  · rintro rfl
    rfl
  · intro hne
    have search := leftmost_matchRanges_of_ne line ignoreCase hne
    exact ⟨search, fun rs hrs ↦ hrs.unique search fun r hr ↦ hr.start_lt_stop hne⟩

/-- The second occurrence begins inside the first one. -/
example : matchRanges "Bänänä" "ÄNÄ" true = [] ∧ matchRanges "Bänänä" "äNä" true = [⟨1, 6⟩] := by
  decide +kernel

/-! ## Lines with an occurrence -/

/-- A text that the query asks for stands somewhere in the line. -/
def Contains (ignoreCase : Bool) (line query : String) : Prop :=
  ∃ before found behind, line = before ++ found ++ behind ∧ Matches ignoreCase found query

/-- A query that is found with its case is found in any case. -/
theorem Contains.of_exact (h : Contains false line query) (ignoreCase : Bool) :
    Contains ignoreCase line query := by
  obtain ⟨before, found, behind, hline, hmatches⟩ := h
  exact ⟨before, found, behind, hline, hmatches.of_exact ignoreCase⟩

/-- Something is reported in the lines that contain the query. -/
theorem matchRanges_ne_nil_iff (hne : query ≠ "") :
    matchRanges line query ignoreCase ≠ [] ↔ Contains ignoreCase line query := by
  rw [(leftmost_matchRanges_of_ne line ignoreCase hne).ne_nil_iff]
  simp only [occursAt_iff_exists, Contains]
  constructor
  · rintro ⟨r, before, found, behind, hline, hmatches, -⟩
    exact ⟨before, found, behind, hline, hmatches⟩
  · rintro ⟨before, found, behind, hline, hmatches⟩
    exact ⟨_, before, found, behind, hline, hmatches, rfl⟩

end Text
end Jukebox
