import Jukebox.Client.Canned
import Jukebox.Proofs.Occurrences
import Jukebox.Proofs.WellFormed

/-!
# What a search of the queue finds

Searching the queue looks for a trimmed pattern in the lines of the listing as the server printed
them, and keeps the lines trimmed.  This file says which positions are found, that what is kept of a
line still shows the pattern, and what the user is told.

* `Text.Contains.trim`: trimming a line takes nothing away from a trimmed text in it.
* `Search.Finds` says what the matches of a search have to be, and `Search.finds_run` that they are.
* `Search.report_run` is what is told of a search, and `StatusLine.showing_of_trimmed` that it is
  shown as it is.
* `Builtin.search_finds` is the outcome for the operation.
-/

set_option autoImplicit false

namespace Jukebox

/-! ## Trimming a line that contains the pattern -/

namespace Text

variable {ignoreCase : Bool} {line query found : String}

/-- Letters are no blanks, in either case. -/
theorem isBlank_toLower (c : Char) : isBlank c.toLower = isBlank c := by
  rcases toLower_cases c with ⟨lower, upper, code⟩ | same
  · have capital : isBlank c = false := isBlank_of_printable (by omega) (by omega)
    have small : isBlank c.toLower = false := isBlank_of_printable (by omega) (by omega)
    rw [capital, small]
  · rw [same]

theorem isBlank_foldChar (ignoreCase : Bool) (c : Char) :
    isBlank (foldChar ignoreCase c) = isBlank c := by
  cases ignoreCase with
  | true => exact isBlank_toLower c
  | false => rfl

/-- What a trimmed text asks for is trimmed. -/
theorem Matches.trimmed (h : Matches ignoreCase found query) (ht : Trimmed query) :
    Trimmed found := by
  have same := matches_iff.1 h
  -- an end of the one is an end of the other, but for its case
  have agree {c : Char} {ends : List Char → Option Char}
      (hends : ∀ l, ends (l.map (foldChar ignoreCase)) = (ends l).map (foldChar ignoreCase))
      (hquery : ∀ d, ends query.toList = some d → isBlank d = false)
      (hc : ends found.toList = some c) : isBlank c = false := by
    have hd := hends query.toList
    rw [← same, hends, hc] at hd
    obtain ⟨d, hd, hcd⟩ := Option.map_eq_some_iff.1 hd.symm
    rw [← isBlank_foldChar ignoreCase c, ← hcd, isBlank_foldChar]
    exact hquery d hd
  exact ⟨fun c ↦ agree (fun l ↦ List.head?_map) ht.start,
    fun c ↦ agree (fun l ↦ List.getLast?_map) ht.stop⟩

theorem Matches.ne_empty (h : Matches ignoreCase found query) (hne : query ≠ "") : found ≠ "" := by
  rintro rfl
  have none_left := matches_iff.1 h
  exact hne (by simpa using none_left.symm)

/-- **Trimming a line takes no trimmed text away from it.** -/
theorem Contains.trim (h : Contains ignoreCase line query) (ht : Trimmed query) (hne : query ≠ "") :
    Contains ignoreCase (trim line) query := by
  obtain ⟨before, found, behind, rfl, hmatches⟩ := h
  have ends := hmatches.trimmed ht
  have some_left : found.toList ≠ [] := fun he ↦
    hmatches.ne_empty hne (String.toList_eq_nil_iff.1 he)
  refine ⟨.ofList (Chars.trimStart before.toList), found, .ofList (Chars.trimEnd behind.toList), ?_,
    hmatches⟩
  rw [Text.trim, String.toList_append, String.toList_append,
    Chars.trim_append some_left ends.start ends.stop, String.ofList_append, String.ofList_append,
    String.ofList_toList]

end Text

/-! ## The status line -/

/-- A trimmed message is shown as it is. -/
theorem StatusLine.showing_of_trimmed {kind : String → StatusLine} {text : String}
    (h : Text.Trimmed text) (hne : text ≠ "") : showing kind text = kind text := by
  have shown : text.isEmpty = false := by simpa using hne
  rw [showing, Text.trim_of_trimmed h, shown]
  rfl

/-! ## The matches -/

namespace Search

variable {pattern listing : String} {ignoreCase : Bool}

/-- The matches of a search in a listing: in the order of the queue, one for each line that contains
the pattern and no others, each with its position from one on and the line trimmed, in which the
pattern can still be marked. -/
structure Finds (pattern listing : String) (ignoreCase : Bool) (hits : List Hit) : Prop where
  increasing : hits.Pairwise fun hit hit' ↦ hit.position < hit'.position
  mem_iff (hit : Hit) : hit ∈ hits ↔ ∃ i line, (Text.lines listing)[i]? = some line ∧
    Text.Contains ignoreCase line pattern ∧ hit = ⟨i + 1, Text.trim line⟩
  marked : ∀ hit ∈ hits, Text.matchRanges hit.line pattern ignoreCase ≠ []

theorem mem_hits_run {hit : Hit} :
    hit ∈ (run pattern listing ignoreCase).hits ↔ ∃ i line, (Text.lines listing)[i]? = some line ∧
      Text.matchRanges line pattern ignoreCase ≠ [] ∧ hit = ⟨i + 1, Text.trim line⟩ := by
  rw [run, List.mem_filterMap]
  constructor
  · rintro ⟨⟨line, n⟩, hmem, hhit⟩
    obtain ⟨hn, hline⟩ := List.mk_mem_zipIdx_iff_le_and_getElem?_sub.1 hmem
    dsimp only at hhit
    split at hhit
    · cases hhit
    · rename_i hranges
      refine ⟨n - 1, line, hline, hranges, ?_⟩
      rw [Nat.sub_add_cancel hn]
      exact (Option.some.inj hhit).symm
  · rintro ⟨i, line, hline, hranges, rfl⟩
    exact ⟨(line, i + 1), List.mk_mem_zipIdx_iff_le_and_getElem?_sub.2 ⟨Nat.le_add_left 1 i, hline⟩,
      if_neg hranges⟩

/-- A search finds what it should. -/
theorem finds_run (ht : Text.Trimmed pattern) (hne : pattern ≠ "") :
    Finds pattern listing ignoreCase (run pattern listing ignoreCase).hits where
  increasing := (wellFormed_run pattern listing ignoreCase).increasing
  mem_iff hit := by
    rw [mem_hits_run]
    simp only [Text.matchRanges_ne_nil_iff hne]
  marked hit h := by
    obtain ⟨i, line, -, hranges, rfl⟩ := mem_hits_run.1 h
    exact (Text.matchRanges_ne_nil_iff hne).2
      (((Text.matchRanges_ne_nil_iff hne).1 hranges).trim ht hne)

/-- What is found with regard to case is found without. -/
theorem Finds.subset {hits hits' : List Hit} (h : Finds pattern listing false hits)
    (h' : Finds pattern listing ignoreCase hits') : hits ⊆ hits' := by
  intro hit hmem
  obtain ⟨i, line, hline, hcontains, rfl⟩ := (h.mem_iff hit).1 hmem
  exact (h'.mem_iff _).2 ⟨i, line, hline, hcontains.of_exact ignoreCase, rfl⟩

/-- What the user is told when matches have been found, or none. -/
def summary (pattern : String) (hits : List Hit) : String :=
  match hits.head? with
  | none => "Pattern not found: " ++ pattern
  | some hit => "[1/" ++ toString hits.length ++ "] " ++ toString hit.position ++ ": " ++ hit.line

theorem report_run (hne : pattern ≠ "") :
    (run pattern listing ignoreCase).report =
      summary pattern (run pattern listing ignoreCase).hits := by
  have named : pattern.isEmpty = false := by simpa using hne
  have first : "[" ++ toString (0 + 1) ++ "/" = "[1/" := rfl
  rw [report, current?, show (run pattern listing ignoreCase).active = 0 from rfl, first, summary,
    List.head?_eq_getElem?, show (run pattern listing ignoreCase).query = pattern from rfl, named]
  cases (run pattern listing ignoreCase).hits[0]? <;> rfl

/-- A line in which something is found is trimmed and not empty. -/
theorem Finds.trimmed {hits : List Hit} (h : Finds pattern listing ignoreCase hits)
    (hne : pattern ≠ "") {hit : Hit} (hmem : hit ∈ hits) :
    Text.Trimmed hit.line ∧ hit.line ≠ "" := by
  constructor
  · obtain ⟨i, line, -, -, rfl⟩ := (h.mem_iff hit).1 hmem
    exact Text.trimmed_trim line
  · intro he
    have marked := h.marked hit hmem
    rw [he, Text.matchRanges_of_ne hne] at marked
    exact marked (by rw [String.toList_empty, List.map_nil, Text.Chars.occurrences])

/-- What the user is told needs no trimming. -/
theorem Finds.trimmed_summary {hits : List Hit} (h : Finds pattern listing ignoreCase hits)
    (ht : Text.Trimmed pattern) (hne : pattern ≠ "") :
    Text.Trimmed (summary pattern hits) ∧ summary pattern hits ≠ "" := by
  rw [summary]
  split
  · exact ⟨Text.trimmed_append (c := 'P') (by simp) rfl ht.stop hne, by simp⟩
  · rename_i hit first
    obtain ⟨line_trimmed, line_ne⟩ := h.trimmed hne (List.mem_of_head? first)
    exact ⟨Text.trimmed_append (c := '[') (by simp) rfl line_trimmed.stop line_ne, by simp⟩

end Search

/-! ## The operation -/

namespace Builtin

open CommandM

variable {σ : Type} [Client σ] {args listing : String}

/-- What a search of the queue leaves behind if the server has listed the queue. -/
theorem search_of_answer (s : Scope σ) (hne : Text.trim args ≠ "")
    (answer : (Client.run "playlist" s.console.client).1 = .ok listing) :
    let found := Search.run (Text.trim args) listing s.console.settings.ignorecase
    (act (search args) s).1 = .ok () ∧ (act (search args) s).2.console.search = found ∧
      (act (search args) s).2.console.status = .showing .info found.report := by
  have named : ¬(Text.trim args).isEmpty = true := by simpa using hne
  rw [act_search, if_neg named]
  generalize Client.run "playlist" s.console.client = x at answer ⊢
  obtain ⟨_, client⟩ := x
  obtain rfl : _ = Except.ok listing := answer
  dsimp only [Scope.mapConsole, Scope.withClient, Console.info]
  exact ⟨rfl, rfl, rfl⟩

/-- **A search finds the lines of the queue that contain the pattern.**  It succeeds if the server
lists the queue, whatever it lists.  Then the matches are the lines that contain the trimmed pattern,
each under its position and with the pattern in it still; the user is told of the first of them, or
that there is none; and what is found with regard to case is found without as well. -/
theorem search_finds (s : Scope σ) (hne : Text.trim args ≠ "") :
    ((act (search args) s).1 = .ok () ↔
      ∃ listing, (Client.run "playlist" s.console.client).1 = .ok listing) ∧
    ∀ listing, (Client.run "playlist" s.console.client).1 = .ok listing →
      let console := (act (search args) s).2.console
      Search.Finds (Text.trim args) listing s.console.settings.ignorecase console.search.hits ∧
      console.status = .info (Search.summary (Text.trim args) console.search.hits) ∧
      ∀ s' : Scope σ, (Client.run "playlist" s'.console.client).1 = .ok listing →
        s.console.settings.ignorecase = false → s'.console.settings.ignorecase = true →
        console.search.hits ⊆ (act (search args) s').2.console.search.hits := by
  have ht := Text.trimmed_trim args
  constructor
  · constructor
    · intro succeeded
      have named : ¬(Text.trim args).isEmpty = true := by simpa using hne
      rw [act_search, if_neg named] at succeeded
      generalize Client.run "playlist" s.console.client = x at succeeded ⊢
      obtain ⟨_ | listing, client⟩ := x
      · cases succeeded
      · exact ⟨listing, rfl⟩
    · rintro ⟨listing, answer⟩
      exact (search_of_answer s hne answer).1
  · intro listing answer
    obtain ⟨-, searched, told⟩ := search_of_answer s hne answer
    have finds : Search.Finds (Text.trim args) listing s.console.settings.ignorecase _ :=
      Search.finds_run ht hne
    obtain ⟨summary_trimmed, summary_ne⟩ := finds.trimmed_summary ht hne
    dsimp only
    rw [searched, told, Search.report_run hne, StatusLine.showing_of_trimmed summary_trimmed summary_ne]
    refine ⟨finds, rfl, fun s' answer' off on ↦ ?_⟩
    obtain ⟨-, searched', -⟩ := search_of_answer s' hne answer'
    rw [off] at finds ⊢
    rw [searched', on]
    exact finds.subset (Search.finds_run ht hne)

/-- Blank lines count, and blanks at the ends of a line are not kept.  One line is found only if the case
of letters is ignored. -/
theorem search_finds_among_blank_lines :
    let listing := "\r\n  Abba \r\n\nBach\r\n\tAlban Berg\n"
    let s (ignorecase : Bool) : Scope Reciting :=
      ⟨{ client := ⟨listing⟩, settings := { ignorecase } }, ∅⟩
    let found (ignorecase : Bool) := (act (search " ba ") (s ignorecase)).2.console
    Text.trim " ba " ≠ "" ∧
      (found true).search.hits = [⟨2, "Abba"⟩, ⟨4, "Bach"⟩, ⟨5, "Alban Berg"⟩] ∧
      (found true).status = .info "[1/3] 2: Abba" ∧
      (found false).search.hits = [⟨2, "Abba"⟩, ⟨5, "Alban Berg"⟩] ∧
      (found false).status = .info "[1/2] 2: Abba" ∧
      (found false).search.hits ⊆ (found true).search.hits := by
  intro listing s found
  have hne : Text.trim " ba " ≠ "" := by decide
  have all : (found true).search.hits = [⟨2, "Abba"⟩, ⟨4, "Bach"⟩, ⟨5, "Alban Berg"⟩] := by
    decide +kernel
  have some : (found false).search.hits = [⟨2, "Abba"⟩, ⟨5, "Alban Berg"⟩] := by decide +kernel
  obtain ⟨-, told, -⟩ := (search_finds (s true) hne).2 listing rfl
  obtain ⟨-, told', subset⟩ := (search_finds (s false) hne).2 listing rfl
  rw [show (act (search " ba ") (s true)).2.console.search.hits = _ from all] at told
  rw [show (act (search " ba ") (s false)).2.console.search.hits = _ from some] at told'
  exact ⟨hne, all, told, some, told', subset (s true) rfl rfl rfl⟩

end Builtin
end Jukebox
