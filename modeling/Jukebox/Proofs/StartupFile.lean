import Jukebox.Proofs.AliasExpansion
import Jukebox.Proofs.LineFeeds
import Jukebox.Startup

/-!
# The commands of a startup file

A startup file is read line by line, and no line has a say in what the others mean.  What a line says
is a command, trimmed, and without the colon that it may begin with; or nothing.

* `Startup.Skipped` are the lines that say nothing, and `Startup.bare` is a line without its colon.
* `Startup.command?_eq` is what a line says, in these terms, and `Startup.command?_eq_none_iff` that
  the lines that say nothing are those of `Skipped`.
* `Startup.commands_append` cuts a text at a line feed, and `Startup.commands_of_notMem` is one line.
* `Startup.Annotated` is about lines with others put in between.
* `Startup.read_line_by_line` is the outcome.
-/

set_option autoImplicit false

namespace Jukebox

/-! ## The first character that counts -/

namespace Text.Chars

variable {cs before rest : List Char} {c : Char}

/-- A text is blank, or it has a first character that is not. -/
theorem blank_or_exists (cs : List Char) :
    (∀ b ∈ cs, isBlank b = true) ∨ ∃ before c rest, (∀ b ∈ before, isBlank b = true) ∧
      isBlank c = false ∧ cs = before ++ c :: rest := by
  have whole := List.takeWhile_append_dropWhile (p := isBlank) (l := cs)
  have blanks : ∀ b ∈ cs.takeWhile isBlank, isBlank b = true := fun _ ↦ List.mem_takeWhile_imp
  have first := List.head?_dropWhile_not isBlank cs
  cases hd : cs.dropWhile isBlank with
  | nil =>
    rw [hd, List.append_nil] at whole
    exact .inl (whole ▸ blanks)
  | cons c rest =>
    rw [hd] at whole first
    exact .inr ⟨_, c, rest, blanks, by simpa using first, whole.symm⟩

theorem trim_of_first (hbefore : ∀ b ∈ before, isBlank b = true) (hc : isBlank c = false) :
    trim (before ++ c :: rest) = c :: trimEnd rest := by
  have word : ∀ ch ∈ [c], isBlank ch = false := by simpa using hc
  rw [trim_blanks_append hbefore, ← List.singleton_append,
    trim_word_append (List.cons_ne_nil _ _) word, List.singleton_append]

theorem find?_of_first (hbefore : ∀ b ∈ before, isBlank b = true) (hc : isBlank c = false) :
    (before ++ c :: rest).find? (!isBlank ·) = some c := by
  rw [List.find?_append, List.find?_eq_none.2 (by simpa using hbefore)]
  simp [hc]

/-- Trimming at both ends leaves nothing exactly if trimming at one end does. -/
theorem trim_eq_nil_iff : trim cs = [] ↔ trimEnd cs = [] := by
  obtain ⟨bs, split, hbs⟩ := exists_append_blanks cs
  constructor
  · intro h
    rcases blank_or_exists cs with blank | ⟨before, c, rest, hbefore, hc, rfl⟩
    · rw [← List.nil_append cs, trimEnd_append_blanks blank]
      rfl
    · rw [trim_of_first hbefore hc] at h
      cases h
  · intro h
    rw [split, h, trim_append_blanks hbs]
    rfl

theorem trim_trimEnd (cs : List Char) : trim (trimEnd cs) = trim cs := by
  obtain ⟨bs, split, hbs⟩ := exists_append_blanks cs
  conv_rhs => rw [split, trim_append_blanks hbs]

theorem mem_of_mem_trim {cs : List Char} (h : c ∈ trim cs) : c ∈ cs := by
  have kept := trimEnd_prefix (trimStart cs)
  exact (List.dropWhile_sublist isBlank).subset (kept.subset h)

end Text.Chars

namespace Startup

open Text

variable {line c : String}

/-! ## What a line says -/

/-- A line that says nothing: it is blank, or a comment, or a colon with nothing behind it. -/
inductive Skipped (line : String) : Prop
  | blank (h : isAllBlank line = true)
  /-- The first character that is not blank is a double quote. -/
  | comment (h : line.toList.find? (!isBlank ·) = some '"')
  | colon (h : trim line = ":")

/-- A line without the colon that it begins with, if it does, after any blanks. -/
def bare (line : String) : String :=
  let rest := line.toList.dropWhile isBlank
  .ofList (line.toList.takeWhile isBlank ++ if rest.head? = some ':' then rest.tail else rest)

/-! A line that is not blank is taken apart into the blanks at its beginning, its first character that
is not blank, and the rest. -/

section First

variable {before rest : List Char} {first : Char}

theorem toList_bare_of_first (hbefore : ∀ b ∈ before, isBlank b = true)
    (hfirst : isBlank first = false) (h : line.toList = before ++ first :: rest) :
    (bare line).toList = before ++ if first = ':' then rest else first :: rest := by
  have found : (first :: rest).dropWhile isBlank = first :: rest := by simp [hfirst]
  have behind : (first :: rest).takeWhile isBlank = [] := by simp [hfirst]
  simp only [bare, String.toList_ofList, h, List.takeWhile_append_of_pos hbefore, behind,
    List.append_nil, List.dropWhile_append_of_pos hbefore, found, List.head?_cons, Option.some_inj,
    List.tail_cons]

theorem toList_trim_bare_of_first (hbefore : ∀ b ∈ before, isBlank b = true)
    (hfirst : isBlank first = false) (h : line.toList = before ++ first :: rest) :
    (trim (bare line)).toList =
      if first = ':' then Chars.trim rest else first :: Chars.trimEnd rest := by
  rw [toList_trim, toList_bare_of_first hbefore hfirst h]
  split
  · exact Chars.trim_blanks_append hbefore
  · exact Chars.trim_of_first hbefore hfirst

/-- What a line says that is not blank. -/
theorem command?_of_first (hbefore : ∀ b ∈ before, isBlank b = true)
    (hfirst : isBlank first = false) (h : line.toList = before ++ first :: rest) :
    command? line =
      if first = '"' ∨ trim (bare line) = "" then none else some (trim (bare line)) := by
  have left : trim (bare line) =
      .ofList (if first = ':' then Chars.trim rest else first :: Chars.trimEnd rest) := by
    rw [← toList_trim_bare_of_first hbefore hfirst h, String.ofList_toList]
  simp only [command?, h, Chars.trim_of_first hbefore hfirst, left, String.ofList_eq_empty_iff]
  by_cases quote : first = '"'
  · simp [quote]
  · by_cases colon : first = ':'
    · simp [colon, Chars.trim_trimEnd]
    · simp [quote, colon]

/-- There is nothing behind the colon exactly if the colon is all that there is. -/
theorem trim_eq_colon_iff (hbefore : ∀ b ∈ before, isBlank b = true)
    (hfirst : isBlank first = false) (h : line.toList = before ++ first :: rest) :
    trim line = ":" ↔ first = ':' ∧ trim (bare line) = "" := by
  rw [← String.toList_inj, ← String.toList_inj, toList_trim_bare_of_first hbefore hfirst h,
    toList_trim, h, Chars.trim_of_first hbefore hfirst]
  by_cases colon : first = ':'
  · simp [colon, Chars.trim_eq_nil_iff]
  · simp [colon]

end First

theorem trim_bare_of_blank (h : isAllBlank line = true) : trim (bare line) = "" := by
  have nothing : line.toList.dropWhile isBlank = [] := by simpa using isAllBlank_iff.1 h
  have same : bare line = line := by
    simp only [bare, nothing, List.head?_nil, reduceCtorEq, if_false, List.append_nil]
    rw [List.takeWhile_eq_self_iff.2 (isAllBlank_iff.1 h), String.ofList_toList]
  rw [same, trim_of_isAllBlank h]

/-- **What a line says is what is left of it without its colon,** unless it is a comment. -/
theorem command?_eq (line : String) :
    command? line =
      if line.toList.find? (!isBlank ·) = some '"' ∨ trim (bare line) = "" then none
      else some (trim (bare line)) := by
  rcases Chars.blank_or_exists line.toList with blank | ⟨before, first, rest, hbefore, hfirst, h⟩
  · have nothing : Chars.trim line.toList = [] := by
      rw [← toList_trim, trim_of_isAllBlank (isAllBlank_iff.2 blank), String.toList_empty]
    rw [if_pos (.inr (trim_bare_of_blank (isAllBlank_iff.2 blank))), command?, nothing]
    rfl
  · rw [command?_of_first hbefore hfirst h, h, Chars.find?_of_first hbefore hfirst]
    simp only [Option.some_inj]

/-- **The lines that say nothing are the skipped ones.** -/
theorem command?_eq_none_iff : command? line = none ↔ Skipped line := by
  rcases Chars.blank_or_exists line.toList with blank | ⟨before, first, rest, hbefore, hfirst, h⟩
  · have nothing := isAllBlank_iff.2 blank
    exact iff_of_true ((command?_eq line).trans (if_pos (.inr (trim_bare_of_blank nothing))))
      (.blank nothing)
  have found : (before ++ first :: rest).find? (!isBlank ·) = some first :=
    Chars.find?_of_first hbefore hfirst
  have colon_iff := trim_eq_colon_iff hbefore hfirst h
  have left := toList_trim_bare_of_first hbefore hfirst h
  rw [command?_of_first hbefore hfirst h, ite_eq_left_iff]
  constructor
  · intro silent
    by_cases quote : first = '"'
    · exact .comment (by rw [h, found, quote])
    have empty : trim (bare line) = "" := by simpa [quote] using silent
    refine .colon (colon_iff.2 ⟨?_, empty⟩)
    by_contra other
    rw [empty, if_neg other] at left
    cases left
  · rintro (blank | comment | colon) speaks
    · exact absurd (.inr (trim_bare_of_blank blank)) speaks
    · rw [h, found, Option.some_inj] at comment
      exact absurd (.inl comment) speaks
    · exact absurd (.inr (colon_iff.1 colon).2) speaks

theorem mem_of_mem_trim_bare {ch : Char} (h : ch ∈ (trim (bare line)).toList) :
    ch ∈ line.toList := by
  rw [toList_trim, bare, String.toList_ofList] at h
  rw [← List.takeWhile_append_dropWhile (p := isBlank) (l := line.toList), List.mem_append]
  rcases List.mem_append.1 (Text.Chars.mem_of_mem_trim h) with h | h
  · exact .inl h
  · split at h
    · exact .inr (List.mem_of_mem_tail h)
    · exact .inr h

/-- What a line says is not empty, is trimmed, holds what the line holds, and is the same command as
the line without its colon. -/
theorem of_command?_eq_some (h : command? line = some c) :
    c ≠ "" ∧ Trimmed c ∧ (∀ ch ∈ c.toList, ch ∈ line.toList) ∧
      Command.ofLine c = Command.ofLine (bare line) := by
  rw [command?_eq] at h
  split at h
  · cases h
  · rename_i speaks
    rw [not_or] at speaks
    obtain rfl := Option.some.inj h
    refine ⟨speaks.2, trimmed_trim _, fun ch ↦ mem_of_mem_trim_bare, ?_⟩
    rw [trim, Command.ofLine_ofList_trim, String.ofList_toList]

/-- What trimming leaves of two lines alike, they say alike. -/
theorem command?_congr {line' : String}
    (h : Chars.trim line.toList = Chars.trim line'.toList) : command? line = command? line' := by
  unfold command?
  rw [h]

/-! ## Line by line -/

theorem commands_append_feed (h : '\n' ∉ line.toList) (rest : String) :
    commands (line ++ "\n" ++ rest) = (command? line).toList ++ commands rest := by
  have same : command? (.ofList (Chars.withoutReturn line.toList)) = command? line :=
    command?_congr (by rw [String.toList_ofList, Chars.trim_withoutReturn])
  rw [commands, lines_append_feed h, List.filterMap_cons, same]
  cases command? line <;> rfl

theorem commands_of_notMem (h : '\n' ∉ line.toList) : commands line = (command? line).toList := by
  rcases eq_or_ne line "" with rfl | nonempty
  · rfl
  · rw [commands, lines_of_notMem h nonempty, List.filterMap_cons]
    cases command? line <;> rfl

/-- **A line feed keeps the commands before it and behind it apart.** -/
theorem commands_append (s t : String) : commands (s ++ "\n" ++ t) = commands s ++ commands t := by
  induction s using feed_induction with
  | last line h => rw [commands_append_feed h, commands_of_notMem h]
  | feed line rest h ih =>
    have moved : line ++ "\n" ++ rest ++ "\n" ++ t = line ++ "\n" ++ (rest ++ "\n" ++ t) := by
      simp only [String.append_assoc]
    rw [moved, commands_append_feed h, commands_append_feed h, ih, List.append_assoc]

/-- Carriage returns before the line feeds make no difference. -/
theorem commands_withReturns (s : String) : commands (withReturns s) = commands s := by
  induction s using feed_induction with
  | last line h => rw [withReturns_of_notMem h]
  | feed line rest h ih =>
    have returned : withReturns (line ++ "\n" ++ rest) =
        line ++ "\r" ++ "\n" ++ withReturns rest := by
      rw [withReturns_append, withReturns_append, withReturns_of_notMem h, String.append_assoc,
        String.append_assoc, String.append_assoc]
      rfl
    have no_feed : '\n' ∉ (line ++ "\r").toList := by simpa using h
    have same : command? (line ++ "\r") = command? line := by
      refine command?_congr ?_
      rw [String.toList_append]
      exact Chars.trim_append_return _
    rw [returned, commands_append_feed no_feed, commands_append_feed h, same, ih]

theorem commands_intercalate (ls : List String) :
    commands ("\n".intercalate ls) = ls.flatMap commands := by
  induction ls with
  | nil => rfl
  | cons line ls ih =>
    cases ls with
    | nil => rw [String.intercalate_singleton, List.flatMap_singleton]
    | cons next ls =>
      rw [String.intercalate_cons_cons, commands_append, ih, ← List.flatMap_cons]

/-- Lines with others put before, between and behind them that say nothing. -/
inductive Annotated : List String → List String → Prop
  | nil : Annotated [] []
  | keep (line : String) {ls ls' : List String} (h : Annotated ls ls') :
      Annotated (line :: ls) (line :: ls')
  | insert {line : String} (skipped : Skipped line) (single : '\n' ∉ line.toList)
      {ls ls' : List String} (h : Annotated ls ls') : Annotated ls (line :: ls')

theorem Annotated.flatMap_commands {ls ls' : List String} (h : Annotated ls ls') :
    ls'.flatMap commands = ls.flatMap commands := by
  induction h with
  | nil => rfl
  | keep line _ ih => rw [List.flatMap_cons, List.flatMap_cons, ih]
  | insert skipped single _ ih =>
    rw [List.flatMap_cons, commands_of_notMem single, command?_eq_none_iff.2 skipped,
      Option.toList_none, List.nil_append, ih]

/-- The commands of a text are not empty, trimmed, and on one line each. -/
theorem of_mem_commands {s : String} (h : c ∈ commands s) :
    c ≠ "" ∧ Trimmed c ∧ '\n' ∉ c.toList := by
  obtain ⟨line, hline, said⟩ := List.mem_filterMap.1 h
  obtain ⟨nonempty, trimmed, held, -⟩ := of_command?_eq_some said
  exact ⟨nonempty, trimmed, fun feed ↦ newline_notMem_of_mem_lines hline (held _ feed)⟩

/-- **A startup file is read line by line, and nothing leaks from one line into another.**  A line
feed keeps the commands before it and behind it apart; carriage returns before the line feeds, and
lines that say nothing, make no difference.  A command is not empty, is trimmed, and stands on one
line.  A line says nothing if it is skipped, and otherwise one command, which is executed as the line
without its colon would be. -/
theorem read_line_by_line {σ : Type} [Client σ] :
    (∀ s t, commands (s ++ "\n" ++ t) = commands s ++ commands t) ∧
      (∀ s, commands (withReturns s) = commands s) ∧
      (∀ ls ls', Annotated ls ls' →
        commands ("\n".intercalate ls') = commands ("\n".intercalate ls)) ∧
      (∀ s, ∀ c ∈ commands s, c ≠ "" ∧ Trimmed c ∧ '\n' ∉ c.toList) ∧
      ∀ line, '\n' ∉ line.toList → (Skipped line → commands line = []) ∧
        (¬ Skipped line → ∃ c, commands line = [c] ∧
          ∀ s : Session σ, s.executeLine c = s.executeLine (bare line)) := by
  refine ⟨commands_append, commands_withReturns, ?_, fun s c ↦ of_mem_commands, ?_⟩
  · intro ls ls' annotated
    rw [commands_intercalate, commands_intercalate, annotated.flatMap_commands]
  · intro line single
    rw [commands_of_notMem single]
    constructor
    · intro skipped
      rw [command?_eq_none_iff.2 skipped, Option.toList_none]
    · intro speaks
      obtain ⟨c, said⟩ := Option.ne_none_iff_exists'.1 (command?_eq_none_iff.not.2 speaks)
      obtain ⟨-, -, -, same⟩ := of_command?_eq_some said
      refine ⟨c, by rw [said, Option.toList_some], fun s ↦ ?_⟩
      rw [Session.executeLine, Session.executeLine, same]

/-- One colon is dropped and no more, a comment may be indented, and a carriage return that no line
feed follows ends no line. -/
example : commands "  ::play\r\n\t\" a comment\n : \nset polling\recho" =
    [":play", "set polling\recho"] := by
  decide

end Startup
end Jukebox
