import Jukebox.Command.Alias
import Jukebox.Proofs.Trimming
import Jukebox.Proofs.Words

/-!
# Splitting a line

A line is split at its first word, and so is the text of a definition, by a function of its own.
This file says what a split is without saying how to find it, and that both functions find it.

* `Command.StandsOn` says how a command is written on a line, with blanks around its two parts.
* `Command.ofLine_written` reads a command off the line that it is written on, and
  `Command.standsOn_ofLine` writes a line as what is read off it; `Command.ofLine_append` is the case
  of a line that begins with a word.
* `Command.aliasDefinition?_eq` compares definitions with commands.
* `Command.unique_split` is the outcome.
-/

set_option autoImplicit false

namespace Jukebox

/-! ## Words and blanks at the beginning of a text -/

namespace Text

theorem isAllBlank_iff {s : String} : isAllBlank s = true ↔ ∀ b ∈ s.toList, isBlank b = true := by
  simp [isAllBlank]

/-- Nothing is left of blanks. -/
theorem trim_of_isAllBlank {s : String} (blank : isAllBlank s = true) : trim s = "" := by
  have nothing : Chars.trim (s.toList ++ []) = Chars.trim [] :=
    Chars.trim_blanks_append (isAllBlank_iff.1 blank)
  rw [List.append_nil] at nothing
  rw [trim, nothing]
  rfl

namespace Chars

variable {cs word : List Char}

/-- Trimming does not get into a word at the beginning. -/
theorem trim_word_append (hne : word ≠ []) (h : ∀ c ∈ word, isBlank c = false) (cs : List Char) :
    trim (word ++ cs) = word ++ trimEnd cs := by
  have kept : trim ([] ++ word ++ cs) = trimStart [] ++ word ++ trimEnd cs :=
    trim_append hne (fun c hc ↦ h c (List.mem_of_head? hc)) fun c hc ↦ h c (List.mem_of_getLast? hc)
  exact kept

/-- A word with a blank behind it, or nothing at all, is found whole. -/
theorem takeWhile_word_append (h : ∀ c ∈ word, isBlank c = false)
    (hcs : ∀ c, cs.head? = some c → isBlank c = true) :
    (word ++ cs).takeWhile (!isBlank ·) = word ∧ (word ++ cs).dropWhile (!isBlank ·) = cs := by
  have whole : ∀ c ∈ word, (!isBlank c) = true := by simpa using h
  rw [List.takeWhile_append_of_pos whole, List.dropWhile_append_of_pos whole]
  cases cs with
  | nil => simp
  | cons c cs => simp [hcs c rfl]

/-- What stands behind the first word of a text begins with a blank. -/
theorem of_head?_dropWhile {c : Char} (h : (cs.dropWhile (!isBlank ·)).head? = some c) :
    isBlank c = true := by
  have first := List.head?_dropWhile_not (!isBlank ·) cs
  rw [h] at first
  simpa using first

/-- Only blanks have no word at the beginning when they are trimmed. -/
theorem trim_eq_nil_of_takeWhile (h : (trim cs).takeWhile (!isBlank ·) = []) : trim cs = [] := by
  have whole := List.takeWhile_append_dropWhile (p := (!isBlank ·)) (l := trim cs)
  rw [h, List.nil_append] at whole
  cases kept : trim cs with
  | nil => rfl
  | cons c rest =>
    have first : (trim cs).head? = some c := by rw [kept, List.head?_cons]
    have blank := of_head?_dropWhile (whole.symm ▸ first)
    rw [of_head?_trim first] at blank
    cases blank

/-- A text is its first word and what is left behind that, with blanks around them, and with some in
between if anything is left. -/
theorem exists_blanks_word (cs : List Char) :
    ∃ before between behind, (∀ b ∈ before, isBlank b = true) ∧ (∀ b ∈ between, isBlank b = true) ∧
      (∀ b ∈ behind, isBlank b = true) ∧
      (trim ((trim cs).dropWhile (!isBlank ·)) ≠ [] → between ≠ []) ∧
      cs = before ++ ((trim cs).takeWhile (!isBlank ·) ++ (between ++
        (trim ((trim cs).dropWhile (!isBlank ·)) ++ behind))) := by
  obtain ⟨before, behind, hcs, hbefore, hbehind⟩ := exists_blanks_trim cs
  obtain ⟨between, after, hrest, hbetween, hafter⟩ :=
    exists_blanks_trim ((trim cs).dropWhile (!isBlank ·))
  refine ⟨before, between, after ++ behind, hbefore, hbetween, ?_, ?_, ?_⟩
  · intro b hb
    rcases List.mem_append.1 hb with hb | hb
    · exact hafter b hb
    · exact hbehind b hb
  · -- without a blank in between, what is left would begin with a blank and with none
    rintro some_left rfl
    obtain ⟨c, rest, left⟩ := List.exists_cons_of_ne_nil some_left
    have first : (trim ((trim cs).dropWhile (!isBlank ·))).head? = some c := by
      rw [left, List.head?_cons]
    have blank : isBlank c = true := by
      apply @of_head?_dropWhile (trim cs)
      rw [hrest, List.nil_append, List.head?_append_of_ne_nil _ some_left, first]
    rw [of_head?_trim first] at blank
    cases blank
  · conv_lhs =>
      rw [hcs, ← List.takeWhile_append_dropWhile (p := (!isBlank ·)) (l := trim cs), hrest]
    simp only [List.append_assoc]

/-- A text that can be cut has a first word and a blank behind it. -/
theorem of_splitAtBlank?_eq_some {word rest : List Char}
    (h : splitAtBlank? cs = some (word, rest)) :
    cs.takeWhile (!isBlank ·) = word ∧
      ∃ b, isBlank b = true ∧ cs.dropWhile (!isBlank ·) = b :: rest := by
  rw [splitAtBlank?] at h
  split at h
  · cases h
  · rename_i b rest hdrop
    cases h
    exact ⟨rfl, b, of_head?_dropWhile (by rw [hdrop]; rfl), hdrop⟩

/-- A text that cannot be cut is a word. -/
theorem of_splitAtBlank?_eq_none (h : splitAtBlank? cs = none) :
    cs.takeWhile (!isBlank ·) = cs ∧ cs.dropWhile (!isBlank ·) = [] := by
  have whole := List.takeWhile_append_dropWhile (p := (!isBlank ·)) (l := cs)
  rw [splitAtBlank?] at h
  split at h
  · rename_i hdrop
    rw [hdrop, List.append_nil] at whole
    exact ⟨whole, hdrop⟩
  · cases h

end Chars

end Text

namespace Command

open Text

variable {line name args before between behind : String} {c : Command}

/-! ## What a split is -/

/-- How a command stands on a line: its name is free of blanks and its arguments are trimmed; around
the two there is nothing but blanks, and there are some in between if there are arguments.  There is
no name on a blank line only. -/
structure StandsOn (c : Command) (line : String) : Prop where
  name : ∀ ch ∈ c.name.toList, isBlank ch = false
  args : Trimmed c.args
  nameless (h : c.name = "") : isAllBlank line = true ∧ c.args = ""
  written : ∃ before between behind, isAllBlank before = true ∧ isAllBlank between = true ∧
    isAllBlank behind = true ∧ (c.args ≠ "" → between ≠ "") ∧
    line = before ++ c.name ++ between ++ c.args ++ behind

/-! ## Reading what is written -/

/-- There is nothing on a blank line. -/
theorem ofLine_of_isAllBlank (h : isAllBlank line = true) : ofLine line = ⟨"", ""⟩ := by
  have nothing : Chars.trim line.toList = [] := by
    rw [← toList_trim, trim_of_isAllBlank h, String.toList_empty]
  rw [ofLine, nothing]
  rfl

/-- What is left of blanks, arguments and blanks when the blanks at the end are gone. -/
theorem trimEnd_written (hargs : Trimmed args) (hbetween : isAllBlank between = true)
    (hbehind : isAllBlank behind = true) (apart : args ≠ "" → between ≠ "") :
    ∃ blanks, (∀ b ∈ blanks, isBlank b = true) ∧ (args ≠ "" → blanks ≠ []) ∧
      Chars.trimEnd (between.toList ++ args.toList ++ behind.toList) = blanks ++ args.toList := by
  rw [Chars.trimEnd_append_blanks (isAllBlank_iff.1 hbehind)]
  by_cases empty : args = ""
  · subst empty
    refine ⟨[], by simp, by simp, ?_⟩
    rw [String.toList_empty, List.append_nil]
    exact @Chars.trimEnd_append_blanks [] _ (isAllBlank_iff.1 hbetween)
  · have some_left : args.toList ≠ [] := by simpa using empty
    refine ⟨between.toList, isAllBlank_iff.1 hbetween, fun _ ↦ by simpa using apart empty, ?_⟩
    refine Chars.trimEnd_of_getLast? ?_
    rw [List.getLast?_append_of_ne_nil _ some_left]
    exact hargs.stop

/-- **A command is read off the line that it is written on.** -/
theorem ofLine_written (hname : IsWord name) (hargs : Trimmed args)
    (hbefore : isAllBlank before = true) (hbetween : isAllBlank between = true)
    (hbehind : isAllBlank behind = true) (apart : args ≠ "" → between ≠ "") :
    ofLine (before ++ name ++ between ++ args ++ behind) = ⟨name, args⟩ := by
  obtain ⟨blanks, hblanks, apart', rest⟩ := trimEnd_written hargs hbetween hbehind apart
  have some_left : name.toList ≠ [] := by simpa using hname.1
  have written : (before ++ name ++ between ++ args ++ behind).toList =
      before.toList ++ (name.toList ++ (between.toList ++ args.toList ++ behind.toList)) := by
    simp only [String.toList_append, List.append_assoc]
  have trimmed : Chars.trim (before ++ name ++ between ++ args ++ behind).toList =
      name.toList ++ (blanks ++ args.toList) := by
    rw [written, Chars.trim_blanks_append (isAllBlank_iff.1 hbefore),
      Chars.trim_word_append some_left hname.2, rest]
  -- what stands behind the word begins with a blank, if there is anything
  have boundary : ∀ c, (blanks ++ args.toList).head? = some c → isBlank c = true := by
    intro c hc
    by_cases empty : args = ""
    · subst empty
      rw [String.toList_empty, List.append_nil] at hc
      exact hblanks c (List.mem_of_head? hc)
    · rw [List.head?_append_of_ne_nil _ (apart' empty)] at hc
      exact hblanks c (List.mem_of_head? hc)
  obtain ⟨word, behind_word⟩ := Chars.takeWhile_word_append hname.2 boundary
  have same : Text.trim args = args := trim_of_trimmed hargs
  rw [ofLine, trimmed, word, behind_word, Chars.trim_blanks_append hblanks, String.ofList_toList]
  exact congrArg (Command.mk name) same

/-- A word is the command of that name, without arguments. -/
theorem ofLine_of_isWord (h : IsWord name) : ofLine name = ⟨name, ""⟩ := by
  have read : ofLine ("" ++ name ++ "" ++ "" ++ "") = ⟨name, ""⟩ :=
    ofLine_written h (trimmed_trim "") rfl rfl rfl fun some_args ↦ absurd rfl some_args
  simpa using read

/-- A line that begins with a word is the command of that name. -/
theorem ofLine_append {word : String} (h : IsWord word) (rest : String) :
    ofLine (word ++ " " ++ rest) = ⟨word, Text.trim rest⟩ := by
  obtain ⟨before, behind, split, hbefore, hbehind⟩ := Chars.exists_blanks_trim rest.toList
  have blank : isAllBlank (" " ++ .ofList before) = true := by
    rw [isAllBlank_iff]
    simpa [show isBlank ' ' = true by decide] using hbefore
  have read : ofLine ("" ++ word ++ (" " ++ .ofList before) ++ Text.trim rest ++ .ofList behind) =
      ⟨word, Text.trim rest⟩ :=
    ofLine_written h (trimmed_trim rest) rfl blank (isAllBlank_iff.2 (by simpa using hbehind))
      fun _ ↦ by simp
  rw [← read]
  refine congrArg ofLine (String.toList_inj.1 ?_)
  simp [← split]

/-! ## Writing what is read -/

/-- **What is read off a line stands on it.** -/
theorem standsOn_ofLine (line : String) : (ofLine line).StandsOn line where
  name c hc := by
    rw [ofLine, String.toList_ofList] at hc
    simpa using List.mem_takeWhile_imp hc
  args := by
    have trimmed := trimmed_trim (.ofList ((Chars.trim line.toList).dropWhile (!isBlank ·)))
    rwa [Text.trim, String.toList_ofList] at trimmed
  nameless h := by
    have nothing : Chars.trim line.toList = [] :=
      Chars.trim_eq_nil_of_takeWhile (String.ofList_eq_empty_iff.1 h)
    obtain ⟨before, behind, hline, hbefore, hbehind⟩ := Chars.exists_blanks_trim line.toList
    rw [nothing, List.nil_append] at hline
    refine ⟨isAllBlank_iff.2 ?_, ?_⟩
    · rw [hline]
      intro b hb
      rcases List.mem_append.1 hb with hb | hb
      · exact hbefore b hb
      · exact hbehind b hb
    · rw [ofLine, nothing]
      rfl
  written := by
    obtain ⟨before, between, behind, hbefore, hbetween, hbehind, apart, hline⟩ :=
      Chars.exists_blanks_word line.toList
    refine ⟨.ofList before, .ofList between, .ofList behind, isAllBlank_iff.2 (by simpa using hbefore),
      isAllBlank_iff.2 (by simpa using hbetween), isAllBlank_iff.2 (by simpa using hbehind), ?_, ?_⟩
    · intro some_args
      simpa using apart (by simpa [ofLine] using some_args)
    · apply String.toList_inj.1
      simpa [ofLine] using hline

theorem StandsOn.ofLine_eq (h : c.StandsOn line) : ofLine line = c := by
  obtain ⟨before, between, behind, hbefore, hbetween, hbehind, apart, rfl⟩ := h.written
  by_cases named : c.name = ""
  · obtain ⟨blank, no_args⟩ := h.nameless named
    rw [ofLine_of_isAllBlank blank]
    exact congrArg₂ Command.mk named.symm no_args.symm
  · exact ofLine_written ⟨named, h.name⟩ h.args hbefore hbetween hbehind apart

theorem ofLine_eq_iff : ofLine line = c ↔ c.StandsOn line := by
  constructor
  · rintro rfl
    exact standsOn_ofLine line
  · exact StandsOn.ofLine_eq

/-! ## Definitions -/

/-- What a definition names and what stands behind it is the command on the same text. -/
theorem aliasDefinition?_eq (text : String) :
    aliasDefinition? text =
      if (ofLine text).name = "" then none else some ((ofLine text).name, (ofLine text).args) := by
  have nameless_iff : (ofLine text).name = "" ↔ Chars.trim text.toList = [] := by
    rw [ofLine, String.ofList_eq_empty_iff]
    exact ⟨Chars.trim_eq_nil_of_takeWhile, fun nothing ↦ by rw [nothing]; rfl⟩
  rw [aliasDefinition?, if_congr nameless_iff rfl rfl]
  split
  · rfl
  cases hcut : Chars.splitAtBlank? (Chars.trim text.toList) with
  | none =>
    obtain ⟨word, rest⟩ := Chars.of_splitAtBlank?_eq_none hcut
    rw [ofLine, word, rest]
    rfl
  | some cut =>
    obtain ⟨word, b, blank, rest⟩ := Chars.of_splitAtBlank?_eq_some hcut
    rw [ofLine, word, rest, Chars.trim_cons_blank blank]

/-- A definition is read as if it were a command. -/
theorem ofLine_of_aliasDefinition? {text name line : String}
    (h : aliasDefinition? text = some (name, line)) : ofLine text = ⟨name, line⟩ := by
  rw [aliasDefinition?_eq] at h
  split at h
  · cases h
  · cases h
    rfl

/-- **Every line is split in exactly one way.**  The command that is read off a line stands on it, and
no other command does.  So whatever is written as a word, blanks, and a trimmed text, with blanks
around them, is read as that.  A definition is split in the same way, and there is none exactly where
a command would have no name. -/
theorem unique_split :
    (∀ line c, ofLine line = c ↔ c.StandsOn line) ∧
      (∀ name args before between behind, IsWord name → Trimmed args →
        isAllBlank before = true → isAllBlank between = true → between ≠ "" →
        isAllBlank behind = true →
        ofLine (before ++ name ++ between ++ args ++ behind) = ⟨name, args⟩) ∧
      ∀ text, (aliasDefinition? text = none ↔ (ofLine text).name = "") ∧
        ((ofLine text).name ≠ "" →
          aliasDefinition? text = some ((ofLine text).name, (ofLine text).args)) := by
  refine ⟨fun line c ↦ ofLine_eq_iff, ?_, ?_⟩
  · intro name args before between behind word trimmed hbefore hbetween apart hbehind
    exact ofLine_written word trimmed hbefore hbetween hbehind fun _ ↦ apart
  · intro text
    rw [aliasDefinition?_eq]
    by_cases named : (ofLine text).name = ""
    · simp [named]
    · simp [named]

/-- An ideographic space and a no-break space are blanks, and a space without width is none. -/
example : ofLine "\u3000add\u00A0 a\u200Bb\u0085" = ⟨"add", "a\u200Bb"⟩ := by decide

end Command
end Jukebox
