import Jukebox.Mode.Standard
import Jukebox.Proofs.Execution

/-!
# What the handlers do to a line

Dealing with a press, a mode changes its own line and the session.  A line keeps its prompt as long
as it has not come to its end, whatever the press means, and what a press does to the session is
little.

* `Completion.answer?` is the name that completion has filled in last.
* `Modes.handleCommand_of_escape` and its like say what command mode makes of a press.
* `Modes.Handled` lists what dealing with a press can do to the session; what it leaves alone is
  read off that list, as in `Modes.Handled.catalogue` and `Modes.Handled.prompt`.
* `Modes.head?_handleSearch` and `Modes.tidy_handleCommand` are about the lines.
-/

set_option autoImplicit false

namespace Jukebox

/-- What completion has filled in last, while it is under way. -/
def Completion.answer? : Completion → Option String
  | idle => none
  | cycling typed candidates index => some (shown typed candidates index)

/-- The answer is what is shown. -/
theorem Completion.answer?_complete (names : List String) (text : String) (c : Completion) :
    (c.complete names text).2.answer? = some (c.complete names text).1 := by
  cases c <;> rfl

/-- The session with completion somewhere else. -/
def Session.withCompletion {σ : Type} (completion : Completion) (s : Session σ) : Session σ :=
  { s with interpreter := { s.interpreter with completion } }

namespace Modes

variable {σ : Type} [Client σ] {p : Char} {press : KeyPress} {keymap : Keymap} {s : Session σ}

omit [Client σ] in
/-- A line that stays in use has not been sent off. -/
theorem ne_enter_of_stays {line : InputLine} (stays : endsLine line press = false) :
    press.key ≠ .enter := by
  intro he
  rw [endsLine, he] at stays
  cases stays

omit [Client σ] in
/-- Only enter ends a line with a prompt. -/
theorem endsLine_eq_false {line : InputLine} (h : line.chars.head? = some p)
    (enter : press.key ≠ .enter) : endsLine line press = false := by
  simp [endsLine, enter, InputLine.isEmpty_of_head? h]

omit [Client σ] in
/-- An edited line keeps its prompt unless it has come to its end. -/
theorem head?_edit {line : InputLine} (h : line.chars.head? = some p)
    (stays : endsLine (edit press line).2 press = false) :
    (edit press line).2.chars.head? = some p := by
  rw [endsLine, Bool.or_eq_false_iff, Bool.and_eq_false_iff] at stays
  rw [edit] at stays ⊢
  split
  · rename_i hb
    rw [if_pos hb, hb] at stays
    exact InputLine.head?_backspace h (stays.2.resolve_left (by decide))
  · split
    · exact InputLine.head?_push h _
    · exact h

/-! ## What command mode does

A press is looked at as an escape, as a completion and as the key that it is, in this order. -/

theorem handleCommand_of_escape (escape : keymap.escape.accepts press = true) (line : InputLine)
    (s : Session σ) :
    ∃ completion, handleCommand keymap press line s =
      (true, .empty, s.withCompletion completion) := by
  rw [handleCommand]
  simp only [escape, ↓reduceIte]
  split
  · exact ⟨s.interpreter.completion, rfl⟩
  · exact ⟨.idle, rfl⟩

theorem handleCommand_of_complete (escape : keymap.escape.accepts press = false)
    (complete : keymap.complete.accepts press = true) (line : InputLine) (s : Session σ) :
    handleCommand keymap press line s = (true, completeName line s) := by
  rw [handleCommand]
  simp [escape, complete]

theorem handleCommand_of_enter (escape : keymap.escape.accepts press = false)
    (complete : keymap.complete.accepts press = false) (enter : press.key = .enter)
    (line : InputLine) (s : Session σ) :
    handleCommand keymap press line s =
      (true, .empty, (Session.report (s.resetCompletion.executeLine line.text)).2) := by
  rw [handleCommand]
  simp [escape, complete, enter]

theorem handleCommand_of_edit (escape : keymap.escape.accepts press = false)
    (complete : keymap.complete.accepts press = false) (enter : press.key ≠ .enter)
    (line : InputLine) (s : Session σ) :
    handleCommand keymap press line s =
      ((edit press line).1, (edit press line).2, s.resetCompletion) := by
  rw [handleCommand]
  simp [escape, complete, enter]

/-! ## What happens to the session -/

omit [Client σ] in
/-- Completing a name touches nothing but the line and completion. -/
theorem exists_completeName (line : InputLine) (s : Session σ) :
    ∃ completion, (completeName line s).2 = s.withCompletion completion := by
  rw [completeName]
  split <;> exact ⟨_, rfl⟩

/-- What dealing with a press can do to the session, by the mode that deals with it. -/
inductive Handled (keymap : Keymap) (s : Session σ) : Mode → Session σ → Prop
  | nothing (m : Mode) : Handled keymap s m s
  /-- A command is executed, and what comes of it is reported. -/
  | executed {m : Mode} (hm : m ≠ .command) (c : Command) :
      Handled keymap s m (Session.report (s.execute c)).2
  /-- A text is to be typed into the command line. -/
  | wished (text : String) :
      Handled keymap s .normal
        (s.mapConsole fun c ↦ { c with prompt := some ⟨keymap.command.press, text⟩ })
  /-- Completion begins, goes on or ends. -/
  | completed (completion : Completion) : Handled keymap s .command (s.withCompletion completion)
  /-- Completion ends, and the line is executed. -/
  | entered (c : Command) :
      Handled keymap s .command (Session.report (s.resetCompletion.execute c)).2

theorem handled_handle (keymap : Keymap) (press : KeyPress) (m : Mode) (line : InputLine)
    (s : Session σ) :
    Handled keymap s m (((standard keymap).handlers.get m).handle press line s).2.2 := by
  cases m with
  | normal =>
    show Handled keymap s .normal (handleNormal keymap press line s).2.2
    rw [handleNormal]
    split
    · exact .nothing _
    · exact .executed (by decide) _
    · exact .wished _
  | command =>
    show Handled keymap s .command (handleCommand keymap press line s).2.2
    cases escape : keymap.escape.accepts press with
    | true =>
      obtain ⟨completion, handle⟩ := handleCommand_of_escape escape line s
      rw [handle]
      exact .completed completion
    | false =>
      cases complete : keymap.complete.accepts press with
      | true =>
        obtain ⟨completion, completed⟩ := exists_completeName line s
        rw [handleCommand_of_complete escape complete, completed]
        exact .completed completion
      | false =>
        by_cases enter : press.key = .enter
        · rw [handleCommand_of_enter escape complete enter]
          exact .entered _
        · rw [handleCommand_of_edit escape complete enter]
          exact .completed .idle
  | search =>
    show Handled keymap s .search (handleSearch keymap press line s).2.2
    rw [handleSearch]
    split
    · exact .nothing _
    · split
      · split
        · exact .nothing _
        · exact .executed (by decide) _
      · exact .nothing _

namespace Handled

variable {s' : Session σ} {m : Mode}

/-- The catalogue is left alone in every mode, whatever operations there are. -/
theorem catalogue (h : Handled keymap s m s') :
    s'.interpreter.catalogue = s.interpreter.catalogue := by
  cases h with
  | nothing | wished | completed => rfl
  | executed _ c => exact (Session.catalogue_completion_report_execute s c).1
  | entered c => exact (Session.catalogue_completion_report_execute s.resetCompletion c).1

/-- Completion is left alone in every mode but command mode, whatever operations there are. -/
theorem completion (h : Handled keymap s m s') (hm : m ≠ .command) :
    s'.interpreter.completion = s.interpreter.completion := by
  cases h with
  | nothing | wished => rfl
  | executed _ c => exact (Session.catalogue_completion_report_execute s c).2
  | completed | entered => exact absurd rfl hm

/-- Over the standard catalogue, the only wish that comes up is one of normal mode for the command
line. -/
theorem prompt (h : Handled keymap s m s') (hs : s.interpreter.catalogue = .standard σ) :
    s'.console.prompt = s.console.prompt ∨
      m = .normal ∧ ∃ text, s'.console.prompt = some ⟨keymap.command.press, text⟩ := by
  cases h with
  | nothing | completed => exact .inl rfl
  | executed _ c => exact .inl (Session.sameFrame_report_execute hs c).console.prompt
  | wished text => exact .inr ⟨rfl, text, rfl⟩
  | entered c =>
    exact .inl (Session.sameFrame_report_execute (s := s.resetCompletion) hs c).console.prompt

end Handled

/-! ## What happens to the line -/

theorem head?_handleSearch {line : InputLine} (h : line.chars.head? = some p)
    (escape : keymap.escape.accepts press = false)
    (stays : endsLine (handleSearch keymap press line s).2.1 press = false) :
    (handleSearch keymap press line s).2.1.chars.head? = some p := by
  have enter := ne_enter_of_stays stays
  rw [handleSearch, if_neg (by rw [escape]; decide), if_neg enter] at stays ⊢
  exact head?_edit h stays

omit [Client σ] in
/-- The prompt stays when a name is completed. -/
theorem head?_completeName {line : InputLine} (h : line.chars.head? = some p) :
    (completeName line s).1.chars.head? = some p := by
  rw [completeName]
  split
  · exact h
  · exact InputLine.head?_replaceText h _

omit [Client σ] in
/-- Once a name has been completed, what is typed is the answer. -/
theorem text_completeName {line : InputLine} (h : line.chars.head? = some p)
    (hc : ∀ a, s.interpreter.completion.answer? = some a → line.text = a) :
    ∀ a, (completeName line s).2.interpreter.completion.answer? = some a →
      (completeName line s).1.text = a := by
  rw [completeName]
  split
  · exact hc
  · intro a ha
    have answer := Completion.answer?_complete s.interpreter.catalogue.names line.text
      s.interpreter.completion
    exact (InputLine.text_replaceText h _).trans (Option.some.inj (answer.symm.trans ha))

/-- A command line that stays in use keeps its prompt, and any answer of completion is what is typed
there: every press but the one for completing ends completion. -/
theorem tidy_handleCommand {line : InputLine} (h : line.chars.head? = some p)
    (hc : ∀ a, s.interpreter.completion.answer? = some a → line.text = a)
    (escape : keymap.escape.accepts press = false)
    (stays : endsLine (handleCommand keymap press line s).2.1 press = false) :
    (handleCommand keymap press line s).2.1.chars.head? = some p ∧
      ∀ a, (handleCommand keymap press line s).2.2.interpreter.completion.answer? = some a →
        (handleCommand keymap press line s).2.1.text = a := by
  cases completes : keymap.complete.accepts press with
  | true =>
    rw [handleCommand_of_complete escape completes]
    exact ⟨head?_completeName h, text_completeName h hc⟩
  | false =>
    rw [handleCommand_of_edit escape completes (ne_enter_of_stays stays)] at stays ⊢
    exact ⟨head?_edit h stays, nofun⟩

end Modes
end Jukebox
